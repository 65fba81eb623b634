import RecordCheck.Value.Basic

/-!
# Attributes that values have by their kind

Whatever is no mapping is asked for its attributes when it stands where a record is wanted. Numbers
know their parts, every value knows its kind, and all of them have methods, which are values of
further kinds.

## Main definitions

* `Value.attribute?`: the attribute that a value has by its kind.
-/
set_option autoImplicit false

namespace RecordCheck

namespace Kind

/-- The methods that values of any kind have. -/
def commonMethods : List String :=
  ["__dir__", "__format__", "__getstate__", "__init_subclass__", "__new__", "__reduce__",
   "__reduce_ex__", "__sizeof__", "__subclasshook__"]

/-- The operators that values of any kind have. -/
def commonOperators : List String :=
  ["__delattr__", "__eq__", "__ge__", "__getattribute__", "__gt__", "__init__", "__le__",
   "__lt__", "__ne__", "__repr__", "__setattr__", "__str__"]

/-- The further methods of values of a kind. -/
def methods : Kind → List String
  | .bool | .int =>
    ["__ceil__", "__floor__", "__getnewargs__", "__round__", "__trunc__", "as_integer_ratio",
     "bit_count", "bit_length", "conjugate", "from_bytes", "to_bytes"]
  | .float =>
    ["__ceil__", "__floor__", "__getformat__", "__getnewargs__", "__round__", "__trunc__",
     "as_integer_ratio", "conjugate", "fromhex", "hex", "is_integer"]
  | .str =>
    ["__getnewargs__", "capitalize", "casefold", "center", "count", "encode", "endswith",
     "expandtabs", "find", "format", "format_map", "index", "isalnum", "isalpha", "isascii",
     "isdecimal", "isdigit", "isidentifier", "islower", "isnumeric", "isprintable", "isspace",
     "istitle", "isupper", "join", "ljust", "lower", "lstrip", "maketrans", "partition",
     "removeprefix", "removesuffix", "replace", "rfind", "rindex", "rjust", "rpartition",
     "rsplit", "rstrip", "split", "splitlines", "startswith", "strip", "swapcase", "title",
     "translate", "upper", "zfill"]
  | .bytes =>
    ["__bytes__", "__getnewargs__", "capitalize", "center", "count", "decode", "endswith",
     "expandtabs", "find", "fromhex", "hex", "index", "isalnum", "isalpha", "isascii", "isdigit",
     "islower", "isspace", "istitle", "isupper", "join", "ljust", "lower", "lstrip", "maketrans",
     "partition", "removeprefix", "removesuffix", "replace", "rfind", "rindex", "rjust",
     "rpartition", "rsplit", "rstrip", "split", "splitlines", "startswith", "strip", "swapcase",
     "title", "translate", "upper", "zfill"]
  | .bytearray =>
    ["__alloc__", "append", "capitalize", "center", "clear", "copy", "count", "decode",
     "endswith", "expandtabs", "extend", "find", "fromhex", "hex", "index", "insert", "isalnum",
     "isalpha", "isascii", "isdigit", "islower", "isspace", "istitle", "isupper", "join", "ljust",
     "lower", "lstrip", "maketrans", "partition", "pop", "remove", "removeprefix", "removesuffix",
     "replace", "reverse", "rfind", "rindex", "rjust", "rpartition", "rsplit", "rstrip", "split",
     "splitlines", "startswith", "strip", "swapcase", "title", "translate", "upper", "zfill"]
  | .items .list =>
    ["__class_getitem__", "__getitem__", "__reversed__", "append", "clear", "copy", "count",
     "extend", "index", "insert", "pop", "remove", "reverse", "sort"]
  | .items .tuple =>
    ["__class_getitem__", "__getnewargs__", "count", "index"]
  | .items .set =>
    ["__class_getitem__", "__contains__", "add", "clear", "copy", "difference",
     "difference_update", "discard", "intersection", "intersection_update", "isdisjoint",
     "issubset", "issuperset", "pop", "remove", "symmetric_difference",
     "symmetric_difference_update", "union", "update"]
  | .items .frozenset =>
    ["__class_getitem__", "__contains__", "copy", "difference", "intersection", "isdisjoint",
     "issubset", "issuperset", "symmetric_difference", "union"]
  | .stream =>
    ["close", "send", "throw"]
  | _ => []

/-- The further operators of values of a kind. -/
def operators : Kind → List String
  | .null =>
    ["__bool__", "__hash__"]
  | .bool | .int =>
    ["__abs__", "__add__", "__and__", "__bool__", "__divmod__", "__float__", "__floordiv__",
     "__hash__", "__index__", "__int__", "__invert__", "__lshift__", "__mod__", "__mul__",
     "__neg__", "__or__", "__pos__", "__pow__", "__radd__", "__rand__", "__rdivmod__",
     "__rfloordiv__", "__rlshift__", "__rmod__", "__rmul__", "__ror__", "__rpow__", "__rrshift__",
     "__rshift__", "__rsub__", "__rtruediv__", "__rxor__", "__sub__", "__truediv__", "__xor__"]
  | .float =>
    ["__abs__", "__add__", "__bool__", "__divmod__", "__float__", "__floordiv__", "__hash__",
     "__int__", "__mod__", "__mul__", "__neg__", "__pos__", "__pow__", "__radd__", "__rdivmod__",
     "__rfloordiv__", "__rmod__", "__rmul__", "__rpow__", "__rsub__", "__rtruediv__", "__sub__",
     "__truediv__"]
  | .str =>
    ["__add__", "__contains__", "__getitem__", "__hash__", "__iter__", "__len__", "__mod__",
     "__mul__", "__rmod__", "__rmul__"]
  | .bytes =>
    ["__add__", "__contains__", "__getitem__", "__hash__", "__iter__", "__len__", "__mod__",
     "__mul__", "__rmod__", "__rmul__"]
  | .bytearray =>
    ["__add__", "__contains__", "__delitem__", "__getitem__", "__iadd__", "__imul__", "__iter__",
     "__len__", "__mod__", "__mul__", "__rmod__", "__rmul__", "__setitem__"]
  | .items .list =>
    ["__add__", "__contains__", "__delitem__", "__iadd__", "__imul__", "__iter__", "__len__",
     "__mul__", "__rmul__", "__setitem__"]
  | .items .tuple =>
    ["__add__", "__contains__", "__getitem__", "__hash__", "__iter__", "__len__", "__mul__",
     "__rmul__"]
  | .items .set =>
    ["__and__", "__iand__", "__ior__", "__isub__", "__iter__", "__ixor__", "__len__", "__or__",
     "__rand__", "__ror__", "__rsub__", "__rxor__", "__sub__", "__xor__"]
  | .items .frozenset =>
    ["__and__", "__hash__", "__iter__", "__len__", "__or__", "__rand__", "__ror__", "__rsub__",
     "__rxor__", "__sub__", "__xor__"]
  | .stream =>
    ["__del__", "__hash__", "__iter__", "__next__"]
  | _ => []

/-- What a kind of values says about itself. -/
def description? : Kind → Option String
  | .bool => some
    ("bool(x) -> bool\n\nReturns True when the argument x is true, False otherwise.\nThe " ++
      "builtins True and False are the only two instances of the class bool.\nThe class " ++
      "bool is a subclass of the class int, and cannot be subclassed.")
  | .int => some
    ("int([x]) -> integer\nint(x, base=10) -> integer\n\nConvert a number or string to an " ++
      "integer, or return 0 if no arguments\nare given.  If x is a number, return " ++
      "x.__int__().  For floating point\nnumbers, this truncates towards zero.\n\nIf x is " ++
      "not a number or if base is given, then x must be a string,\nbytes, or bytearray " ++
      "instance representing an integer literal in the\ngiven base.  The literal can be " ++
      "preceded by '+' or '-' and be surrounded\nby whitespace.  The base defaults to 10.  " ++
      "Valid bases are 0 and 2-36.\nBase 0 means to interpret the base from the string as " ++
      "an integer literal.\n>>> int('0b100', base=0)\n4")
  | .float => some "Convert a string or number to a floating point number, if possible."
  | .str => some
    ("str(object='') -> str\nstr(bytes_or_buffer[, encoding[, errors]]) -> str\n\nCreate a " ++
      "new string object from the given object. If encoding or\nerrors is specified, then " ++
      "the object must expose a data buffer\nthat will be decoded using the given encoding " ++
      "and error handler.\nOtherwise, returns the result of object.__str__() (if " ++
      "defined)\nor repr(object).\nencoding defaults to sys.getdefaultencoding().\nerrors " ++
      "defaults to 'strict'.")
  | .bytes => some
    ("bytes(iterable_of_ints) -> bytes\nbytes(string, encoding[, errors]) -> " ++
      "bytes\nbytes(bytes_or_buffer) -> immutable copy of bytes_or_buffer\nbytes(int) -> " ++
      "bytes object of size given by the parameter initialized with null bytes\nbytes() -> " ++
      "empty bytes object\n\nConstruct an immutable array of bytes from:\n  - an iterable " ++
      "yielding integers in range(256)\n  - a text string encoded using the specified " ++
      "encoding\n  - any object implementing the buffer API.\n  - an integer")
  | .bytearray => some
    ("bytearray(iterable_of_ints) -> bytearray\nbytearray(string, encoding[, errors]) -> " ++
      "bytearray\nbytearray(bytes_or_buffer) -> mutable copy of " ++
      "bytes_or_buffer\nbytearray(int) -> bytes array of size given by the parameter " ++
      "initialized with null bytes\nbytearray() -> empty bytes array\n\nConstruct a mutable " ++
      "bytearray object from:\n  - an iterable yielding integers in range(256)\n  - a text " ++
      "string encoded using the specified encoding\n  - a bytes or a buffer object\n  - any " ++
      "object implementing the buffer API.\n  - an integer")
  | .items .list => some
    ("Built-in mutable sequence.\n\nIf no argument is given, the constructor creates a new " ++
      "empty list.\nThe argument must be an iterable if specified.")
  | .items .tuple => some
    ("Built-in immutable sequence.\n\nIf no argument is given, the constructor returns an " ++
      "empty tuple.\nIf iterable is specified the tuple is initialized from iterable's " ++
      "items.\n\nIf the argument is a tuple, the return value is the same object.")
  | .items .set => some
    ("set() -> new empty set object\nset(iterable) -> new set object\n\nBuild an unordered " ++
      "collection of unique elements.")
  | .items .frozenset => some
    ("frozenset() -> empty frozenset object\nfrozenset(iterable) -> frozenset " ++
      "object\n\nBuild an immutable unordered collection of unique elements.")
  | .object => some "A simple attribute-based namespace.\n\nSimpleNamespace(**kwargs)"
  | _ => none

/-- The text of a kind itself. -/
def text (kind : Kind) : String :=
  "<class '" ++ (if kind == .object then "types." else "") ++ kind.name ++ "'>"

end Kind

namespace Value

/-- The parts of a number. -/
def numberPart? (v : Value) (name : String) : Option Value :=
  let whole (n : Int) : Option Value :=
    if name == "real" || name == "numerator" then some (.int n)
    else if name == "imag" then some (.int 0)
    else if name == "denominator" then some (.int 1)
    else none
  match v with
  | .bool b => whole (if b then 1 else 0)
  | .int n => whole n
  | .float _ =>
    if name == "real" then some v
    else if name == "imag" then some (.float (Binary64.zero false))
    else none
  | _ => none

/-- The attribute of a name that every value of a kind has. -/
def kindAttribute? (kind : Kind) (name : String) : Option Value :=
  if name == "__class__" then some (.other "type" kind.text)
  else if name == "__doc__" then kind.description?.map .str
  else if (Kind.commonMethods ++ kind.methods).contains name then
    some (.other "builtin_function_or_method" ("<built-in method " ++ name ++ ">"))
  else if (Kind.commonOperators ++ kind.operators).contains name then
    some (.other "method-wrapper" ("<method-wrapper '" ++ name ++ "'>"))
  else none

/-- The attribute of a value with a given name. Those that an object was given come before most of
those that it has by its kind, and its kind and the mapping of the given ones come before them. -/
def attribute? (v : Value) (name : String) : Option Value :=
  match v with
  | .object attributes =>
    if name == "__class__" then kindAttribute? v.kind name
    else if name == "__dict__" then
      some (.dict (attributes.map fun entry => (.str entry.1, entry.2)))
    else (attributes.lookup name).or (kindAttribute? v.kind name)
  | v => (v.numberPart? name).or (kindAttribute? v.kind name)

end Value

end RecordCheck
