import RecordCheck.Rule.Basic

/-!
# Built-in rules

The rules that every registry starts with, the names that they go by, and how each is made from the
arguments that a description gives.
-/
set_option autoImplicit false

namespace RecordCheck

/-- The built-in rules. -/
inductive Builtin where
  | required | notEmpty | notEmptyList
  | oneOf | equalTo
  | minLength | maxLength | lengthEqual | lengthBetween
  | like
  | integer | positiveInteger | decimal | positiveDecimal
  | minNumber | maxNumber | numberBetween
  | email | date | url
  | timezone
  | equalToField
  | string | anyObject
  | nestedObject | listOf | listOfObjects | listOfDifferentObjects
deriving DecidableEq, Repr

namespace Builtin

/-- All built-in rules. -/
def all : List Builtin :=
  [required, notEmpty, notEmptyList, oneOf, equalTo, minLength, maxLength, lengthEqual,
   lengthBetween, like, integer, positiveInteger, decimal, positiveDecimal, minNumber, maxNumber,
   numberBetween, email, date, url, timezone, equalToField, string, anyObject, nestedObject, listOf,
   listOfObjects, listOfDifferentObjects]

/-- The name of a rule in descriptions. -/
def name : Builtin → String
  | required => "required"
  | notEmpty => "not_empty"
  | notEmptyList => "not_empty_list"
  | oneOf => "one_of"
  | equalTo => "equal_to"
  | minLength => "min_length"
  | maxLength => "max_length"
  | lengthEqual => "length_equal"
  | lengthBetween => "length_between"
  | like => "like"
  | integer => "integer"
  | positiveInteger => "positive_integer"
  | decimal => "decimal"
  | positiveDecimal => "positive_decimal"
  | minNumber => "min_number"
  | maxNumber => "max_number"
  | numberBetween => "number_between"
  | email => "email"
  | date => "iso_date"
  | url => "url"
  | timezone => "timezone"
  | equalToField => "equal_to_field"
  | string => "string"
  | anyObject => "any_object"
  | nestedObject => "nested_object"
  | listOf => "list_of"
  | listOfObjects => "list_of_objects"
  | listOfDifferentObjects => "list_of_different_objects"

/-- A description that must be a mapping. -/
def mappingFor (rule : String) (description : Value) : Except Error Value :=
  if description.isMapping then .ok description
  else .error (.mappingExpected rule description.kind)

/-- Makes the rule from arguments; a wrong number of them is a fault. -/
def make : Builtin → List Value → Act Rule
  | required, [] => return .blank .required
  | notEmpty, [] => return .blank .notEmpty
  | notEmptyList, [] => return .blank .notEmptyList
  | oneOf, [values] => Rule.comparison <$> Comparison.oneOf values
  | equalTo, [v] => return .comparison (.equalTo v)
  | minLength, [n] => return .length (← Length.atLeast n Length.defaultEncoding)
  | minLength, [n, encoding] => return .length (← Length.atLeast n encoding)
  | maxLength, [n] => return .length (← Length.atMost n Length.defaultEncoding)
  | maxLength, [n, encoding] => return .length (← Length.atMost n encoding)
  | lengthEqual, [n] => return .length (← Length.exactly n Length.defaultEncoding)
  | lengthEqual, [n, encoding] => return .length (← Length.exactly n encoding)
  | lengthBetween, [m, n] => return .length (← Length.between m n Length.defaultEncoding)
  | lengthBetween, [m, n, encoding] => return .length (← Length.between m n encoding)
  | like, [pattern] => Rule.pattern <$> Match.like pattern (.str "")
  | like, [pattern, flags] => Rule.pattern <$> Match.like pattern flags
  | integer, [] => return .comparison { operator := .integer }
  | positiveInteger, [] => return .comparison { operator := .positiveInteger }
  | decimal, [] => return .comparison { operator := .decimal }
  | positiveDecimal, [] => return .comparison { operator := .positiveDecimal }
  | minNumber, [v] => return .comparison (← Comparison.atLeast v)
  | maxNumber, [v] => return .comparison (← Comparison.atMost v)
  | numberBetween, [a, b] => return .comparison (← Comparison.within a b)
  | email, [] => return .pattern .email
  | date, [] => return .pattern .date
  | url, [] => return .pattern .url
  | timezone, [] => return .knownTimezone
  | equalToField, [field] => return .comparison (.sameAs field)
  | string, [] => return .shape .scalar
  | anyObject, [] => return .shape .named
  | nestedObject, [description] =>
    return .draft ⟨.object, ← mappingFor "nested_object" description, .null, .null⟩
  | listOf, [description] => return .draft ⟨.list, description, .null, .null⟩
  | listOfObjects, [description] =>
    return .draft ⟨.objects, ← mappingFor "list_of_objects" description, .null, .null⟩
  | listOfDifferentObjects, [field, description] =>
    return .draft
      ⟨.variants, ← mappingFor "list_of_different_objects" description, field, .null⟩
  | _, _ => throw .wrongType

end Builtin

end RecordCheck
