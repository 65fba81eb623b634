import RecordCheck.Text.Encoding.CodePage
import RecordCheck.Text.Encoding.Designated
import RecordCheck.Text.Encoding.DomainName
import RecordCheck.Text.Encoding.Escaped
import RecordCheck.Text.Encoding.Shifted
import RecordCheck.Text.Encoding.Wide
import RecordCheck.Text.Utf8

/-!
# Encodings by name

How many characters a sequence of bytes stands for in an encoding that is given by its name. Names
are compared without case, and any separators between their parts count as one underscore.

## Main definitions

* `Encoding`, `Encoding.ofName?`: the encodings.
* `Encoding.count`: the number of characters, or what is wrong with the bytes.
-/
set_option autoImplicit false

namespace RecordCheck.Text

/-- The encodings of text. -/
inductive Encoding where
  | utf8
  | utf8WithSignature
  | utf16 (order : Option Encoding.Order)
  | utf32 (order : Option Encoding.Order)
  | utf7
  | escaped
  | rawEscaped
  | codePage (page : Encoding.CodePage)
  | multiByte (encoding : Encoding.MultiByte)
  | designated (encoding : Encoding.Designated)
  | tilde
  | punycode
  | domainName
  /-- An encoding that suits no bytes. -/
  | undefined
deriving DecidableEq, Repr

namespace Encoding

/-- Letters, digits and points of a name in lower case, with one underscore between their runs. -/
def plainName (name : String) : String :=
  let isPart (c : Char) : Bool := c.isAlphanum || c == '.'
  let joined := name.toList.foldl (fun (done, broken) c =>
    if isPart c then
      ((if broken && !done.isEmpty then c.toLower :: '_' :: done else c.toLower :: done), false)
    else (done, true)) (([] : List Char), false)
  String.ofList joined.1.reverse

/-- The encodings of more than one byte to a character, with their proper names and further ones. -/
def named : List (Encoding × String × List String) := [
  (.utf8, "utf_8", ["cp65001", "u8", "utf", "utf8", "utf8_ucs2", "utf8_ucs4"]),
  (.utf8WithSignature, "utf_8_sig", []),
  (.utf16 none, "utf_16", ["u16", "utf16"]),
  (.utf16 (some .lowest), "utf_16_le", ["unicodelittleunmarked", "utf_16le"]),
  (.utf16 (some .highest), "utf_16_be", ["unicodebigunmarked", "utf_16be"]),
  (.utf32 none, "utf_32", ["u32", "utf32"]),
  (.utf32 (some .lowest), "utf_32_le", ["utf_32le"]),
  (.utf32 (some .highest), "utf_32_be", ["utf_32be"]),
  (.utf7, "utf_7", ["u7", "unicode_1_1_utf_7", "utf7"]),
  (.escaped, "unicode_escape", []),
  (.rawEscaped, "raw_unicode_escape", []),
  (.multiByte .eucJp, "euc_jp", ["eucjp", "u_jis", "ujis"]),
  (.multiByte .eucJis2004, "euc_jis_2004", ["euc_jis2004", "eucjis2004", "jisx0213"]),
  (.multiByte .eucJisX0213, "euc_jisx0213", ["eucjisx0213"]),
  (.multiByte .shiftJis, "shift_jis",
    ["csshiftjis", "s_jis", "shiftjis", "sjis", "x_mac_japanese"]),
  (.multiByte .shiftJis2004, "shift_jis_2004", ["s_jis_2004", "shiftjis2004", "sjis_2004"]),
  (.multiByte .shiftJisX0213, "shift_jisx0213", ["s_jisx0213", "shiftjisx0213", "sjisx0213"]),
  (.multiByte .cp932, "cp932", ["932", "ms932", "ms_kanji", "mskanji"]),
  (.multiByte .eucKr, "euc_kr",
    ["euckr", "korean", "ks_c_5601", "ks_c_5601_1987", "ks_x_1001", "ksc5601", "ksx1001",
     "x_mac_korean"]),
  (.multiByte .cp949, "cp949", ["949", "ms949", "uhc"]),
  (.multiByte .johab, "johab", ["cp1361", "ms1361"]),
  (.multiByte .gb2312, "gb2312",
    ["chinese", "csiso58gb231280", "euc_cn", "euccn", "eucgb2312_cn", "gb2312_1980", "gb2312_80",
     "iso_ir_58", "x_mac_simp_chinese"]),
  (.multiByte .gbk, "gbk", ["936", "cp936", "ms936"]),
  (.multiByte .gb18030, "gb18030", ["gb18030_2000"]),
  (.multiByte .big5, "big5", ["big5_tw", "csbig5", "x_mac_trad_chinese"]),
  (.multiByte .big5Hkscs, "big5hkscs", ["big5_hkscs", "hkscs"]),
  (.multiByte .cp950, "cp950", ["950", "ms950"]),
  (.designated .japanese, "iso2022_jp", ["csiso2022jp", "iso2022jp", "iso_2022_jp"]),
  (.designated .japanese1, "iso2022_jp_1", ["iso2022jp_1", "iso_2022_jp_1"]),
  (.designated .japanese2, "iso2022_jp_2", ["iso2022jp_2", "iso_2022_jp_2"]),
  (.designated .japanese3, "iso2022_jp_3", ["iso2022jp_3", "iso_2022_jp_3"]),
  (.designated .japanese2004, "iso2022_jp_2004", ["iso2022jp_2004", "iso_2022_jp_2004"]),
  (.designated .japaneseExtended, "iso2022_jp_ext", ["iso2022jp_ext", "iso_2022_jp_ext"]),
  (.designated .korean, "iso2022_kr", ["csiso2022kr", "iso2022kr", "iso_2022_kr"]),
  (.tilde, "hz", ["hz_gb", "hz_gb_2312", "hzgb"]),
  (.punycode, "punycode", []),
  (.domainName, "idna", []),
  (.undefined, "undefined", [])]

/-- All encodings with their proper names and further ones. -/
def all : List (Encoding × List String × List String) :=
  (named.map fun (encoding, name, aliases) => (encoding, [name], aliases))
    ++ CodePage.all.map fun page => (.codePage page, page.names, page.aliases)

/-- The encoding with a given name. In the further names a point may stand for an underscore. -/
def ofName? (name : String) : Option Encoding :=
  let plain := plainName name
  let joined := String.ofList (plain.toList.map fun c => if c == '.' then '_' else c)
  (all.find? fun (_, names, aliases) =>
    names.contains plain || aliases.contains plain || aliases.contains joined).map (·.1)

/-- The number of characters that bytes stand for. Where the order of bytes is not part of the name,
a mark at the start of the text tells it, and without a mark the lowest byte comes first. -/
def count (encoding : Encoding) (bytes : List UInt8) : Except Flaw Nat :=
  match encoding with
  | .utf8 => Flaw.orMalformed ((Utf8.decode? bytes).map (·.length))
  | .utf8WithSignature =>
    let text := if [0xEF, 0xBB, 0xBF].isPrefixOf bytes then bytes.drop 3 else bytes
    Flaw.orMalformed ((Utf8.decode? text).map (·.length))
  | .utf16 (some order) => Flaw.orMalformed (order.count16? bytes)
  | .utf16 none => Flaw.orMalformed (countMarked16? bytes)
  | .utf32 (some order) => Flaw.orMalformed (order.count32? bytes)
  | .utf32 none => Flaw.orMalformed (countMarked32? bytes)
  | .utf7 => Flaw.orMalformed (Shifted.count? bytes)
  | .escaped => Flaw.orMalformed (Escaped.count? bytes)
  | .rawEscaped => Flaw.orMalformed (Escaped.countRaw? bytes)
  | .codePage page => Flaw.orMalformed (page.count? bytes)
  | .multiByte encoding => Flaw.orMalformed (encoding.count? bytes)
  | .designated encoding => encoding.count bytes
  | .tilde => Flaw.orMalformed (Tilde.count? bytes)
  | .punycode => Punycode.count bytes
  | .domainName => DomainName.count bytes
  | .undefined => .error .unsuitable

end Encoding

end RecordCheck.Text
