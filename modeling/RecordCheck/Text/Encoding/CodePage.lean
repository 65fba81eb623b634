import RecordCheck.Text.Ranges

/-!
# Code pages

Encodings with one byte to a character. How many characters bytes stand for does not depend on which
characters these are, so a code page is described by the bytes that stand for none.

## Main definitions

* `CodePage`, `CodePage.all`: the code pages with their names.
* `CodePage.count?`: the number of characters.
-/
set_option autoImplicit false

namespace RecordCheck.Text.Encoding

/-- A code page, or several that leave the same bytes undefined. -/
structure CodePage where
  /-- The ranges of bytes without a character. -/
  undefined : List (Nat × Nat)
  /-- The proper names. -/
  names : List String
  /-- Further names. -/
  aliases : List String
deriving DecidableEq, Repr

namespace CodePage

/-- The number of characters that bytes stand for. -/
def count? (page : CodePage) (bytes : List UInt8) : Option Nat :=
  if bytes.any fun b => inRanges page.undefined b.toNat then none else some bytes.length

/-- All code pages. -/
def all : List CodePage := [
  ⟨[],
    ["charmap", "cp037", "cp1006", "cp1026", "cp1125", "cp1140", "cp1256", "cp273", "cp437",
     "cp500", "cp720", "cp737", "cp775", "cp850", "cp852", "cp855", "cp858", "cp860", "cp861",
     "cp862", "cp863", "cp865", "cp866", "cp875", "iso8859_10", "iso8859_13", "iso8859_14",
     "iso8859_15", "iso8859_16", "iso8859_2", "iso8859_4", "iso8859_5", "iso8859_9", "koi8_r",
     "koi8_u", "latin_1", "mac_arabic", "mac_croatian", "mac_cyrillic", "mac_farsi", "mac_greek",
     "mac_iceland", "mac_latin2", "mac_roman", "mac_romanian", "mac_turkish", "palmos", "ptcp154"],
    ["037", "1026", "1125", "1140", "1256", "273", "437", "500", "775", "850", "852", "855",
     "858", "860", "861", "862", "863", "865", "866", "8859", "cp154", "cp819", "cp866u", "cp_is",
     "csibm037", "csibm1026", "csibm273", "csibm500", "csibm855", "csibm858", "csibm860",
     "csibm861", "csibm863", "csibm865", "csibm866", "csisolatin1", "csisolatin2", "csisolatin4",
     "csisolatin5", "csisolatin6", "csisolatincyrillic", "cskoi8r", "cspc775baltic",
     "cspc850multilingual", "cspc862latinhebrew", "cspc8codepage437", "cspcp852", "csptcp154",
     "cyrillic", "cyrillic_asian", "ebcdic_cp_be", "ebcdic_cp_ca", "ebcdic_cp_ch", "ebcdic_cp_nl",
     "ebcdic_cp_us", "ebcdic_cp_wt", "ibm037", "ibm039", "ibm1026", "ibm1125", "ibm1140",
     "ibm273", "ibm437", "ibm500", "ibm775", "ibm819", "ibm850", "ibm852", "ibm855", "ibm858",
     "ibm860", "ibm861", "ibm862", "ibm863", "ibm865", "ibm866", "iso8859", "iso8859_1",
     "iso_8859_1", "iso_8859_10", "iso_8859_10_1992", "iso_8859_13", "iso_8859_14",
     "iso_8859_14_1998", "iso_8859_15", "iso_8859_16", "iso_8859_16_2001", "iso_8859_1_1987",
     "iso_8859_2", "iso_8859_2_1987", "iso_8859_4", "iso_8859_4_1988", "iso_8859_5",
     "iso_8859_5_1988", "iso_8859_9", "iso_8859_9_1989", "iso_celtic", "iso_ir_100", "iso_ir_101",
     "iso_ir_110", "iso_ir_144", "iso_ir_148", "iso_ir_157", "iso_ir_199", "iso_ir_226", "l1",
     "l10", "l2", "l4", "l5", "l6", "l7", "l8", "l9", "latin", "latin1", "latin10", "latin2",
     "latin4", "latin5", "latin6", "latin7", "latin8", "latin9", "mac_centeuro",
     "maccentraleurope", "maccyrillic", "macgreek", "maciceland", "macintosh", "maclatin2",
     "macroman", "macturkish", "pt154", "ruscii", "windows_1256"]⟩,
  ⟨[(0x98, 0x98)],
    ["cp1251", "kz1048"],
    ["1251", "kz_1048", "rk1048", "strk1048_2002", "windows_1251"]⟩,
  ⟨[(0xFF, 0xFF)],
    ["hp_roman8"],
    ["cp1051", "ibm1051", "r8", "roman8"]⟩,
  ⟨[(0xD5, 0xD5), (0xE7, 0xE7), (0xF2, 0xF2)],
    ["cp857"],
    ["857", "csibm857", "ibm857"]⟩,
  ⟨[(0xAE, 0xAE), (0xD2, 0xD2), (0xFF, 0xFF)],
    ["iso8859_7"],
    ["csisolatingreek", "ecma_118", "elot_928", "greek", "greek8", "iso_8859_7",
     "iso_8859_7_1987", "iso_ir_126"]⟩,
  ⟨[(0x81, 0x81), (0x83, 0x83), (0x88, 0x88), (0x90, 0x90), (0x98, 0x98)],
    ["cp1250"],
    ["1250", "windows_1250"]⟩,
  ⟨[(0x81, 0x81), (0x8D, 0x8D), (0x8F, 0x90), (0x9D, 0x9D)],
    ["cp1252"],
    ["1252", "windows_1252"]⟩,
  ⟨[(0x9B, 0x9C), (0x9F, 0x9F), (0xA6, 0xA7), (0xFF, 0xFF)],
    ["cp864"],
    ["864", "csibm864", "ibm864"]⟩,
  ⟨[(0x81, 0x81), (0x8D, 0x90), (0x9D, 0x9E)],
    ["cp1254"],
    ["1254", "windows_1254"]⟩,
  ⟨[(0xA5, 0xA5), (0xAE, 0xAE), (0xBE, 0xBE), (0xC3, 0xC3), (0xD0, 0xD0), (0xE3, 0xE3),
     (0xF0, 0xF0)],
    ["iso8859_3"],
    ["csisolatin3", "iso_8859_3", "iso_8859_3_1988", "iso_ir_109", "l3", "latin3"]⟩,
  ⟨[(0xDB, 0xDE), (0xFC, 0xFF)],
    ["iso8859_11"],
    ["iso_8859_11", "iso_8859_11_2001", "thai"]⟩,
  ⟨[(0x81, 0x81), (0x8A, 0x8A), (0x8D, 0x90), (0x9A, 0x9A), (0x9D, 0x9E)],
    ["cp1258"],
    ["1258", "windows_1258"]⟩,
  ⟨[(0x80, 0x85), (0x87, 0x87), (0x93, 0x94)],
    ["cp869"],
    ["869", "cp_gr", "csibm869", "ibm869"]⟩,
  ⟨[(0xA0, 0xA0), (0xDB, 0xDE), (0xFC, 0xFF)],
    ["tis_620"],
    ["iso_ir_166", "tis620", "tis_620_0", "tis_620_2529_0", "tis_620_2529_1"]⟩,
  ⟨[(0x81, 0x81), (0x83, 0x83), (0x88, 0x88), (0x8A, 0x8A), (0x8C, 0x8C), (0x90, 0x90),
     (0x98, 0x98), (0x9A, 0x9A), (0x9C, 0x9C), (0x9F, 0x9F), (0xA1, 0xA1), (0xA5, 0xA5)],
    ["cp1257"],
    ["1257", "windows_1257"]⟩,
  ⟨[(0x81, 0x81), (0x88, 0x88), (0x8A, 0x8A), (0x8C, 0x90), (0x98, 0x98), (0x9A, 0x9A),
     (0x9C, 0x9F), (0xAA, 0xAA), (0xD2, 0xD2), (0xFF, 0xFF)],
    ["cp1253"],
    ["1253", "windows_1253"]⟩,
  ⟨[(0x88, 0x88), (0x8F, 0x8F), (0x98, 0x98), (0x9A, 0x9A), (0x9C, 0xA0), (0xA8, 0xAA),
     (0xAF, 0xAF), (0xB4, 0xB4), (0xB8, 0xB8), (0xBA, 0xBA), (0xBC, 0xBE)],
    ["koi8_t"],
    []⟩,
  ⟨[(0x81, 0x81), (0x8A, 0x8A), (0x8C, 0x90), (0x9A, 0x9A), (0x9C, 0x9F), (0xCA, 0xCA),
     (0xD9, 0xDF), (0xFB, 0xFC), (0xFF, 0xFF)],
    ["cp1255"],
    ["1255", "windows_1255"]⟩,
  ⟨[(0x81, 0x84), (0x86, 0x90), (0x98, 0x9F), (0xDB, 0xDE), (0xFC, 0xFF)],
    ["cp874"],
    []⟩,
  ⟨[(0xA1, 0xA1), (0xBF, 0xDE), (0xFB, 0xFC), (0xFF, 0xFF)],
    ["iso8859_8"],
    ["csisolatinhebrew", "hebrew", "iso_8859_8", "iso_8859_8_1988", "iso_ir_138"]⟩,
  ⟨[(0x70, 0x70), (0x72, 0x73), (0x75, 0x77), (0x80, 0x80), (0x8C, 0x8E), (0x9A, 0x9C),
     (0x9E, 0x9E), (0xAA, 0xAE), (0xCB, 0xCF), (0xDB, 0xDF), (0xEB, 0xEF), (0xFB, 0xFE)],
    ["cp424"],
    ["424", "csibm424", "ebcdic_cp_he", "ibm424"]⟩,
  ⟨[(0x9B, 0x9B), (0x9D, 0x9D), (0x9F, 0xA8), (0xAD, 0xAD), (0xB5, 0xB7), (0xC6, 0xC7),
     (0xD0, 0xD8), (0xDE, 0xDE), (0xE0, 0xE5), (0xE7, 0xED)],
    ["cp856"],
    []⟩,
  ⟨[(0xA1, 0xA3), (0xA5, 0xAB), (0xAE, 0xBA), (0xBC, 0xBE), (0xC0, 0xC0), (0xDB, 0xDF),
     (0xF3, 0xFF)],
    ["iso8859_6"],
    ["arabic", "asmo_708", "csisolatinarabic", "ecma_114", "iso_8859_6", "iso_8859_6_1987",
     "iso_ir_127"]⟩,
  ⟨[(0x80, 0xFF)],
    ["ascii"],
    ["646", "ansi_x3.4_1968", "ansi_x3.4_1986", "ansi_x3_4_1968", "cp367", "csascii", "ibm367",
     "iso646_us", "iso_646.irv_1991", "iso_ir_6", "us", "us_ascii"]⟩]

end CodePage

end RecordCheck.Text.Encoding
