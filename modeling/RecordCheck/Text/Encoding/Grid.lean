/-!
# Character sets in rows and cells

The character sets of East Asia are tables of rows with cells. Which places of a table hold a
character is described by rectangles: a range of rows, and a range of cells in each of them.

## Main definitions

* `Grid`, `Grid.holds`: places of a table.
* `Grid.jisX0208` and the others: the tables of national standards, whose rows and cells are
  numbered from 0x21 to 0x7E.
* `Grid.cp932` and the others: tables whose rows and cells are the bytes of an encoding.
-/
set_option autoImplicit false

namespace RecordCheck.Text.Encoding

/-- Places in a table, given by ranges of rows and of cells. -/
abbrev Grid := List ((Nat × Nat) × (Nat × Nat))

namespace Grid

/-- Whether there is a character at a place. -/
def holds (grid : Grid) (row cell : Nat) : Bool :=
  grid.any fun (rows, cells) =>
    rows.1 ≤ row && row ≤ rows.2 && cells.1 ≤ cell && cell ≤ cells.2

/-! ## National standards -/

/-- Japanese characters: kana and the common ideographs. -/
def jisX0208 : Grid :=
  [((0x21, 0x21), (0x21, 0x7E)), ((0x22, 0x22), (0x21, 0x2E)), ((0x22, 0x22), (0x3A, 0x41)),
   ((0x22, 0x22), (0x4A, 0x50)), ((0x22, 0x22), (0x5C, 0x6A)), ((0x22, 0x22), (0x72, 0x79)),
   ((0x22, 0x22), (0x7E, 0x7E)), ((0x23, 0x23), (0x30, 0x39)), ((0x23, 0x23), (0x41, 0x5A)),
   ((0x23, 0x23), (0x61, 0x7A)), ((0x24, 0x24), (0x21, 0x73)), ((0x25, 0x25), (0x21, 0x76)),
   ((0x26, 0x26), (0x21, 0x38)), ((0x26, 0x26), (0x41, 0x58)), ((0x27, 0x27), (0x21, 0x41)),
   ((0x27, 0x27), (0x51, 0x71)), ((0x28, 0x28), (0x21, 0x40)), ((0x30, 0x4E), (0x21, 0x7E)),
   ((0x4F, 0x4F), (0x21, 0x53)), ((0x50, 0x73), (0x21, 0x7E)), ((0x74, 0x74), (0x21, 0x26))]

/-- Further Japanese ideographs. -/
def jisX0212 : Grid :=
  [((0x22, 0x22), (0x2F, 0x39)), ((0x22, 0x22), (0x42, 0x44)), ((0x22, 0x22), (0x6B, 0x71)),
   ((0x26, 0x26), (0x61, 0x65)), ((0x26, 0x26), (0x67, 0x67)), ((0x26, 0x26), (0x69, 0x6A)),
   ((0x26, 0x26), (0x6C, 0x6C)), ((0x26, 0x26), (0x71, 0x7C)), ((0x27, 0x27), (0x42, 0x4E)),
   ((0x27, 0x27), (0x72, 0x7E)), ((0x29, 0x29), (0x21, 0x22)), ((0x29, 0x29), (0x24, 0x24)),
   ((0x29, 0x29), (0x26, 0x26)), ((0x29, 0x29), (0x28, 0x29)), ((0x29, 0x29), (0x2B, 0x2D)),
   ((0x29, 0x29), (0x2F, 0x30)), ((0x29, 0x29), (0x41, 0x50)), ((0x2A, 0x2A), (0x21, 0x38)),
   ((0x2A, 0x2A), (0x3A, 0x77)), ((0x2B, 0x2B), (0x21, 0x3B)), ((0x2B, 0x2B), (0x3D, 0x43)),
   ((0x2B, 0x2B), (0x45, 0x77)), ((0x30, 0x6C), (0x21, 0x7E)), ((0x6D, 0x6D), (0x21, 0x63))]

/-- Japanese characters of the extended table, first plane. -/
def jisX0213 : Grid :=
  [((0x21, 0x23), (0x21, 0x7E)), ((0x24, 0x24), (0x21, 0x7B)), ((0x25, 0x27), (0x21, 0x7E)),
   ((0x28, 0x28), (0x21, 0x5E)), ((0x28, 0x28), (0x67, 0x7C)), ((0x29, 0x2B), (0x21, 0x7E)),
   ((0x2C, 0x2C), (0x21, 0x73)), ((0x2C, 0x2D), (0x7D, 0x7E)), ((0x2D, 0x2D), (0x21, 0x57)),
   ((0x2D, 0x2D), (0x5F, 0x6F)), ((0x2D, 0x2D), (0x73, 0x73)), ((0x2D, 0x2D), (0x78, 0x79)),
   ((0x2E, 0x7E), (0x21, 0x7E))]

/-- The places of `jisX0213` that the first edition of the table left open. -/
def jisX0213Later : Grid :=
  [((0x2E, 0x2E), (0x21, 0x21)), ((0x2F, 0x2F), (0x7E, 0x7E)), ((0x4F, 0x4F), (0x54, 0x54)),
   ((0x4F, 0x4F), (0x7E, 0x7E)), ((0x74, 0x74), (0x27, 0x27)), ((0x7E, 0x7E), (0x7A, 0x7E))]

/-- The places of `jisX0213` that stand for a letter with a mark, two characters. -/
def jisX0213Pairs : Grid :=
  [((0x24, 0x24), (0x77, 0x7B)), ((0x25, 0x25), (0x77, 0x7E)), ((0x26, 0x26), (0x78, 0x78)),
   ((0x2B, 0x2B), (0x44, 0x44)), ((0x2B, 0x2B), (0x48, 0x4F)), ((0x2B, 0x2B), (0x65, 0x66))]

/-- Japanese characters of the extended table, second plane. -/
def jisX0213Second : Grid :=
  [((0x21, 0x21), (0x21, 0x7E)), ((0x23, 0x25), (0x21, 0x7E)), ((0x28, 0x28), (0x21, 0x7E)),
   ((0x2C, 0x2F), (0x21, 0x7E)), ((0x6E, 0x7D), (0x21, 0x7E)), ((0x7E, 0x7E), (0x21, 0x76))]

/-- Chinese characters in their simplified forms. -/
def gb2312 : Grid :=
  [((0x21, 0x21), (0x21, 0x7E)), ((0x22, 0x22), (0x31, 0x62)), ((0x22, 0x22), (0x65, 0x6E)),
   ((0x22, 0x22), (0x71, 0x7C)), ((0x23, 0x23), (0x21, 0x7E)), ((0x24, 0x24), (0x21, 0x73)),
   ((0x25, 0x25), (0x21, 0x76)), ((0x26, 0x26), (0x21, 0x38)), ((0x26, 0x26), (0x41, 0x58)),
   ((0x27, 0x27), (0x21, 0x41)), ((0x27, 0x27), (0x51, 0x71)), ((0x28, 0x28), (0x21, 0x3A)),
   ((0x28, 0x28), (0x45, 0x69)), ((0x29, 0x29), (0x24, 0x6F)), ((0x30, 0x56), (0x21, 0x7E)),
   ((0x57, 0x57), (0x21, 0x79)), ((0x58, 0x77), (0x21, 0x7E))]

/-- Korean syllables, symbols and ideographs. -/
def ksX1001 : Grid :=
  [((0x21, 0x21), (0x21, 0x7E)), ((0x22, 0x22), (0x21, 0x67)), ((0x23, 0x24), (0x21, 0x7E)),
   ((0x25, 0x25), (0x21, 0x2A)), ((0x25, 0x25), (0x30, 0x39)), ((0x25, 0x25), (0x41, 0x58)),
   ((0x25, 0x25), (0x61, 0x78)), ((0x26, 0x26), (0x21, 0x64)), ((0x27, 0x27), (0x21, 0x6F)),
   ((0x28, 0x28), (0x21, 0x24)), ((0x28, 0x28), (0x26, 0x26)), ((0x28, 0x28), (0x28, 0x2F)),
   ((0x28, 0x28), (0x31, 0x7E)), ((0x29, 0x29), (0x21, 0x7E)), ((0x2A, 0x2A), (0x21, 0x73)),
   ((0x2B, 0x2B), (0x21, 0x76)), ((0x2C, 0x2C), (0x21, 0x41)), ((0x2C, 0x2C), (0x51, 0x71)),
   ((0x30, 0x48), (0x21, 0x7E)), ((0x4A, 0x7D), (0x21, 0x7E))]

/-! ## Tables by bytes -/

/-- A code page for Japanese. -/
def cp932 : Grid :=
  [((0x81, 0x81), (0x40, 0x7E)), ((0x81, 0x81), (0x80, 0xAC)), ((0x81, 0x81), (0xB8, 0xBF)),
   ((0x81, 0x81), (0xC8, 0xCE)), ((0x81, 0x81), (0xDA, 0xE8)), ((0x81, 0x81), (0xF0, 0xF7)),
   ((0x81, 0x81), (0xFC, 0xFC)), ((0x82, 0x82), (0x4F, 0x58)), ((0x82, 0x82), (0x60, 0x79)),
   ((0x82, 0x82), (0x81, 0x9A)), ((0x82, 0x82), (0x9F, 0xF1)), ((0x83, 0x83), (0x40, 0x7E)),
   ((0x83, 0x83), (0x80, 0x96)), ((0x83, 0x83), (0x9F, 0xB6)), ((0x83, 0x83), (0xBF, 0xD6)),
   ((0x84, 0x84), (0x40, 0x60)), ((0x84, 0x84), (0x70, 0x7E)), ((0x84, 0x84), (0x80, 0x91)),
   ((0x84, 0x84), (0x9F, 0xBE)), ((0x87, 0x87), (0x40, 0x5D)), ((0x87, 0x87), (0x5F, 0x75)),
   ((0x87, 0x87), (0x7E, 0x7E)), ((0x87, 0x87), (0x80, 0x9C)), ((0x88, 0x88), (0x9F, 0xFC)),
   ((0x89, 0x97), (0x40, 0x7E)), ((0x89, 0x97), (0x80, 0xFC)), ((0x98, 0x98), (0x40, 0x72)),
   ((0x98, 0x98), (0x9F, 0xFC)), ((0x99, 0x9F), (0x40, 0x7E)), ((0x99, 0x9F), (0x80, 0xFC)),
   ((0xE0, 0xE9), (0x80, 0xFC)), ((0xE0, 0xEA), (0x40, 0x7E)), ((0xEA, 0xEA), (0x80, 0xA4)),
   ((0xED, 0xED), (0x80, 0xFC)), ((0xED, 0xEE), (0x40, 0x7E)), ((0xEE, 0xEE), (0x80, 0xEC)),
   ((0xEE, 0xEE), (0xEF, 0xFC)), ((0xF0, 0xFB), (0x40, 0x7E)), ((0xF0, 0xFB), (0x80, 0xFC)),
   ((0xFC, 0xFC), (0x40, 0x4B))]

/-- A code page for Korean. -/
def cp949 : Grid :=
  [((0x81, 0xA1), (0x81, 0xFE)), ((0x81, 0xC5), (0x41, 0x5A)), ((0x81, 0xC5), (0x61, 0x7A)),
   ((0xA2, 0xA2), (0x81, 0xE7)), ((0xA3, 0xA4), (0x81, 0xFE)), ((0xA5, 0xA5), (0x81, 0xAA)),
   ((0xA5, 0xA5), (0xB0, 0xB9)), ((0xA5, 0xA5), (0xC1, 0xD8)), ((0xA5, 0xA5), (0xE1, 0xF8)),
   ((0xA6, 0xA6), (0x81, 0xE4)), ((0xA7, 0xA7), (0x81, 0xEF)), ((0xA8, 0xA8), (0x81, 0xA4)),
   ((0xA8, 0xA8), (0xA6, 0xA6)), ((0xA8, 0xA8), (0xA8, 0xAF)), ((0xA8, 0xA8), (0xB1, 0xFE)),
   ((0xA9, 0xA9), (0x81, 0xFE)), ((0xAA, 0xAA), (0x81, 0xF3)), ((0xAB, 0xAB), (0x81, 0xF6)),
   ((0xAC, 0xAC), (0x81, 0xC1)), ((0xAC, 0xAC), (0xD1, 0xF1)), ((0xAD, 0xAF), (0x81, 0xA0)),
   ((0xB0, 0xC5), (0x81, 0xFE)), ((0xC6, 0xC6), (0x41, 0x52)), ((0xC6, 0xC8), (0xA1, 0xFE)),
   ((0xCA, 0xFD), (0xA1, 0xFE))]

/-- A code page for Chinese. -/
def gbk : Grid :=
  [((0x81, 0xA0), (0x40, 0x7E)), ((0x81, 0xA0), (0x80, 0xFE)), ((0xA1, 0xA1), (0xA1, 0xFE)),
   ((0xA2, 0xA2), (0xA1, 0xAA)), ((0xA2, 0xA2), (0xB1, 0xE2)), ((0xA2, 0xA2), (0xE5, 0xEE)),
   ((0xA2, 0xA2), (0xF1, 0xFC)), ((0xA3, 0xA3), (0xA1, 0xFE)), ((0xA4, 0xA4), (0xA1, 0xF3)),
   ((0xA5, 0xA5), (0xA1, 0xF6)), ((0xA6, 0xA6), (0xA1, 0xB8)), ((0xA6, 0xA6), (0xC1, 0xD8)),
   ((0xA6, 0xA6), (0xE0, 0xEB)), ((0xA6, 0xA6), (0xEE, 0xF2)), ((0xA6, 0xA6), (0xF4, 0xF5)),
   ((0xA7, 0xA7), (0xA1, 0xC1)), ((0xA7, 0xA7), (0xD1, 0xF1)), ((0xA8, 0xA8), (0x40, 0x7E)),
   ((0xA8, 0xA8), (0x80, 0x95)), ((0xA8, 0xA8), (0xA1, 0xBB)), ((0xA8, 0xA8), (0xBD, 0xBE)),
   ((0xA8, 0xA8), (0xC0, 0xC0)), ((0xA8, 0xA8), (0xC5, 0xE9)), ((0xA9, 0xA9), (0x40, 0x57)),
   ((0xA9, 0xA9), (0x59, 0x5A)), ((0xA9, 0xA9), (0x5C, 0x5C)), ((0xA9, 0xA9), (0x60, 0x7E)),
   ((0xA9, 0xA9), (0x80, 0x88)), ((0xA9, 0xA9), (0x96, 0x96)), ((0xA9, 0xA9), (0xA4, 0xEF)),
   ((0xAA, 0xAF), (0x80, 0xA0)), ((0xAA, 0xFD), (0x40, 0x7E)), ((0xB0, 0xD6), (0x80, 0xFE)),
   ((0xD7, 0xD7), (0x80, 0xF9)), ((0xD8, 0xF7), (0x80, 0xFE)), ((0xF8, 0xFD), (0x80, 0xA0)),
   ((0xFE, 0xFE), (0x40, 0x4F))]

/-- The traditional Chinese characters. -/
def big5 : Grid :=
  [((0xA1, 0xA2), (0xA1, 0xFE)), ((0xA1, 0xC7), (0x40, 0x7E)), ((0xA3, 0xA3), (0xA1, 0xBF)),
   ((0xA4, 0xC6), (0xA1, 0xFE)), ((0xC7, 0xC7), (0xA1, 0xFC)), ((0xC9, 0xF8), (0xA1, 0xFE)),
   ((0xC9, 0xF9), (0x40, 0x7E)), ((0xF9, 0xF9), (0xA1, 0xD5))]

/-- A code page for traditional Chinese. -/
def cp950 : Grid :=
  [((0xA1, 0xA2), (0xA1, 0xFE)), ((0xA1, 0xC7), (0x40, 0x7E)), ((0xA3, 0xA3), (0xA1, 0xBF)),
   ((0xA3, 0xA3), (0xE1, 0xE1)), ((0xA4, 0xC6), (0xA1, 0xFE)), ((0xC7, 0xC7), (0xA1, 0xFC)),
   ((0xC9, 0xF9), (0x40, 0x7E)), ((0xC9, 0xF9), (0xA1, 0xFE))]

/-- The traditional Chinese characters with the supplement of Hong Kong. -/
def big5hkscs : Grid :=
  [((0x87, 0x87), (0x40, 0x65)), ((0x87, 0x87), (0x67, 0x79)), ((0x88, 0x88), (0x40, 0x7E)),
   ((0x88, 0x88), (0xA1, 0xAA)), ((0x89, 0x89), (0x43, 0x43)), ((0x89, 0x89), (0x46, 0x49)),
   ((0x89, 0x89), (0x4C, 0x7E)), ((0x89, 0x89), (0xA1, 0xA6)), ((0x89, 0x89), (0xAB, 0xAE)),
   ((0x89, 0x89), (0xB0, 0xB2)), ((0x89, 0x89), (0xB5, 0xBF)), ((0x89, 0x89), (0xC1, 0xC3)),
   ((0x89, 0x89), (0xC5, 0xFE)), ((0x89, 0x8A), (0x40, 0x41)), ((0x8A, 0x8A), (0x43, 0x62)),
   ((0x8A, 0x8A), (0x64, 0x74)), ((0x8A, 0x8A), (0x76, 0x7E)), ((0x8A, 0x8A), (0xA1, 0xAA)),
   ((0x8A, 0x8A), (0xAC, 0xB0)), ((0x8A, 0x8A), (0xB2, 0xB9)), ((0x8A, 0x8A), (0xBB, 0xC7)),
   ((0x8A, 0x8A), (0xC9, 0xCC)), ((0x8A, 0x8A), (0xCE, 0xDC)), ((0x8A, 0x8A), (0xDF, 0xF4)),
   ((0x8A, 0x8A), (0xF6, 0xFE)), ((0x8B, 0x8B), (0x40, 0x53)), ((0x8B, 0x8B), (0x55, 0x7E)),
   ((0x8B, 0x8B), (0xA1, 0xDC)), ((0x8B, 0x8B), (0xDE, 0xFD)), ((0x8C, 0x8C), (0x40, 0x7E)),
   ((0x8C, 0x8C), (0xA1, 0xA5)), ((0x8C, 0x8C), (0xA7, 0xC5)), ((0x8C, 0x8C), (0xC9, 0xCC)),
   ((0x8C, 0x8C), (0xCE, 0xE4)), ((0x8C, 0x8C), (0xE6, 0xFE)), ((0x8D, 0x8D), (0x40, 0x40)),
   ((0x8D, 0x8D), (0x42, 0x7E)), ((0x8D, 0x8D), (0xA1, 0xFE)), ((0x8E, 0x8E), (0x40, 0x68)),
   ((0x8E, 0x8E), (0x6A, 0x6E)), ((0x8E, 0x8E), (0x70, 0x7D)), ((0x8E, 0x8E), (0xA1, 0xAA)),
   ((0x8E, 0x8E), (0xAC, 0xB3)), ((0x8E, 0x8E), (0xB5, 0xCC)), ((0x8E, 0x8E), (0xCE, 0xCF)),
   ((0x8E, 0x8E), (0xD1, 0xFE)), ((0x8F, 0x8F), (0x40, 0x56)), ((0x8F, 0x8F), (0x58, 0x68)),
   ((0x8F, 0x8F), (0x6A, 0x6D)), ((0x8F, 0x8F), (0x6F, 0x7E)), ((0x8F, 0x8F), (0xA1, 0xCA)),
   ((0x8F, 0x8F), (0xCD, 0xFD)), ((0x90, 0x90), (0x40, 0x6C)), ((0x90, 0x90), (0x6E, 0x79)),
   ((0x90, 0x90), (0x7B, 0x7E)), ((0x90, 0x90), (0xA1, 0xDB)), ((0x90, 0x90), (0xDD, 0xF0)),
   ((0x90, 0x90), (0xF2, 0xFE)), ((0x91, 0x91), (0x40, 0x7E)), ((0x91, 0x91), (0xA1, 0xBE)),
   ((0x91, 0x91), (0xC0, 0xFE)), ((0x92, 0x92), (0x40, 0x43)), ((0x92, 0x92), (0x45, 0x7E)),
   ((0x92, 0x92), (0xA1, 0xAE)), ((0x92, 0x92), (0xB3, 0xC7)), ((0x92, 0x92), (0xC9, 0xD0)),
   ((0x92, 0x92), (0xD2, 0xFE)), ((0x93, 0x93), (0x40, 0x7E)), ((0x93, 0x93), (0xA1, 0xFE)),
   ((0x94, 0x94), (0x40, 0x46)), ((0x94, 0x94), (0x48, 0x7E)), ((0x94, 0x94), (0xA1, 0xC9)),
   ((0x94, 0x94), (0xCB, 0xFE)), ((0x95, 0x95), (0x40, 0x7E)), ((0x95, 0x95), (0xA1, 0xD8)),
   ((0x95, 0x95), (0xDA, 0xFE)), ((0x96, 0x96), (0x40, 0x43)), ((0x96, 0x96), (0x45, 0x7E)),
   ((0x96, 0x96), (0xA1, 0xEC)), ((0x96, 0x96), (0xEE, 0xFB)), ((0x96, 0x96), (0xFD, 0xFE)),
   ((0x97, 0x9A), (0x40, 0x7E)), ((0x97, 0x9A), (0xA1, 0xFE)), ((0x9B, 0x9B), (0x40, 0x60)),
   ((0x9B, 0x9B), (0x62, 0x75)), ((0x9B, 0x9B), (0x77, 0x77)), ((0x9B, 0x9B), (0x79, 0x7A)),
   ((0x9B, 0x9B), (0x7C, 0x7E)), ((0x9B, 0x9B), (0xA1, 0xC5)), ((0x9B, 0x9B), (0xC7, 0xDD)),
   ((0x9B, 0x9B), (0xDF, 0xEB)), ((0x9B, 0x9B), (0xED, 0xF5)), ((0x9B, 0x9B), (0xF7, 0xFE)),
   ((0x9C, 0x9C), (0x40, 0x41)), ((0x9C, 0x9C), (0x43, 0x52)), ((0x9C, 0x9C), (0x54, 0x61)),
   ((0x9C, 0x9C), (0x63, 0x67)), ((0x9C, 0x9C), (0x69, 0x6A)), ((0x9C, 0x9C), (0x6C, 0x76)),
   ((0x9C, 0x9C), (0x78, 0x7E)), ((0x9C, 0x9C), (0xA1, 0xBB)), ((0x9C, 0x9C), (0xBE, 0xCF)),
   ((0x9C, 0x9C), (0xD1, 0xFE)), ((0x9D, 0x9D), (0x40, 0x56)), ((0x9D, 0x9D), (0x58, 0x59)),
   ((0x9D, 0x9D), (0x5B, 0x7E)), ((0x9D, 0x9D), (0xA1, 0xC3)), ((0x9D, 0x9D), (0xC5, 0xFE)),
   ((0x9E, 0x9E), (0x40, 0x7E)), ((0x9E, 0x9E), (0xA1, 0xA8)), ((0x9E, 0x9E), (0xAA, 0xAB)),
   ((0x9E, 0x9E), (0xAD, 0xC3)), ((0x9E, 0x9E), (0xC5, 0xEE)), ((0x9E, 0x9E), (0xF0, 0xF3)),
   ((0x9E, 0x9E), (0xF5, 0xFC)), ((0x9E, 0x9E), (0xFE, 0xFE)), ((0x9F, 0x9F), (0x40, 0x4D)),
   ((0x9F, 0x9F), (0x4F, 0x5F)), ((0x9F, 0x9F), (0x61, 0x65)), ((0x9F, 0x9F), (0x67, 0x7E)),
   ((0x9F, 0x9F), (0xA1, 0xAC)), ((0x9F, 0x9F), (0xAE, 0xB0)), ((0x9F, 0x9F), (0xB2, 0xBF)),
   ((0x9F, 0x9F), (0xC1, 0xC7)), ((0x9F, 0x9F), (0xC9, 0xCA)), ((0x9F, 0x9F), (0xCC, 0xD7)),
   ((0x9F, 0x9F), (0xD9, 0xD9)), ((0x9F, 0x9F), (0xDB, 0xE5)), ((0x9F, 0x9F), (0xE7, 0xE9)),
   ((0x9F, 0x9F), (0xEB, 0xEE)), ((0x9F, 0x9F), (0xF0, 0xFE)), ((0xA0, 0xA0), (0x40, 0x53)),
   ((0xA0, 0xA0), (0x55, 0x56)), ((0xA0, 0xA0), (0x58, 0x59)), ((0xA0, 0xA0), (0x5B, 0x61)),
   ((0xA0, 0xA0), (0x64, 0x71)), ((0xA0, 0xA0), (0x73, 0x76)), ((0xA0, 0xA0), (0x78, 0x7E)),
   ((0xA0, 0xA0), (0xA1, 0xA4)), ((0xA0, 0xA0), (0xA6, 0xAC)), ((0xA0, 0xA0), (0xAE, 0xAE)),
   ((0xA0, 0xA0), (0xB0, 0xD2)), ((0xA0, 0xA0), (0xD4, 0xD4)), ((0xA0, 0xA0), (0xD6, 0xDE)),
   ((0xA0, 0xA0), (0xE0, 0xE0)), ((0xA0, 0xA0), (0xE2, 0xE3)), ((0xA0, 0xA0), (0xE5, 0xFE)),
   ((0xA1, 0xA2), (0xA1, 0xFE)), ((0xA1, 0xF9), (0x40, 0x7E)), ((0xA3, 0xA3), (0xA1, 0xBF)),
   ((0xA4, 0xC5), (0xA1, 0xFE)), ((0xC6, 0xC6), (0xA1, 0xCE)), ((0xC6, 0xC6), (0xD0, 0xD2)),
   ((0xC6, 0xC6), (0xD4, 0xD4)), ((0xC6, 0xC6), (0xD6, 0xD6)), ((0xC6, 0xC6), (0xD8, 0xDD)),
   ((0xC6, 0xC6), (0xE0, 0xFE)), ((0xC7, 0xC7), (0xA1, 0xFE)), ((0xC8, 0xC8), (0xA1, 0xA4)),
   ((0xC8, 0xC8), (0xCD, 0xF1)), ((0xC8, 0xC8), (0xF5, 0xFE)), ((0xC9, 0xF9), (0xA1, 0xFE)),
   ((0xFA, 0xFA), (0x40, 0x5E)), ((0xFA, 0xFA), (0x60, 0x65)), ((0xFA, 0xFA), (0x67, 0x7E)),
   ((0xFA, 0xFA), (0xA1, 0xBC)), ((0xFA, 0xFA), (0xBE, 0xC4)), ((0xFA, 0xFA), (0xC6, 0xD4)),
   ((0xFA, 0xFA), (0xD6, 0xFE)), ((0xFB, 0xFB), (0x40, 0x47)), ((0xFB, 0xFB), (0x49, 0x7E)),
   ((0xFB, 0xFB), (0xA1, 0xB7)), ((0xFB, 0xFB), (0xB9, 0xF2)), ((0xFB, 0xFB), (0xF4, 0xF8)),
   ((0xFB, 0xFB), (0xFA, 0xFE)), ((0xFC, 0xFC), (0x40, 0x4E)), ((0xFC, 0xFC), (0x50, 0x6B)),
   ((0xFC, 0xFC), (0x6D, 0x7E)), ((0xFC, 0xFC), (0xA1, 0xB8)), ((0xFC, 0xFC), (0xBA, 0xE1)),
   ((0xFC, 0xFC), (0xE3, 0xF0)), ((0xFC, 0xFD), (0xF2, 0xFE)), ((0xFD, 0xFD), (0x40, 0x7E)),
   ((0xFD, 0xFD), (0xA1, 0xB6)), ((0xFD, 0xFD), (0xB9, 0xBA)), ((0xFD, 0xFD), (0xBC, 0xF0)),
   ((0xFE, 0xFE), (0x40, 0x51)), ((0xFE, 0xFE), (0x53, 0x6E)), ((0xFE, 0xFE), (0x70, 0x7E)),
   ((0xFE, 0xFE), (0xA1, 0xA9)), ((0xFE, 0xFE), (0xAB, 0xDC)), ((0xFE, 0xFE), (0xDE, 0xFE))]

end Grid

end RecordCheck.Text.Encoding
