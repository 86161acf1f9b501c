import Coffer.Text.Band

/-!
# Blank characters

The property *White_Space* of Unicode, and a text without the blanks around it.
-/

namespace Coffer.Text

/-- The bands of the blank characters. -/
def blankBands : List Band :=
  [
    ⟨0x9, 0xD, 1⟩, ⟨0x20, 0x20, 1⟩, ⟨0x85, 0x85, 1⟩, ⟨0xA0, 0xA0, 1⟩, ⟨0x1680, 0x1680, 1⟩,
    ⟨0x2000, 0x200A, 1⟩, ⟨0x2028, 0x2029, 1⟩, ⟨0x202F, 0x202F, 1⟩, ⟨0x205F, 0x205F, 1⟩,
    ⟨0x3000, 0x3000, 1⟩
  ]

/-- Has the character the property White_Space? -/
def isBlank (c : Char) : Bool := inBands blankBands c

/-- The text without its leading blanks. -/
def dropBlanks (cs : List Char) : List Char := cs.dropWhile isBlank

/-- The text without the blanks at either end. -/
def trim (s : String) : String :=
  String.ofList (dropBlanks (dropBlanks s.toList).reverse).reverse

/-- The ASCII capitals made small, all else unchanged. -/
def lowercaseAscii (s : String) : String :=
  String.ofList (s.toList.map fun c => if 'A' ≤ c && c ≤ 'Z' then Char.ofNat (c.toNat + 32) else c)

example : bandCount blankBands = 25 := by decide +kernel

end Coffer.Text
