import ResourceCatalog.Text.CodeRange

/-!
# Blank characters

Blank means the Unicode property `White_Space`: 25 characters, among them the no-break and the
ideographic space, but neither the zero-width space nor the byte order mark.
-/

namespace ResourceCatalog.Text

/-- The property `White_Space`. -/
def blankRanges : List CodeRange :=
  [⟨0x09, 0x0D⟩, ⟨0x20, 0x20⟩, ⟨0x85, 0x85⟩, ⟨0xA0, 0xA0⟩, ⟨0x1680, 0x1680⟩, ⟨0x2000, 0x200A⟩,
   ⟨0x2028, 0x2029⟩, ⟨0x202F, 0x202F⟩, ⟨0x205F, 0x205F⟩, ⟨0x3000, 0x3000⟩]

def isBlank (c : Char) : Bool := inRanges blankRanges c

/-- Drops the blanks at the front. -/
def trimStart (s : List Char) : List Char := s.dropWhile isBlank

/-- Drops the blanks at the end. -/
def trimEnd (s : List Char) : List Char := (s.reverse.dropWhile isBlank).reverse

/-- Drops the blanks at both ends. -/
def trim (s : List Char) : List Char := trimEnd (trimStart s)

/-- Drops the blanks at both ends of a string. -/
def trimmed (s : String) : String := String.ofList (trim s.toList)

end ResourceCatalog.Text
