import ResourceCatalog.Text.Unprintable

/-!
# Quoted texts

How a message shows a text that it rejects: between double quotes, with short escapes for the
common controls and `\u` escapes for what would not show by itself.
-/

namespace ResourceCatalog.Text

/-- Lower-case hexadecimal digits without leading zeros. -/
def hexText (n : Nat) : List Char := Nat.toDigits 16 n

/-- The character would not show by itself. -/
def isHidden (c : Char) : Bool :=
  if 0x20 ≤ c.toNat && c.toNat < 0x7F then false
  else inRanges unseenRanges c || inRanges unprintableRanges c

/-- One character as it stands between the quotes. -/
def quotedChar (c : Char) : List Char :=
  match c with
  | '\x00' => ['\\', '0']
  | '\t' => ['\\', 't']
  | '\r' => ['\\', 'r']
  | '\n' => ['\\', 'n']
  | '"' => ['\\', '"']
  | '\\' => ['\\', '\\']
  | c => if isHidden c then ['\\', 'u', '\x7b'] ++ hexText c.toNat ++ ['\x7d'] else [c]

/-- The text between double quotes. -/
def quoted (s : String) : String :=
  String.ofList ('"' :: s.toList.flatMap quotedChar ++ ['"'])

end ResourceCatalog.Text
