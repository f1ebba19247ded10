import ResourceCatalog.Text.Ascii

/-!
# UUIDs

A UUID is a number of 128 bits. Its text is 32 hexadecimal digits in groups of 8, 4, 4, 4 and 12.
-/

namespace ResourceCatalog.Id

/-- The number of values of 128 bits. -/
def Uuid.count : Nat := 0x100000000000000000000000000000000

/-- A 128-bit identifier. -/
structure Uuid where
  value : Fin Uuid.count
deriving DecidableEq, Repr

/-- The identifier with all bits zero. -/
def Uuid.nil : Uuid := ⟨⟨0, by decide⟩⟩

/-- Identifiers are ordered by their value. -/
def Uuid.order (a b : Uuid) : Ordering := compare a.value.val b.value.val

/-- Puts hyphens after the digits 8, 12, 16 and 20. -/
def hyphenated (digits : List Char) : List Char :=
  digits.take 8 ++ '-' :: ((digits.drop 8).take 4 ++ '-' :: ((digits.drop 12).take 4 ++
    '-' :: ((digits.drop 16).take 4 ++ '-' :: digits.drop 20)))

/-- The lower-case hyphenated text, as characters. -/
def Uuid.chars (u : Uuid) : List Char := hyphenated (Text.hexDigits 32 u.value)

/-- The lower-case hyphenated text. -/
def Uuid.text (u : Uuid) : String := String.ofList u.chars

/-- The identifier of version 7 for a time in milliseconds and 74 random bits: 48 bits of time, the
version, 12 bits, the variant `10`, 62 bits. -/
def Uuid.ofTime (millis random : Nat) : Uuid :=
  let time := millis % 0x1000000000000
  let high := random / 0x4000000000000000 % 0x1000
  let low := random % 0x4000000000000000
  ⟨⟨time * 0x100000000000000000000 + 0x70000000000000000000 + high * 0x10000000000000000 +
      0x8000000000000000 + low, by simp only [time, high, low, Uuid.count]; omega⟩⟩

/-- The four bits that tell how an identifier was made. -/
def Uuid.version (u : Uuid) : Nat := u.value.val / 0x10000000000000000000 % 16

end ResourceCatalog.Id
