/-! How many values a machine word has, and which whole numbers fit a word with a sign. -/

namespace ResourceCatalog.Word

/-- The number of values of a word of 32 bits. -/
def size32 : Nat := 0x100000000

/-- The number of values of a word of 64 bits. -/
def size64 : Nat := 0x10000000000000000

/-- The number fits a word of 32 bits with a sign. -/
def fitsSigned32 (n : Int) : Bool := -0x80000000 ≤ n ∧ n < 0x80000000

/-- The least number that a word of 64 bits with a sign can hold. -/
def least64 : Int := -0x8000000000000000

/-- The first number that a word of 64 bits with a sign cannot hold. -/
def bound64 : Int := 0x8000000000000000

/-- The number fits a word of 64 bits with a sign. -/
def fitsSigned64 (n : Int) : Bool := least64 ≤ n ∧ n < bound64

end ResourceCatalog.Word
