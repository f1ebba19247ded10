import ResourceCatalog.Json.Number
import ResourceCatalog.Text.Ascii

/-!
# JSON tokens

A text is cut into tokens from left to right. The list ends with `bad` where the text stops being a
sequence of tokens. A quoted text whose escapes do not form characters is still a token, since it
may stand where nobody reads it.
-/

namespace ResourceCatalog.Json

open Text (digitValue)

inductive Token where
  | openList
  | closeList
  | openMap
  | closeMap
  | comma
  | colon
  | null
  | truth (b : Bool)
  | number (n : Numeral)
  /-- A quoted text; `none` if an escape names half of a pair. -/
  | text (s : Option String)
  | bad
deriving DecidableEq, Repr

/-! ## Numbers -/

/-- Splits off the digits at the front. -/
def spanDigits (s : List Char) : List Nat × List Char :=
  ((s.takeWhile Char.isDigit).map digitValue, s.dropWhile Char.isDigit)

/-- The digits before the point: one zero, or digits that do not start with zero. -/
def scanWhole? (s : List Char) : Option (List Nat × List Char) :=
  let (digits, rest) := spanDigits s
  if digits = [] ∨ digits.head? = some 0 ∧ 1 < digits.length then none else some (digits, rest)

/-- The digits behind a point, none if there is no point. -/
def scanFraction? : List Char → Option (List Nat × List Char)
  | '.' :: rest =>
    let (digits, rest) := spanDigits rest
    if digits = [] then none else some (digits, rest)
  | s => some ([], s)

/-- The digits of an exponent whose sign has been read. -/
def scanPower? (down : Bool) (s : List Char) : Option (Option (Bool × List Nat) × List Char) :=
  let (digits, rest) := spanDigits s
  if digits = [] then none else some (some (down, digits), rest)

/-- The exponent, if there is one. -/
def scanExponent? : List Char → Option (Option (Bool × List Nat) × List Char)
  | c :: s =>
    if c = 'e' ∨ c = 'E' then
      match s with
      | '+' :: rest => scanPower? false rest
      | '-' :: rest => scanPower? true rest
      | rest => scanPower? false rest
    else some (none, c :: s)
  | [] => some (none, [])

/-- A number whose sign has been read. -/
def scanSize? (negative : Bool) (s : List Char) : Option (Numeral × List Char) := do
  let (whole, s) ← scanWhole? s
  let (fraction, s) ← scanFraction? s
  let (exponent, s) ← scanExponent? s
  return (⟨negative, whole, fraction, exponent⟩, s)

/-- A number. -/
def scanNumber? : List Char → Option (Numeral × List Char)
  | '-' :: rest => scanSize? true rest
  | s => scanSize? false s

/-! ## Texts -/

/-- The character that a letter stands for behind a backslash. -/
def unescape? : Char → Option Char
  | '"' => some '"'
  | '\\' => some '\\'
  | '/' => some '/'
  | 'b' => some '\x08'
  | 'f' => some '\x0c'
  | 'n' => some '\n'
  | 'r' => some '\r'
  | 't' => some '\t'
  | _ => none

/-- The code points up to the closing quote, and what follows it. Escapes of four digits give units
of 16 bits, which may be halves of a pair. -/
def scanUnits? : List Char → Option (List Nat × List Char)
  | [] => none
  | c :: rest =>
    if c = '"' then some ([], rest)
    else if c = '\\' then
      match rest with
      | 'u' :: a :: b :: c :: d :: rest => do
        let unit ← Text.hexNumber? 0 [a, b, c, d]
        let (units, rest) ← scanUnits? rest
        return (unit :: units, rest)
      | letter :: rest => do
        let c ← unescape? letter
        let (units, rest) ← scanUnits? rest
        return (c.toNat :: units, rest)
      | [] => none
    else if c.toNat < 0x20 then none
    else do
      let (units, rest) ← scanUnits? rest
      return (c.toNat :: units, rest)

def isHighHalf (n : Nat) : Bool := 0xD800 ≤ n && n < 0xDC00

def isLowHalf (n : Nat) : Bool := 0xDC00 ≤ n && n < 0xE000

/-- Joins halves of pairs; nothing if a half stands alone. -/
def joinHalves? : List Nat → Option (List Char)
  | [] => some []
  | [n] => if isHighHalf n || isLowHalf n then none else some [Char.ofNat n]
  | n :: m :: rest =>
    if isHighHalf n then
      if isLowHalf m then
        (joinHalves? rest).map (Char.ofNat (0x10000 + (n - 0xD800) * 0x400 + (m - 0xDC00)) :: ·)
      else none
    else if isLowHalf n then none
    else (joinHalves? (m :: rest)).map (Char.ofNat n :: ·)

/-! ## The token sequence -/

def isSpace (c : Char) : Bool := c = ' ' || c = '\n' || c = '\t' || c = '\r'

/-- Takes a word off the front. -/
def afterWord? : List Char → List Char → Option (List Char)
  | [], s => some s
  | w :: ws, c :: s => if w = c then afterWord? ws s else none
  | _ :: _, [] => none

/-- The token that a character which is no space starts. -/
def scanToken? (c : Char) (rest : List Char) : Option (Token × List Char) :=
  match c with
  | '[' => some (.openList, rest)
  | ']' => some (.closeList, rest)
  | '\x7b' => some (.openMap, rest)
  | '\x7d' => some (.closeMap, rest)
  | ',' => some (.comma, rest)
  | ':' => some (.colon, rest)
  | 'n' => (afterWord? ['u', 'l', 'l'] rest).map (.null, ·)
  | 't' => (afterWord? ['r', 'u', 'e'] rest).map (.truth true, ·)
  | 'f' => (afterWord? ['a', 'l', 's', 'e'] rest).map (.truth false, ·)
  | '"' => (scanUnits? rest).map fun (units, rest) => (.text ((joinHalves? units).map String.ofList), rest)
  | c => (scanNumber? (c :: rest)).map fun (n, rest) => (.number n, rest)

/-! ## Scanning takes characters away -/

theorem spanDigits_length_le (s : List Char) : (spanDigits s).2.length ≤ s.length :=
  (List.dropWhile_sublist _).length_le

theorem scanWhole?_length {s rest : List Char} {ds : List Nat} (h : scanWhole? s = some (ds, rest)) :
    rest.length < s.length := by
  simp only [scanWhole?] at h
  split at h
  · cases h
  · rename_i hds
    cases h
    cases s with
    | nil => simp [spanDigits] at hds
    | cons c t =>
      by_cases hc : c.isDigit
      · have := (List.dropWhile_sublist (l := t) Char.isDigit).length_le
        simp only [spanDigits, List.dropWhile_cons, hc, if_true, List.length_cons]
        omega
      · simp [spanDigits, hc] at hds

theorem scanFraction?_length {s rest : List Char} {ds : List Nat} (h : scanFraction? s = some (ds, rest)) :
    rest.length ≤ s.length := by
  unfold scanFraction? at h
  split at h
  · rename_i r
    have hle := spanDigits_length_le r
    simp only at h
    split at h
    · cases h
    · cases h
      simp only [List.length_cons]
      omega
  · cases h; exact Nat.le_refl _

theorem scanPower?_length {down : Bool} {s rest : List Char} {e : Option (Bool × List Nat)}
    (h : scanPower? down s = some (e, rest)) : rest.length ≤ s.length := by
  have hle := spanDigits_length_le s
  simp only [scanPower?] at h
  split at h
  · cases h
  · cases h
    exact hle

theorem scanExponent?_length {s rest : List Char} {e : Option (Bool × List Nat)}
    (h : scanExponent? s = some (e, rest)) : rest.length ≤ s.length := by
  unfold scanExponent? at h
  split at h
  · split at h
    · split at h <;> (have hle := scanPower?_length h; simp only [List.length_cons] at *; omega)
    · cases h; exact Nat.le_refl _
  · cases h; exact Nat.le_refl _

theorem scanSize?_length {negative : Bool} {s rest : List Char} {n : Numeral}
    (h : scanSize? negative s = some (n, rest)) : rest.length < s.length := by
  simp only [scanSize?, bind, pure, Option.bind_eq_some_iff] at h
  obtain ⟨⟨whole, s₁⟩, h₁, ⟨fraction, s₂⟩, h₂, ⟨exponent, s₃⟩, h₃, h₄⟩ := h
  cases h₄
  exact Nat.lt_of_le_of_lt (scanExponent?_length h₃)
    (Nat.lt_of_le_of_lt (scanFraction?_length h₂) (scanWhole?_length h₁))

theorem scanNumber?_length {s rest : List Char} {n : Numeral} (h : scanNumber? s = some (n, rest)) :
    rest.length < s.length := by
  unfold scanNumber? at h
  split at h
  · have := scanSize?_length h
    simp only [List.length_cons]
    omega
  · exact scanSize?_length h

theorem scanUnits?_length {s rest : List Char} {units : List Nat} (h : scanUnits? s = some (units, rest)) :
    rest.length < s.length := by
  fun_induction scanUnits? s generalizing units rest with
  | case1 => cases h
  | case2 => cases h; simp
  | case3 c r a b c' d ih =>
    simp only [bind, pure, Option.bind_eq_some_iff] at h
    obtain ⟨_, _, ⟨us, r'⟩, h₂, h₃⟩ := h
    cases h₃
    have hlt : r'.length < _ := ih h₂
    simp only [List.length_cons]
    omega
  | case4 c letter r _ ih =>
    simp only [bind, pure, Option.bind_eq_some_iff] at h
    obtain ⟨_, _, ⟨us, r'⟩, h₂, h₃⟩ := h
    cases h₃
    have hlt : r'.length < _ := ih h₂
    simp only [List.length_cons]
    omega
  | case5 => cases h
  | case6 => cases h
  | case7 c r _ _ _ ih =>
    simp only [bind, pure, Option.bind_eq_some_iff] at h
    obtain ⟨⟨us, r'⟩, h₂, h₃⟩ := h
    cases h₃
    have hlt : r'.length < _ := ih h₂
    simp only [List.length_cons]
    omega

theorem afterWord?_length {w s rest : List Char} (h : afterWord? w s = some rest) :
    rest.length ≤ s.length := by
  fun_induction afterWord? w s with
  | case1 => cases h; exact Nat.le_refl _
  | case2 w ws s ih => have := ih h; simp only [List.length_cons]; omega
  | case3 => cases h
  | case4 => cases h

theorem scanToken?_length {c : Char} {s rest : List Char} {t : Token} (h : scanToken? c s = some (t, rest)) :
    rest.length ≤ s.length := by
  unfold scanToken? at h
  split at h
  iterate 6 (cases h; exact Nat.le_refl _)
  iterate 3
    simp only [Option.map_eq_some_iff] at h
    obtain ⟨r, hr, he⟩ := h
    cases he
    exact afterWord?_length hr
  · simp only [Option.map_eq_some_iff] at h
    obtain ⟨⟨us, r⟩, hr, he⟩ := h
    cases he
    exact Nat.le_of_lt (scanUnits?_length hr)
  · simp only [Option.map_eq_some_iff] at h
    obtain ⟨⟨n, r⟩, hr, he⟩ := h
    cases he
    exact Nat.le_of_lt_succ (scanNumber?_length hr)

/-- The tokens of a text. -/
def tokens : List Char → List Token
  | [] => []
  | c :: s =>
    if isSpace c then tokens s
    else
      match _h : scanToken? c s with
      | some (t, rest) => t :: tokens rest
      | none => [.bad]
termination_by s => s.length
decreasing_by
  · simp
  · have := scanToken?_length _h
    simp only [List.length_cons]
    omega

end ResourceCatalog.Json
