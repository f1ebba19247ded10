import ResourceCatalog.Decimal.Shortest

/-!
# Layout of decimals

How the digits of a floating-point number are written: where the point stands, whether a whole
number keeps `.0`, and from which sizes on an exponent is used.
-/

namespace ResourceCatalog.Decimal

/-- The decisions of one way to write floating-point numbers. -/
structure Layout where
  /-- The exponents of the leading digit that are written without an exponent: from the first up to, and
  without, the second. All of them if there is no such pair. -/
  plain : Option (Int × Int)
  /-- What follows the digits of a whole number. -/
  wholeMark : String
  tie : Tie

def digitText (n : Nat) : List Char := Nat.toDigits 10 n

/-- The digits with the point among, before or behind them. -/
def Layout.positional (l : Layout) (d : Scaled) : List Char :=
  let ds := digitText d.digits
  let point := (ds.length : Int) + d.exponent
  if 0 ≤ d.exponent then ds ++ List.replicate d.exponent.toNat '0' ++ l.wholeMark.toList
  else if 0 < point then ds.take point.toNat ++ '.' :: ds.drop point.toNat
  else '0' :: '.' :: List.replicate (-point).toNat '0' ++ ds

/-- One digit, the others behind a point, and a signed exponent. -/
def Layout.scientific (d : Scaled) : List Char :=
  let ds := digitText d.digits
  let lead := (ds.length : Int) - 1 + d.exponent
  let fraction := if ds.length ≤ 1 then [] else '.' :: ds.drop 1
  ds.take 1 ++ fraction ++ 'e' :: (if lead < 0 then '-' else '+') :: digitText lead.natAbs

/-- The text of a positive decimal. -/
def Layout.scaledText (l : Layout) (d : Scaled) : List Char :=
  let lead := ((digitText d.digits).length : Int) - 1 + d.exponent
  match l.plain with
  | none => l.positional d
  | some (least, bound) => if least ≤ lead ∧ lead < bound then l.positional d else Layout.scientific d

/-- The text of a floating-point number. -/
def Layout.text (l : Layout) (x : Float) : String :=
  let bits := x.toBits
  if x.isNaN then "NaN"
  else
    let sign := if bits >>> 63 = 1 then ['-'] else []
    let size := bits &&& 0x7FFFFFFFFFFFFFFF
    let digits :=
      if size = 0x7FF0000000000000 then ['i', 'n', 'f']
      else if size = 0 then '0' :: l.wholeMark.toList
      else l.scaledText ((Binary.ofBits bits).shortest l.tie)
    String.ofList (sign ++ digits)

end ResourceCatalog.Decimal
