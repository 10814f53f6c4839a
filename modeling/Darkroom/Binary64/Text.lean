import Darkroom.Binary64.Basic
/-!
# Decimal text of floating-point values

`shortest` finds the fewest decimal digits that read back to a value; `fixed`, `scientific` and
`general` write the exact value with a given number of places or digits. `repr` is how a value
is written where no form is asked for: positionally from `0.0001` up to below `10 ^ 16`,
otherwise with a signed exponent of at least two digits.
-/

namespace Darkroom

namespace Binary64

/-- `digits * 10 ^ exponent` -/
structure Decimal where
  digits : Nat
  exponent : Int
deriving DecidableEq, Repr, Inhabited

/-- Compares `a * 10 ^ i` with `b * 2 ^ j` exactly. -/
private def compareScaled (a : Nat) (i : Int) (b : Nat) (j : Int) : Ordering :=
  compare (a * tenPow i.toNat * twoPow (-j).toNat) (b * twoPow j.toNat * tenPow (-i).toNat)

/-- Whether a decimal lies among the numbers that round to `m * 2 ^ q`: between the middles to
the two neighbours, the middles themselves only if `m` is even. -/
def readsBack (m : Nat) (q : Int) (d : Decimal) : Bool :=
  let narrow := m == twoPow 52 && q > leastExponent
  let low := compareScaled d.digits d.exponent (if narrow then 4 * m - 1 else 4 * m - 2) (q - 2)
  let high := compareScaled d.digits d.exponent (4 * m + 2) (q - 2)
  let inclusive := m % 2 == 0
  (low == .gt || inclusive && low == .eq) && (high == .lt || inclusive && high == .eq)

/-- The least `k` with `m * 2 ^ q < 10 ^ k`, for `m` above zero. -/
def decimalPoint (m : Nat) (q : Int) : Int :=
  let guess := (((m.log2 : Int) + q) * 30103).fdiv 100000
  match [guess - 1, guess, guess + 1].find? fun k => compareScaled 1 k m q == .gt with
  | some k => k
  | none => guess + 2

/-- Of the two neighbours of a value on a decimal grid, the nearer one that reads back. -/
private def onGrid? (m : Nat) (q e : Int) : Option Decimal :=
  let num := m * twoPow q.toNat * tenPow (-e).toNat
  let den := twoPow (-q).toNat * tenPow e.toNat
  let below : Decimal := ⟨num / den, e⟩
  let above : Decimal := ⟨num / den + 1, e⟩
  match readsBack m q below && below.digits != 0, readsBack m q above with
  | true, true => some (if roundDiv num den = below.digits then below else above)
  | true, false => some below
  | false, true => some above
  | false, false => none

private def stripZeros : Nat → Decimal → Decimal
  | 0, d => d
  | fuel + 1, d =>
    if d.digits ≠ 0 ∧ d.digits % 10 = 0 then stripZeros fuel ⟨d.digits / 10, d.exponent + 1⟩ else d

/-- The fewest digits that read back to `m * 2 ^ q`, and of those the nearest. -/
def shortest (m : Nat) (q : Int) : Decimal :=
  let k := decimalPoint m q
  match (List.range 17).findSome? fun (n : Nat) => onGrid? m q (k - (n + 1)) with
  | some d => stripZeros 20 d
  | none => ⟨m * twoPow q.toNat * Nat.pow 5 (-q).toNat, min q 0⟩

/-! ## Layout -/

private def zeros (n : Nat) : String := String.ofList (List.replicate n '0')

def digitsText (n : Nat) : String := String.ofList (Nat.toDigits 10 n)

/-- A signed exponent of at least two digits. -/
private def exponentText (mark : String) (e : Int) : String :=
  let digits := digitsText e.natAbs
  mark ++ (if e < 0 then "-" else "+") ++ (if digits.length < 2 then "0" else "") ++ digits

private def withPoint (digits : List Char) (whole : Nat) : String :=
  String.ofList (digits.take whole ++ '.' :: digits.drop whole)

private def layout (d : Decimal) : String :=
  let digits := Nat.toDigits 10 d.digits
  let point := d.exponent + digits.length
  if point ≤ -4 ∨ 16 < point then
    let mantissa := if digits.length = 1 then String.ofList digits else withPoint digits 1
    mantissa ++ exponentText "e" (point - 1)
  else if point ≤ 0 then "0." ++ zeros (-point).toNat ++ String.ofList digits
  else if digits.length ≤ point.toNat then
    String.ofList digits ++ zeros (point.toNat - digits.length) ++ ".0"
  else withPoint digits point.toNat

private def sign (negative : Bool) : String := if negative then "-" else ""

/-- The written form where no other is asked for. -/
def repr : Binary64 → String
  | nan => "nan"
  | infinity s => sign s ++ "inf"
  | finite s 0 _ => sign s ++ "0.0"
  | finite s m q => sign s ++ layout (shortest m q)

/-! ## A given number of places or digits -/

/-- `digits` with a point before the last `places`. -/
private def placed (digits : Nat) (places : Nat) (keepPoint : Bool) : String :=
  let text := Nat.toDigits 10 digits
  let text := List.replicate (places + 1 - text.length) '0' ++ text
  if places = 0 ∧ !keepPoint then String.ofList text else withPoint text (text.length - places)

/-- The magnitude with a fixed number of places. -/
def fixed (places : Nat) (keepPoint : Bool) (m : Nat) (q : Int) : String :=
  placed (roundDiv (m * twoPow q.toNat * tenPow places) (twoPow (-q).toNat)) places keepPoint

/-- The first `count` significant digits and the exponent of the leading one. -/
private def significant (count m : Nat) (q : Int) : Nat × Int :=
  if m = 0 then (0, 0)
  else
    let lead := decimalPoint m q - 1
    let e := lead - (count - 1)
    let d := roundDiv (m * twoPow q.toNat * tenPow (-e).toNat) (twoPow (-q).toNat * tenPow e.toNat)
    if d = tenPow count then (d / 10, lead + 1) else (d, lead)

/-- One digit before the point, `places` behind it, and an exponent. -/
def scientific (places : Nat) (keepPoint : Bool) (m : Nat) (q : Int) : String :=
  let (d, e) := significant (places + 1) m q
  placed d places keepPoint ++ exponentText "e" e

private def stripTrailing (text : String) : String :=
  let rest := text.toList.reverse.dropWhile (· == '0')
  String.ofList (if rest.head? == some '.' then rest.tail else rest).reverse

/-- `count` significant digits, positionally while the exponent is at least -4 and below `count`;
zeros at the end are kept only together with the point. -/
def general (count : Nat) (keepPoint : Bool) (m : Nat) (q : Int) : String :=
  let count := max count 1
  let (d, e) := significant count m q
  let strip (s : String) := if keepPoint ∨ !s.contains '.' then s else stripTrailing s
  if -4 ≤ e ∧ e < count then
    strip (placed d ((count : Int) - 1 - e).toNat keepPoint)
  else
    strip (placed d (count - 1) keepPoint) ++ exponentText "e" e

/-- A value with `places` digits behind the point. -/
def toFixed (places : Nat) : Binary64 → String
  | finite s m q => sign s ++ fixed places false m q
  | infinity s => sign s ++ "inf"
  | nan => "nan"

/-! ## Reading -/

private def digitsValue (cs : List Char) : Nat :=
  cs.foldl (fun n c => n * 10 + (c.toNat - 48)) 0

/-- A decimal point and an exponent are optional, and so are the digits on one side of the point. -/
def ofDigits? (negative : Bool) (cs : List Char) : Option Binary64 :=
  let whole := cs.takeWhile Char.isDigit
  let rest := cs.dropWhile Char.isDigit
  let (fraction, rest) := match rest with
    | '.' :: r => (r.takeWhile Char.isDigit, r.dropWhile Char.isDigit)
    | r => ([], r)
  let exponent? : Option Int := match rest with
    | [] => some 0
    | c :: r =>
      if c ≠ 'e' ∧ c ≠ 'E' then none
      else
        let (back, r) := match r with
          | '-' :: r => (true, r)
          | '+' :: r => (false, r)
          | r => (false, r)
        if r.isEmpty ∨ !r.all Char.isDigit then none
        else some (if back then -(digitsValue r : Int) else digitsValue r)
  if whole.isEmpty ∧ fraction.isEmpty then none
  else exponent?.map fun e => ofDecimal negative (digitsValue (whole ++ fraction)) (e - fraction.length)

/-- A sign, and then digits or one of the words for the values that have none. -/
def ofText? (s : String) : Option Binary64 :=
  let (negative, cs) := match s.toList with
    | '-' :: r => (true, r)
    | '+' :: r => (false, r)
    | r => (false, r)
  match (String.ofList cs).toLower with
  | "inf" | "infinity" => some (.infinity negative)
  | "nan" => some .nan
  | _ => ofDigits? negative cs

end Binary64

end Darkroom
