import Darkroom.Power
/-!
# Binary floating point

Values of the 64-bit format as exact numbers `± mantissa * 2 ^ exponent`. Every operation of
arithmetic computes the exact result and rounds it once (`Binary64.ofQuotient`), to nearest with
ties to the even mantissa; signs and comparisons are exact.
-/

namespace Darkroom

/-- The integer nearest to `num / den`; a tie goes to the even one. -/
def roundDiv (num den : Nat) : Nat :=
  let q := num / den
  let twice := 2 * (num % den)
  if twice < den then q
  else if den < twice then q + 1
  else if q % 2 = 0 then q else q + 1

/-- Finite values have a mantissa below `2 ^ 53`, and below `2 ^ 52` only at the least exponent. -/
inductive Binary64
  | finite (negative : Bool) (mantissa : Nat) (exponent : Int)
  | infinity (negative : Bool)
  | nan
deriving DecidableEq, Repr, Inhabited

namespace Binary64

def leastExponent : Int := -1074

def greatestExponent : Int := 971

def zero : Binary64 := .finite false 0 leastExponent

def isNegative : Binary64 → Bool
  | finite n _ _ => n
  | infinity n => n
  | nan => false

/-- The value nearest to `num / den` with the given sign. -/
def ofQuotient (negative : Bool) (num den : Nat) : Binary64 :=
  if num = 0 then .finite negative 0 leastExponent
  else
    let gap : Int := (num.log2 : Int) - den.log2
    let top := if den * twoPow gap.toNat ≤ num * twoPow (-gap).toNat then gap else gap - 1
    let q := max (top - 52) leastExponent
    let m := roundDiv (num * twoPow (-q).toNat) (den * twoPow q.toNat)
    let (m, q) := if m = twoPow 53 then (twoPow 52, q + 1) else (m, q)
    if greatestExponent < q then .infinity negative else .finite negative m q

def ofInt (n : Int) : Binary64 := ofQuotient (n < 0) n.natAbs 1

def ofRat (r : Rat) : Binary64 := ofQuotient (r.num < 0) r.num.natAbs r.den

/-- Beyond these decimal exponents a value is infinite or zero whatever its digits say. -/
private def decimalReach : Int := 400

/-- `± digits * 10 ^ exponent`, rounded. -/
def ofDecimal (negative : Bool) (digits : Nat) (exponent : Int) : Binary64 :=
  if digits = 0 then .finite negative 0 leastExponent
  else
    let size : Int := (Nat.toDigits 10 digits).length + exponent
    if decimalReach < size then .infinity negative
    else if size < -decimalReach then .finite negative 0 leastExponent
    else ofQuotient negative (digits * tenPow exponent.toNat) (tenPow (-exponent).toNat)

/-! ## Arithmetic -/

def neg : Binary64 → Binary64
  | finite s m q => .finite (!s) m q
  | infinity s => .infinity (!s)
  | nan => nan

def abs : Binary64 → Binary64
  | finite _ m q => .finite false m q
  | infinity _ => .infinity false
  | nan => nan

/-- The signed integer `n` of a finite value `n * 2 ^ q`. -/
private def signed (negative : Bool) (m : Nat) : Int := if negative then -(m : Int) else m

/-- A sum of zero is negative only if both terms are. -/
def add : Binary64 → Binary64 → Binary64
  | nan, _ | _, nan => nan
  | infinity a, infinity b => if a = b then infinity a else nan
  | infinity a, _ => infinity a
  | _, infinity b => infinity b
  | finite a m p, finite b n q =>
    let low := min p q
    let sum := signed a m * twoPow (p - low).toNat + signed b n * twoPow (q - low).toNat
    if sum = 0 then .finite (a && b) 0 leastExponent
    else ofQuotient (sum < 0) (sum.natAbs * twoPow low.toNat) (twoPow (-low).toNat)

def sub (x y : Binary64) : Binary64 := x.add y.neg

def mul : Binary64 → Binary64 → Binary64
  | nan, _ | _, nan => nan
  | infinity a, infinity b => infinity (a != b)
  | infinity a, finite b m _ | finite a m _, infinity b => if m = 0 then nan else infinity (a != b)
  | finite a m p, finite b n q =>
    ofQuotient (a != b) (m * n * twoPow (p + q).toNat) (twoPow (-(p + q)).toNat)

def div : Binary64 → Binary64 → Binary64
  | nan, _ | _, nan | infinity _, infinity _ => nan
  | infinity a, finite b _ _ => infinity (a != b)
  | finite a _ _, infinity b => .finite (a != b) 0 leastExponent
  | finite a m p, finite b n q =>
    if n = 0 then if m = 0 then nan else infinity (a != b)
    else ofQuotient (a != b) (m * twoPow (p - q).toNat) (n * twoPow (q - p).toNat)

/-- Nothing is compared with what is no number. -/
def less : Binary64 → Binary64 → Bool
  | nan, _ | _, nan => false
  | infinity a, infinity b => a && !b
  | infinity a, finite _ _ _ => a
  | finite _ _ _, infinity b => !b
  | finite a m p, finite b n q =>
    let low := min p q
    signed a m * twoPow (p - low).toNat < signed b n * twoPow (q - low).toNat

def isZero : Binary64 → Bool
  | finite _ 0 _ => true
  | _ => false

def half : Binary64 := .finite false (twoPow 52) (-53)

/-! ## Whole numbers -/

/-- The exact value as a fraction with a power of two below, if it is finite. -/
def toRat? : Binary64 → Option Rat
  | finite s m q => some (mkRat (signed s m * twoPow q.toNat) (twoPow (-q).toNat))
  | _ => none

/-- The greatest integer that is not above a finite value. -/
def floor? (x : Binary64) : Option Int :=
  x.toRat?.map (·.floor)

/-- The integer part of a finite value. -/
def truncate? (x : Binary64) : Option Int :=
  x.toRat?.map fun r => r.num.tdiv r.den

end Binary64

end Darkroom
