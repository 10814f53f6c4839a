/-!
# Numbers as text

A number is read and written in decimal digits, unless it has more of them than the runtime
allows. There is no text that tells of such a number.
-/

namespace Darkroom

namespace Text

/-! ## Numbers that are too long -/

/-- The most digits that a number may have to be read or written, if there is such a limit. -/
abbrev DigitLimit := Option Nat

/-- The limit of a runtime that is not told otherwise. -/
def digitLimit : Nat := 4300

namespace DigitLimit

def standard : DigitLimit := some digitLimit

/-- The number is not too long. -/
def Allows (limit : DigitLimit) (n : Int) : Prop :=
  ∀ most ∈ limit, (Nat.toDigits 10 n.natAbs).length ≤ most

theorem allows_none (n : Int) : Allows none n := fun _ there => absurd there (Option.not_mem_none _)

instance (limit : DigitLimit) (n : Int) : Decidable (limit.Allows n) :=
  match limit with
  | none => .isTrue (allows_none n)
  | some most => decidable_of_iff ((Nat.toDigits 10 n.natAbs).length ≤ most) (by simp [Allows])

/-- What is said in place of a text with a number that is too long. -/
def complaint (limit : DigitLimit) : String :=
  s!"Exceeds the limit ({limit.getD 0} digits) for integer string conversion; " ++
    "use sys.set_int_max_str_digits() to increase the limit"

end DigitLimit

/-! ## Decimal digits -/

/-- The number that digits stand for. -/
def decimal (digits : List Char) : Nat :=
  digits.foldl (fun n c => 10 * n + (c.toNat - 48)) 0

private def groupOfThree : List Char → List Char
  | a :: b :: c :: d :: rest => a :: b :: c :: ',' :: groupOfThree (d :: rest)
  | rest => rest

/-- The decimal digits with a comma before every three from the right. -/
def grouped (n : Int) : String :=
  let digits := (groupOfThree (Nat.toDigits 10 n.natAbs).reverse).reverse
  String.ofList (if n < 0 then '-' :: digits else digits)

/-- A number in the digits that a form gives it. -/
def written? (limit : DigitLimit) (form : Int → String) (n : Int) : Option String :=
  if limit.Allows n then some (form n) else none

def number? (limit : DigitLimit) (n : Int) : Option String := written? limit toString n

def grouped? (limit : DigitLimit) (n : Int) : Option String := written? limit grouped n

end Text

end Darkroom
