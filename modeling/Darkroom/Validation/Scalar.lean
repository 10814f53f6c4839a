import Darkroom.Text.Blank
import Darkroom.Text.Number
import Darkroom.Validation.Basic
/-!
# Rules for integers, booleans and texts

Texts are read as integers and booleans where one of these is wanted, since queries and
environments know nothing but texts.
-/

namespace Darkroom

namespace Validation

/-! ## Integers in texts -/

/-- Whether two underscores stand side by side. -/
def hasPair : List Char → Bool
  | '_' :: '_' :: _ => true
  | _ :: rest => hasPair rest
  | [] => false

/-- A plus sign is dropped, but not before a minus sign. -/
def withoutPlus? : List Char → Option (List Char)
  | '+' :: '-' :: _ => none
  | '+' :: rest => some rest
  | cs => some cs

/-- Zeros in front are dropped, with single underscores between them, but one zero is kept where
no other digit follows. -/
def withoutLeadingZeros? : List Char → Option (List Char)
  | '0' :: rest =>
    let isFiller (c : Char) := c == '0' || c == '_'
    let zeros := '0' :: rest.takeWhile isFiller
    let last := zeros.getLastD '0'
    if hasPair zeros then none
    else match rest.dropWhile isFiller with
      | [] => some [last]
      | '.' :: fraction => some (last :: '.' :: fraction)
      | c :: more => if '1' ≤ c ∧ c ≤ '9' then some (c :: more) else none
  | c :: rest => if '1' ≤ c ∧ c ≤ '9' ∨ c = '-' then some (c :: rest) else none
  | [] => none

/-- A fraction of one zero or more is dropped. -/
def withoutFraction? (cs : List Char) : Option (List Char) :=
  match cs.dropWhile (· != '.') with
  | [] => some cs
  | _ :: fraction =>
    if !fraction.isEmpty && fraction.all (· == '0') then some (cs.takeWhile (· != '.')) else none

/-- Single underscores between digits are dropped. -/
def withoutUnderscores? (cs : List Char) : Option (List Char) :=
  if cs.head? = some '_' ∨ cs.getLast? = some '_' ∨ hasPair cs then none
  else some (cs.filter (· != '_'))

/-- The digits that are read at most. -/
def digitLimit : Nat := 4300

/-- Digits with at most a minus sign before them and no zero in front. -/
def integerOfDigits (cs : List Char) : Except Complaint Int :=
  let (negative, digits) := match cs with
    | '-' :: digits => (true, digits)
    | digits => (false, digits)
  if digits.isEmpty ∨ !digits.all Char.isDigit then .error .unreadableInteger
  else if digits.head? = some '0' ∧ digits.length ≠ 1 then .error .unreadableInteger
  else if digitLimit < cs.length then .error .oversizedInteger
  else
    let n : Nat := Text.decimal digits
    .ok (if negative then -n else n)

def integerOfText (s : String) : Except Complaint Int :=
  let bare := (withoutPlus? (Text.trim Text.isBlank s.toList)) >>= withoutLeadingZeros? >>=
    withoutFraction? >>= withoutUnderscores?
  match bare with
  | some cs => integerOfDigits cs
  | none => .error .unreadableInteger

/-! ## Integers in numbers -/

/-- Where 64 bits with a sign end. -/
def wordReach : Int := 9223372036854775808

/-- A whole number that fits 64 bits with room for its sign. -/
def integerOfReal (x : Binary64) : Except Complaint Int :=
  match x.toRat? with
  | none => .error .notFinite
  | some r =>
    if r.den ≠ 1 then .error .fraction
    else if -wordReach < r.num ∧ r.num < wordReach then .ok r.num
    else .error .oversizedInteger

/-! ## Rules -/

def integer : Rule Int
  | .int n => .ok n
  | .bool b => .ok b.toInt
  | .string s => integerOfText s
  | .real x => integerOfReal x
  | _ => .error .notAnInteger

def atLeast (least : Int) (rule : Rule Int) : Rule Int := fun j => do
  let n ← rule j
  if n < least then .error (.below least) else .ok n

def atMost (greatest : Int) (rule : Rule Int) : Rule Int := fun j => do
  let n ← rule j
  if greatest < n then .error (.above greatest) else .ok n

def falseWords : List String := ["0", "off", "f", "false", "n", "no"]

def trueWords : List String := ["1", "on", "t", "true", "y", "yes"]

private def booleanOfInteger (n : Int) : Except Complaint Bool :=
  if n = 0 then .ok false
  else if n = 1 then .ok true
  else .error .unreadableBoolean

def booleanOfText (s : String) : Except Complaint Bool :=
  let word := s.map Char.toLower
  if falseWords.contains word then .ok false
  else if trueWords.contains word then .ok true
  else .error .unreadableBoolean

/-- Numbers too great for 64 bits are no booleans at all. -/
def boolean : Rule Bool
  | .bool b => .ok b
  | .int n =>
    if -wordReach ≤ n ∧ n < wordReach then booleanOfInteger n else .error .notABoolean
  | .string s => booleanOfText s
  | .real x =>
    match integerOfReal x with
    | .ok n => booleanOfInteger n
    | .error _ => .error .notABoolean
  | _ => .error .notABoolean

def text : Rule String
  | .string s => .ok s
  | _ => .error .notAText

def oneOf (choices : List String) : Rule String := fun j =>
  match j with
  | .string s => if choices.contains s then .ok s else .error (.notOneOf choices)
  | _ => .error (.notOneOf choices)

end Validation

end Darkroom
