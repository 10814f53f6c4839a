import Darkroom.Bytes
import Darkroom.Json.Basic
/-!
# Read JSON

`Json.parse?` accepts one value with blanks around it. A number with neither a point nor an
exponent is an integer of any size. Escaped surrogates that form a pair stand for one
character; one that stands alone is replaced.
-/

namespace Darkroom

namespace Json

def skipBlanks (cs : List Char) : List Char :=
  cs.dropWhile fun c => c = ' ' ∨ c = '\n' ∨ c = '\r' ∨ c = '\t'

/-! ## Strings -/

def hexUnit? (a b c d : Char) : Option Nat := do
  let a ← Bytes.hexValue? a
  let b ← Bytes.hexValue? b
  let c ← Bytes.hexValue? c
  let d ← Bytes.hexValue? d
  return a * 4096 + b * 256 + c * 16 + d

def unescaped? : Char → Option Char
  | '"' => some '"'
  | '\\' => some '\\'
  | '/' => some '/'
  | 'b' => some '\x08'
  | 'f' => some '\x0c'
  | 'n' => some '\n'
  | 'r' => some '\r'
  | 't' => some '\t'
  | _ => none

/-- The code points and escaped units up to the closing quote, in reverse, and what follows it. -/
def scanString (units : List Nat) : List Char → Option (List Nat × List Char)
  | [] => none
  | '"' :: rest => some (units, rest)
  | '\\' :: 'u' :: a :: b :: c :: d :: rest =>
    match hexUnit? a b c d with
    | some n => scanString (n :: units) rest
    | none => none
  | '\\' :: c :: rest =>
    match unescaped? c with
    | some c => scanString (c.toNat :: units) rest
    | none => none
  | c :: rest => if c.toNat < 0x20 then none else scanString (c.toNat :: units) rest

/-- Joins pairs of surrogates, given the units in reverse. -/
def joinUnits (acc : List Char) : List Nat → List Char
  | [] => acc
  | low :: high :: rest =>
    if 0xDC00 ≤ low ∧ low < 0xE000 ∧ 0xD800 ≤ high ∧ high < 0xDC00 then
      joinUnits (Char.ofNat (0x10000 + (high - 0xD800) * 0x400 + (low - 0xDC00)) :: acc) rest
    else if 0xD800 ≤ low ∧ low < 0xE000 then joinUnits ('\uFFFD' :: acc) (high :: rest)
    else joinUnits (Char.ofNat low :: acc) (high :: rest)
  | [n] => (if 0xD800 ≤ n ∧ n < 0xE000 then '\uFFFD' else Char.ofNat n) :: acc

def readString (cs : List Char) : Option (String × List Char) :=
  (scanString [] cs).map fun (units, rest) => (String.ofList (joinUnits [] units), rest)

/-! ## Numbers -/

def isNumberChar (c : Char) : Bool :=
  c.isDigit || c = '.' || c = 'e' || c = 'E' || c = '+' || c = '-'

def readNumber (cs : List Char) : Option (Json × List Char) :=
  let (negative, body) := match cs with
    | '-' :: r => (true, r)
    | r => (false, r)
  let text := body.takeWhile isNumberChar
  let rest := body.dropWhile isNumberChar
  if text.isEmpty then none
  else if text.all Char.isDigit then
    let n : Int := Nat.ofDigitChars 10 text 0
    some (int (if negative then -n else n), rest)
  else (Binary64.ofDigits? negative text).map fun x => (real x, rest)

/-! ## Values -/

mutual

/-- The fuel bounds the number of values still to be read. -/
def readValue : Nat → List Char → Option (Json × List Char)
  | 0, _ => none
  | fuel + 1, cs =>
    match skipBlanks cs with
    | 'n' :: 'u' :: 'l' :: 'l' :: rest => some (null, rest)
    | 't' :: 'r' :: 'u' :: 'e' :: rest => some (bool true, rest)
    | 'f' :: 'a' :: 'l' :: 's' :: 'e' :: rest => some (bool false, rest)
    | '"' :: rest => (readString rest).map fun (s, rest) => (string s, rest)
    | '[' :: rest =>
      match skipBlanks rest with
      | ']' :: rest => some (array [], rest)
      | _ => (readItems fuel [] rest).map fun (xs, rest) => (array xs, rest)
    | '\x7b' :: rest =>
      match skipBlanks rest with
      | '\x7d' :: rest => some (object [], rest)
      | _ => (readFields fuel [] rest).map fun (fs, rest) => (object fs, rest)
    | rest => readNumber rest

def readItems : Nat → List Json → List Char → Option (List Json × List Char)
  | 0, _, _ => none
  | fuel + 1, acc, cs =>
    match readValue fuel cs with
    | none => none
    | some (x, rest) =>
      match skipBlanks rest with
      | ',' :: rest => readItems fuel (x :: acc) rest
      | ']' :: rest => some ((x :: acc).reverse, rest)
      | _ => none

def readFields : Nat → List (String × Json) → List Char → Option (List (String × Json) × List Char)
  | 0, _, _ => none
  | fuel + 1, acc, cs =>
    match skipBlanks cs with
    | '"' :: rest =>
      match readString rest with
      | none => none
      | some (key, rest) =>
        match skipBlanks rest with
        | ':' :: rest =>
          match readValue fuel rest with
          | none => none
          | some (x, rest) =>
            match skipBlanks rest with
            | ',' :: rest => readFields fuel ((key, x) :: acc) rest
            | '\x7d' :: rest => some (((key, x) :: acc).reverse, rest)
            | _ => none
        | _ => none
    | _ => none

end

def parse? (s : String) : Option Json :=
  let cs := s.toList
  match readValue (2 * cs.length + 1) cs with
  | some (x, rest) => if (skipBlanks rest).isEmpty then some x else none
  | none => none

end Json

end Darkroom
