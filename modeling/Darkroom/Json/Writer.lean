import Darkroom.Bytes
import Darkroom.Json.Basic
import Darkroom.Text.Number
/-!
# Written JSON

`Json.render` writes a value on one line of printable ASCII: every other character is escaped,
one beyond the basic plane as a pair of surrogates. Items are set apart by a comma and a blank,
a field's name from its value by a colon and a blank.
-/

namespace Darkroom

namespace Json

/-- A 16-bit unit as an escape of four lower-case digits. -/
def escapedUnit (n : Nat) : List Char :=
  ['\\', 'u', Bytes.hexDigit (n / 4096 % 16), Bytes.hexDigit (n / 256 % 16),
    Bytes.hexDigit (n / 16 % 16), Bytes.hexDigit (n % 16)]

def escapedChar (c : Char) : List Char :=
  if c = '"' then ['\\', '"']
  else if c = '\\' then ['\\', '\\']
  else if c = '\n' then ['\\', 'n']
  else if c = '\r' then ['\\', 'r']
  else if c = '\t' then ['\\', 't']
  else if c = '\x08' then ['\\', 'b']
  else if c = '\x0c' then ['\\', 'f']
  else if 0x20 ≤ c.toNat ∧ c.toNat ≤ 0x7E then [c]
  else if c.toNat < 0x10000 then escapedUnit c.toNat
  else
    escapedUnit (0xD800 + (c.toNat - 0x10000) / 0x400) ++
      escapedUnit (0xDC00 + (c.toNat - 0x10000) % 0x400)

def quoted (s : String) : List Char :=
  '"' :: s.toList.flatMap escapedChar ++ ['"']

def realText : Binary64 → String
  | .nan => "NaN"
  | .infinity true => "-Infinity"
  | .infinity false => "Infinity"
  | x => x.repr

mutual

def chars : Json → List Char
  | null => "null".toList
  | bool true => "true".toList
  | bool false => "false".toList
  | int n => (toString n).toList
  | real x => (realText x).toList
  | string s => quoted s
  | array items => '[' :: itemChars items ++ [']']
  | object fields => '\x7b' :: fieldChars fields ++ ['\x7d']

def itemChars : List Json → List Char
  | [] => []
  | [x] => chars x
  | x :: y :: rest => chars x ++ ',' :: ' ' :: itemChars (y :: rest)

def fieldChars : List (String × Json) → List Char
  | [] => []
  | [(k, v)] => quoted k ++ ':' :: ' ' :: chars v
  | (k, v) :: f :: rest => quoted k ++ ':' :: ' ' :: chars v ++ ',' :: ' ' :: fieldChars (f :: rest)

end

def render (j : Json) : String := String.ofList j.chars

/-! ## Numbers that are too long -/

mutual

/-- The integers in a value. -/
def integers : Json → List Int
  | int n => [n]
  | array items => itemIntegers items
  | object fields => fieldIntegers fields
  | _ => []

def itemIntegers : List Json → List Int
  | [] => []
  | x :: rest => integers x ++ itemIntegers rest

def fieldIntegers : List (String × Json) → List Int
  | [] => []
  | (_, v) :: rest => integers v ++ fieldIntegers rest

end

/-- The text of a value, unless an integer in it is too long. -/
def render? (limit : Text.DigitLimit) (j : Json) : Option String :=
  if ∀ n ∈ j.integers, limit.Allows n then some j.render else none

end Json

end Darkroom
