import Darkroom.Bytes
/-!
# Reading UTF-8

`utf8?` accepts well-formed text only; `utf8Lossy` puts a replacement character in place of
each longest beginning of a sequence that goes wrong.
-/

namespace Darkroom

namespace Bytes

/-- For a byte that starts a sequence: its payload, the number of bytes to follow and the range
the first of those must lie in. -/
private def lead? (b : UInt8) : Option (Nat × Nat × Nat × Nat) :=
  let n := b.toNat
  if 0xC2 ≤ n ∧ n < 0xE0 then some (n - 0xC0, 1, 0x80, 0xBF)
  else if n = 0xE0 then some (0, 2, 0xA0, 0xBF)
  else if n = 0xED then some (0xD, 2, 0x80, 0x9F)
  else if 0xE1 ≤ n ∧ n < 0xF0 then some (n - 0xE0, 2, 0x80, 0xBF)
  else if n = 0xF0 then some (0, 3, 0x90, 0xBF)
  else if n = 0xF4 then some (4, 3, 0x80, 0x8F)
  else if 0xF1 ≤ n ∧ n < 0xF4 then some (n - 0xF0, 3, 0x80, 0xBF)
  else none

/-- How a sequence stands after a byte: still waiting for some, or none awaited. -/
private structure Pending where
  value : Nat
  missing : Nat
  low : Nat
  high : Nat

private def decodeFrom (acc : List (Option Char)) : Option Pending → Bytes → List (Option Char)
  | none, [] => acc.reverse
  | some _, [] => (none :: acc).reverse
  | pending, b :: rest =>
    let start (acc : List (Option Char)) : List (Option Char) × Option Pending :=
      if b < 0x80 then (some (Char.ofNat b.toNat) :: acc, none)
      else match lead? b with
        | some (value, missing, low, high) => (acc, some ⟨value, missing, low, high⟩)
        | none => (none :: acc, none)
    let (acc, pending) := match pending with
      | none => start acc
      | some p =>
        if p.low ≤ b.toNat ∧ b.toNat ≤ p.high then
          let value := p.value * 64 + (b.toNat - 0x80)
          if p.missing = 1 then (some (Char.ofNat value) :: acc, none)
          else (acc, some ⟨value, p.missing - 1, 0x80, 0xBF⟩)
        else start (none :: acc)
    decodeFrom acc pending rest

/-- The characters, with nothing in place of what is malformed. -/
private def decoded (b : Bytes) : List (Option Char) := decodeFrom [] none b

def utf8? (b : Bytes) : Option String :=
  let cs := decoded b
  if cs.all (·.isSome) then some (String.ofList (cs.filterMap id)) else none

def utf8Lossy (b : Bytes) : String :=
  String.ofList ((decoded b).map fun c => c.getD '\uFFFD')

end Bytes

end Darkroom
