import Darkroom.Bytes
import Darkroom.Power
/-!
# Codes that stand for strings

The compression of GIF pixels: codes of growing size, each standing for a byte or for an earlier
string with one byte more. The codes lie in blocks with their sizes in front.
-/

namespace Darkroom

namespace Lzw

/-! ## Reading codes -/

structure Source where
  rest : Bytes
  blockLeft : Nat := 0
  /-- Bits already read, the next one lowest. -/
  held : Nat := 0
  count : Nat := 0

/-- Reads bytes until `size` bits are held. A block is read only if it is all there; one without
bytes is passed over. -/
def fill (size blockLeft held count : Nat) : Bytes → Option Source
  | rest@([]) => if size ≤ count then some ⟨rest, blockLeft, held, count⟩ else none
  | rest@(b :: more) =>
    if size ≤ count then some ⟨rest, blockLeft, held, count⟩
    else match blockLeft with
      | left + 1 => fill size left (held + b.toNat * twoPow count) (count + 8) more
      | 0 => if more.length < b.toNat then none else fill size b.toNat held count more

def Source.code? (s : Source) (size : Nat) : Option (Nat × Source) :=
  (fill size s.blockLeft s.held s.count s.rest).map fun s =>
    (s.held % twoPow size, { s with held := s.held / twoPow size, count := s.count - size })

/-! ## Expanding codes -/

/-- Codes have at most this many bits, and the table as many entries as they can tell apart. -/
def mostBits : Nat := 12

def tableSize : Nat := twoPow mostBits

structure State where
  source : Source
  size : Nat
  /-- The entries from the code after the end mark on: an earlier code and a further byte. -/
  table : Array (Nat × UInt8) := #[]
  /-- The code before this one and the first byte of its string. -/
  last : Option (Nat × UInt8) := none
  output : Array UInt8 := #[]

/-- The string a code stands for, or nothing if it is longer than there is room for. -/
private def expand? (clear : Nat) (table : Array (Nat × UInt8)) :
    Nat → List UInt8 → Nat → Option (List UInt8)
  | fuel, acc, code =>
    if code < clear then some (code.toUInt8 :: acc)
    else match fuel with
      | 0 => none
      | fuel + 1 =>
        match table[code - (clear + 2)]? with
        | some (link, b) => expand? clear table fuel (b :: acc) link
        | none => if code < clear + 2 then expand? clear table fuel (0 :: acc) 0 else none

/-- The table and the code size after a string was read whose first byte is `first`. -/
private def grow (clear : Nat) (s : State) (lastCode : Nat) (first : UInt8) :
    Array (Nat × UInt8) × Nat :=
  let next := clear + 2 + s.table.size
  if next < tableSize then
    (s.table.push (lastCode, first),
      if next = twoPow s.size - 1 ∧ s.size < mostBits then s.size + 1 else s.size)
  else (s.table, s.size)

/-- Expands codes until `wanted` bytes are there; an end mark before that ends in nothing. -/
private def run (bits wanted : Nat) : Nat → State → Option (Array UInt8)
  | 0, _ => none
  | fuel + 1, s =>
    let clear := twoPow bits
    match s.source.code? s.size with
    | none => none
    | some (code, source) =>
      let s := { s with source }
      if code = clear then run bits wanted fuel { s with size := bits + 1, table := #[], last := none }
      else if code = clear + 1 then none
      else
        let emit (bytes : List UInt8) (s : State) : Option (Array UInt8) :=
          let output := s.output ++ bytes.toArray
          if wanted ≤ output.size then some (output.extract 0 wanted)
          else run bits wanted fuel { s with output }
        match s.last with
        | none => if clear < code then none
          else emit [code.toUInt8] { s with last := some (code, code.toUInt8) }
        | some (lastCode, lastFirst) =>
          let next := clear + 2 + s.table.size
          let string? :=
            if next < code then none
            else if code = next then
              (expand? clear s.table (tableSize - 1) [] lastCode).map (· ++ [lastFirst])
            else expand? clear s.table tableSize [] code
          match string? with
          | none => none
          | some string =>
            let first := string.headD 0
            let (table, size) := grow clear s lastCode first
            emit string { s with table, size, last := some (code, first) }

/-- The first `wanted` bytes, for codes that start with one bit more than `bits`. -/
def expand (bits wanted : Nat) (data : Bytes) : Option (Array UInt8) :=
  if mostBits < bits then none
  else run bits wanted (8 * data.length + 1) { source := { rest := data }, size := bits + 1 }

end Lzw

end Darkroom
