import Darkroom.Bytes
/-!
# Inflating compressed streams

`inflate` turns a compressed stream with its two-byte header and its check sum back into bytes.
It never fails: it yields what it could make of the stream and says how it ended, since an image
may be complete although its stream is not. No more than `limit` bytes are made; the stream is
read on until one more is due.
-/

namespace Darkroom

inductive InflateEnd
  /-- The last block and the check sum were read. -/
  | complete
  /-- The stream goes on and its bytes have run out. -/
  | starved
  /-- The limit is reached and the stream has more to give. -/
  | full
  | corrupt
deriving DecidableEq, Repr, Inhabited

structure Inflated where
  output : Array UInt8
  ending : InflateEnd

namespace Inflate

/-! ## Reading bits -/

structure State where
  rest : Bytes
  /-- Bits of a byte already taken, the next one lowest. -/
  held : Nat := 0
  count : Nat := 0
  output : Array UInt8 := #[]
  limit : Nat

/-- Steps that may end early and keep what has been made. -/
abbrev InflateM := ExceptT InflateEnd (StateM State)

def bit : InflateM Nat := do
  let s ← get
  match s.count, s.rest with
  | 0, [] => throw .starved
  | 0, b :: rest => do
    set { s with rest, held := b.toNat / 2, count := 7 }
    return b.toNat % 2
  | n + 1, _ => do
    set { s with held := s.held / 2, count := n }
    return s.held % 2

/-- A number of `n` bits, the lowest first. -/
def bits : Nat → InflateM Nat
  | 0 => return 0
  | n + 1 => do
    let low ← bit
    return low + 2 * (← bits n)

/-- Whole bytes, from the next byte boundary on. -/
def wholeBytes (n : Nat) : InflateM Bytes := do
  let s ← get
  match Bytes.splitExact? n s.rest with
  | some (taken, rest) =>
    set { s with rest, held := 0, count := 0 }
    return taken
  | none => throw .starved

/-! ## Writing bytes -/

def emit (b : UInt8) : InflateM Unit := do
  let s ← get
  if s.output.size < s.limit then set { s with output := s.output.push b } else throw .full

/-- Repeats bytes already made, one at a time, so that a copy may run into itself. -/
def copyBack (distance : Nat) : Nat → InflateM Unit
  | 0 => return ()
  | n + 1 => do
    let s ← get
    emit (s.output.getD (s.output.size - distance) 0)
    copyBack distance n

/-! ## Codes -/

/-- A canonical code: how many code words there are of each length from 1 to 15, and the symbols
in the order of their code words. -/
structure Code where
  counts : List Nat
  symbols : Array Nat

namespace Code

/-- How many code words are missing, or none if there are too many. -/
private def missing? (counts : List Nat) : Option Nat :=
  counts.foldlM (fun left n => if n ≤ 2 * left then some (2 * left - n) else none) 1

/-- A code in which words are missing is good only if it has a single word of one bit, or none. -/
def ofLengths? (lengths : List Nat) (mustBeFull : Bool) : Option Code := do
  let counts := (List.range 15).map fun i => lengths.count (i + 1)
  let symbols := (List.range 15).flatMap fun i =>
    (lengths.zipIdx.filter (·.1 == i + 1)).map (·.2)
  let left ← missing? counts
  let single := !mustBeFull && (counts.drop 1).all (· == 0)
  if left = 0 ∨ symbols.isEmpty ∨ single then some ⟨counts, symbols.toArray⟩ else none

/-- Reads one code word, bit by bit; `first` is the first word of the length reached and `index`
the place of its symbol. -/
private def readFrom (c : Code) : List Nat → (word first index : Nat) → InflateM Nat
  | [], _, _, _ => throw .corrupt
  | n :: longer, word, first, index => do
    let word := 2 * word + (← bit)
    if word < first + n then return c.symbols.getD (index + word - first) 0
    else if longer.all (· == 0) then throw .corrupt
    else readFrom c longer word (2 * (first + n)) (index + n)

def read (c : Code) : InflateM Nat := readFrom c c.counts 0 0 0

end Code

/-- The base and the number of further bits of each length symbol from 257 on. -/
def lengthTable : List (Nat × Nat) :=
  [(3, 0), (4, 0), (5, 0), (6, 0), (7, 0), (8, 0), (9, 0), (10, 0), (11, 1), (13, 1), (15, 1),
   (17, 1), (19, 2), (23, 2), (27, 2), (31, 2), (35, 3), (43, 3), (51, 3), (59, 3), (67, 4),
   (83, 4), (99, 4), (115, 4), (131, 5), (163, 5), (195, 5), (227, 5), (258, 0)]

/-- The base and the number of further bits of each distance symbol. -/
def distanceTable : List (Nat × Nat) :=
  [(1, 0), (2, 0), (3, 0), (4, 0), (5, 1), (7, 1), (9, 2), (13, 2), (17, 3), (25, 3), (33, 4),
   (49, 4), (65, 5), (97, 5), (129, 6), (193, 6), (257, 7), (385, 7), (513, 8), (769, 8),
   (1025, 9), (1537, 9), (2049, 10), (3073, 10), (4097, 11), (6145, 11), (8193, 12),
   (12289, 12), (16385, 13), (24577, 13)]

/-- A table entry's base and the value of its further bits. -/
private def extended (table : List (Nat × Nat)) (i : Nat) : InflateM Nat :=
  match table[i]? with
  | some (base, further) => do return base + (← bits further)
  | none => throw .corrupt

/-! ## Blocks -/

/-- The symbols of a block up to its end mark; every symbol takes at least one bit of the fuel. -/
private def symbols (literals distances : Code) : Nat → InflateM Unit
  | 0 => throw .starved
  | fuel + 1 => do
    let symbol ← literals.read
    if symbol = 256 then return ()
    else if symbol < 256 then
      emit symbol.toUInt8
      symbols literals distances fuel
    else
      let length ← extended lengthTable (symbol - 257)
      let distance ← extended distanceTable (← distances.read)
      if (← get).output.size < distance then throw .corrupt
      copyBack distance length
      symbols literals distances fuel

private def stored : InflateM Unit := do
  let head ← wholeBytes 4
  let length := Bytes.littleEndian (head.take 2)
  if length + Bytes.littleEndian (head.drop 2) ≠ 65535 then throw .corrupt
  else
    (List.range length).forM fun _ => do
      let s ← get
      if s.output.size = s.limit then throw .full
      match ← wholeBytes 1 with
      | b :: _ => emit b
      | [] => return ()

private def fixedLiterals : List Nat :=
  List.replicate 144 8 ++ List.replicate 112 9 ++ List.replicate 24 7 ++ List.replicate 8 8

/-- The order in which the lengths of the code for lengths are told. -/
private def lengthOrder : List Nat :=
  [16, 17, 18, 0, 8, 7, 9, 6, 10, 5, 11, 4, 12, 3, 13, 2, 14, 1, 15]

/-- Code lengths told by a code of their own, with repetitions, in reverse. -/
private def codeLengths (c : Code) (total : Nat) : Nat → List Nat → InflateM (List Nat)
  | 0, _ => throw .starved
  | fuel + 1, acc => do
    if total ≤ acc.length then return acc
    else
      let symbol ← c.read
      if symbol < 16 then codeLengths c total fuel (symbol :: acc)
      else
        let (value, times) ← match symbol, acc with
          | 16, [] => throw .corrupt
          | 16, last :: _ => do pure (last, 3 + (← bits 2))
          | 17, _ => do pure (0, 3 + (← bits 3))
          | _, _ => do pure (0, 11 + (← bits 7))
        if total < acc.length + times then throw .corrupt
        else codeLengths c total fuel (List.replicate times value ++ acc)

private def needed (c : Option Code) : InflateM Code :=
  match c with
  | some c => return c
  | none => throw .corrupt

private def dynamicCodes : InflateM (Code × Code) := do
  let literalCount := 257 + (← bits 5)
  let distanceCount := 1 + (← bits 5)
  let lengthCount := 4 + (← bits 4)
  if 286 < literalCount ∨ 30 < distanceCount then throw .corrupt
  let told ← (lengthOrder.take lengthCount).mapM fun place => do return (place, ← bits 3)
  let code ← needed (Code.ofLengths? ((List.range 19).map fun i => (told.lookup i).getD 0) true)
  let lengths := (← codeLengths code (literalCount + distanceCount) 400 []).reverse
  if lengths.getD 256 0 = 0 then throw .corrupt
  let literals ← needed (Code.ofLengths? (lengths.take literalCount) false)
  let distances ← needed (Code.ofLengths? (lengths.drop literalCount) false)
  return (literals, distances)

/-- The blocks up to the last one; every block takes at least one bit of the fuel. -/
private def blocks (symbolFuel : Nat) : Nat → InflateM Unit
  | 0 => throw .starved
  | fuel + 1 => do
    let last ← bit
    match ← bits 2 with
    | 0 => stored
    | 1 =>
      let literals ← needed (Code.ofLengths? fixedLiterals false)
      let distances ← needed (Code.ofLengths? (List.replicate 32 5) false)
      symbols literals distances symbolFuel
    | 2 =>
      let (literals, distances) ← dynamicCodes
      symbols literals distances symbolFuel
    | _ => throw .corrupt
    if last = 1 then return () else blocks symbolFuel fuel

/-- The header, the blocks and the check sum over all that was made. -/
private def stream (fuel : Nat) : InflateM Unit := do
  let head ← wholeBytes 2
  let method := (head.getD 0 0).toNat
  let flags := (head.getD 1 0).toNat
  if (256 * method + flags) % 31 ≠ 0 ∨ method % 16 ≠ 8 ∨ 7 < method / 16 then throw .corrupt
  if flags / 32 % 2 = 1 then throw .corrupt
  blocks fuel fuel
  let sum ← wholeBytes 4
  if Bytes.bigEndian sum ≠ Bytes.adler32 (← get).output.toList then throw .corrupt

end Inflate

def inflate (limit : Nat) (data : Bytes) : Inflated :=
  let (outcome, s) := (Inflate.stream (8 * data.length + 8)).run { rest := data, limit } |>.run
  match outcome with
  | .ok () => ⟨s.output, .complete⟩
  | .error e => ⟨s.output, e⟩

end Darkroom
