import Darkroom.Bytes
import Darkroom.Failure
import Darkroom.Power
/-!
# Orientation in an EXIF block

An EXIF block is a small directory of tagged values in either byte order. `Exif.load` keeps the
entries whose bytes are all there, also those that follow one cut off; values are taken from these
bytes only when a tag is looked up, from the first entry under it (`Directory.lookUp`). `Exif.read`
asks for the orientation: a block that does not load has none.
-/

namespace Darkroom

namespace Exif

inductive ByteOrder
  | big
  | little
deriving DecidableEq, Repr

def ByteOrder.number : ByteOrder → Bytes → Nat
  | big => Bytes.bigEndian
  | little => Bytes.littleEndian

/-- The marker that a block is announced with in some containers. -/
def announcement : Bytes := [0x45, 0x78, 0x69, 0x66, 0, 0]

def withoutAnnouncement (b : Bytes) : Bytes :=
  if announcement.isPrefixOf b then b.drop announcement.length else b

/-- The headers that open a directory; in two of them the version stands in the other byte order. -/
def byteOrder? : Bytes → Option ByteOrder
  | [0x4D, 0x4D, 0x00, 0x2A] | [0x4D, 0x4D, 0x2A, 0x00] | [0x4D, 0x4D, 0x00, 0x2B] => some .big
  | [0x49, 0x49, 0x2A, 0x00] | [0x49, 0x49, 0x00, 0x2A] | [0x49, 0x49, 0x2B, 0x00] => some .little
  | _ => none

/-- The size in bytes of one value of a type. -/
def unitSize? : Nat → Option Nat
  | 1 | 2 | 6 | 7 => some 1
  | 3 | 8 => some 2
  | 4 | 9 | 11 | 13 => some 4
  | 5 | 10 | 12 | 16 => some 8
  | _ => none

/-- The integer that the bytes of one value stand for, for the types of integers. -/
def integer? (order : ByteOrder) (kind : Nat) (b : Bytes) : Option Int :=
  let n := order.number b
  match kind with
  | 3 | 4 | 13 | 16 => some n
  | 6 | 8 | 9 => some (Int.bmod n (twoPow (8 * b.length)))
  | _ => none

/-- The bytes of an entry's values: in the entry itself if four suffice, elsewhere otherwise. -/
def valueBytes? (order : ByteOrder) (block : Bytes) (size : Nat) (inPlace : Bytes) : Option Bytes :=
  if size = 0 then none
  else
    let source := if size ≤ 4 then inPlace else block.drop (order.number inPlace)
    (source.splitExact? size).map (·.1)

/-! ## Loading -/

/-- A directory entry with all its bytes. -/
structure Entry where
  tag : Nat
  /-- The type of the values. -/
  kind : Nat
  /-- The size of one value. -/
  unit : Nat
  data : Bytes
deriving DecidableEq, Repr

structure Directory where
  order : ByteOrder := .big
  entries : List Entry := []
deriving DecidableEq, Repr

/-- An entry of no known type, or without all its bytes, is left out. -/
def Entry.ofBytes? (order : ByteOrder) (block entry : Bytes) : Option Entry := do
  let kind := order.number ((entry.drop 2).take 2)
  let count := order.number ((entry.drop 4).take 4)
  let unit ← unitSize? kind
  let data ← valueBytes? order block (unit * count) (entry.drop 8)
  some ⟨order.number (entry.take 2), kind, unit, data⟩

/-- The entries among the next `count`, or as many as there are. -/
def entries (order : ByteOrder) (block : Bytes) : Nat → Bytes → List Entry
  | 0, _ => []
  | count + 1, rest =>
    match rest.splitExact? 12 with
    | none => []
    | some (e, rest) => (Entry.ofBytes? order block e).toList ++ entries order block count rest

private def unpackingFailure (size : Nat) : Failure :=
  ⟨.packing, s!"unpack requires a buffer of {size} bytes"⟩

/-- The place in the block where its directory starts. A wide directory has it behind the eight
bytes that are taken for the head, so none of them is found. -/
def start (order : ByteOrder) (head : Bytes) : Except Failure Nat :=
  let size := if head[2]? = some 0x2B then 8 else 4
  let place := head.drop size
  if place.length = size then .ok (order.number place) else .error (unpackingFailure size)

/-- The directory at a place. Its entries end where the block does. -/
def directoryAt (order : ByteOrder) (block : Bytes) (place : Nat) : Directory :=
  match Bytes.splitExact? 2 (block.drop place) with
  | none => { order }
  | some (count, rest) => { order, entries := entries order block (order.number count) rest }

def load (data : Bytes) : Except Failure Directory :=
  let block := withoutAnnouncement (withoutAnnouncement data)
  if block.isEmpty then .ok {}
  else
    let head := block.take 8
    match byteOrder? (head.take 4) with
    | none => .error ⟨.badForm,
        s!"not a TIFF file (header b{Text.quotedAscii (Bytes.latin1 head)} not valid)"⟩
    | some order => (start order head).map (directoryAt order block)

/-! ## Looking up -/

/-- The first value in an entry's bytes, which must be values and nothing else. -/
def Entry.first (e : Entry) : Except Failure Bytes :=
  let count := e.data.length / e.unit
  if e.data.length ≠ count * e.unit then .error (unpackingFailure (count * e.unit))
  else if count = 0 then .error ⟨.index, "tuple index out of range"⟩
  else .ok (e.data.take e.unit)

/-- The integer under a tag: the first value of the first entry, if it is one. -/
def Directory.lookUp (d : Directory) (tag : Nat) : Except Failure (Option Int) :=
  match d.entries.find? (·.tag = tag) with
  | none => .ok none
  | some e => do return integer? d.order e.kind (← e.first)

def orientationTag : Nat := 0x0112

/-- Failures to load a block after which it counts as one that tells nothing. -/
def isPassedOver : Failure.Kind → Bool
  | .badForm | .value | .closed | .system | .packing => true
  | _ => false

/-- The orientation that a block tells, if there is one. What fails while it is looked up is not
passed over. -/
def read : Option Bytes → Except Failure (Option Int)
  | none | some [] => .ok none
  | some data =>
    match load data with
    | .error f => if isPassedOver f.kind then .ok none else .error f
    | .ok directory => directory.lookUp orientationTag

/-- The orientation by what a directory holds: the first value under the tag, if it is an integer. -/
def orientation? (data : Bytes) : Option Int := do
  let directory ← (load data).toOption
  let e ← directory.entries.find? (·.tag = orientationTag)
  integer? directory.order e.kind (e.data.take e.unit)

end Exif

end Darkroom
