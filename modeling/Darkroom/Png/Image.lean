import Darkroom.Png.Chunks
/-!
# PNG images

`Png.openFile` reads the chunks before the pixels, whose check sums must hold, and
`OpenPng.load` unpacks the pixels and reads the chunks behind them, whose check sums are not
looked at. Pixels are complete once all rows are there, whatever follows in their stream; rows
that a stream leaves out at its end stay zero.
-/

namespace Darkroom

namespace Png

/-- A file opened up to its pixels. -/
structure OpenPng where
  reading : Reading
  layout : Layout
  /-- The length that the first data chunk still has, and the bytes from there on. -/
  data : Option (Nat × Bytes)

private def failed (kind : Failure.Kind) (message : String) : Except Failure α :=
  .error ⟨kind, message⟩

private def truncated : Except Failure α := failed .system "image file is truncated"

/-! ## Opening -/

/-- The bytes of a frame data chunk behind its sequence number. -/
private def frameDataStart (r : Reading) (length : Nat) (rest : Bytes) :
    Except Failure (Reading × Nat × Bytes) := do
  if length < 4 then failed .value "APNG contains truncated fDAT chunk"
  match Bytes.splitExact? 4 rest with
  | none => failed .system "Truncated File Read"
  | some (n, rest) => return (← r.frameData (Bytes.bigEndian n), length - 4, rest)

private def checkedCrc (name : String) (body rest : Bytes) : Except Failure Bytes :=
  match Bytes.splitExact? 4 rest with
  | some (sum, rest) =>
    if Bytes.bigEndian sum = (Bytes.crc32 (Bytes.utf8 name ++ body)).toNat then .ok rest
    else failed .badForm "bad header checksum"
  | none => failed .badForm "incomplete checksum"

/-- Reads chunks up to the first with pixels; each takes some bytes of the fuel. -/
private def openFrom : Nat → Reading → Bytes → Except Failure (Reading × Option (Nat × Bytes))
  | 0, _, _ => failed .badForm "broken PNG file"
  | fuel + 1, r, data =>
    match nextHead? data with
    | none => failed .badForm "broken PNG file"
    | some ("IDAT", length, rest) => .ok (r, some (length, rest))
    | some ("IEND", _, _) => .ok (r, none)
    | some ("fdAT", length, rest) => do
      let (r, length, rest) ← frameDataStart r length rest
      return (r, some (length, rest))
    | some (name, length, rest) => do
      let (body, rest) ← wholeBody length rest
      let r ← r.absorb name body
      openFrom fuel r (← checkedCrc name body rest)

/-- The image that a file with a PNG signature announces. -/
def openFile (file : Bytes) : Except Failure OpenPng := do
  let (reading, data) ← openFrom file.length {} (file.drop 8)
  match reading.layout with
  | some layout =>
    if reading.width = 0 ∨ reading.height = 0 then failed .badForm "not identified"
    else return { reading, layout, data }
  | none => failed .badForm "not identified"

namespace OpenPng

/-- Whether there is more than one frame; data before the first frame counts as one. -/
def isAnimated (p : OpenPng) : Bool :=
  match p.reading.frames with
  | some n => 1 < (if p.reading.frame.isNone && p.data.isSome then n + 1 else n)
  | none => false

/-- Left, upper edge and size of the rectangle that the pixels fill. -/
def target (p : OpenPng) : Except Failure (Nat × Nat × Nat × Nat) :=
  match p.reading.frame with
  | some (left, upper, right, lower) =>
    if left = 0 ∧ right = 0 then .ok (0, 0, p.reading.width, p.reading.height)
    else if right ≤ left ∨ lower ≤ upper then
      failed .value "tile cannot extend outside image"
    else .ok (left, upper, right - left, lower - upper)
  | none => .ok (0, 0, p.reading.width, p.reading.height)

end OpenPng

/-! ## Unpacking rows -/

/-- How far the rows have come. -/
inductive Progress
  | more
  | done
  | broken
deriving DecidableEq

/-- Whether a row that is wholly there has a filter that does not exist. -/
private def hasUnknownFilter (sizes : List Nat) (output : Array UInt8) : Bool :=
  (sizes.foldl (fun (start, bad) size =>
    (start + size, bad || start + size ≤ output.size && 4 < output.getD start 0)) (0, false)).2

/-- Whether so many bytes end with a row. -/
private def endsWithRow (sizes : List Nat) (count : Nat) : Bool :=
  (sizes.foldl (fun (start, hit) size => (start + size, hit || start + size == count)) (0, false)).2

private def totalSize (sizes : List Nat) : Nat := sizes.foldl (· + ·) 0

/-- Judges what has been unpacked; `before` bytes were there before the last piece. -/
private def progress (sizes : List Nat) (before : Nat) (r : Inflated) : Progress :=
  if hasUnknownFilter sizes r.output then .broken
  else if r.ending = .corrupt then .broken
  else if r.output.size = totalSize sizes then .done
  else if r.ending = .complete ∧ before < r.output.size ∧ endsWithRow sizes r.output.size then .done
  else .more

/-- The greatest piece that is unpacked at once. -/
private def pieceSize : Nat := 65536

/-- The next data chunk, from the end of the last one on; empty ones are skipped. -/
private def nextData : Nat → Reading → Bytes → Except Failure (Reading × Nat × Bytes)
  | 0, _, _ => truncated
  | fuel + 1, r, rest =>
    match nextHead? (rest.drop 4) with
    | some ("IDAT", length, rest) | some ("DDAT", length, rest) =>
      if length = 0 then nextData fuel r rest else .ok (r, length, rest)
    | some ("fdAT", length, rest) => do
      let (r, length, rest) ← frameDataStart r length rest
      if length = 0 then nextData fuel r rest else return (r, length, rest)
    | _ => truncated

/-- Unpacks piece after piece until the rows are done or broken. Gives the bytes unpacked, whether
they are good, and where the chunk at hand ends. -/
private def unpackRows (sizes : List Nat) :
    Nat → Reading → Bytes → Nat → Nat → Bytes →
      Except Failure (Reading × Array UInt8 × Bool × Bytes)
  | 0, _, _, _, _, _ => truncated
  | fuel + 1, r, packed, before, length, rest => do
    let (r, length, rest) ← if length = 0 then nextData rest.length r rest else pure (r, length, rest)
    let size := min length pieceSize
    let piece := rest.take size
    if piece.isEmpty then truncated
    else
      let packed := packed ++ piece
      let unpacked := inflate (totalSize sizes) packed
      let tail := rest.drop length
      match progress sizes before unpacked with
      | .done => return (r, unpacked.output, true, tail)
      | .broken => return (r, unpacked.output, false, tail)
      | .more => unpackRows sizes fuel r packed unpacked.output.size (length - size) (rest.drop size)

/-! ## Drawing rows -/

/-- Draws the rows that are wholly there. -/
private def draw (layout : Layout) (width height : Nat) (plans : List RowPlan)
    (output : Array UInt8) : Grid Pixel :=
  let blank : Array Pixel := Array.replicate (width * height) {}
  let (cells, _, _) := plans.foldl (fun (cells, previous, start) plan =>
    let size := 1 + layout.rowSize plan.pixels
    if output.size < start + size then (cells, previous, start + size)
    else
      let previous := if plan.opensPass then #[] else previous
      match unfiltered? layout.filterStep previous (output.extract start (start + size)).toList with
      | none => (cells, previous, start + size)
      | some row =>
        let cells := (List.range plan.pixels).foldl (fun (cells : Array Pixel) i =>
          cells.setIfInBounds (plan.y * width + plan.column + i * plan.step)
            (layout.pixel (layout.sample row i))) cells
        (cells, row, start + size)) (blank, (#[] : Array UInt8), 0)
  Grid.ofFn width height fun x y => cells.getD (y.val * width + x.val) {}

/-! ## Chunks behind the pixels -/

/-- Reads on to the end of the file or to the next frame of an animation. -/
private def readTail (animated : Bool) : Nat → Reading → Bytes → Except Failure Reading
  | 0, r, _ => .ok r
  | fuel + 1, r, rest =>
    match nextHead? (rest.drop 4) with
    | none | some ("IEND", _, _) => .ok r
    | some ("IDAT", length, rest) => do
      let (_, rest) ← wholeBody length rest
      readTail animated fuel r rest
    | some ("fdAT", length, rest) => do
      let (r, length, rest) ← frameDataStart r length rest
      let (_, rest) ← wholeBody length rest
      readTail animated fuel r rest
    | some (name, length, rest) => do
      if name = "fcTL" ∧ animated then return r
      let (body, rest) ← wholeBody length rest
      readTail animated fuel (← r.absorb name body) rest

/-! ## Loading -/

private def paletteColors (bytes : Bytes) : Array (UInt8 × UInt8 × UInt8) :=
  ((List.range (bytes.length / 3)).map fun i =>
    (bytes.getD (3 * i) 0, bytes.getD (3 * i + 1) 0, bytes.getD (3 * i + 2) 0)).toArray

/-- The pixels and everything said beside them. -/
def OpenPng.load (p : OpenPng) : Except Failure Raster := do
  let some (length, rest) := p.data | failed .system "cannot load this image"
  let palette := paletteColors (p.reading.palette.getD [])
  if 256 < palette.size then failed .value "invalid palette size"
  let (left, upper, width, height) ← p.target
  let plans := rowPlans p.reading.interlaced left upper width height
  let sizes := plans.map fun plan => 1 + p.layout.rowSize plan.pixels
  let (reading, output, good, tail) ← unpackRows sizes (rest.length + 1) p.reading [] 0 length rest
  let reading ← readTail p.isAnimated tail.length reading tail
  if !good then failed .system "broken data stream when reading image file"
  return { mode := p.layout.mode, palette
           info := { reading.info with exif := reading.exif.map ExifField.bytes }
           grid := draw p.layout p.reading.width p.reading.height plans output }

end Png

end Darkroom
