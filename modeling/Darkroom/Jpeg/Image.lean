import Darkroom.Jpeg.Segments
import Darkroom.Power
/-!
# JPEG images

`Jpeg.openFile` reads what stands before the first scan. `OpenJpeg.load` goes over all segments
and accepts an image whose tables and scans fit its frame. What the scans hold is not decoded:
whatever their bits say, they stand for some pixels, and the pixels here are black.
-/

namespace Darkroom

namespace Jpeg

structure OpenJpeg where
  width : Nat
  height : Nat
  mode : Mode
  info : ImageInfo
  file : Bytes

/-- The image that a file with a JPEG signature announces. -/
def openFile (file : Bytes) : Except Failure OpenJpeg := do
  let r ← readUpToScan file.length {} (file.drop 2)
  match r.frame with
  | some (width, height, mode) =>
    if width = 0 ∨ height = 0 then .error ⟨.badForm, "not identified"⟩
    return {
      width, height, mode, file
      info := { comment := r.comment.filter (!·.isEmpty), icc := r.icc, exif := r.exif } }
  | none => .error ⟨.badForm, "not identified"⟩

/-! ## Tables, frames and scans -/

/-- How many codes of each length from one up there are, and what the codes stand for. -/
structure CodeTable where
  counts : List Nat
  symbols : Bytes

/-- The codes of a length must not run out of their bits; a code of ones only is no code. -/
def CodeTable.fits (t : CodeTable) : Bool :=
  (t.counts.zipIdx.foldl (fun (next, good) (count, i) =>
    let next := 2 * next + count
    (next, good && (count == 0 || next < twoPow (i + 1)))) (0, true)).2

/-- Codes for differences of averages stand for at most fifteen bits. -/
def CodeTable.fitsAverages (t : CodeTable) : Bool := t.fits && t.symbols.all (· ≤ 15)

structure Component where
  id : UInt8
  /-- Blocks of the component in one unit of a scan. -/
  blocks : Nat
  quantizer : Nat
deriving DecidableEq

structure Frame where
  progressive : Bool
  arithmetic : Bool
  components : List Component

/-- What the segments so far have defined. -/
structure Decoder where
  quantizers : List Nat := []
  averages : Nat → Option CodeTable := fun _ => none
  details : Nat → Option CodeTable := fun _ => none
  frame : Option Frame := none
  scans : Nat := 0
  /-- Whether more than one scan is expected. -/
  manyScans : Bool := true

namespace Decoder

private def broken : Except Failure α :=
  .error ⟨.system, "broken data stream when reading image file"⟩

private def guarded (ok : Bool) (d : Decoder) : Except Failure Decoder :=
  if ok then .ok d else broken

private def quantizerTables : Nat → Decoder → Bytes → Except Failure Decoder
  | _, d, [] => .ok d
  | 0, _, _ => broken
  | fuel + 1, d, head :: rest =>
    let size := if head < 16 then 64 else 128
    let slot := head.toNat % 16
    if 4 ≤ slot ∨ rest.length < size then broken
    else quantizerTables fuel { d with quantizers := slot :: d.quantizers } (rest.drop size)

private def codeTables : Nat → Decoder → Bytes → Except Failure Decoder
  | _, d, [] => .ok d
  | 0, _, _ => broken
  | fuel + 1, d, head :: rest =>
    let counts := (rest.take 16).map (·.toNat)
    let count := counts.foldl (· + ·) 0
    let rest := rest.drop 16
    let slot := head.toNat % 16
    if counts.length < 16 ∨ 256 < count ∨ rest.length < count ∨ 4 ≤ slot ∨ 32 ≤ head then broken
    else
      let table : CodeTable := ⟨counts, rest.take count⟩
      let d :=
        if head < 16 then
          { d with averages := fun n => if n = slot then some table else d.averages n }
        else { d with details := fun n => if n = slot then some table else d.details n }
      codeTables fuel d (rest.drop count)

/-- The greatest extent that is decoded. -/
def reach : Nat := 65500

private def components : Bytes → List Component
  | id :: sampling :: quantizer :: rest =>
    ⟨id, sampling.toNat / 16 * (sampling.toNat % 16), quantizer.toNat⟩ :: components rest
  | _ => []

private def samplingFits : Bytes → Bool
  | _ :: sampling :: _ :: rest =>
    let across := sampling.toNat / 16
    let down := sampling.toNat % 16
    1 ≤ across && across ≤ 4 && 1 ≤ down && down ≤ 4 && samplingFits rest
  | _ => true

private def frameSegment (d : Decoder) (marker : Nat) (body : Bytes) : Except Failure Decoder :=
  match body with
  | precision :: h₁ :: h₀ :: w₁ :: w₀ :: count :: rest =>
    let height := Bytes.bigEndian [h₁, h₀]
    let width := Bytes.bigEndian [w₁, w₀]
    guarded
      (d.frame.isNone && precision == 8 && 0 < height && height ≤ reach && 0 < width &&
        width ≤ reach && 0 < count && rest.length == 3 * count.toNat && samplingFits rest)
      { d with frame := some ⟨marker == 0xC2 || marker == 0xCA, marker == 0xC9 || marker == 0xCA,
          components rest⟩ }
  | _ => broken

/-- A component of a scan with the numbers of its two code tables. -/
private def selected (f : Frame) : Bytes → List (Option (Component × Nat × Nat))
  | id :: tables :: rest =>
    ((f.components.find? (·.id == id)).map fun c => (c, tables.toNat / 16, tables.toNat % 16))
      :: selected f rest
  | _ => []

/-- Two code tables of each kind are known beforehand where scans are sequential. -/
private def hasAverages (d : Decoder) (slot : Nat) : Bool :=
  match d.averages slot with
  | some t => t.fitsAverages
  | none => slot < 2

private def hasDetails (d : Decoder) (slot : Nat) : Bool :=
  match d.details slot with
  | some t => t.fits
  | none => slot < 2

/-- Whether a progressive scan's band and precision make sense and its code tables are there. -/
private def progressiveFits (d : Decoder) (f : Frame) (chosen : List (Component × Nat × Nat))
    (first last precision : Nat) : Bool :=
  let before := precision / 16
  let after := precision % 16
  let band :=
    if first = 0 then last == 0 else first ≤ last && last ≤ 63 && chosen.length == 1
  let approximation := (before == 0 || after + 1 == before) && after ≤ 13
  let tables := f.arithmetic || chosen.all fun (_, average, detail) =>
    if first = 0 then before != 0 || (d.averages average).any (·.fitsAverages)
    else (d.details detail).any (·.fits)
  band && approximation && tables

private def sequentialFits (d : Decoder) (f : Frame) (chosen : List (Component × Nat × Nat)) : Bool :=
  f.arithmetic || chosen.all fun (_, average, detail) => d.hasAverages average && d.hasDetails detail

private def scanSegment (d : Decoder) (body : Bytes) : Except Failure Decoder := do
  let some f := d.frame | broken
  match body with
  | [] => broken
  | count :: rest =>
    let count := count.toNat
    let selection := selected f (rest.take (2 * count))
    let chosen := selection.filterMap id
    match rest.drop (2 * count) with
    | [first, last, precision] =>
      let band := (first.toNat, last.toNat, precision.toNat)
      let parts := chosen.map (·.1)
      let manyScans :=
        if d.scans = 0 then f.progressive || count < f.components.length else d.manyScans
      guarded
        (d.manyScans && 1 ≤ count && count ≤ 4 && chosen.length == count &&
          parts.eraseDups.length == count &&
          (count == 1 || parts.foldl (fun sum c => sum + c.blocks) 0 ≤ 10) &&
          parts.all (fun c => d.quantizers.contains c.quantizer) &&
          if f.progressive then d.progressiveFits f chosen band.1 band.2.1 band.2.2
          else d.sequentialFits f chosen)
        { d with scans := d.scans + 1, manyScans }
    | _ => broken

/-- Takes in one segment whose length is given apart. -/
def absorb (d : Decoder) (marker length : Nat) (body : Bytes) : Except Failure Decoder :=
  if marker ∈ [0xC0, 0xC1, 0xC2, 0xC9, 0xCA] then d.frameSegment marker body
  else if marker = 0xC4 then if length < 2 then broken else codeTables body.length d body
  else if marker = 0xDB then if length < 2 then broken else quantizerTables body.length d body
  else if marker = 0xDA then d.scanSegment body
  else if marker = 0xDD then guarded (length == 4) d
  else if marker ∈ [0xCC, 0xDC, 0xFE] ∨ 0xE0 ≤ marker ∧ marker ≤ 0xEF then .ok d
  else broken

/-- Goes over the segments to the end of the image. -/
def follow : Nat → Decoder → Bytes → Except Failure Decoder
  | 0, _, _ => broken
  | fuel + 1, d, data =>
    match nextMarker? data with
    | none => .error ⟨.system, "image file is truncated"⟩
    | some (marker, rest) =>
      if marker = 0xD9 then guarded (0 < d.scans) d
      else if marker = 0x01 ∨ 0xD0 ≤ marker ∧ marker ≤ 0xD7 then follow fuel d rest
      else match segment? rest with
        | none => .error ⟨.system, "image file is truncated"⟩
        | some (length, body, rest) => do follow fuel (← d.absorb marker.toNat length body) rest

end Decoder

def OpenJpeg.load (p : OpenJpeg) : Except Failure Raster := do
  let _ ← Decoder.follow p.file.length {} (p.file.drop 2)
  return { mode := p.mode, info := p.info, grid := Grid.fill p.width p.height {} }

end Jpeg

end Darkroom
