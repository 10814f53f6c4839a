import Darkroom.Failure
import Darkroom.Raster.Basic
/-!
# Segments of a JPEG file

A JPEG file is a run of segments, each behind a marker, up to the first scan. `Reading` holds
what the segments read so far have said; `Reading.absorb` takes in one more.
-/

namespace Darkroom

namespace Jpeg

private def malformed (message : String) : Except Failure α := .error ⟨.badForm, message⟩

/-! ## Markers -/

/-- The next marker and what follows it. A marker may be filled up in front; bytes between
segments are skipped. -/
def nextMarker? : Bytes → Option (UInt8 × Bytes)
  | 0xFF :: 0xFF :: rest => nextMarker? (0xFF :: rest)
  | 0xFF :: 0x00 :: rest => nextMarker? rest
  | 0xFF :: marker :: rest => some (marker, rest)
  | _ :: rest => nextMarker? rest
  | [] => none
termination_by data => data.length

/-- A segment's length, which counts itself, its body and what follows. -/
def segment? (data : Bytes) : Option (Nat × Bytes × Bytes) := do
  let (size, rest) ← Bytes.splitExact? 2 data
  let length := Bytes.bigEndian size
  let (body, rest) ← Bytes.splitExact? (length - 2) rest
  some (length, body, rest)

/-- Whether a marker opens a frame. -/
def opensFrame (marker : Nat) : Bool :=
  (0xC0 ≤ marker ∧ marker ≤ 0xCF ∧ marker ∉ [0xC4, 0xC8, 0xCC]) || marker == 0xDE

/-- Whether a marker stands alone, as far as the header goes. -/
private def standsAlone (marker : Nat) : Bool :=
  marker == 0xC8 || (0xD0 ≤ marker ∧ marker ≤ 0xD9) || (0xF0 ≤ marker ∧ marker ≤ 0xFD)

/-! ## What the segments say -/

structure Reading where
  /-- Width, height and mode. -/
  frame : Option (Nat × Nat × Mode) := none
  exif : Option Bytes := none
  comment : Option Bytes := none
  icc : Option Bytes := none
  /-- The pieces of a colour profile that no frame has asked for yet. -/
  profilePieces : List Bytes := []
deriving Inhabited

namespace Reading

private def startsWith (s : String) (tail body : Bytes) : Bool :=
  (Bytes.utf8 s ++ tail).isPrefixOf body

/-- The first EXIF segment is kept whole, later ones go on from it. -/
private def exifSegment (r : Reading) (body : Bytes) : Reading :=
  match r.exif with
  | none => { r with exif := some body }
  | some before => { r with exif := some (before ++ body.drop 6) }

/-- The resources in an editor's segment: a tag, two bytes, a name with its length in front,
filled up to an even place, and the data with their length in front. -/
private def editorResources : Nat → Bytes → Nat → Except Failure Unit
  | 0, _, _ => .ok ()
  | fuel + 1, body, start =>
    let rest := body.drop start
    if !startsWith "8BIM" [] rest ∨ rest.length < 6 then .ok ()
    else match rest[6]? with
      | none => malformed "resource without a name"
      | some name =>
        let sized := start + 7 + name.toNat
        let sized := sized + sized % 2
        match Bytes.splitExact? 4 (body.drop sized) with
        | none => .ok ()
        | some (size, _) =>
          let next := sized + 4 + Bytes.bigEndian size
          editorResources fuel body (next + next % 2)

private def application (r : Reading) (marker : Nat) (body : Bytes) : Except Failure Reading :=
  let versioned (r : Reading) : Except Failure Reading :=
    if body.length < 7 then malformed "application segment cut short" else .ok r
  if marker = 0xE0 ∧ startsWith "JFIF" [] body then versioned r
  else if marker = 0xE1 ∧ startsWith "Exif" [0, 0] body then .ok (r.exifSegment body)
  else if marker = 0xE2 ∧ startsWith "ICC_PROFILE" [0] body then
    .ok { r with profilePieces := r.profilePieces ++ [body] }
  else if marker = 0xED ∧ startsWith "Photoshop 3.0" [0] body then do
    editorResources body.length body 14
    return r
  else if marker = 0xEE ∧ startsWith "Adobe" [] body then versioned r
  else .ok r

/-- The pieces in order of their numbers, if the first one tells how many there are. -/
private def withProfile (r : Reading) : Except Failure Reading :=
  match r.profilePieces.mergeSort (fun a b => decide (a ≤ b)) with
  | [] => .ok r
  | pieces@(first :: _) =>
    match first[13]? with
    | none => malformed "profile cut short"
    | some count =>
      .ok { r with
        profilePieces := []
        icc := if count.toNat = pieces.length then some (pieces.flatMap (·.drop 14)) else none }

private def frameHeader (r : Reading) (body : Bytes) : Except Failure Reading :=
  match body with
  | precision :: h₁ :: h₀ :: w₁ :: w₀ :: count :: components =>
    let frame (mode : Mode) : Except Failure Reading :=
      if components.length % 3 ≠ 0 then malformed "component cut short"
      else { r with frame := some (Bytes.bigEndian [w₁, w₀], Bytes.bigEndian [h₁, h₀], mode) }
        |>.withProfile
    if precision ≠ 8 then malformed s!"cannot handle {precision}-bit layers"
    else match count with
      | 1 => frame .gray
      | 3 => frame .rgb
      | 4 => frame .cmyk
      | n => malformed s!"cannot handle {n}-layer images"
  | _ => malformed "frame header cut short"

/-- Whether the tables that a segment defines are whole. -/
private def wholeTables : Nat → Bytes → Bool
  | _, [] => true
  | 0, _ => true
  | fuel + 1, body@(head :: _) =>
    let size := if head < 16 then 65 else 129
    size ≤ body.length && wholeTables fuel (body.drop size)

/-- Takes in one segment; those of other markers are passed over. -/
def absorb (r : Reading) (marker : Nat) (body : Bytes) : Except Failure Reading :=
  if opensFrame marker then r.frameHeader body
  else if marker = 0xDB then
    if wholeTables body.length body then .ok r else malformed "bad quantization table marker"
  else if marker = 0xFE then .ok { r with comment := some body }
  else if 0xE0 ≤ marker ∧ marker ≤ 0xEF then r.application marker body
  else .ok r

end Reading

/-- Reads segments up to the first scan; each takes some bytes of the fuel. -/
def readUpToScan : Nat → Reading → Bytes → Except Failure Reading
  | 0, _, _ => malformed "no scan found"
  | fuel + 1, r, data =>
    match nextMarker? data with
    | none => malformed "no marker found"
    | some (marker, rest) =>
      if marker < 0xC0 then malformed "no marker found"
      else if standsAlone marker.toNat then readUpToScan fuel r rest
      else match segment? rest with
        | none => malformed "segment cut short"
        | some (_, body, rest) => do
          let r ← r.absorb marker.toNat body
          if marker = 0xDA then return r
          readUpToScan fuel r rest

end Jpeg

end Darkroom
