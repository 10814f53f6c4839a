import Darkroom.Container
import Darkroom.Raster.Buffer
import Darkroom.Work
/-!
# The raster codec

Decodes files to buffers of pixels, works on them and writes them. A file that cannot be decoded
is an unknown format, one that would take too much memory is too big, and no other failure of
decoding is reported under a kind of this library's own.
-/

namespace Darkroom

/-- Failures imposed from outside, for as long as they stand. -/
structure Faults where
  loading : Option Failure := none
  judging : Option Failure := none
  flattening : Option Failure := none
deriving Inhabited

namespace Raster

/-! ## Decoding -/

private def malformedFile : Failure :=
  .unknownFormat "Failed to decode image: corrupted or malformed"

private def malformedPixels : Failure :=
  .unknownFormat "Failed to load image: corrupted, truncated, or malformed"

/-- How a failure to open a file is reported. A type at odds is told only from what stands in an
open file, not from a file that does not open. -/
def openingFailure (f : Failure) : Failure :=
  match f.kind with
  | .bomb => .tooBig s!"Decompression bomb detected: {f.message}"
  | _ => malformedFile

/-- How a failure to decode the pixels is reported. -/
def loadingFailure (f : Failure) : Failure :=
  match f.kind with
  | .bomb => .tooBig s!"Decompression bomb detected during load: {f.message}"
  | .memory => .tooBig "Image decompression exceeded memory limit"
  | .system | .badForm | .value | .closed | .endOfData => malformedPixels
  | _ => f

def sniff (data : Bytes) : Except Failure Format :=
  match Format.detect data with
  | .unknown => .error (.unknownFormat "Unable to detect image format from file content")
  | format => .ok format

def decodeHeader (data : Bytes) : Except Failure Header := do
  (← (Container.ofFile data).mapError openingFailure).header

/-- How near to its end a JPEG file must have its end marker. -/
def endMarkerReach : Nat := 10

private def hasEndMarker : Bytes → Bool
  | 0xFF :: 0xD9 :: _ => true
  | _ :: rest => hasEndMarker rest
  | [] => false

/-- Pixels are only taken from files that are there to their end. -/
def decodeFull (faults : Faults) (data : Bytes) : Except Failure Raster := do
  if Format.detect data = .jpeg ∧ !hasEndMarker (data.drop (data.length - endMarkerReach)) then
    .error (.unknownFormat "JPEG image is truncated (missing end marker)")
  let container ← (Container.ofFile data).mapError openingFailure
  let native : Except Failure Raster := do
    if let some f := faults.loading then .error f
    (← container.load).toNative
  native.mapError loadingFailure

end Raster

/-! ## The codec -/

/-- Every buffer made, by number from one, and how files are written. -/
structure Workshop where
  options : WritingOptions
  faults : Faults := {}
  buffers : Array Buffer := #[]
deriving Inhabited

namespace Workshop

/-- A number that stands for no buffer stands for a released one. -/
def buffer (w : Workshop) (b : BufferId) : Buffer :=
  (w.buffers[b - 1]?).getD { raster := { mode := .gray, grid := Grid.fill 0 0 {} }, released := true }

/-- Keeps a raster under the next number. -/
def keep (w : Workshop) : Except Failure Raster → Except Failure BufferId × Workshop
  | .ok r => (.ok (w.buffers.size + 1), { w with buffers := w.buffers.push { raster := r } })
  | .error f => (.error f, w)

def release (w : Workshop) (b : BufferId) : Workshop :=
  { w with buffers := w.buffers.setIfInBounds (b - 1) (w.buffer b).release }

def respond (w : Workshop) : (q : Request) → Except Failure (q.Reply Encoded) × Workshop
  | .sniff data => (Raster.sniff data, w)
  | .decodeHeader data => (Raster.decodeHeader data, w)
  | .decodeFull data => w.keep (Raster.decodeFull w.faults data)
  | .hasTransparency b =>
    (match w.faults.judging with
      | some f => .error f
      | none => (w.buffer b).hasTransparency, w)
  | .transform b t => w.keep ((w.buffer b).transform t)
  | .resize b width height => w.keep ((w.buffer b).resize w.options.filter width height)
  | .crop b box => w.keep ((w.buffer b).crop box)
  | .encode b format => ((w.buffer b).encode w.options format w.faults.flattening, w)
  | .release b => (.ok (), w.release b)

end Workshop

def rasterCodec : Codec Encoded Workshop := ⟨Workshop.respond⟩

end Darkroom
