import Darkroom.Compression.Inflate
import Darkroom.Failure
import Darkroom.Png.Layout
import Darkroom.Text.Utf8
/-!
# Chunks of a PNG file

A PNG file is a run of named chunks. `Reading` holds what the chunks read so far have said;
`Reading.absorb` takes in one more.
-/

namespace Darkroom

namespace Png

/-- An EXIF block, or a text that stands under its name. -/
inductive ExifField
  | block (b : Bytes)
  | text (s : String)
deriving DecidableEq, Repr

def ExifField.bytes : ExifField → Bytes
  | block b => b
  | text s => Bytes.utf8 s

structure Reading where
  width : Nat := 0
  height : Nat := 0
  layout : Option Layout := none
  interlaced : Bool := false
  palette : Option Bytes := none
  exif : Option ExifField := none
  info : ImageInfo := {}
  /-- The number of frames, if the file is animated. -/
  frames : Option Nat := none
  /-- The number of the last animation chunk. -/
  sequence : Option Nat := none
  /-- Left, upper, right and lower edge of the frame at hand. -/
  frame : Option (Nat × Nat × Nat × Nat) := none
deriving Inhabited

/-- The longest text that is unpacked. -/
def textLimit : Nat := 1048576

private def malformed (message : String) : Failure := ⟨.badForm, message⟩

private def short (message : String) : Failure := .value message

/-- A number of `size` bytes at a place. -/
private def number (size : Nat) (body : Bytes) (at_ : Nat) : Except Failure Nat :=
  match Bytes.splitExact? size (body.drop at_) with
  | some (bs, _) => .ok (Bytes.bigEndian bs)
  | none => .error ⟨.packing, "number cut short"⟩

/-- The part before the first zero byte and the part behind it. -/
private def splitAtZero? (b : Bytes) : Option (Bytes × Bytes) :=
  match b.dropWhile (· != 0) with
  | [] => none
  | _ :: rest => some (b.takeWhile (· != 0), rest)

/-- Unpacked text; nothing if it is corrupt. -/
private def unpacked? (b : Bytes) : Except Failure (Option Bytes) :=
  let r := inflate textLimit b
  match r.ending with
  | .full => .error (short "Decompressed data too large")
  | .corrupt => .ok none
  | _ => .ok (some r.output.toList)

namespace Reading

/-- A text under a key; four keys mean something beyond the text itself. -/
private def withText (r : Reading) (key value : String) : Reading :=
  match key with
  | "exif" => { r with exif := some (.text value) }
  | "comment" => { r with info := { r.info with comment := some (Bytes.utf8 value) } }
  | "transparency" => { r with info := { r.info with transparency := some (.text value) } }
  | "icc_profile" => { r with info := { r.info with icc := some (Bytes.utf8 value) } }
  | _ => r

private def header (r : Reading) (body : Bytes) : Except Failure Reading :=
  if body.length < 13 then .error (short "Truncated IHDR chunk")
  else if body.getD 11 0 ≠ 0 then .error (malformed "unknown filter category")
  else .ok { r with
    width := Bytes.bigEndian (body.take 4)
    height := Bytes.bigEndian ((body.drop 4).take 4)
    layout := (Layout.ofHeader? (body.getD 8 0) (body.getD 9 0)).or r.layout
    interlaced := r.interlaced || body.getD 12 0 != 0 }

private def transparency (r : Reading) (body : Bytes) : Except Failure Reading := do
  let put (t : Transparency) : Reading := { r with info := { r.info with transparency := some t } }
  match r.layout.map Layout.mode with
  | some .palette => return put (.ofAlphas body)
  | some .bilevel | some .gray | some .gray16 => return put (.single (← number 2 body 0))
  | some .rgb =>
    return put (.color (← number 2 body 0) (← number 2 body 2) (← number 2 body 4))
  | _ => return r

/-- The byte behind the profile's name says how it is packed; a name without end is no name. -/
private def profile (r : Reading) (body : Bytes) : Except Failure Reading := do
  let rest := match splitAtZero? body with
    | some (_, rest) => rest
    | none => body
  match rest with
  | [] => .error ⟨.index, "index out of range"⟩
  | method :: packed =>
    if method ≠ 0 then .error (malformed "Unknown compression method in iCCP chunk")
    return { r with info := { r.info with icc := ← unpacked? packed } }

private def plainText (r : Reading) (body : Bytes) : Reading :=
  let (key, value) := (splitAtZero? body).getD (body, [])
  if key.isEmpty then r
  else if (Bytes.latin1 key) = "exif" then { r with exif := some (.block value) }
  else r.withText (Bytes.latin1 key) (Bytes.latin1 value)

private def packedText (r : Reading) (body : Bytes) : Except Failure Reading := do
  let (key, value) := (splitAtZero? body).getD (body, [])
  if value.headD 0 ≠ 0 then .error (malformed "Unknown compression method in zTXt chunk")
  let text := (← unpacked? (value.drop 1)).getD []
  return if key.isEmpty then r else r.withText (Bytes.latin1 key) (Bytes.latin1 text)

private def languageText (r : Reading) (body : Bytes) : Except Failure Reading := do
  match splitAtZero? body with
  | some (key, packedFlag :: method :: rest) =>
    match (splitAtZero? rest).bind fun (language, rest) =>
        (splitAtZero? rest).map fun (keyword, value) => (language, keyword, value) with
    | none => return r
    | some (language, keyword, value) =>
      let value? : Option Bytes ←
        if packedFlag = 0 then pure (some value)
        else if method = 0 then unpacked? value
        else pure none
      match Bytes.utf8? language, Bytes.utf8? keyword, value?.bind Bytes.utf8? with
      | some _, some _, some text => return r.withText (Bytes.latin1 key) text
      | _, _, _ => return r
  | _ => return r

private def animation (r : Reading) (body : Bytes) : Except Failure Reading := do
  if body.length < 8 then .error (short "APNG contains truncated acTL chunk")
  if r.frames.isSome then return { r with frames := none }
  let count ← number 4 body 0
  if count = 0 ∨ 0x80000000 < count then return r
  return { r with frames := some count }

/-- The numbers of animation chunks follow one another from zero. -/
def inSequence (r : Reading) (n : Nat) : Bool :=
  match r.sequence with
  | none => n == 0
  | some last => n == last + 1

private def frameControl (r : Reading) (body : Bytes) : Except Failure Reading := do
  if body.length < 26 then .error (short "APNG contains truncated fcTL chunk")
  let n ← number 4 body 0
  if !r.inSequence n then .error (malformed "APNG contains frame sequence errors")
  let width ← number 4 body 4
  let height ← number 4 body 8
  let left ← number 4 body 12
  let upper ← number 4 body 16
  if r.width < left + width ∨ r.height < upper + height then
    .error (malformed "APNG contains invalid frames")
  return { r with sequence := some n, frame := some (left, upper, left + width, upper + height) }

/-- The sequence number that opens a chunk of frame data. -/
def frameData (r : Reading) (n : Nat) : Except Failure Reading :=
  match r.sequence with
  | some last =>
    if n = last + 1 then .ok { r with sequence := some n }
    else .error (malformed "APNG contains frame sequence errors")
  | none => .error (malformed "APNG contains frame sequence errors")

/-- Takes in one chunk; chunks of other names are passed over. -/
def absorb (r : Reading) (name : String) (body : Bytes) : Except Failure Reading :=
  match name with
  | "IHDR" => r.header body
  | "PLTE" =>
    if r.layout.map Layout.mode = some .palette then .ok { r with palette := some body } else .ok r
  | "tRNS" => r.transparency body
  | "iCCP" => r.profile body
  | "tEXt" => .ok (r.plainText body)
  | "zTXt" => r.packedText body
  | "iTXt" => r.languageText body
  | "eXIf" => .ok { r with exif := some (.block ([0x45, 0x78, 0x69, 0x66, 0, 0] ++ body)) }
  | "gAMA" => do
    let _ ← number 4 body 0
    return r
  | "cHRM" =>
    if body.length % 4 = 0 then .ok r else .error ⟨.packing, "chromaticities cut short"⟩
  | "sRGB" => if body.length < 1 then .error (short "Truncated sRGB chunk") else .ok r
  | "pHYs" => if body.length < 9 then .error (short "Truncated pHYs chunk") else .ok r
  | "acTL" => r.animation body
  | "fcTL" => r.frameControl body
  | _ => .ok r

end Reading

/-! ## Walking over chunks -/

/-- A chunk's name, its length, and what follows its head. -/
def nextHead? (data : Bytes) : Option (String × Nat × Bytes) := do
  let (length, rest) ← Bytes.splitExact? 4 data
  let (name, rest) ← Bytes.splitExact? 4 rest
  let isNameByte (b : UInt8) : Bool :=
    let c := Char.ofNat b.toNat
    b < 128 && (c.isAlphanum || c = '_')
  if name.all isNameByte then some ((Bytes.latin1 name), Bytes.bigEndian length, rest) else none

/-- The whole body of a chunk and what follows it. -/
def wholeBody (length : Nat) (data : Bytes) : Except Failure (Bytes × Bytes) :=
  match Bytes.splitExact? length data with
  | some r => .ok r
  | none => .error ⟨.system, "Truncated File Read"⟩

end Png

end Darkroom
