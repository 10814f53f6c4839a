import Darkroom.Bytes
/-!
# Container formats

A file's format is read off its leading bytes (`Format.detect`), and the format a derived
image is written in follows from the source's format and whether anything shows through it
(`OutputPolicy.choose`).
-/

namespace Darkroom

inductive Format
  | jpeg
  | png
  | gif
  | unknown
deriving DecidableEq, Repr, Inhabited

namespace Format

def name : Format → String
  | jpeg => "JPEG"
  | png => "PNG"
  | gif => "GIF"
  | unknown => "UNKNOWN"

def ofName? (s : String) : Option Format :=
  [jpeg, png, gif, unknown].find? (·.name == s)

/-- The leading bytes each format is known by. -/
def signatures : List (Bytes × Format) :=
  [([0xFF, 0xD8, 0xFF], jpeg),
   ([0x89, 0x50, 0x4E, 0x47, 0x0D, 0x0A, 0x1A, 0x0A], png),
   ([0x47, 0x49, 0x46, 0x38, 0x37, 0x61], gif),
   ([0x47, 0x49, 0x46, 0x38, 0x39, 0x61], gif)]

def detect (data : Bytes) : Format :=
  match signatures.find? (·.1.isPrefixOf data) with
  | some (_, format) => format
  | none => unknown

def mediaType : Format → String
  | jpeg => "image/jpeg"
  | png => "image/png"
  | gif => "image/gif"
  | unknown => "application/octet-stream"

end Format

/-- Decides once per image which format everything derived from it is written in. -/
structure OutputPolicy where
  /-- An opaque PNG is written as JPEG, which is smaller for photographs. -/
  lossyOpaquePng : Bool := true
deriving DecidableEq, Repr

/-- JPEG stays JPEG, anything with transparency becomes PNG, an opaque GIF becomes PNG since
palette artwork survives lossless writing better, and an opaque PNG goes by the policy. -/
def OutputPolicy.choose (p : OutputPolicy) : Format → Bool → Format
  | .jpeg, _ => .jpeg
  | _, true => .png
  | .png, false => if p.lossyOpaquePng then .jpeg else .png
  | _, false => .png

end Darkroom
