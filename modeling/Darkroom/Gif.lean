import Darkroom.Bomb
import Darkroom.Compression.Lzw
import Darkroom.Power
import Darkroom.Raster.Basic
/-!
# GIF images

The first image of a GIF file. Extensions before it may make a palette entry transparent and
carry comments; an image larger than the screen makes the screen grow.
-/

namespace Darkroom

namespace Gif

structure OpenGif where
  width : Nat
  height : Nat
  /-- None for images whose indices are gray values. -/
  palette : Option Bytes
  transparent : Option UInt8
  comment : Bytes
  /-- Left, upper, right and lower edge of the image on the screen. -/
  frame : Nat × Nat × Nat × Nat
  interlaced : Bool
  codeBits : Nat
  data : Bytes

private def malformed (message : String) : Except Failure α := .error ⟨.badForm, message⟩

/-! ## Opening -/

/-- A palette in which every entry is the gray of its own number says nothing. -/
def isGrayRamp (palette : Bytes) : Bool :=
  (List.range (palette.length / 3)).all fun i =>
    [0, 1, 2].all fun c => (palette.getD (3 * i + c) 0).toNat == i

/-- A block of the size told by its first byte, or nothing at an empty one. -/
private def block (data : Bytes) : Option Bytes × Bytes :=
  match data with
  | [] => (none, [])
  | 0 :: rest => (none, rest)
  | n :: rest => (some (rest.take n.toNat), rest.drop n.toNat)

/-- The blocks up to an empty one, joined, after those in hand. -/
private def blocks : Nat → Bytes → Bytes → Bytes × Bytes
  | 0, acc, data => (acc, data)
  | fuel + 1, acc, data =>
    match block data with
    | (none, rest) => (acc, rest)
    | (some b, rest) => if b.isEmpty then (acc, rest) else blocks fuel (acc ++ b) rest

private structure Preamble where
  transparent : Option UInt8 := none
  comment : Option Bytes := none

private def graphicControl (p : Preamble) (b : Bytes) : Except Failure Preamble :=
  if b.length < 3 then malformed "control extension cut short"
  else if b.headD 0 % 2 = 0 then .ok p
  else match b[3]? with
    | some index => .ok { p with transparent := some index }
    | none => malformed "control extension cut short"

private def extension (p : Preamble) (label : UInt8) (data : Bytes) :
    Except Failure (Preamble × Bytes) := do
  let (first, rest) := block data
  match label.toNat, first with
  | 254, none => return ({ p with comment := some ((p.comment.map (· ++ [10])).getD []) }, rest)
  | 254, some b =>
    let (text, rest) := blocks rest.length b rest
    let comment := match p.comment with
      | some before => before ++ [10] ++ text
      | none => text
    return ({ p with comment := some comment }, rest)
  | 249, some b => return (← graphicControl p b, (blocks rest.length [] rest).2)
  | 255, some b =>
    let announced : Bytes := [0x4E, 0x45, 0x54, 0x53, 0x43, 0x41, 0x50, 0x45, 0x32, 0x2E, 0x30]
    let rest := if announced.isPrefixOf b then (block rest).2 else rest
    return (p, (blocks rest.length [] rest).2)
  | _, _ => return (p, (blocks rest.length [] rest).2)

/-- The preamble's findings and what follows the mark of the first image. -/
private def findImage : Nat → Preamble → Bytes → Except Failure (Preamble × Bytes)
  | 0, _, _ => malformed "image not found"
  | fuel + 1, p, data =>
    match data with
    | [] | 0x3B :: _ => malformed "image not found"
    | 0x21 :: label :: rest => do
      let (p, rest) ← extension p label rest
      findImage fuel p rest
    | 0x2C :: rest => .ok (p, rest)
    | _ :: rest => findImage fuel p rest

private def word (b : Bytes) (at_ : Nat) : Nat := Bytes.littleEndian ((b.drop at_).take 2)

/-- A palette that is wanted, if the flags announce one, and what follows it. -/
private def paletteAfter (flags : Nat) (data : Bytes) : Option Bytes × Bytes :=
  if flags < 128 then (none, data)
  else
    let size := 3 * twoPow (flags % 8 + 1)
    (some (data.take size), data.drop size)

private def ifWanted (palette : Bytes) : Option Bytes :=
  if isGrayRamp palette then none else some palette

/-- The first image of a file with a GIF signature. -/
def openFile (file : Bytes) : Except Failure OpenGif := do
  let some (screen, rest) := Bytes.splitExact? 13 file | malformed "screen cut short"
  let (globalPalette, rest) := paletteAfter (screen.getD 10 0).toNat rest
  let (preamble, rest) ← findImage rest.length {} rest
  let some (frame, rest) := Bytes.splitExact? 9 rest | malformed "image cut short"
  let (left, upper) := (word frame 0, word frame 2)
  let (right, lower) := (left + word frame 4, upper + word frame 6)
  let width := max (word screen 6) right
  let height := max (word screen 8) lower
  refuseBomb width height
  let flags := (frame.getD 8 0).toNat
  let (localPalette, rest) := paletteAfter flags rest
  match rest with
  | [] => malformed "image cut short"
  | codeBits :: data =>
    if width = 0 ∨ height = 0 then malformed "not identified"
    return {
      width, height, data
      palette := match localPalette with
        | some p => ifWanted p
        | none => globalPalette.bind ifWanted
      transparent := preamble.transparent
      comment := preamble.comment.getD []
      frame := (left, upper, right, lower)
      interlaced := flags / 64 % 2 = 1
      codeBits := codeBits.toNat }

/-! ## Loading -/

/-- The rows of an image in the order they are told. -/
def rowOrder (interlaced : Bool) (height : Nat) : List Nat :=
  if interlaced then
    [(0, 8), (4, 8), (2, 4), (1, 2)].flatMap fun (start, step) =>
      (List.range ((height - start + step - 1) / step)).map fun i => start + i * step
  else List.range height

private def paletteColors (bytes : Bytes) : Array (UInt8 × UInt8 × UInt8) :=
  ((List.range (bytes.length / 3)).map fun i =>
    (bytes.getD (3 * i) 0, bytes.getD (3 * i + 1) 0, bytes.getD (3 * i + 2) 0)).toArray

/-- The screen with the image on it; around the image it is transparent, or zero. -/
def OpenGif.load (g : OpenGif) : Except Failure Raster := do
  let (left, upper, right, lower) := g.frame
  let (left, upper, width, height) :=
    if left = 0 ∧ right = 0 then (0, 0, g.width, g.height)
    else (left, upper, right - left, lower - upper)
  if width = 0 ∨ height = 0 then .error (.value "tile cannot extend outside image")
  match Lzw.expand g.codeBits (width * height) g.data with
  | none => .error ⟨.system, "broken data stream when reading image file"⟩
  | some values =>
    let blank : Array Pixel := Array.replicate (g.width * g.height) { a := g.transparent.getD 0 }
    let cells := (rowOrder g.interlaced height).zipIdx.foldl (fun cells (y, told) =>
      (List.range width).foldl (fun (cells : Array Pixel) x =>
        cells.setIfInBounds ((upper + y) * g.width + left + x)
          { a := values.getD (told * width + x) 0 }) cells) blank
    return {
      mode := if g.palette.isSome then .palette else .gray
      grid := Grid.ofFn g.width g.height fun x y => cells.getD (y.val * g.width + x.val) {}
      palette := paletteColors (g.palette.getD [])
      info := {
        transparency := g.transparent.map fun n => .single n.toNat
        comment := if g.comment.isEmpty then none else some g.comment } }

end Gif

end Darkroom
