import Darkroom.Derivation
/-!
# A codec that follows a script

It holds sizes instead of pixels. What it says of an image is fixed beforehand, each method can
be made to fail at a given call, and its buffers are numbered from one in order of creation.
-/

namespace Darkroom

inductive Method
  | sniff
  | decodeHeader
  | decodeFull
  | hasTransparency
  | transform
  | resize
  | crop
  | encode
  | release
deriving DecidableEq, Repr, Inhabited

namespace Method

def name : Method → String
  | sniff => "sniff"
  | decodeHeader => "decode_header"
  | decodeFull => "decode_full"
  | hasTransparency => "has_transparency"
  | transform => "transform"
  | resize => "resize"
  | crop => "crop"
  | encode => "encode"
  | release => "release"

def ofName? (s : String) : Option Method :=
  [sniff, decodeHeader, decodeFull, hasTransparency, transform, resize, crop, encode,
    release].find? (·.name == s)

end Method

def Request.method : Request → Method
  | sniff _ => .sniff
  | decodeHeader _ => .decodeHeader
  | decodeFull _ => .decodeFull
  | hasTransparency _ => .hasTransparency
  | transform _ _ => .transform
  | resize _ _ _ => .resize
  | crop _ _ => .crop
  | encode _ _ => .encode
  | release _ => .release

/-- The `nth` call of a method fails. -/
structure ScriptedFault where
  method : Method
  nth : Nat := 1
  failure : Failure

structure Script where
  header : Header
  sniffed : Format
  transparent : Bool := false
  faults : List ScriptedFault := []
deriving Inhabited

structure ScriptState where
  script : Script
  /-- The methods called so far, the last one first. -/
  called : List Method := []
  /-- The sizes of all buffers made, in order. -/
  sizes : List Dimensions := []
  live : List BufferId := []
deriving Inhabited

namespace ScriptState

/-- The failure the script has for a call of this method, which is yet to be counted. -/
def fault? (s : ScriptState) (m : Method) : Option Failure :=
  let nth := s.called.count m + 1
  (s.script.faults.find? fun f => f.method = m ∧ f.nth = nth).map (·.failure)

def sizeOf (s : ScriptState) (b : BufferId) : Dimensions :=
  (s.sizes[b - 1]?).getD ⟨0, 0⟩

/-- Makes a buffer under the next number. -/
def make (s : ScriptState) (d : Dimensions) : BufferId × ScriptState :=
  let b := s.sizes.length + 1
  (b, { s with sizes := s.sizes ++ [d], live := s.live ++ [b] })

/-- The answer to a request that is not made to fail. -/
def answer (s : ScriptState) : (q : Request) → q.Reply String × ScriptState
  | .sniff _ => (s.script.sniffed, s)
  | .decodeHeader _ => (s.script.header, s)
  | .decodeFull _ => s.make s.script.header.raw
  | .hasTransparency _ => (s.script.transparent, s)
  | .transform b t => s.make ((s.sizeOf b).after t)
  | .resize _ w h => s.make ⟨w, h⟩
  | .crop _ box => s.make box.size
  | .encode b f => (s!"{f.name} {(s.sizeOf b).text} b{b}", s)
  | .release b => ((), { s with live := s.live.erase b })

end ScriptState

/-- A failing call does nothing but count. -/
def scriptedCodec : Codec String ScriptState where
  respond s q :=
    let counted := { s with called := q.method :: s.called }
    match s.fault? q.method with
    | some f => (.error f, counted)
    | none =>
      let (reply, s) := counted.answer q
      (.ok reply, s)

instance : Measured String := ⟨fun s => .int s.length⟩

end Darkroom
