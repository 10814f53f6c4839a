import Darkroom.Admission
/-!
# Work for a codec

Everything done with an image is `Work`: a tree of requests to a codec, each followed by what is
done with the reply, with remarks for the log in between. `Work.run` lets a `Codec` answer and
gives the outcome, the codec's state, the calls made and the journal, in order.
-/

namespace Darkroom

/-- A buffer belongs to the codec that made it and is known by number. -/
abbrev BufferId := Nat

/-- What can be asked of a codec. Whoever gets a buffer releases it. -/
inductive Request
  | sniff (data : Bytes)
  | decodeHeader (data : Bytes)
  | decodeFull (data : Bytes)
  | hasTransparency (buffer : BufferId)
  | transform (buffer : BufferId) (t : Transform)
  | resize (buffer : BufferId) (width height : Int)
  | crop (buffer : BufferId) (box : CropBox)
  | encode (buffer : BufferId) (format : Format)
  | release (buffer : BufferId)
deriving DecidableEq, Repr

/-- The answer each request expects; `ω` is what an encoded image is. -/
abbrev Request.Reply (ω : Type) : Request → Type
  | sniff _ => Format
  | decodeHeader _ => Header
  | decodeFull _ => BufferId
  | hasTransparency _ => Bool
  | transform _ _ => BufferId
  | resize _ _ _ => BufferId
  | crop _ _ => BufferId
  | encode _ _ => ω
  | release _ => Unit

inductive Work (ω α : Type) : Type
  | done (a : α)
  | fail (f : Failure)
  | note (r : Log.Record) (rest : Work ω α)
  | ask (q : Request) (next : Except Failure (q.Reply ω) → Work ω α)

namespace Work

variable {ω α β : Type}

def bind : Work ω α → (α → Work ω β) → Work ω β
  | done a, f => f a
  | fail e, _ => fail e
  | note r w, f => note r (w.bind f)
  | ask q next, f => ask q fun reply => (next reply).bind f

instance : Monad (Work ω) where
  pure := done
  bind := bind

def ofExcept : Except Failure α → Work ω α
  | .ok a => done a
  | .error f => fail f

/-- One request, whose failure is the work's failure. -/
def request (q : Request) : Work ω (q.Reply ω) := ask q ofExcept

def noteAll : List Log.Record → Work ω Unit
  | [] => done ()
  | r :: rest => note r (noteAll rest)

/-- The outcome as a value, so that work can go on after a failure. -/
def attempt : Work ω α → Work ω (Except Failure α)
  | done a => done (.ok a)
  | fail f => done (.error f)
  | note r w => note r w.attempt
  | ask q next => ask q fun reply => (next reply).attempt

/-- The cleanup follows on every outcome; if it fails, its failure is what remains. -/
def ensure (w : Work ω α) (cleanup : Work ω Unit) : Work ω α := do
  let outcome ← w.attempt
  cleanup
  ofExcept outcome

/-- The cleanup follows only a failure. Failures are ordinary exceptions: an exit or an interrupt of
the whole program is none, and would pass here without the cleanup. -/
def onFailure (w : Work ω α) (cleanup : Work ω Unit) : Work ω α := do
  match ← w.attempt with
  | .ok a => done a
  | .error f => do
    cleanup
    fail f

end Work

/-! ## Codecs -/

/-- A codec answers a request from its state. -/
structure Codec (ω σ : Type) where
  respond : σ → (q : Request) → Except Failure (q.Reply ω) × σ

/-- A request together with the answer it got. -/
structure Call (ω : Type) where
  request : Request
  reply : Except Failure (request.Reply ω)

/-- What is left when work has been done. -/
structure Run (ω σ α : Type) where
  outcome : Except Failure α
  state : σ
  calls : List (Call ω)
  journal : List Log.Record

def Work.run {ω σ α : Type} (c : Codec ω σ) : Work ω α → σ → Run ω σ α
  | done a, s => ⟨.ok a, s, [], []⟩
  | fail f, s => ⟨.error f, s, [], []⟩
  | note r w, s =>
    let later := w.run c s
    { later with journal := r :: later.journal }
  | ask q next, s =>
    let (reply, s) := c.respond s q
    let later := (next reply).run c s
    { later with calls := ⟨q, reply⟩ :: later.calls }

end Darkroom
