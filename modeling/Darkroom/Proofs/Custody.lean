import Darkroom.Proofs.Deriving
import Mathlib.Data.List.Induction
import Mathlib.Data.Multiset.AddSub
import Mathlib.Data.Multiset.ZeroCons
/-!
# Buffers in use

A buffer is in use from the call that hands it out to the call that takes it back (`live`). Opening an image leaves its
source in use or nothing, and a derivation leaves what was in use before; neither gives back what it does not hold. All
of this is read off the calls, for a codec that takes every release.

`Codec.live_nodup`: a codec that hands out fresh buffers only never has one in use twice.
-/

namespace Darkroom

variable {ω σ : Type}

namespace Call

/-- The buffer a call handed out. -/
def made? : Call ω → Option BufferId
  | ⟨.decodeFull _, .ok b⟩ => some b
  | ⟨.transform _ _, .ok b⟩ => some b
  | ⟨.resize _ _ _, .ok b⟩ => some b
  | ⟨.crop _ _, .ok b⟩ => some b
  | _ => none

/-- The buffer a call took back. A release that fails takes nothing back. -/
def returned? : Call ω → Option BufferId
  | ⟨.release b, .ok _⟩ => some b
  | _ => none

/-- The buffers in use after a call. -/
def settle (held : Multiset BufferId) (call : Call ω) : Multiset BufferId :=
  match call.made? with
  | some b => b ::ₘ held
  | none =>
    match call.returned? with
    | some b => held.erase b
    | none => held

end Call

/-- The buffers that calls handed out, in order. -/
def handedOut (calls : List (Call ω)) : List BufferId := calls.filterMap Call.made?

theorem handedOut_append (calls more : List (Call ω)) : handedOut (calls ++ more) = handedOut calls ++ handedOut more :=
  List.filterMap_append

/-- The buffers in use after calls, where `held` were in use before. -/
def heldAfter (held : Multiset BufferId) (calls : List (Call ω)) : Multiset BufferId := calls.foldl Call.settle held

/-- The buffers that were handed out and not taken back. -/
def live (calls : List (Call ω)) : Multiset BufferId := heldAfter 0 calls

/-- Every release is of a buffer in use, where `held` were in use before. -/
def ReleasesHeld (held : Multiset BufferId) (calls : List (Call ω)) : Prop :=
  ∀ before b reply after, calls = before ++ ⟨.release b, reply⟩ :: after → b ∈ heldAfter held before

/-- Every release is taken. -/
def Untroubled (calls : List (Call ω)) : Prop := ∀ b f, ⟨.release b, .error f⟩ ∉ calls

section Held
variable (held : Multiset BufferId)

@[simp] theorem heldAfter_nil : heldAfter held ([] : List (Call ω)) = held := rfl

@[simp] theorem heldAfter_cons (call : Call ω) (calls : List (Call ω)) :
    heldAfter held (call :: calls) = heldAfter (call.settle held) calls := rfl

@[simp] theorem heldAfter_append (calls more : List (Call ω)) :
    heldAfter held (calls ++ more) = heldAfter (heldAfter held calls) more := List.foldl_append

@[simp] theorem Stage.settle_call_ok (st : Stage) (b b' : BufferId) :
    (st.call b (.ok b') : Call ω).settle held = b' ::ₘ held := by
  cases st <;> rfl

@[simp] theorem Stage.settle_call_error (st : Stage) (b : BufferId) (f : Failure) :
    (st.call b (.error f) : Call ω).settle held = held := by
  cases st <;> rfl

@[simp] theorem releasesHeld_nil : ReleasesHeld held ([] : List (Call ω)) := by
  intro before b reply after h
  simp at h

theorem releasesHeld_cons {call : Call ω} {calls : List (Call ω)} : ReleasesHeld held (call :: calls) ↔
    (∀ b, call.request = .release b → b ∈ held) ∧ ReleasesHeld (call.settle held) calls := by
  constructor
  · intro h
    refine ⟨?_, fun before b reply after hs => h (call :: before) b reply after (by rw [hs]; rfl)⟩
    obtain ⟨q, reply⟩ := call
    rintro b rfl
    exact h [] b reply calls rfl
  · rintro ⟨h, hs⟩ before b reply after hsplit
    cases before with
    | nil => obtain ⟨rfl, -⟩ := List.cons.inj hsplit; exact h b rfl
    | cons _ before => obtain ⟨rfl, hrest⟩ := List.cons.inj hsplit; exact hs before b reply after hrest

theorem releasesHeld_append {calls more : List (Call ω)} : ReleasesHeld held (calls ++ more) ↔
    ReleasesHeld held calls ∧ ReleasesHeld (heldAfter held calls) more := by
  induction calls generalizing held with
  | nil => simp
  | cons call calls ih => rw [List.cons_append, releasesHeld_cons, releasesHeld_cons, ih, and_assoc, heldAfter_cons]
end Held

theorem Untroubled.of_append {calls more : List (Call ω)} (h : Untroubled (calls ++ more)) :
    Untroubled calls ∧ Untroubled more :=
  ⟨fun b f hc => h b f (List.mem_append_left _ hc), fun b f hc => h b f (List.mem_append_right _ hc)⟩

/-! ## Openings -/

/-- The buffer an opening leaves in use. -/
def sourceOf : Except Failure (BufferId × Facts) → Multiset BufferId
  | .ok (b, _) => {b}
  | .error _ => 0

section Custody
variable (held : Multiset BufferId) {calls : List (Call ω)}

theorem Opening.custody {data : Bytes} {limits : Limits} {policy : OutputPolicy}
    {o : Except Failure (BufferId × Facts)} (h : Opening data limits policy calls o) (hq : Untroubled calls) :
    heldAfter held calls = sourceOf o + held ∧ ReleasesHeld held calls := by
  cases h with
  | @unjudged header b f admitted cleanup =>
    -- the only opening that made a buffer and does not keep it
    cases cleanup with
    | error f' => exact absurd (by simp) (hq b f')
    | ok => simp [Call.settle, Call.made?, Call.returned?, sourceOf, releasesHeld_cons, Except.bind]
  | opened admitted => simp [Call.settle, Call.made?, Call.returned?, sourceOf, releasesHeld_cons]
  | _ => simp [Call.settle, Call.made?, Call.returned?, sourceOf, releasesHeld_cons]

/-! ## Derivations -/

theorem Stage.request_ne_release (st : Stage) (b b' : BufferId) (reply : Except Failure BufferId) :
    (st.call b reply : Call ω).request ≠ .release b' := by
  cases st <;> exact Request.noConfusion

theorem Climb.custody {stages b made o} (h : Climb stages b made calls o) :
    heldAfter held calls = ↑made + held ∧ ReleasesHeld held calls := by
  -- on the way up nothing is given back, so the next stage holds one buffer more
  induction h generalizing held with
  | arrived => simp
  | fell => simp [releasesHeld_cons, Stage.request_ne_release]
  | climbed up ih =>
    obtain ⟨hheld, hrel⟩ := ih (_ ::ₘ held)
    rw [releasesHeld_cons, heldAfter_cons, Stage.settle_call_ok]
    refine ⟨?_, fun b hb => (Stage.request_ne_release _ _ _ _ hb).elim, hrel⟩
    rw [hheld, ← Multiset.coe_add, Multiset.coe_singleton, Multiset.add_assoc, Multiset.singleton_add]

theorem release_custody (b : BufferId) (reply : Except Failure Unit)
    (hq : Untroubled [(⟨.release b, reply⟩ : Call ω)]) :
    heldAfter (b ::ₘ held) [(⟨.release b, reply⟩ : Call ω)] = held ∧
      ReleasesHeld (b ::ₘ held) [(⟨.release b, reply⟩ : Call ω)] := by
  cases reply with
  | error f => exact absurd (List.mem_singleton.2 rfl) (hq b f)
  | ok => simp [Call.settle, Call.made?, Call.returned?, releasesHeld_cons]

theorem Clearing.custody {made o} (h : Clearing made calls o) (hq : Untroubled calls) :
    heldAfter (↑made + held) calls = held ∧ ReleasesHeld (↑made + held) calls := by
  induction h with
  | cleared => simp
  | @stuck b rest f => exact absurd (List.mem_singleton.2 rfl) (hq b f)
  | @next b rest calls o down ih =>
    obtain ⟨quiet, quiet'⟩ := Untroubled.of_append (show Untroubled ([⟨.release b, .ok ()⟩] ++ calls) from hq)
    obtain ⟨hheld, hrel⟩ := release_custody (↑rest + held) b (.ok ()) quiet
    obtain ⟨hdown, rdown⟩ := ih quiet'
    rw [← List.singleton_append (l := calls), heldAfter_append, releasesHeld_append, ← Multiset.cons_coe,
      Multiset.cons_add, hheld]
    exact ⟨hdown, hrel, rdown⟩

theorem Deriving.custody {stages source format} {o : Except Failure ω} (h : Deriving stages source format calls o)
    (hq : Untroubled calls) : heldAfter held calls = held ∧ ReleasesHeld held calls := by
  cases h with
  | fell climb clearing =>
    obtain ⟨hup, rup⟩ := climb.custody held
    obtain ⟨hdown, rdown⟩ := clearing.custody held hq.of_append.2
    rw [heldAfter_append, releasesHeld_append, hup]
    exact ⟨hdown, rup, rdown⟩
  | written climb clearing =>
    obtain ⟨hup, rup⟩ := climb.custody held
    obtain ⟨hdown, rdown⟩ := clearing.custody held fun b f hc => hq.of_append.2 b f (List.mem_cons_of_mem _ hc)
    rw [heldAfter_append, releasesHeld_append, hup, heldAfter_cons, releasesHeld_cons]
    exact ⟨hdown, rup, fun b hb => (Request.noConfusion hb), rdown⟩

theorem Carried.custody {plan source format} {o : Except Failure ω} (h : Carried plan source format calls o)
    (hq : Untroubled calls) : heldAfter held calls = held ∧ ReleasesHeld held calls := by
  cases h with
  | senseless => simp
  | carried _ derived => exact derived.custody held hq

end Custody

/-! ## What a codec is trusted with -/

/-- Whatever was asked before, no release fails. -/
def Codec.TakesReleases (c : Codec ω σ) (s : σ) : Prop :=
  ∀ (qs : List Request) (b : BufferId), (c.respond (c.serve s qs).2 (.release b)).1 = .ok ()

/-- Whatever was asked before, a buffer that is handed out is not in use. -/
def Codec.HandsOutFresh (c : Codec ω σ) (s : σ) : Prop :=
  ∀ (qs : List Request) (q : Request) (b : BufferId),
    Call.made? ⟨q, (c.respond (c.serve s qs).2 q).1⟩ = some b → b ∉ live (c.serve s qs).1

namespace Codec
variable {c : Codec ω σ} {s : σ}

theorem serve_concat (c : Codec ω σ) (s : σ) (qs : List Request) (q : Request) : c.serve s (qs ++ [q]) =
    ((c.serve s qs).1 ++ [⟨q, (c.respond (c.serve s qs).2 q).1⟩], (c.respond (c.serve s qs).2 q).2) :=
  c.serve_append s qs [q]

theorem TakesReleases.untroubled (h : c.TakesReleases s) (qs : List Request) : Untroubled (c.serve s qs).1 := by
  induction qs using List.reverseRecOn with
  | nil => simp [Untroubled, serve]
  | append_singleton qs q ih =>
    intro b f hc
    rw [serve_concat] at hc
    rcases List.mem_append.1 hc with hc | hc
    · exact ih b f hc
    · obtain ⟨rfl, hr⟩ := Call.mk.inj (List.mem_singleton.1 hc)
      rw [h] at hr
      cases hr

theorem TakesReleases.untroubled_run {α : Type} (h : c.TakesReleases s) (w : Work ω α) :
    Untroubled (w.run c s).calls := by
  have untroubled := h.untroubled ((w.run c s).calls.map (·.request))
  rwa [Work.run_serve] at untroubled

theorem TakesReleases.run {α : Type} (h : c.TakesReleases s) (w : Work ω α) : c.TakesReleases (w.run c s).state := by
  intro qs b
  have taken := h ((w.run c s).calls.map (·.request) ++ qs) b
  rwa [serve_append, Work.run_serve] at taken

/-- No buffer is in use twice. -/
theorem HandsOutFresh.live_nodup (h : c.HandsOutFresh s) (qs : List Request) : (live (c.serve s qs).1).Nodup := by
  induction qs using List.reverseRecOn with
  | nil => exact Multiset.nodup_zero
  | append_singleton qs q ih =>
    have fresh := h qs q
    rw [serve_concat, live, heldAfter_append, heldAfter_cons, heldAfter_nil, ← live]
    unfold Call.settle
    split
    · exact Multiset.nodup_cons.2 ⟨fresh _ ‹_›, ih⟩
    split
    · exact ih.erase _
    · exact ih

end Codec

end Darkroom
