import Darkroom.Proofs.Custody
/-!
# What the scripted codec can be trusted with

A script is never changed by what is asked, so a codec whose script has no fault for releases takes all of them, and one
without any fault never fails. Its buffers are numbered in order of creation and none gets a number above their count,
so the next number is always fresh.
-/

namespace Darkroom

namespace ScriptState
variable (s : ScriptState)

theorem script_answer (q : Request) : (s.answer q).2.script = s.script := by cases q <;> rfl

theorem fault?_eq_none {m : Method} (h : ∀ f ∈ s.script.faults, f.method ≠ m) : s.fault? m = none := by
  unfold fault?
  dsimp only
  rw [List.find?_eq_none.2, Option.map_none]
  intro f hf hm
  simp only [decide_eq_true_eq] at hm
  exact h f hf hm.1

end ScriptState

section
variable (s : ScriptState)

theorem script_respond (q : Request) : (scriptedCodec.respond s q).2.script = s.script := by
  unfold scriptedCodec
  dsimp only
  split
  · rfl
  · exact ScriptState.script_answer ..

theorem script_serve (qs : List Request) : (scriptedCodec.serve s qs).2.script = s.script := by
  induction qs generalizing s with
  | nil => rfl
  | cons q qs ih => exact (ih _).trans (script_respond s q)

theorem respond_eq_ok {q : Request} (h : ∀ f ∈ s.script.faults, f.method ≠ q.method) :
    ∃ r, (scriptedCodec.respond s q).1 = .ok r := by
  unfold scriptedCodec
  simp only [s.fault?_eq_none h]
  exact ⟨_, rfl⟩

/-- A buffer that is handed out gets the next number, and there are as many numbers as sizes. -/
theorem made?_respond (q : Request) (b : BufferId) (h : Call.made? ⟨q, (scriptedCodec.respond s q).1⟩ = some b) :
    b = s.sizes.length + 1 ∧ (scriptedCodec.respond s q).2.sizes.length = s.sizes.length + 1 := by
  unfold scriptedCodec at h ⊢
  dsimp only at h ⊢
  cases hf : s.fault? q.method with
  | some f => rw [hf] at h; cases q <;> cases h
  | none =>
    rw [hf] at h
    cases q <;> cases h <;> simp [ScriptState.answer, ScriptState.make]

theorem sizes_respond_le (q : Request) : s.sizes.length ≤ (scriptedCodec.respond s q).2.sizes.length := by
  unfold scriptedCodec
  dsimp only
  cases s.fault? q.method with
  | some f => exact Nat.le_refl _
  | none => cases q <;> simp [ScriptState.answer, ScriptState.make]

theorem takesReleases_of_script (h : ∀ f ∈ s.script.faults, f.method ≠ .release) : scriptedCodec.TakesReleases s := by
  intro qs b
  obtain ⟨⟨⟩, hr⟩ := respond_eq_ok (scriptedCodec.serve s qs).2 (q := .release b) (by rw [script_serve]; exact h)
  exact hr

end

variable (script : Script)

theorem scriptedCodec_takesReleases (h : ∀ f ∈ script.faults, f.method ≠ .release) :
    scriptedCodec.TakesReleases { script } := takesReleases_of_script { script } h

theorem live_serve_le (qs : List Request) : ∀ b ∈ live (scriptedCodec.serve { script } qs).1,
    b ≤ (scriptedCodec.serve { script } qs).2.sizes.length := by
  induction qs using List.reverseRecOn with
  | nil => intro b hb; exact absurd hb (Multiset.notMem_zero b)
  | append_singleton qs q ih =>
    intro b hb
    have grown := sizes_respond_le (scriptedCodec.serve { script } qs).2 q
    rw [Codec.serve_concat, live, heldAfter_append, heldAfter_cons, heldAfter_nil, ← live] at hb
    rw [Codec.serve_concat]
    unfold Call.settle at hb
    split at hb
    · next b' made =>
      obtain ⟨rfl, hsizes⟩ := made?_respond _ q b' made
      rcases Multiset.mem_cons.1 hb with rfl | hb
      · exact hsizes.ge
      · exact (ih b hb).trans grown
    split at hb
    · exact (ih b (Multiset.mem_of_mem_erase hb)).trans grown
    · exact (ih b hb).trans grown

theorem scriptedCodec_handsOutFresh : scriptedCodec.HandsOutFresh { script } := by
  intro qs q b made hb
  have known := live_serve_le script qs b hb
  obtain ⟨rfl, -⟩ := made?_respond _ q b made
  exact Nat.not_succ_le_self _ known

end Darkroom
