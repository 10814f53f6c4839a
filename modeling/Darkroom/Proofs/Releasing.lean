import Darkroom.Proofs.Faults
import Darkroom.Proofs.Lifecycle
/-!
# Releases that fail

A derivation gives back the buffers it made, the last one first, and a release that fails is the last thing it does: the
buffers made before that one are not passed to release (`Clearing.refused`, `Deriving.unwound`). So they are all released
if none of the releases fails, or only that of the buffer made first, and not otherwise (`intermediates_released`).
-/

namespace Darkroom

variable {ω σ : Type}

/-! ## Giving back -/

section
variable {made back rest : List BufferId} {b : BufferId} {calls : List (Call ω)}

/-- Giving back ends with the first release that fails. -/
theorem Clearing.refused {o : Except Failure Unit} {f : Failure} (h : Clearing made calls o)
    (hc : ⟨.release b, .error f⟩ ∈ calls) : ∃ back rest, made = back ++ b :: rest ∧
      calls = givesBack back ++ [⟨.release b, .error f⟩] ∧ o = .error f := by
  induction h with
  | cleared => cases hc
  | @stuck b rest f => cases List.mem_singleton.1 hc; exact ⟨[], rest, rfl, rfl, rfl⟩
  | @next b' rest calls o down ih =>
    rcases List.mem_cons.1 hc with hc | hc
    · cases hc
    · obtain ⟨back, rest', rfl, rfl, rfl⟩ := ih hc
      exact ⟨b' :: back, rest', rfl, rfl, rfl⟩

@[simp] theorem released_givesBack (made : List BufferId) : released (givesBack made : List (Call ω)) = made := by
  rw [released, givesBack, List.filterMap_map]
  exact List.filterMap_some

theorem release_not_mem (h : released calls = []) (b : BufferId) (reply : Except Failure Unit) :
    (⟨.release b, reply⟩ : Call ω) ∉ calls := by
  intro hc
  cases List.filterMap_eq_nil_iff.1 h _ hc

variable (once : (back ++ b :: rest).Nodup)
include once

/-- Up to `b`, everything is counted once, and what comes behind it is not. -/
theorem count_up_to_iff : (∀ x ∈ back ++ b :: rest, (back ++ [b]).count x = 1) ↔ rest = [] := by
  constructor
  · intro all
    cases rest with
    | nil => rfl
    | cons x rest =>
      obtain ⟨-, later, apart⟩ := List.nodup_append.1 once
      obtain ⟨notIn, -⟩ := List.nodup_cons.1 later
      have again : x ∈ back ++ [b] := List.count_pos_iff.1 (all x (by simp) ▸ Nat.one_pos)
      rcases List.mem_append.1 again with hx | hx
      · exact absurd rfl (apart x hx x (by simp))
      · rw [List.mem_singleton.1 hx] at notIn
        exact absurd List.mem_cons_self notIn
  · rintro rfl x hx
    exact List.count_eq_one_of_mem once hx

theorem getLast?_eq_iff : (back ++ b :: rest).getLast? = some b ↔ rest = [] := by
  constructor
  · intro last
    cases rest with
    | nil => rfl
    | cons x rest =>
      rw [List.getLast?_append_cons, List.getLast?_cons_cons] at last
      have notIn := (List.nodup_cons.1 (List.nodup_append.1 once).2.1).1
      exact absurd (List.mem_of_getLast? last) notIn
  · rintro rfl
    exact List.getLast?_concat ..

end

/-! ## Derivations -/

/-- Every buffer handed out was passed to release once, and not again. -/
def AllReleased (calls : List (Call ω)) : Prop := ∀ b ∈ handedOut calls, (released calls).count b = 1

instance (calls : List (Call ω)) : Decidable (AllReleased calls) :=
  inferInstanceAs (Decidable (∀ b ∈ handedOut calls, (released calls).count b = 1))

/-- How a derivation leaves the buffers it made. -/
structure Unwound (calls : List (Call ω)) (o : Except Failure ω) : Prop where
  backwards : released calls <+: (handedOut calls).reverse
  at_most_once : ∀ b, (released calls).count b ≤ 1
  /-- A release that fails is the last call, and its failure is what remains. -/
  stops : ∀ b f, ⟨.release b, .error f⟩ ∈ calls → calls.getLast? = some ⟨.release b, .error f⟩ ∧ o = .error f
  /-- The only release that can fail and leave nothing behind is the last one, that of the buffer made first. -/
  all_released_iff : AllReleased calls ↔
    ∀ b f, ⟨.release b, .error f⟩ ∈ calls → (handedOut calls).head? = some b

section
variable {stages : List Stage} {source : BufferId} {format : Format} {calls before : List (Call ω)}
  {o : Except Failure ω} {c : Codec ω σ} {s : σ}

/-- A derivation hands out its buffers first and gives them back behind. -/
theorem Deriving.parts (h : Deriving stages source format calls o) : ∃ made ahead down cleared reply,
    calls = ahead ++ down ∧ Clearing made down cleared ∧ o = cleared.bind (fun _ => reply) ∧
    handedOut ahead = made.reverse ∧ released ahead = [] := by
  cases h with
  | fell climb clearing =>
    exact ⟨_, _, _, _, _, rfl, clearing, rfl, climb.handedOut_eq.1, climb.released_eq⟩
  | @written made up down last reply cleared climb clearing =>
    have written : up ++ ⟨.encode last format, reply⟩ :: down = (up ++ [⟨.encode last format, reply⟩]) ++ down := by
      rw [List.append_assoc]
      rfl
    refine ⟨made, _, down, cleared, reply, written, clearing, rfl, ?_, ?_⟩
    · rw [handedOut_append, climb.handedOut_eq.1]
      exact List.append_nil _
    · rw [released_append, climb.released_eq]
      rfl

/-- No buffer is made twice on a codec that hands out fresh ones. -/
theorem Deriving.handedOut_nodup (h : Deriving stages source format calls o) (fresh : c.HandsOutFresh s)
    (served : (c.serve s ((before ++ calls).map (·.request))).1 = before ++ calls) : (handedOut calls).Nodup := by
  -- at the top of its climb, all that a derivation made is in use
  have climbed : ∀ {made up down o'}, calls = up ++ down → Climb stages source made up o' →
      handedOut down = [] → (handedOut calls).Nodup := by
    rintro made up down o' rfl climb nothing
    rw [← List.append_assoc] at served
    have inUse := fresh.live_nodup ((before ++ up).map (·.request))
    rw [(Codec.serve_of_append served).1, live, heldAfter_append, (climb.custody _).1] at inUse
    rw [handedOut_append, climb.handedOut_eq.1, nothing, List.append_nil, List.nodup_reverse]
    exact Multiset.coe_nodup.1 (Multiset.nodup_of_le (Multiset.le_add_right _ _) inUse)
  cases h with
  | fell climb clearing => exact climbed rfl climb clearing.handedOut_eq
  | written climb clearing => exact climbed rfl climb clearing.handedOut_eq

theorem Deriving.unwound (h : Deriving stages source format calls o) (once : (handedOut calls).Nodup) :
    Unwound calls o := by
  obtain ⟨made, ahead, down, cleared, reply, rfl, clearing, rfl, out, quiet⟩ := h.parts
  have hout : handedOut (ahead ++ down) = made.reverse := by
    rw [handedOut_append, out, clearing.handedOut_eq, List.append_nil]
  have hrel : released (ahead ++ down) = released down := by rw [released_append, quiet, List.nil_append]
  have behind : ∀ {b f}, ⟨.release b, .error f⟩ ∈ ahead ++ down → (⟨.release b, .error f⟩ : Call ω) ∈ down :=
    fun hc => (List.mem_append.1 hc).resolve_left (release_not_mem quiet _ _)
  rw [hout, List.nodup_reverse] at once
  have backwards : released down <+: made := clearing.released_prefix
  have atMost := List.nodup_iff_count_le_one.1 (once.sublist backwards.sublist)
  refine ⟨by rwa [hrel, hout, List.reverse_reverse], by rwa [hrel], ?_, ?_⟩
  · intro b f hc
    obtain ⟨back, rest, rfl, rfl, rfl⟩ := clearing.refused (behind hc)
    exact ⟨by simp, rfl⟩
  · rw [AllReleased, hrel, hout, List.head?_reverse]
    simp only [List.mem_reverse]
    by_cases quiet : Untroubled down
    · obtain ⟨rfl, rfl⟩ := clearing.eq_givesBack quiet
      rw [released_givesBack]
      exact ⟨fun _ b f hc => absurd (behind hc) (quiet b f), fun _ b hb => List.count_eq_one_of_mem once hb⟩
    · obtain ⟨b, f, hc⟩ : ∃ b f, ⟨.release b, .error f⟩ ∈ down := by simpa [Untroubled] using quiet
      obtain ⟨back, rest, rfl, hdown, -⟩ := clearing.refused hc
      have passed : released down = back ++ [b] := by
        rw [hdown, released_append, released_givesBack]
        rfl
      rw [passed, count_up_to_iff once, ← getLast?_eq_iff once]
      constructor
      · intro last b' f' hc'
        obtain ⟨back', rest', -, hdown', -⟩ := clearing.refused (behind hc')
        rw [hdown] at hdown'
        cases List.append_inj_right' hdown' rfl
        exact last
      · exact fun first => first b f (List.mem_append_right _ hc)

theorem Carried.unwound {plan : Except GeometryError (List Stage)} (h : Carried plan source format calls o)
    (fresh : c.HandsOutFresh s) (served : (c.serve s ((before ++ calls).map (·.request))).1 = before ++ calls) :
    Unwound calls o := by
  cases h with
  | senseless => exact ⟨List.prefix_rfl, by simp [released], by simp, by simp [AllReleased, handedOut]⟩
  | carried _ derived => exact derived.unwound (derived.handedOut_nodup fresh served)

end

/-! ## Sessions -/

namespace Session

/-- All that was asked of a codec so far, with a run on it, is one series of requests. -/
theorem served_run [Measured ω] {c : Codec ω σ} {codecs : String → σ} {imageId : String} {steps : List Step}
    {m : Moment ω σ} (hm : m ∈ moments c imageId codecs steps) (codec : String) (w : Work ω ω) :
    let calls := m.callsOn codec ++ (w.run c (m.session.codecs codec)).calls
    (c.serve (codecs codec) (calls.map (·.request))).1 = calls := by
  obtain ⟨qs, hqs⟩ := served_moments c imageId codecs steps m hm codec
  have asked : (m.callsOn codec).map (·.request) = qs := by
    have := c.map_request_serve (codecs codec) qs
    rwa [hqs] at this
  have hrun := Work.run_serve c (m.session.codecs codec) w
  simp only [List.map_append, asked, Codec.serve_append, hqs, hrun]

/-- Whatever fails, a derivation passes the buffers it made to release from the last one on, none of them twice, and
stops at the first release that fails. So all of them are released exactly if no release fails but that of the buffer
made first. -/
theorem intermediates_released [Measured ω] {c : Codec ω σ} {codecs : String → σ}
    (fresh : ∀ codec, c.HandsOutFresh (codecs codec)) (imageId : String) (steps : List Step) :
    ∀ m ∈ moments c imageId codecs steps, ∀ (n : Nat) codec b facts,
      m.session.entries[n]? = some ⟨codec, .opened b facts⟩ →
      (∀ bound fit, let run := ((Handle.opened b facts).thumbnail bound fit).run c (m.session.codecs codec)
        Unwound run.calls run.outcome) ∧
      (∀ target, let run := ((Handle.opened b facts).crop target).run c (m.session.codecs codec)
        Unwound run.calls run.outcome) := by
  intro m hm n codec b facts _
  exact ⟨fun bound fit => (thumbnail_carried c _ b facts bound fit).unwound (fresh codec) (served_run hm codec _),
    fun target => (crop_carried c _ b facts target).unwound (fresh codec) (served_run hm codec _)⟩

/-- An image stored on its side, where the second release fails: both buffers made were passed to release by then. -/
theorem intermediates_released_failing_last :
    let script : Script := { header := ⟨⟨40, 30⟩, .jpeg, some 6⟩, sniffed := .jpeg,
                             faults := [⟨.release, 2, ⟨.runtime, "busy"⟩⟩] }
    let facts : Facts := ⟨⟨30, 40⟩, { turn := .quarter }, 6, .jpeg, .jpeg⟩
    scriptedCodec.HandsOutFresh { script } ∧
    ∃ m ∈ moments scriptedCodec "image" (fun _ => { script }) [.openAs "a" "codec" [] 2000 {}],
      m.session.entries[0]? = some ⟨"codec", .opened 1 facts⟩ ∧
      let run := ((Handle.opened 1 facts).thumbnail ⟨10, 10⟩ true).run scriptedCodec (m.session.codecs "codec")
      handedOut run.calls = [2, 3] ∧ AllReleased run.calls ∧ run.outcome = .error ⟨.runtime, "busy"⟩ := by
  intro script facts
  have fresh : scriptedCodec.HandsOutFresh { script } := scriptedCodec_handsOutFresh script
  obtain ⟨m, hm, here, hcalls⟩ :
      ∃ m ∈ moments scriptedCodec "image" (fun _ => { script }) [.openAs "a" "codec" [] 2000 {}],
        m.session.entries[0]? = some ⟨"codec", .opened 1 facts⟩ ∧
        (((Handle.opened 1 facts).thumbnail ⟨10, 10⟩ true).run scriptedCodec (m.session.codecs "codec")).calls =
          [⟨.resize 1 10 8, .ok 2⟩, ⟨.transform 2 { turn := .quarter }, .ok 3⟩, ⟨.encode 3 .jpeg, .ok "JPEG 8x10 b3"⟩,
            ⟨.release 3, .ok ()⟩, ⟨.release 2, .error ⟨.runtime, "busy"⟩⟩] := by
    decide +kernel
  have unwound := (intermediates_released (fun _ => fresh) "image" _ m hm 0 "codec" 1 facts here).1 ⟨10, 10⟩ true
  refine ⟨fresh, m, hm, here, by rw [hcalls]; rfl, unwound.all_released_iff.2 ?_, (unwound.stops 2 _ ?_).2⟩
  · rw [hcalls]
    rintro b f hc
    obtain ⟨rfl, -⟩ : b = 2 ∧ f = _ := by simpa using hc
    rfl
  · rw [hcalls]
    simp

/-- The same image, where the first release fails: the buffer made before it is never released. -/
theorem intermediate_left_behind :
    let script : Script := { header := ⟨⟨40, 30⟩, .jpeg, some 6⟩, sniffed := .jpeg,
                             faults := [⟨.release, 1, ⟨.runtime, "busy"⟩⟩] }
    let session : Session ScriptState :=
      (perform scriptedCodec "image" { codecs := fun _ => { script } } (.openAs "a" "codec" [] 2000 {})).session
    let calls := (perform scriptedCodec "image" session (.thumbnail "a" ⟨10, 10⟩ true)).calls.map (·.2)
    handedOut calls = [2, 3] ∧ released calls = [3] ∧ ¬ AllReleased calls := by
  decide +kernel

end Session

end Darkroom
