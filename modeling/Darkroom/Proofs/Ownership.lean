import Darkroom.Proofs.ScriptedCodec
import Darkroom.Proofs.Session
/-!
# Who holds the buffers

Between any two acts of a session, the buffers in use on a codec are the sources of the handles open on it, each once:
nothing is left behind by an opening or a derivation that failed half-way, and nothing is given back that is not held
(`live_eq_sources`).
-/

namespace Darkroom

variable {ω σ : Type}

/-! ## Sources -/

/-- The buffer of an open handle. -/
def Handle.source? : Handle → Option BufferId
  | opened b _ => some b
  | uninitialized | closed _ => none

def HandleEntry.sourceOn? (codec : String) (e : HandleEntry) : Option BufferId :=
  if e.codec = codec then e.handle.source? else none

/-- The buffers of the handles open on a codec. -/
def sourcesOn (codec : String) (entries : List HandleEntry) : Multiset BufferId :=
  ↑(entries.filterMap (·.sourceOn? codec))

theorem sourcesOn_concat (codec : String) (entries : List HandleEntry) (e : HandleEntry) :
    sourcesOn codec (entries ++ [e]) = sourcesOn codec [e] + sourcesOn codec entries := by
  simp only [sourcesOn, List.filterMap_append, ← Multiset.coe_add]
  exact Multiset.add_comm _ _

theorem sourcesOn_opening (codec : String) (o : Except Failure (BufferId × Facts)) :
    sourcesOn codec [⟨codec, .ofOutcome o⟩] = sourceOf o := by
  cases o <;> simp [sourcesOn, HandleEntry.sourceOn?, Handle.ofOutcome, Handle.source?, sourceOf]

theorem sourcesOn_other {codec codec' : String} (h : codec' ≠ codec) (handle : Handle) :
    sourcesOn codec [⟨codec', handle⟩] = 0 := by
  simp [sourcesOn, HandleEntry.sourceOn?, h]

/-- Closing a handle takes its buffer from the sources. -/
theorem sourcesOn_close {entries : List HandleEntry} {n : Nat} {codec : String} {b : BufferId} {facts : Facts}
    (here : entries[n]? = some ⟨codec, .opened b facts⟩) :
    sourcesOn codec entries = b ::ₘ sourcesOn codec (entries.set n ⟨codec, .closed facts⟩) := by
  induction entries generalizing n with
  | nil => simp at here
  | cons e entries ih =>
    cases n with
    | zero =>
      obtain rfl := Option.some.inj here
      simp [sourcesOn, HandleEntry.sourceOn?, Handle.source?]
    | succ n =>
      have rest := ih here
      simp only [sourcesOn, List.set_cons_succ, List.filterMap_cons] at rest ⊢
      cases e.sourceOn? codec with
      | none => exact rest
      | some b' => simp only [← Multiset.cons_coe, rest, Multiset.cons_swap b b']

theorem sourcesOn_close_other {entries : List HandleEntry} {n : Nat} {codec codec' : String} {b : BufferId}
    {facts : Facts} (here : entries[n]? = some ⟨codec', .opened b facts⟩) (h : codec' ≠ codec) :
    sourcesOn codec (entries.set n ⟨codec', .closed facts⟩) = sourcesOn codec entries := by
  induction entries generalizing n with
  | nil => rfl
  | cons e entries ih =>
    cases n with
    | zero =>
      obtain rfl := Option.some.inj here
      simp [sourcesOn, HandleEntry.sourceOn?, h]
    | succ n =>
      have rest := ih here
      simp only [sourcesOn, List.set_cons_succ, List.filterMap_cons] at rest ⊢
      cases e.sourceOn? codec with
      | none => exact rest
      | some b' => simp only [← Multiset.cons_coe, rest]

namespace Session

/-! ## What an act keeps -/

section
variable {m : Moment ω σ} {a : Act} {account : Account} {calls : List (Call ω)} {entries : List HandleEntry}
  {budgets : List Int}

/-- The calls of an act turn the sources before it into the sources after it. -/
theorem Deed.custody (deed : Deed m a account calls entries budgets) (quiet : Untroubled calls) :
    heldAfter (sourcesOn account.codec m.session.entries) calls = sourcesOn account.codec entries ∧
      ReleasesHeld (sourcesOn account.codec m.session.entries) calls := by
  cases deed with
  | opened opening =>
    rw [sourcesOn_concat, sourcesOn_opening]
    exact opening.custody _ quiet
  | @invalid codec =>
    rename_i opening
    have nothing := opening.custody (sourcesOn codec m.session.entries) quiet
    simpa only [sourceOf, Multiset.zero_add] using nothing
  | @valid codec data budget config calls b facts reply opening =>
    -- Validate: the source is held for a moment, on top of the others.
    obtain ⟨hheld, hrel⟩ := opening.custody (sourcesOn codec m.session.entries) quiet.of_append.1
    obtain ⟨hback, rback⟩ := release_custody (sourcesOn codec m.session.entries) b reply quiet.of_append.2
    rw [heldAfter_append, releasesHeld_append, hheld, sourceOf, Multiset.singleton_add]
    exact ⟨hback, hrel, rback⟩
  | thumbnail here carried => exact carried.custody _ quiet
  | crop here carried => exact carried.custody _ quiet
  | @closed n codec b facts reply here =>
    -- Close: the source is among those in use, so it can be given back.
    rw [sourcesOn_close here]
    exact release_custody _ b reply quiet
  | idle on shut => exact ⟨rfl, releasesHeld_nil _⟩

/-- And leave the sources on other codecs alone. -/
theorem Deed.custody_other (deed : Deed m a account calls entries budgets) {codec : String} (h : account.codec ≠ codec) :
    sourcesOn codec entries = sourcesOn codec m.session.entries := by
  cases deed with
  | opened opening => rw [sourcesOn_concat, sourcesOn_other h, Multiset.zero_add]
  | closed reply here => exact sourcesOn_close_other here h
  | _ => rfl

/-- The buffers in use on every codec are the sources of the handles open on it, and none was released but in use. -/
def Moment.InCustody (m : Moment ω σ) : Prop :=
  ∀ codec, live (m.callsOn codec) = sourcesOn codec m.session.entries ∧ ReleasesHeld 0 (m.callsOn codec)

theorem Moment.inCustody_start (codecs : String → σ) : (start codecs : Moment ω σ).InCustody :=
  fun _ => ⟨rfl, releasesHeld_nil 0⟩

theorem Moment.Served.untroubled {c : Codec ω σ} {codecs : String → σ} (served : m.Served c codecs)
    (takes : ∀ codec, c.TakesReleases (codecs codec)) (codec : String) : Untroubled (m.callsOn codec) := by
  obtain ⟨qs, hqs⟩ := served codec
  have quiet := (takes codec).untroubled qs
  rw [hqs] at quiet
  exact quiet

theorem Moment.InCustody.act [Measured ω] {c : Codec ω σ} {codecs : String → σ}
    (takes : ∀ codec, c.TakesReleases (codecs codec)) (served : m.Served c codecs) (h : m.InCustody) (imageId : String)
    (a : Act) : (m.act c imageId a).InCustody := by
  intro codec
  obtain ⟨account, calls, hcalls, deed⟩ := m.act_deed c imageId a
  have hon := Moment.callsOn_append hcalls
  obtain ⟨hlive, hrel⟩ := h codec
  rw [hon codec]
  by_cases hc : account.codec = codec
  · subst hc
    have quiet : Untroubled calls := by
      have := (served.act imageId a).untroubled takes account.codec
      rw [hon, if_pos rfl] at this
      exact this.of_append.2
    obtain ⟨hheld, hrel'⟩ := deed.custody quiet
    rw [if_pos rfl, live, heldAfter_append, releasesHeld_append, ← live, hlive]
    exact ⟨hheld, hrel, hrel'⟩
  · rw [if_neg hc, List.append_nil, hlive, deed.custody_other hc]
    exact ⟨rfl, hrel⟩
end

end Session

open Session in
/-- Whatever a session does and wherever the codec fails, after every act, inside and outside of blocks, the buffers in
use are exactly the sources of the open handles, none of them twice, and only buffers in use were ever released. The
last of these moments is where performing the steps leads. -/
theorem live_eq_sources [Measured ω] {c : Codec ω σ} {codecs : String → σ}
    (takes : ∀ codec, c.TakesReleases (codecs codec)) (fresh : ∀ codec, c.HandsOutFresh (codecs codec))
    (imageId : String) (steps : List Step) :
    (∀ m ∈ moments c imageId codecs steps, ∀ codec,
      live (m.callsOn codec) = sourcesOn codec m.session.entries ∧ (live (m.callsOn codec)).Nodup ∧
        ReleasesHeld 0 (m.callsOn codec)) ∧
    ∃ m ∈ moments c imageId codecs steps, m.session = (performAll c imageId { codecs } steps).1 ∧
      m.trace = (performAll c imageId { codecs } steps).2 := by
  have kept := Moment.visits_keep c imageId (P := fun m => m.Served c codecs ∧ m.InCustody)
    (fun m a h => ⟨h.1.act imageId a, h.2.act takes h.1 imageId a⟩)
    (m := Moment.start codecs) ⟨fun codec => ⟨[], rfl⟩, Moment.inCustody_start codecs⟩
    (actsOfAll c imageId { codecs } steps)
  refine ⟨?_, exists_last_moment c imageId codecs steps⟩
  intro m hm codec
  obtain ⟨served, custody⟩ := kept m hm
  obtain ⟨qs, hqs⟩ := served codec
  have once := (fresh codec).live_nodup qs
  rw [hqs] at once
  exact ⟨(custody codec).1, once, (custody codec).2⟩

open Session in
/-- A turn that fails inside a block: of the three buffers made, the source of the handle that is still open remains. -/
theorem live_eq_sources_failing_turn :
    let script : Script := { header := ⟨⟨40, 30⟩, .jpeg, some 6⟩, sniffed := .jpeg,
                             faults := [⟨.transform, 1, .closedImage⟩] }
    let steps : List Step := [.openAs "a" "codec" [] 2000 {},
      .within "a" [.openAs "b" "codec" [] 2000 {}, .thumbnail "b" ⟨10, 10⟩ true] none]
    scriptedCodec.TakesReleases { script } ∧ scriptedCodec.HandsOutFresh { script } ∧
    ∃ m ∈ moments scriptedCodec "image" (fun _ => { script }) steps, m.calls.length = 12 ∧
      live (m.callsOn "codec") = {2} ∧ (live (m.callsOn "codec")).Nodup ∧ ReleasesHeld 0 (m.callsOn "codec") := by
  intro script steps
  have takes : scriptedCodec.TakesReleases { script } := scriptedCodec_takesReleases script (by decide)
  have fresh : scriptedCodec.HandsOutFresh { script } := scriptedCodec_handsOutFresh script
  obtain ⟨m, hm, hcalls, hsources⟩ : ∃ m ∈ moments scriptedCodec "image" (fun _ => { script }) steps,
      m.calls.length = 12 ∧ sourcesOn "codec" m.session.entries = {2} := by decide +kernel
  have kept := (live_eq_sources (fun _ => takes) (fun _ => fresh) "image" steps).1 m hm "codec"
  rw [hsources] at kept
  exact ⟨takes, fresh, m, hm, hcalls, kept⟩

end Darkroom
