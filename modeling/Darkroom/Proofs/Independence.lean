import Darkroom.Proofs.Faithful
import Darkroom.Proofs.Lifecycle
/-!
# Handles do not get in each other's way

Between two steps of a session on faithful codecs, a handle is known well enough by its `Likeness`: the contents of its
buffer, whatever the buffer's number, and what was decided when it was opened. Steps on other handles leave it alone,
its own change it only by closing it (`Stocked.perform`), and it decides every answer (`perform_answers`). So the answers
of a handle follow from its own steps, however those of the others come between them (`order_independent`).
-/

namespace Darkroom

variable {ω σ ν : Type}

/-! ## Likenesses -/

/-- A handle by the contents of its buffer. -/
inductive Likeness (ν : Type)
  | uninitialized
  | opened (contents : ν) (facts : Facts)
  | closed (facts : Facts)

namespace Likeness

/-- Any handle of this likeness will do where the number of its buffer is not asked for. -/
def handle : Likeness ν → Handle
  | uninitialized => .uninitialized
  | opened _ facts => .opened 0 facts
  | closed facts => .closed facts

def after (l : Likeness ν) (closes : Bool) : Likeness ν :=
  match l with
  | opened v facts => if closes then closed facts else opened v facts
  | l => l

@[simp] theorem after_false (l : Likeness ν) : l.after false = l := by cases l <;> rfl

@[simp] theorem after_after (l : Likeness ν) (closes closes' : Bool) :
    (l.after closes).after closes' = l.after (closes || closes') := by
  cases l <;> cases closes <;> cases closes' <;> rfl

theorem eq_opened_of_after {l : Likeness ν} {closes : Bool} {v : ν} {facts : Facts}
    (h : l.after closes = .opened v facts) : l = .opened v facts := by
  cases l <;> cases closes <;> cases h
  rfl

/-- A handle of this likeness, on a codec in this state. -/
inductive Of (view : View ω σ ν) (state : σ) : Handle → Likeness ν → Prop
  | uninitialized : Of view state .uninitialized .uninitialized
  | opened {b v facts} (held : view.holds state b = some v) : Of view state (.opened b facts) (.opened v facts)
  | closed {facts} : Of view state (.closed facts) (.closed facts)

variable {view : View ω σ ν} {state state' : σ} {h : Handle} {l : Likeness ν}

theorem Of.mono (of : Of view state h l)
    (kept : ∀ b facts v, h = .opened b facts → view.holds state b = some v → view.holds state' b = some v) :
    Of view state' h l := by
  cases of with
  | uninitialized => exact .uninitialized
  | opened held => exact .opened (kept _ _ _ rfl held)
  | closed => exact .closed

theorem Of.after_of_isClosed (of : Of view state h l) (shut : h.isClosed) (closes : Bool) : l.after closes = l := by
  cases of with
  | opened => cases shut
  | _ => rfl

/-- What a handle says of itself without a codec, any handle of its likeness says as well. -/
theorem Of.says (of : Of view state h l) (imageId : String) : l.handle.isClosed = h.isClosed ∧
    (Session.factsAnswer l.handle : Except Failure (Session.Answer ω)) = Session.factsAnswer h ∧
    l.handle.text imageId = h.text imageId := by
  cases of <;> exact ⟨rfl, rfl, rfl⟩

/-- A derivation tells of the stages of its plan, and a shut handle of nothing. -/
def Derives (view : View ω σ ν) (plan : Facts → Except GeometryError (List Stage))
    (a : Except Failure (Session.Answer ω)) : Likeness ν → Prop
  | opened v facts => ∃ o, view.Tells o (Derivation.told view (plan facts) facts.outputFormat v) ∧ a = o.map .output
  | _ => a = .error .closedImage

section
variable [Measured ω] {c : Codec ω σ} {s : σ}

/-- A thumbnail is decided by the likeness, and leaves the others alone. -/
theorem Of.thumbnail (of : Of view s h l) (faithful : c.Faithful view s) (bound : Dimensions) (fit : Bool) :
    l.Derives view (thumbnailPlan · bound fit) (((h.thumbnail bound fit).run c s).outcome.map .output) ∧
      view.Keeps [] s ((h.thumbnail bound fit).run c s).state := by
  cases of with
  | opened held =>
    obtain ⟨told, kept⟩ := Derivation.thumbnail_faithful faithful _ bound fit held
    exact ⟨⟨_, told, rfl⟩, kept⟩
  | _ => exact ⟨rfl, .refl [] s⟩

theorem Of.crop (of : Of view s h l) (faithful : c.Faithful view s) (target : Dimensions) :
    l.Derives view (cropPlan · target) (((h.crop target).run c s).outcome.map .output) ∧
      view.Keeps [] s ((h.crop target).run c s).state := by
  cases of with
  | opened held =>
    obtain ⟨told, kept⟩ := Derivation.crop_faithful faithful _ target held
    exact ⟨⟨_, told, rfl⟩, kept⟩
  | _ => exact ⟨rfl, .refl [] s⟩

end

end Likeness

namespace Session

/-- A handle of this likeness stands under the number. -/
def Depicts (view : View ω σ ν) (s : Session σ) (n : Nat) (l : Likeness ν) : Prop :=
  ∃ codec h, s.entries[n]? = some ⟨codec, h⟩ ∧ l.Of view (s.codecs codec) h

/-- All codecs are faithful, every open handle has a buffer in use, and no two share one. -/
structure Stocked (c : Codec ω σ) (view : View ω σ ν) (s : Session σ) : Prop where
  faithful : ∀ codec, c.Faithful view (s.codecs codec)
  held : ∀ (n : Nat) codec b facts, s.entries[n]? = some ⟨codec, .opened b facts⟩ →
    ∃ v, view.holds (s.codecs codec) b = some v
  apart : ∀ (n n' : Nat) codec b facts facts', s.entries[n]? = some ⟨codec, .opened b facts⟩ →
    s.entries[n']? = some ⟨codec, .opened b facts'⟩ → n = n'
  known : ∀ name n, s.names name = some n → n < s.entries.length

section
variable {c : Codec ω σ} {view : View ω σ ν} {s s' : Session σ} {n : Nat} {l : Likeness ν}

theorem stocked_start {codecs : String → σ} (faithful : ∀ codec, c.Faithful view (codecs codec)) :
    Stocked c view { codecs } where
  faithful := faithful
  held n codec b facts h := by cases h
  apart n n' codec b facts facts' h := by cases h
  known name n h := by cases h

theorem Stocked.exists_depicts (stocked : Stocked c view s) (hn : n < s.entries.length) : ∃ l, Depicts view s n l := by
  have here : s.entries[n]? = some s.entries[n] := List.getElem?_eq_getElem hn
  generalize s.entries[n] = e at here
  obtain ⟨codec, _ | ⟨b, facts⟩ | facts⟩ := e
  · exact ⟨_, codec, _, here, .uninitialized⟩
  · obtain ⟨v, hv⟩ := stocked.held n codec b facts here
    exact ⟨_, codec, _, here, .opened hv⟩
  · exact ⟨_, codec, _, here, .closed⟩

/-- An open handle has the likeness of an open one, with its facts. -/
theorem Depicts.opened {codec : String} {b : BufferId} {facts : Facts} (depicts : Depicts view s n l)
    (here : s.entries[n]? = some ⟨codec, .opened b facts⟩) :
    ∃ v, l = .opened v facts ∧ view.holds (s.codecs codec) b = some v := by
  obtain ⟨codec', h, there, of⟩ := depicts
  cases here.symm.trans there
  cases of with
  | opened held => exact ⟨_, rfl, held⟩

/-! ## What acts do to likenesses -/

/-- Handles are as they were, and buffers in use hold what they held. -/
structure Carries (view : View ω σ ν) (s s' : Session σ) : Prop where
  entries : s'.entries = s.entries
  names : s'.names = s.names
  kept : ∀ codec, view.Keeps [] (s.codecs codec) (s'.codecs codec)

theorem Carries.depicts (h : Carries view s s') (depicts : Depicts view s n l) : Depicts view s' n l := by
  obtain ⟨codec, handle, here, of⟩ := depicts
  exact ⟨codec, handle, by rw [h.entries]; exact here, of.mono fun b _ v _ hv => h.kept codec b List.not_mem_nil v hv⟩

theorem Carries.stocked (h : Carries view s s') (stocked : Stocked c view s)
    (faithful : ∀ codec, c.Faithful view (s'.codecs codec)) : Stocked c view s' where
  faithful := faithful
  held n codec b facts here := by
    rw [h.entries] at here
    obtain ⟨v, hv⟩ := stocked.held n codec b facts here
    exact ⟨v, h.kept codec b List.not_mem_nil v hv⟩
  apart := by
    rw [h.entries]
    exact stocked.apart
  known := by
    rw [h.entries, h.names]
    exact stocked.known

variable {α : Type}

theorem faithful_work (faithful : ∀ codec, c.Faithful view (s.codecs codec)) (on : String) (w : Work ω α)
    (codec : String) : c.Faithful view ((work c s on w).session.codecs codec) := by
  show c.Faithful view (if codec = on then _ else _)
  split
  · exact (faithful on).run w
  · exact faithful codec

theorem keeps_work {on : String} {w : Work ω α} {gone : List BufferId}
    (kept : view.Keeps gone (s.codecs on) (w.run c (s.codecs on)).state) (codec : String) :
    view.Keeps (if codec = on then gone else []) (s.codecs codec) ((work c s on w).session.codecs codec) := by
  show view.Keeps _ _ (if codec = on then _ else _)
  split
  · next h => rw [h]; exact kept
  · exact .refl [] _

theorem carries_work {on : String} {w : Work ω α} (kept : view.Keeps [] (s.codecs on) (w.run c (s.codecs on)).state) :
    Carries view s (work c s on w).session where
  entries := rfl
  names := rfl
  kept codec := by simpa using keeps_work kept codec

/-! ### Handles that are added and closed -/

/-- A new handle stands behind all others. -/
theorem Depicts.addHandle (depicts : Depicts view s n l) (name codec : String) (h : Handle) :
    Depicts view (s.addHandle name codec h) n l := by
  obtain ⟨codec', handle, here, of⟩ := depicts
  obtain ⟨hn, -⟩ := List.getElem?_eq_some_iff.1 here
  exact ⟨codec', handle, (List.getElem?_append_left hn).trans here, of⟩

/-- The entry of a number, once a handle was added: it was there before, or it is the new one. -/
theorem getElem?_addHandle {name codec : String} {h : Handle} {e : HandleEntry}
    (here : (s.addHandle name codec h).entries[n]? = some e) :
    s.entries[n]? = some e ∨ n = s.entries.length ∧ e = ⟨codec, h⟩ := by
  change (s.entries ++ [⟨codec, h⟩])[n]? = some e at here
  rcases Nat.lt_trichotomy n s.entries.length with hn | rfl | hn
  · rw [List.getElem?_append_left hn] at here
    exact .inl here
  · rw [List.getElem?_concat_length, Option.some.injEq] at here
    exact .inr ⟨rfl, here.symm⟩
  · rw [List.getElem?_eq_none (by simp; omega)] at here
    cases here

/-- A handle can be added whose buffer, if it is open, is in use and none of the others'. -/
theorem Stocked.addHandle (stocked : Stocked c view s) (name codec : String) {h : Handle}
    (held : ∀ b facts, h = .opened b facts → ∃ v, view.holds (s.codecs codec) b = some v)
    (new : ∀ b facts, h = .opened b facts → ∀ (n : Nat) facts', s.entries[n]? ≠ some ⟨codec, .opened b facts'⟩) :
    Stocked c view (s.addHandle name codec h) where
  faithful := stocked.faithful
  held n codec' b facts here := by
    rcases getElem?_addHandle here with here | ⟨-, here⟩
    · exact stocked.held n codec' b facts here
    · cases here
      exact held b facts rfl
  apart n n' codec' b facts facts' here here' := by
    rcases getElem?_addHandle here with old | ⟨hn, added⟩ <;> rcases getElem?_addHandle here' with old' | ⟨hn', added'⟩
    · exact stocked.apart n n' codec' b facts facts' old old'
    · cases added'
      exact absurd old (new b facts' rfl n facts)
    · cases added
      exact absurd old' (new b facts rfl n' facts')
    · rw [hn, hn']
  known name' n' h' := by
    show n' < (s.entries ++ [_]).length
    rw [List.length_append, List.length_singleton]
    change (if name' = name then some s.entries.length else s.names name') = some n' at h'
    split at h'
    · cases h'
      exact Nat.lt_succ_self _
    · exact Nat.lt_succ_of_lt (stocked.known name' n' h')

/-- A handle is closed, and its buffer is gone. -/
structure Closes (view : View ω σ ν) (s s' : Session σ) (n : Nat) (codec : String) (b : BufferId) (facts : Facts) :
    Prop where
  entries : s'.entries = s.entries.set n ⟨codec, .closed facts⟩
  names : s'.names = s.names
  kept : ∀ codec', view.Keeps (if codec' = codec then [b] else []) (s.codecs codec') (s'.codecs codec')

section
variable {codec : String} {b : BufferId} {facts : Facts}

theorem Closes.getElem?_of_ne (h : Closes view s s' n codec b facts) {n' : Nat} (hn : n' ≠ n) :
    s'.entries[n']? = s.entries[n']? := by
  rw [h.entries, List.getElem?_set_ne (Ne.symm hn)]

variable (here : s.entries[n]? = some ⟨codec, .opened b facts⟩)
include here

theorem Closes.getElem?_self (h : Closes view s s' n codec b facts) : s'.entries[n]? = some ⟨codec, .closed facts⟩ := by
  obtain ⟨hn, -⟩ := List.getElem?_eq_some_iff.1 here
  rw [h.entries, List.getElem?_set_self hn]

/-- The buffers of the other handles are still in use. -/
theorem Closes.others (h : Closes view s s' n codec b facts) (stocked : Stocked c view s) {n' : Nat} (hn : n' ≠ n)
    {codec' : String} {b' : BufferId} {facts' : Facts} (there : s.entries[n']? = some ⟨codec', .opened b' facts'⟩)
    {v : ν} (hv : view.holds (s.codecs codec') b' = some v) : view.holds (s'.codecs codec') b' = some v := by
  refine h.kept codec' b' ?_ v hv
  split
  · next same =>
    subst same
    intro again
    obtain rfl := List.mem_singleton.1 again
    exact hn (stocked.apart n' n codec' b' facts' facts there here)
  · exact List.not_mem_nil

theorem Closes.depicts (h : Closes view s s' n codec b facts) (stocked : Stocked c view s) {n' : Nat}
    (depicts : Depicts view s n' l) : Depicts view s' n' (l.after (n' = n)) := by
  obtain ⟨codec', handle, there, of⟩ := depicts
  by_cases hn : n' = n
  · subst hn
    rw [here] at there
    cases there
    cases of
    rw [decide_eq_true rfl]
    exact ⟨codec, _, h.getElem?_self here, .closed⟩
  · rw [decide_eq_false hn, Likeness.after_false]
    refine ⟨codec', handle, (h.getElem?_of_ne hn).trans there, of.mono ?_⟩
    rintro b' facts' v rfl hv
    exact h.others here stocked hn there hv

theorem Closes.stocked (h : Closes view s s' n codec b facts) (stocked : Stocked c view s)
    (faithful : ∀ codec, c.Faithful view (s'.codecs codec)) : Stocked c view s' := by
  -- a handle open afterwards is another one, and was open before
  have before : ∀ {n' codec' b' facts'}, s'.entries[n']? = some ⟨codec', .opened b' facts'⟩ →
      n' ≠ n ∧ s.entries[n']? = some ⟨codec', .opened b' facts'⟩ := by
    intro n' codec' b' facts' there
    by_cases hn : n' = n
    · rw [hn, h.getElem?_self here] at there
      cases there
    · exact ⟨hn, (h.getElem?_of_ne hn).symm.trans there⟩
  refine ⟨faithful, ?_, ?_, ?_⟩
  · intro n' codec' b' facts' there
    obtain ⟨hn, there⟩ := before there
    obtain ⟨v, hv⟩ := stocked.held n' codec' b' facts' there
    exact ⟨v, h.others here stocked hn there hv⟩
  · intro n' n'' codec' b' facts' facts'' there there'
    exact stocked.apart n' n'' codec' b' facts' facts'' (before there).2 (before there').2
  · rw [h.entries, h.names, List.length_set]
    exact stocked.known

/-- On a faithful codec, closing an open handle succeeds. -/
theorem closeHandle_closes (stocked : Stocked c view s) : (closeHandle c s (some n)).outcome = .ok () ∧
    Closes view s (closeHandle c s (some n)).session n codec b facts ∧
    ∀ codec, c.Faithful view ((closeHandle c s (some n)).session.codecs codec) := by
  have hentry : s.entryAt (some n) = ⟨codec, .opened b facts⟩ := by
    show s.entries[n]?.getD _ = _
    rw [here]
    rfl
  have hclose : closeHandle c s (some n) = work c { s with entries := s.entries.set n ⟨codec, .closed facts⟩ } codec
      (.request (.release b) : Work ω Unit) := by
    simp only [closeHandle, setHandle, hentry]
    rfl
  obtain ⟨v, hv⟩ := stocked.held n codec b facts here
  obtain ⟨s', hs', kept⟩ := (stocked.faithful codec).now.takes b v hv
  rw [hclose]
  refine ⟨?_, ⟨rfl, rfl, fun codec' => keeps_work (s := { s with entries := _ }) ?_ codec'⟩, ?_⟩
  · simp [work, hs']
  · simpa [hs'] using kept
  · exact faithful_work (s := { s with entries := _ }) stocked.faithful codec _

end

/-! ### Acts and steps -/

/-- Whether an act closes the handle of this number, if it is open. -/
def Act.closes (n : Nat) : Act → Bool
  | .close handle => handle = some n
  | _ => false

/-- The handle under any number has a likeness, and under none as well. -/
theorem Stocked.exists_of (stocked : Stocked c view s) (handle : Option Nat) :
    ∃ l, Likeness.Of view (s.codecs (s.entryAt handle).codec) (s.entryAt handle).handle l := by
  rcases s.entryAt_cases handle with ⟨n, codec, b, facts, rfl, here, hentry⟩ | shut
  · obtain ⟨v, hv⟩ := stocked.held n codec b facts here
    rw [hentry]
    exact ⟨_, .opened hv⟩
  · cases h : (s.entryAt handle).handle with
    | uninitialized => exact ⟨_, .uninitialized⟩
    | opened => rw [h] at shut; cases shut
    | closed => exact ⟨_, .closed⟩

theorem Depicts.entryAt (depicts : Depicts view s n l) :
    l.Of view (s.codecs (s.entryAt (some n)).codec) (s.entryAt (some n)).handle := by
  obtain ⟨codec, h, here, of⟩ := depicts
  have found : s.entryAt (some n) = ⟨codec, h⟩ := by
    show s.entries[n]?.getD _ = _
    rw [here]
    rfl
  rw [found]
  exact of

/-- Work that keeps all buffers in use keeps all that is said of a session. -/
theorem Stocked.work (stocked : Stocked c view s) {on : String} {w : Work ω α}
    (kept : view.Keeps [] (s.codecs on) (w.run c (s.codecs on)).state) :
    Stocked c view (Session.work c s on w).session ∧
      ∀ n l, Depicts view s n l → Depicts view (Session.work c s on w).session n (l.after false) := by
  have carries := carries_work kept
  refine ⟨carries.stocked stocked (faithful_work stocked.faithful on w), fun n l depicts => ?_⟩
  rw [Likeness.after_false]
  exact carries.depicts depicts

/-- What an opening leaves on its codec. -/
theorem Stocked.opens (stocked : Stocked c view s) (imageId codec : String) (data : Bytes) (budget : Int)
    (config : Config) :
    let t := Session.work c s codec (openImage imageId data budget config)
    view.Opens ⟨budget, config.maxDimension⟩ config.outputPolicy (s.codecs codec) (t.session.codecs codec)
      t.outcome := by
  intro t
  have here : t.session.codecs codec = ((openImage imageId data budget config).run c (s.codecs codec)).state :=
    if_pos rfl
  rw [here]
  exact openImage_faithful imageId data budget config (stocked.faithful codec)

/-- The handle that an opening adds is in keeping with its buffer. -/
theorem Stocked.openAs (stocked : Stocked c view s) (imageId name codec : String) (data : Bytes) (budget : Int)
    (config : Config) :
    let t := Session.work c s codec (openImage imageId data budget config)
    Stocked c view (t.session.addHandle name codec (.ofOutcome t.outcome)) := by
  intro t
  have opens := stocked.opens imageId codec data budget config
  -- the buffer of a handle that is open afterwards was not in use before
  have new : ∀ b facts, Handle.ofOutcome t.outcome = .opened b facts → ∃ v, view.HandsOut (s.codecs codec)
      (t.session.codecs codec) b v := by
    intro b facts hb
    change view.Opens _ _ _ (t.session.codecs codec) t.outcome at opens
    rcases ht : t.outcome with f | ⟨b', facts'⟩ <;> rw [ht] at opens hb
    · cases hb
    · obtain ⟨header, transparent, v, -, -, -, out⟩ := opens
      cases hb
      exact ⟨v, out⟩
  refine (stocked.work ?_).1.addHandle name codec (fun b facts hb => (new b facts hb).imp fun v out => out.held) ?_
  · exact (openImage_faithful imageId data budget config (stocked.faithful codec)).kept
  · intro b facts hb n facts' there
    obtain ⟨v, out⟩ := new b facts hb
    obtain ⟨v', hv'⟩ := stocked.held n codec b facts' there
    rw [out.fresh] at hv'
    cases hv'

/-- The handle that an opening adds: if it is open, its image was admitted and shows in its buffer. -/
theorem Stocked.exists_openAs (stocked : Stocked c view s) (imageId name codec : String) (data : Bytes) (budget : Int)
    (config : Config) :
    let t := Session.work c s codec (openImage imageId data budget config)
    ∃ l, Depicts view (t.session.addHandle name codec (.ofOutcome t.outcome)) s.entries.length l ∧
      ∀ v facts, l = .opened v facts → ∃ header transparent, header.Admissible ⟨budget, config.maxDimension⟩ ∧
        facts = header.admission.facts (config.outputPolicy.choose header.format transparent) ∧ view.shows header v := by
  intro t
  have opens := stocked.opens imageId codec data budget config
  change view.Opens _ _ _ (t.session.codecs codec) t.outcome at opens
  have here : (t.session.addHandle name codec (.ofOutcome t.outcome)).entries[s.entries.length]? =
    some ⟨codec, .ofOutcome t.outcome⟩ := List.getElem?_concat_length
  rcases ht : t.outcome with f | ⟨b, facts⟩ <;> rw [ht] at opens here
  · refine ⟨.uninitialized, ⟨codec, _, here, .uninitialized⟩, ?_⟩
    rintro v facts ⟨⟩
  · obtain ⟨header, transparent, v, admitted, hfacts, shows, out⟩ := opens
    refine ⟨.opened v facts, ⟨codec, _, here, .opened out.held⟩, ?_⟩
    rintro _ _ ⟨⟩
    exact ⟨header, transparent, admitted, hfacts, shows⟩

theorem Stocked.close_outcome (stocked : Stocked c view s) (handle : Option Nat) :
    (closeHandle c s handle).outcome = .ok () := by
  rcases s.entryAt_cases handle with ⟨n, codec, b, facts, rfl, here, -⟩ | shut
  · exact (closeHandle_closes here stocked).1
  · rw [closeHandle_of_isClosed c shut]

variable [Measured ω]

/-- An act keeps all that is said of a session, and closes a likeness or leaves it. -/
theorem Stocked.act {m : Moment ω σ} (stocked : Stocked c view m.session) (imageId : String) (a : Act) :
    Stocked c view (m.act c imageId a).session ∧ ∀ n l, Depicts view m.session n l →
      Depicts view (m.act c imageId a).session n (l.after (a.closes n)) := by
  cases a with
  | openAs name codec data budget config =>
    refine ⟨stocked.openAs imageId name codec data budget config, fun n l depicts => ?_⟩
    have opening := openImage_faithful imageId data budget config (stocked.faithful codec)
    exact ((stocked.work opening.kept).2 n l depicts).addHandle name codec _
  | validate codec data budget config =>
    exact stocked.work (validateImage_faithful imageId data budget config (stocked.faithful codec))
  | thumbnail handle bound fit =>
    obtain ⟨l, of⟩ := stocked.exists_of handle
    exact stocked.work (of.thumbnail (stocked.faithful _) bound fit).2
  | crop handle target =>
    obtain ⟨l, of⟩ := stocked.exists_of handle
    exact stocked.work (of.crop (stocked.faithful _) target).2
  | close handle =>
    rcases m.session.entryAt_cases handle with ⟨k, codec, b, facts, rfl, here, hentry⟩ | shut
    · obtain ⟨-, closes, faithful⟩ := closeHandle_closes here stocked
      refine ⟨closes.stocked here stocked faithful, fun n l depicts => ?_⟩
      have same : Act.closes n (.close (some k)) = decide (n = k) := by simp [Act.closes, eq_comm]
      rw [same]
      exact closes.depicts here stocked depicts
    · have same : (m.act c imageId (.close handle)).session = m.session := by
        show (closeHandle c m.session handle).session = m.session
        rw [closeHandle_of_isClosed c shut]
      rw [same]
      refine ⟨stocked, fun n l depicts => ?_⟩
      by_cases hn : handle = some n
      · subst hn
        rw [depicts.entryAt.after_of_isClosed shut]
        exact depicts
      · rw [Act.closes, decide_eq_false hn, Likeness.after_false]
        exact depicts

theorem Stocked.acts {m : Moment ω σ} (stocked : Stocked c view m.session) (imageId : String) (as : List Act) :
    Stocked c view (m.acts c imageId as).session ∧ ∀ n l, Depicts view m.session n l →
      Depicts view (m.acts c imageId as).session n (l.after (as.any (·.closes n))) := by
  induction as generalizing m with
  | nil =>
    refine ⟨stocked, fun n l depicts => ?_⟩
    rw [List.any_nil, Likeness.after_false]
    exact depicts
  | cons a as ih =>
    obtain ⟨next, one⟩ := stocked.act imageId a
    obtain ⟨last, rest⟩ := ih next
    refine ⟨last, fun n l depicts => ?_⟩
    have := rest n _ (one n l depicts)
    rwa [Likeness.after_after] at this

/-- A step keeps all that is said of a session, and closes a likeness or leaves it. -/
theorem Stocked.perform (stocked : Stocked c view s) (imageId : String) (x : Step) :
    Stocked c view (perform c imageId s x).session ∧ ∀ n l, Depicts view s n l →
      Depicts view (Session.perform c imageId s x).session n (l.after ((actsOf c imageId s x).any (·.closes n))) := by
  obtain ⟨hs, -⟩ := perform_acts c imageId { session := s } x
  rw [← hs]
  exact stocked.acts (m := { session := s }) imageId _

theorem Stocked.performAll (stocked : Stocked c view s) (imageId : String) (xs : List Step) :
    Stocked c view (performAll c imageId s xs).1 ∧ ∀ n l, Depicts view s n l →
      Depicts view (Session.performAll c imageId s xs).1 n (l.after ((actsOfAll c imageId s xs).any (·.closes n))) := by
  obtain ⟨hs, -⟩ := performAll_acts c imageId { session := s } xs
  rw [← hs]
  exact stocked.acts (m := { session := s }) imageId _

end

/-! ## Answers -/

/-- The name of the handle a step is on; opening, validating and blocks are on none. -/
def Step.on? : Step → Option String
  | .thumbnail name _ _ | .crop name _ | .close name | .isClosed name | .facts name | .describe name => some name
  | .openAs .. | .validate .. | .within .. => none

def Step.closes : Step → Bool
  | .close _ => true
  | _ => false

/-- The handle a step is on. -/
def handleOf (s : Session σ) (x : Step) : Option Nat := x.on?.bind s.names

/-- The steps on one handle, in their order. -/
def stepsOn (s : Session σ) (n : Nat) (xs : List Step) : List Step := xs.filter (s.handleOf · = some n)

section
variable [Measured ω] (c : Codec ω σ) (imageId : String)

/-- The answers to the steps on one handle, in their order. -/
def answersOn (n : Nat) (s : Session σ) : List Step → List (Except Failure (Answer ω))
  | [] => []
  | x :: xs =>
    let t := perform c imageId s x
    if s.handleOf x = some n then t.outcome :: answersOn n t.session xs else answersOn n t.session xs

variable {s : Session σ} {x : Step}

/-- A step on a handle gives no name to another one. -/
theorem names_perform (on : x.on?.isSome) : (perform c imageId s x).session.names = s.names := by
  cases x with
  | close name =>
    show (closeHandle c s (s.names name)).session.names = s.names
    cases s.names name <;> rfl
  | openAs => cases on
  | validate => cases on
  | within => cases on
  | _ => rfl

theorem answersOn_eq_nil {n : Nat} {xs : List Step} (known : ∀ name, s.names name ≠ some n)
    (on : ∀ x ∈ xs, x.on?.isSome) : answersOn c imageId n s xs = [] := by
  induction xs generalizing s with
  | nil => rfl
  | cons x xs ih =>
    have other : s.handleOf x ≠ some n := by
      intro hx
      obtain ⟨name, -, hname⟩ := Option.bind_eq_some_iff.1 hx
      exact known name hname
    rw [answersOn, if_neg other]
    refine ih ?_ fun y hy => on y (List.mem_cons_of_mem x hy)
    rwa [names_perform c imageId (on x List.mem_cons_self)]

theorem any_closes_actsOf (on : x.on?.isSome) (n : Nat) :
    (actsOf c imageId s x).any (·.closes n) = (s.stepsOn n [x]).any Step.closes := by
  cases x with
  | close name =>
    by_cases h : s.names name = some n <;>
      simp [actsOf, Act.closes, stepsOn, handleOf, Step.on?, Step.closes, h]
  | openAs => cases on
  | validate => cases on
  | within => cases on
  | _ => simp [actsOf, Act.closes, stepsOn, Step.closes, List.any_filter]

end

end Session

open Session

/-- Two answers that are the same, or two outputs that tell the same. -/
inductive View.Alike (view : View ω σ ν) : Except Failure (Answer ω) → Except Failure (Answer ω) → Prop
  | same (a) : view.Alike a a
  | told {o o' format v} (h : view.tells o format v) (h' : view.tells o' format v) :
    view.Alike (.ok (.output o)) (.ok (.output o'))

namespace Likeness

/-- What a handle of this likeness can answer to a step. -/
def Answers (view : View ω σ ν) (imageId : String) (l : Likeness ν) (a : Except Failure (Answer ω)) : Step → Prop
  | .thumbnail _ bound fit => l.Derives view (thumbnailPlan · bound fit) a
  | .crop _ target => l.Derives view (cropPlan · target) a
  | .close _ => a = .ok .nothing
  | .isClosed _ => a = .ok (.flag l.handle.isClosed)
  | .facts _ => a = factsAnswer l.handle
  | .describe _ => a = .ok (.text (l.handle.text imageId))
  | .openAs .. | .validate .. | .within .. => False

variable {view : View ω σ ν} {imageId : String} {l : Likeness ν} {a a' : Except Failure (Answer ω)}

theorem Derives.alike {plan : Facts → Except GeometryError (List Stage)} (h : l.Derives view plan a)
    (h' : l.Derives view plan a') : view.Alike a a' := by
  cases l with
  | opened v facts =>
    obtain ⟨o, told, rfl⟩ := h
    obtain ⟨o', told', rfl⟩ := h'
    generalize Derivation.told view (plan facts) facts.outputFormat v = t at told told'
    rcases t with f | ⟨format, v⟩ <;> rcases o with f | o <;> rcases o' with f' | o'
    · cases told
      cases told'
      exact .same _
    · cases told'
    · cases told
    · cases told
    · cases told
    · cases told
    · cases told'
    · exact .told told told'
  | _ =>
    cases h
    cases h'
    exact .same _

theorem Answers.alike {x : Step} (h : l.Answers view imageId a x) (h' : l.Answers view imageId a' x) :
    view.Alike a a' := by
  cases x with
  | thumbnail => exact Derives.alike h h'
  | crop => exact Derives.alike h h'
  | openAs => cases h
  | validate => cases h
  | within => cases h
  | _ =>
    cases h
    cases h'
    exact .same _

/-- What a handle of this likeness can answer to steps on it, one after another. -/
inductive AnswersAll (view : View ω σ ν) (imageId : String) :
    Likeness ν → List (Except Failure (Answer ω)) → List Step → Prop
  | nil {l : Likeness ν} : AnswersAll view imageId l [] []
  | cons {l : Likeness ν} {a as x xs} (first : l.Answers view imageId a x)
    (rest : AnswersAll view imageId (l.after x.closes) as xs) : AnswersAll view imageId l (a :: as) (x :: xs)

theorem AnswersAll.alike {as as' : List (Except Failure (Answer ω))} {xs : List Step}
    (h : AnswersAll view imageId l as xs) (h' : AnswersAll view imageId l as' xs) : List.Forall₂ view.Alike as as' := by
  induction h generalizing as' with
  | nil =>
    cases h'
    exact .nil
  | cons first _ ih =>
    cases h' with
    | cons first' rest' => exact .cons (first.alike first') (ih rest')

end Likeness

namespace Session

section
variable [Measured ω] {c : Codec ω σ} {view : View ω σ ν} {s : Session σ} {n : Nat} {l : Likeness ν}

/-- A handle answers by its likeness. -/
theorem perform_answers (stocked : Stocked c view s) (imageId : String) {x : Step} (on : s.handleOf x = some n)
    (depicts : Depicts view s n l) : l.Answers view imageId (perform c imageId s x).outcome x := by
  have of := depicts.entryAt
  obtain ⟨isClosed, facts, text⟩ := of.says (ω := ω) imageId
  cases x with
  | thumbnail name bound fit =>
    have on : s.names name = some n := on
    unfold perform
    rw [on]
    exact (of.thumbnail (stocked.faithful _) bound fit).1
  | crop name target =>
    have on : s.names name = some n := on
    unfold perform
    rw [on]
    exact (of.crop (stocked.faithful _) target).1
  | close name =>
    unfold perform
    show (closeHandle c s (s.names name)).outcome.map _ = _
    rw [stocked.close_outcome]
    rfl
  | isClosed name =>
    have on : s.names name = some n := on
    unfold perform
    show _ = _
    rw [on, isClosed]
  | facts name =>
    have on : s.names name = some n := on
    unfold perform
    show _ = _
    rw [on, facts]
  | describe name =>
    have on : s.names name = some n := on
    unfold perform
    show _ = _
    rw [on, text]
  | openAs => cases on
  | validate => cases on
  | within => cases on

/-- Steps on handles keep all that is said of a session, a handle answers those on it by its likeness, and they close
it or leave it. -/
theorem Stocked.onHandles (stocked : Stocked c view s) (imageId : String) (xs : List Step) (on : ∀ x ∈ xs, x.on?.isSome)
    (depicts : Depicts view s n l) :
    l.AnswersAll view imageId (answersOn c imageId n s xs) (s.stepsOn n xs) ∧
      Depicts view (Session.performAll c imageId s xs).1 n (l.after ((s.stepsOn n xs).any Step.closes)) ∧
      (Session.performAll c imageId s xs).1.names = s.names := by
  induction xs generalizing s l with
  | nil =>
    refine ⟨.nil, ?_, rfl⟩
    show Depicts view s n (l.after false)
    rwa [Likeness.after_false]
  | cons x xs ih =>
    obtain ⟨next, one⟩ := stocked.perform imageId x
    have here := one n l depicts
    have hnames := names_perform c imageId (s := s) (on x List.mem_cons_self)
    rw [any_closes_actsOf c imageId (on x List.mem_cons_self)] at here
    have same : (Session.perform c imageId s x).session.stepsOn n xs = s.stepsOn n xs := by
      unfold stepsOn handleOf
      rw [hnames]
    obtain ⟨answers, last, names⟩ := ih next (fun y hy => on y (List.mem_cons_of_mem x hy)) here
    rw [same] at answers last
    have split : s.stepsOn n (x :: xs) = s.stepsOn n [x] ++ s.stepsOn n xs := List.filter_append [x] xs
    refine ⟨?_, ?_, names.trans hnames⟩
    · by_cases hx : s.handleOf x = some n
      · have mine : s.stepsOn n [x] = [x] := by simp [stepsOn, hx]
        rw [mine] at answers split
        rw [answersOn, if_pos hx, split]
        refine .cons (perform_answers stocked imageId hx depicts) ?_
        simpa using answers
      · have other : s.stepsOn n [x] = [] := by simp [stepsOn, hx]
        rw [other] at answers split
        rw [answersOn, if_neg hx, split]
        simpa using answers
    · rw [split, List.any_append, ← Likeness.after_after]
      exact last

/-- The likeness of a handle that has just been opened. -/
theorem Stocked.depicts_openAs (stocked : Stocked c view s) (imageId name codec : String) (data : Bytes) (budget : Int)
    (config : Config) {facts : Facts} {shut : Bool}
    (opened : (Session.perform c imageId s (.openAs name codec data budget config)).outcome = .ok (.facts facts shut)) :
    ∃ v, Depicts view (Session.perform c imageId s (.openAs name codec data budget config)).session s.entries.length
      (.opened v facts) := by
  have here : (Session.perform c imageId s (.openAs name codec data budget config)).session.entries[s.entries.length]? =
      some ⟨codec, .ofOutcome ((openImage imageId data budget config).run c (s.codecs codec)).outcome⟩ :=
    List.getElem?_concat_length
  generalize ho : ((openImage imageId data budget config).run c (s.codecs codec)).outcome = o at here
  have opened : o.bind (fun _ => (factsAnswer (.ofOutcome o) : Except Failure (Answer ω))) =
      .ok (.facts facts shut) := by
    rw [← ho]
    exact opened
  rcases o with f | ⟨b, facts'⟩
  · cases opened
  · cases opened
    have all := (stocked.perform imageId (.openAs name codec data budget config)).1
    obtain ⟨v, hv⟩ := all.held _ codec b facts here
    exact ⟨v, codec, _, here, .opened hv⟩

/-- On faithful codecs, let any steps come before. Then steps on handles answer alike in every order that keeps the steps
on each handle in theirs; steps that do not close a handle make no difference to what it answers; and an opened handle
keeps its facts, closed once a step on it closes it. -/
theorem order_independent (c : Codec ω σ) (view : View ω σ ν) (codecs : String → σ)
    (faithful : ∀ codec, c.Faithful view (codecs codec)) (imageId : String) (before : List Step) :
    let s := (performAll c imageId { codecs } before).1
    (∀ xs ys, (∀ x ∈ xs, x.on?.isSome) → (∀ y ∈ ys, y.on?.isSome) → (∀ n, s.stepsOn n xs = s.stepsOn n ys) →
      ∀ n, List.Forall₂ view.Alike (answersOn c imageId n s xs) (answersOn c imageId n s ys)) ∧
    (∀ xs x n, (∀ x ∈ xs, x.on?.isSome) → s.handleOf x = some n → (∀ y ∈ s.stepsOn n xs, y.closes = false) →
      view.Alike (perform c imageId (performAll c imageId s xs).1 x).outcome (perform c imageId s x).outcome) ∧
    ∀ name codec data budget config facts shut,
      let t := perform c imageId s (.openAs name codec data budget config)
      t.outcome = .ok (.facts facts shut) → ∀ xs, (∀ x ∈ xs, x.on?.isSome) →
        (perform c imageId (performAll c imageId t.session xs).1 (.facts name)).outcome =
          .ok (.facts facts ((t.session.stepsOn s.entries.length xs).any Step.closes)) := by
  intro s
  have stocked : Stocked c view s := ((stocked_start faithful).performAll imageId before).1
  refine ⟨?_, ?_, ?_⟩
  · intro xs ys onX onY same n
    by_cases hn : n < s.entries.length
    · obtain ⟨l, depicts⟩ := stocked.exists_depicts hn
      have first := (stocked.onHandles imageId xs onX depicts).1
      have second := (stocked.onHandles imageId ys onY depicts).1
      rw [← same n] at second
      exact first.alike second
    · have known : ∀ name, s.names name ≠ some n := fun name hname => hn (stocked.known name n hname)
      rw [answersOn_eq_nil c imageId known onX, answersOn_eq_nil c imageId known onY]
      exact .nil
  · intro xs x n on hx open_
    have hn : n < s.entries.length := by
      obtain ⟨name, -, hname⟩ := Option.bind_eq_some_iff.1 hx
      exact stocked.known name n hname
    obtain ⟨l, depicts⟩ := stocked.exists_depicts hn
    obtain ⟨-, later, names⟩ := stocked.onHandles imageId xs on depicts
    have still : (s.stepsOn n xs).any Step.closes = false := List.any_eq_false.2 fun y hy => by simp [open_ y hy]
    rw [still, Likeness.after_false] at later
    have hx' : (performAll c imageId s xs).1.handleOf x = some n := by
      unfold handleOf at hx ⊢
      rwa [names]
    exact (perform_answers (stocked.performAll imageId xs).1 imageId hx' later).alike
      (perform_answers stocked imageId hx depicts)
  · intro name codec data budget config facts shut t opened xs on
    obtain ⟨v, depicts⟩ := stocked.depicts_openAs imageId name codec data budget config opened
    have next : Stocked c view t.session := (stocked.perform imageId _).1
    obtain ⟨-, later, names⟩ := next.onHandles imageId xs on depicts
    have hname : (performAll c imageId t.session xs).1.handleOf (.facts name) = some s.entries.length := by
      show (performAll c imageId t.session xs).1.names name = _
      rw [names]
      exact if_pos rfl
    have answer : _ = factsAnswer _ := perform_answers (next.performAll imageId xs).1 imageId hname later
    rw [answer]
    cases (t.session.stepsOn s.entries.length xs).any Step.closes <;> rfl

/-- Two images on their sides, and a crop that makes no sense before or after one on the other: the thumbnail is written
from another buffer, and nothing else differs. -/
theorem order_independent_two_handles :
    let script : Script := { header := ⟨⟨40, 30⟩, .jpeg, some 6⟩, sniffed := .jpeg }
    let before : List Step := [.openAs "a" "codec" [] 2000 {}, .openAs "b" "codec" [] 2000 {}]
    let s := (performAll scriptedCodec "image" { codecs := fun _ => { script } } before).1
    let xs : List Step := [.thumbnail "a" ⟨10, 10⟩ true, .crop "b" ⟨0, 5⟩, .crop "b" ⟨4, 5⟩, .close "a", .facts "a"]
    let ys : List Step := [.crop "b" ⟨0, 5⟩, .crop "b" ⟨4, 5⟩, .thumbnail "a" ⟨10, 10⟩ true, .close "a", .facts "a"]
    let t := perform scriptedCodec "image" s (.openAs "c" "codec" [] 2000 {})
    let facts : Facts := ⟨⟨30, 40⟩, { turn := .quarter }, 6, .jpeg, .jpeg⟩
    (∀ n, s.stepsOn n xs = s.stepsOn n ys) ∧
    .encode 4 .jpeg ∈ (performAll scriptedCodec "image" s xs).2.map (·.2.request) ∧
    .encode 6 .jpeg ∈ (performAll scriptedCodec "image" s ys).2.map (·.2.request) ∧
    (∀ n, List.Forall₂ scriptedView.Alike (answersOn scriptedCodec "image" n s xs)
      (answersOn scriptedCodec "image" n s ys)) ∧
    scriptedView.Alike
      (perform scriptedCodec "image" (performAll scriptedCodec "image" s ys).1 (.crop "b" ⟨4, 5⟩)).outcome
      (perform scriptedCodec "image" s (.crop "b" ⟨4, 5⟩)).outcome ∧
    (perform scriptedCodec "image" (performAll scriptedCodec "image" t.session [.close "c"]).1 (.facts "c")).outcome =
      .ok (.facts facts true) := by
  intro script before s xs ys t facts
  obtain ⟨orders, apart, kept⟩ := order_independent scriptedCodec scriptedView (fun _ => { script })
    (fun _ => scriptedCodec_faithful script rfl) "image" before
  have onX : ∀ x ∈ xs, x.on?.isSome := by decide +kernel
  have onY : ∀ y ∈ ys, y.on?.isSome := by decide +kernel
  have same : ∀ n, s.stepsOn n xs = s.stepsOn n ys := by
    rintro (_ | _ | n) <;> rfl
  have opened : t.outcome = .ok (.facts facts false) := by cbv
  exact ⟨same, by decide +kernel, by decide +kernel, orders xs ys onX onY same,
    apart ys _ 1 onY rfl (by decide +kernel),
    kept "c" "codec" [] 2000 {} facts false opened [.close "c"] (by decide +kernel)⟩

end

end Session

end Darkroom
