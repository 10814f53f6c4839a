import Darkroom.Proofs.Memory
/-!
# The life of a handle

A handle is uninitialized, open or closed. Opening an image adds a handle, closing an open one shuts it, and no act does
anything else to any (`Moment.act_change`); a shut handle answers for itself and leaves the codec alone.

`Moment.InCredit`: together, the buffers passed to release and the sources of the open handles were handed out, each as
often as it is among them, whether or not the codec took what was passed to it. So the source of a handle is not passed
to release as long as the handle is open, and not again once it is closed (`handle_lifecycle`).
-/

namespace Darkroom

variable {ω σ : Type}

/-! ## Buffers released -/

/-- The buffer a call passes to release, whatever comes of it. -/
def Call.released? : Call ω → Option BufferId
  | ⟨.release b, _⟩ => some b
  | _ => none

/-- The buffers that calls passed to release, in order. -/
def released (calls : List (Call ω)) : List BufferId := calls.filterMap Call.released?

theorem released_append (calls more : List (Call ω)) : released (calls ++ more) = released calls ++ released more :=
  List.filterMap_append

section
variable {calls : List (Call ω)}

theorem Climb.released_eq {stages b made o} (h : Climb stages b made calls o) : released calls = [] := by
  induction h with
  | arrived => rfl
  | @fell st => cases st <;> rfl
  | @climbed st rest b b' made calls o up ih => cases st <;> exact ih

theorem Clearing.released_prefix {made o} (h : Clearing made calls o) : released calls <+: made := by
  induction h with
  | cleared => exact List.nil_prefix
  | @stuck b rest f => exact List.prefix_append [b] rest
  | @next b rest calls o down ih => exact (List.prefix_append_right_inj [b]).2 ih

/-- An opening hands out its source, which is passed to release at most once and not at all if it is kept. -/
theorem Opening.inCredit {data : Bytes} {limits : Limits} {policy : OutputPolicy}
    {o : Except Failure (BufferId × Facts)} (h : Opening data limits policy calls o) :
    ↑(released calls) + sourceOf o ≤ (↑(handedOut calls) : Multiset BufferId) := by
  cases h with
  | @unjudged header b f admitted cleanup => cases cleanup <;> exact le_rfl
  | opened => exact le_rfl
  | _ => exact le_rfl

theorem Deriving.inCredit {stages source format} {o : Except Failure ω} (h : Deriving stages source format calls o) :
    (↑(released calls) : Multiset BufferId) ≤ ↑(handedOut calls) := by
  have cleared : ∀ {made : List BufferId} {down : List (Call ω)} {o'}, Clearing made down o' →
      (↑(released down) : Multiset BufferId) ≤ ↑made.reverse := by
    intro made down o' clearing
    rw [Multiset.coe_reverse]
    exact Multiset.coe_le.2 clearing.released_prefix.sublist.subperm
  cases h with
  | fell climb clearing =>
    rw [released_append, handedOut_append, climb.released_eq, climb.handedOut_eq.1, clearing.handedOut_eq,
      List.nil_append, List.append_nil]
    exact cleared clearing
  | @written made up down last reply o climb clearing =>
    have hrel : released (⟨.encode last format, reply⟩ :: down) = released down := rfl
    have hout : handedOut ((⟨.encode last format, reply⟩ : Call ω) :: down) = [] := clearing.handedOut_eq
    rw [released_append, handedOut_append, climb.released_eq, climb.handedOut_eq.1, hrel, hout, List.nil_append,
      List.append_nil]
    exact cleared clearing

theorem Carried.inCredit {plan source format} {o : Except Failure ω} (h : Carried plan source format calls o) :
    (↑(released calls) : Multiset BufferId) ≤ ↑(handedOut calls) := by
  cases h with
  | senseless => exact le_rfl
  | carried _ derived => exact derived.inCredit

end

namespace Session

/-! ## What is still to be released -/

section
variable {m : Moment ω σ} {a : Act} {account : Account} {calls : List (Call ω)} {entries : List HandleEntry}
  {budgets : List Int}

/-- An act passes to release what it was handed out, or the source of the handle it closes. -/
theorem Deed.inCredit (deed : Deed m a account calls entries budgets) :
    ↑(released calls) + sourcesOn account.codec entries ≤
      ↑(handedOut calls) + sourcesOn account.codec m.session.entries := by
  cases deed with
  | opened opening =>
    rw [sourcesOn_concat, sourcesOn_opening, ← Multiset.add_assoc]
    exact add_le_add_left opening.inCredit _
  | invalid opening =>
    have nothing := opening.inCredit
    rw [sourceOf, Multiset.add_zero] at nothing
    exact add_le_add_left nothing _
  | @valid codec data budget config calls b facts reply opening =>
    have hrel : released (calls ++ [⟨.release b, reply⟩]) = released calls ++ [b] := released_append ..
    have hout : handedOut (calls ++ [⟨.release b, reply⟩]) = handedOut calls :=
      (handedOut_append ..).trans (List.append_nil _)
    rw [hrel, hout, ← Multiset.coe_add]
    exact add_le_add_left opening.inCredit _
  | thumbnail here carried => exact add_le_add_left carried.inCredit _
  | crop here carried => exact add_le_add_left carried.inCredit _
  | @closed n codec b facts reply here =>
    rw [sourcesOn_close here, ← Multiset.singleton_add]
    exact (Multiset.zero_add _).ge
  | idle => exact le_rfl

/-- On every codec, what was passed to release and the sources of the open handles were handed out, each as often. -/
def Moment.InCredit (m : Moment ω σ) : Prop :=
  ∀ codec, ↑(released (m.callsOn codec)) + sourcesOn codec m.session.entries ≤ ↑(handedOut (m.callsOn codec))

theorem Moment.inCredit_start (codecs : String → σ) : (start codecs : Moment ω σ).InCredit := fun _ => le_rfl

theorem Moment.InCredit.act [Measured ω] (h : m.InCredit) (c : Codec ω σ) (imageId : String) (a : Act) :
    (m.act c imageId a).InCredit := by
  intro codec
  obtain ⟨account, calls, hcalls, deed⟩ := m.act_deed c imageId a
  have before := h codec
  rw [callsOn_append hcalls codec]
  by_cases hc : account.codec = codec
  · subst hc
    rw [if_pos rfl, released_append, handedOut_append, ← Multiset.coe_add, ← Multiset.coe_add, Multiset.add_assoc]
    calc ↑(released (m.callsOn account.codec)) + (↑(released calls) + sourcesOn account.codec _)
      _ ≤ ↑(released (m.callsOn account.codec)) + (↑(handedOut calls) + sourcesOn account.codec m.session.entries) :=
        add_le_add_right deed.inCredit _
      _ = ↑(released (m.callsOn account.codec)) + sourcesOn account.codec m.session.entries + ↑(handedOut calls) := by
        rw [Multiset.add_assoc, Multiset.add_comm (sourcesOn ..)]
      _ ≤ ↑(handedOut (m.callsOn account.codec)) + ↑(handedOut calls) := add_le_add_left before _
  · rw [if_neg hc, List.append_nil, deed.custody_other hc]
    exact before

theorem Moment.InCredit.count_le (h : m.InCredit) (codec : String) (b : BufferId) :
    (released (m.callsOn codec)).count b + (sourcesOn codec m.session.entries).count b ≤
      (handedOut (m.callsOn codec)).count b := by
  have count := Multiset.count_le_of_le b (h codec)
  rwa [Multiset.count_add, Multiset.coe_count, Multiset.coe_count] at count

/-- A buffer that was handed out once is released once at most, and not as long as it is the source of a handle. -/
theorem Moment.InCredit.released_once (h : m.InCredit) {codec : String} {b : BufferId}
    (once : (handedOut (m.callsOn codec)).count b = 1) : (released (m.callsOn codec)).count b ≤ 1 ∧
      (b ∈ sourcesOn codec m.session.entries → b ∉ released (m.callsOn codec)) := by
  have count := h.count_le codec b
  rw [once] at count
  refine ⟨(Nat.le_add_right _ _).trans count, ?_⟩
  intro kept again
  have := Multiset.count_pos.2 kept
  have := List.count_pos_iff.2 again
  omega

/-! ## Changes of a handle -/

/-- What an act that leads from `m` to `m'` does to the handle of a number. -/
inductive Change [Measured ω] (c : Codec ω σ) (imageId : String) (m m' : Moment ω σ) (n : Nat) : Act → Prop
  | kept {act} (same : m'.session.entries[n]? = m.session.entries[n]?) : Change c imageId m m' n act
  | constructed {name codec data budget config} (before : m.session.entries[n]? = none)
      (after : m'.session.entries[n]? = some ⟨codec, .ofOutcome
        ((openImage imageId data budget config).run c (m.session.codecs codec)).outcome⟩) :
      Change c imageId m m' n (.openAs name codec data budget config)
  | closed {codec b facts} (reply : Except Failure Unit)
      (before : m.session.entries[n]? = some ⟨codec, .opened b facts⟩)
      (after : m'.session.entries[n]? = some ⟨codec, .closed facts⟩)
      (calls : m'.calls = m.calls ++ [(⟨codec, some n, m.budgetOf (some n)⟩, ⟨.release b, reply⟩)]) :
      Change c imageId m m' n (.close (some n))

theorem Deed.of_close {handle : Option Nat} (deed : Deed m (.close handle) account calls entries budgets) (n : Nat) :
    entries[n]? = m.session.entries[n]? ∨ ∃ codec b facts reply, handle = some n ∧
      m.session.entries[n]? = some ⟨codec, .opened b facts⟩ ∧ entries[n]? = some ⟨codec, .closed facts⟩ ∧
      account = ⟨codec, some n, m.budgetOf (some n)⟩ ∧ calls = [⟨.release b, reply⟩] := by
  cases deed with
  | @closed k codec b facts reply here =>
    by_cases hk : k = n
    · subst hk
      obtain ⟨hlt, -⟩ := List.getElem?_eq_some_iff.1 here
      exact .inr ⟨codec, b, facts, reply, rfl, here, List.getElem?_set_self hlt, rfl, rfl⟩
    · exact .inl (List.getElem?_set_ne hk)
  | idle => exact .inl rfl

theorem Moment.act_change [Measured ω] (c : Codec ω σ) (imageId : String) (m : Moment ω σ) (a : Act) (n : Nat) :
    Change c imageId m (m.act c imageId a) n a := by
  cases a with
  | openAs name codec data budget config =>
    have after : (m.act c imageId (.openAs name codec data budget config)).session.entries = m.session.entries ++
        [⟨codec, .ofOutcome ((openImage imageId data budget config).run c (m.session.codecs codec)).outcome⟩] := rfl
    by_cases next : n = m.session.entries.length
    · subst next
      exact .constructed (List.getElem?_eq_none le_rfl) (by rw [after, List.getElem?_concat_length])
    · refine .kept ?_
      rw [after]
      rcases Nat.lt_or_gt_of_ne next with before | beyond
      · exact List.getElem?_append_left before
      · rw [List.getElem?_eq_none beyond.le, List.getElem?_eq_none]
        simpa [Nat.succ_le_iff] using beyond
  | validate => exact .kept rfl
  | thumbnail => exact .kept rfl
  | crop => exact .kept rfl
  | close handle =>
    obtain ⟨account, calls, hcalls, deed⟩ := m.act_deed c imageId (.close handle)
    rcases deed.of_close n with same | ⟨codec, b, facts, reply, rfl, before, after, rfl, rfl⟩
    · exact .kept same
    · exact .closed reply before after hcalls

theorem Change.of_isClosed [Measured ω] {c : Codec ω σ} {imageId : String} {m' : Moment ω σ} {n : Nat}
    {entry : HandleEntry} (change : Change c imageId m m' n a) (shut : entry.handle.isClosed)
    (here : m.session.entries[n]? = some entry) : m'.session.entries[n]? = some entry := by
  cases change with
  | kept same => exact same.trans here
  | constructed before => rw [here] at before; cases before
  | closed reply before => rw [here] at before; cases before; cases shut

/-! ## What becomes of a handle -/

/-- What a handle has come to at a later moment. An open one is as it was, or closed after its source was passed to
release; a shut one is as it was. -/
def BecomesAt (m : Moment ω σ) (n : Nat) : HandleEntry → Prop
  | ⟨codec, .opened b facts⟩ => m.session.entries[n]? = some ⟨codec, .opened b facts⟩ ∨
    m.session.entries[n]? = some ⟨codec, .closed facts⟩ ∧ b ∈ released (m.callsOn codec)
  | shut => m.session.entries[n]? = some shut

variable {n : Nat} {entry : HandleEntry}

theorem becomesAt_of_here (here : m.session.entries[n]? = some entry) : BecomesAt m n entry := by
  obtain ⟨codec, handle⟩ := entry
  cases handle with
  | opened => exact .inl here
  | _ => exact here

theorem BecomesAt.act [Measured ω] (h : BecomesAt m n entry) (c : Codec ω σ) (imageId : String) (a : Act) :
    BecomesAt (m.act c imageId a) n entry := by
  have change := m.act_change c imageId a n
  obtain ⟨account, calls, hcalls, -⟩ := m.act_deed c imageId a
  generalize m.act c imageId a = m' at change hcalls
  obtain ⟨codec, handle⟩ := entry
  cases handle with
  | uninitialized => exact change.of_isClosed rfl h
  | closed facts => exact change.of_isClosed rfl h
  | opened b facts =>
    rcases h with here | ⟨shut, passed⟩
    · cases change with
      | kept same => exact .inl (same.trans here)
      | constructed before => rw [here] at before; cases before
      | closed reply before after ours =>
        -- the one call that closing makes is the release
        rw [here] at before
        cases before
        refine .inr ⟨after, ?_⟩
        have ours' : m'.calls = m.calls ++ [⟨.release b, reply⟩].map (⟨codec, some n, m.budgetOf (some n)⟩, ·) := ours
        rw [Moment.callsOn_append ours', if_pos rfl, released_append]
        exact List.mem_append_right _ (List.mem_singleton_self b)
    · refine .inr ⟨change.of_isClosed rfl shut, ?_⟩
      rw [Moment.callsOn_append hcalls, released_append]
      exact List.mem_append_left _ passed

theorem Moment.drop_visits [Measured ω] (c : Codec ω σ) (imageId : String) {m m' : Moment ω σ} {as : List Act} {i : Nat}
    (h : (m.visits c imageId as)[i]? = some m') :
    (m.visits c imageId as).drop i = m'.visits c imageId (as.drop i) := by
  induction as generalizing m i with
  | nil =>
    cases i with
    | zero => cases h; rfl
    | succ i => cases h
  | cons a as ih =>
    cases i with
    | zero => cases h; rfl
    | succ i => exact ih h

end

/-! ## Shut handles -/

section
variable (c : Codec ω σ)

theorem setCodec_self (s : Session σ) (name : String) : s.setCodec name (s.codecs name) = s := by
  unfold setCodec
  congr
  funext n
  split
  · next h => rw [h]
  · rfl

theorem closeHandle_of_isClosed {s : Session σ} {handle : Option Nat} (shut : (s.entryAt handle).handle.isClosed) :
    closeHandle c s handle = ⟨.ok (), s, [], []⟩ := by
  simp only [closeHandle, work, Handle.close_of_isClosed shut, Handle.afterClose_of_isClosed shut, setHandle_self,
    Work.run_done, setCodec_self, List.map_nil]

theorem isClosed_closeHandle (s : Session σ) (handle : Option Nat) :
    ((closeHandle c s handle).session.entryAt handle).handle.isClosed := by
  rcases s.entryAt_cases handle with ⟨n, codec, b, facts, rfl, here, hentry⟩ | shut
  · obtain ⟨hlt, -⟩ := List.getElem?_eq_some_iff.1 here
    have after : (closeHandle c s (some n)).session.entries = s.entries.set n ⟨codec, .closed facts⟩ := by
      simp only [closeHandle, work, setCodec, setHandle, hentry]
      rfl
    rw [entryAt, after, Option.bind_some, List.getElem?_set_self hlt]
    rfl
  · rw [closeHandle_of_isClosed c shut]
    exact shut

variable [Measured ω] (imageId : String)

/-- A shut handle answers for itself: nothing is asked of the codec, and nothing changes. -/
theorem perform_of_isClosed {s : Session σ} {name : String} (shut : (s.entryAt (s.names name)).handle.isClosed) :
    (∀ bound fit, perform c imageId s (.thumbnail name bound fit) = ⟨.error .closedImage, s, [], []⟩) ∧
    (∀ target, perform c imageId s (.crop name target) = ⟨.error .closedImage, s, [], []⟩) ∧
    perform c imageId s (.close name) = ⟨.ok .nothing, s, [], []⟩ := by
  unfold perform
  refine ⟨?_, ?_, ?_⟩
  · intro bound fit
    simp only [work, Handle.thumbnail_of_isClosed shut, Work.run_fail, setCodec_self]
    rfl
  · intro target
    simp only [work, Handle.crop_of_isClosed shut, Work.run_fail, setCodec_self]
    rfl
  · rw [closeHandle_of_isClosed c shut]
    rfl

end

/-- Wherever the codec fails, releases included: an act leaves a handle as it is, adds a new one or closes one for its
source to be released; from any moment on, an open handle stays open or was closed, and a shut one stays shut; no buffer
is released more often than it was handed out, so that a source handed out once is released once at most and not before
its handle is closed; a shut handle answers for itself; and closing a handle shuts it, as does leaving a block. -/
theorem handle_lifecycle [Measured ω] (c : Codec ω σ) (codecs : String → σ) (imageId : String) (steps : List Step) :
    (∀ (m : Moment ω σ) (a : Act) (n : Nat), Change c imageId m (m.act c imageId a) n a) ∧
    (∀ i m, (moments c imageId codecs steps)[i]? = some m → ∀ m' ∈ (moments c imageId codecs steps).drop i,
      ∀ n entry, m.session.entries[n]? = some entry → BecomesAt m' n entry) ∧
    (∀ m ∈ moments c imageId codecs steps, ∀ codec b,
      (released (m.callsOn codec)).count b + (sourcesOn codec m.session.entries).count b ≤
        (handedOut (m.callsOn codec)).count b ∧
      ((handedOut (m.callsOn codec)).count b = 1 → (released (m.callsOn codec)).count b ≤ 1 ∧
        (b ∈ sourcesOn codec m.session.entries → b ∉ released (m.callsOn codec)))) ∧
    (∀ (s : Session σ) (name : String), (s.entryAt (s.names name)).handle.isClosed →
      (∀ bound fit, perform c imageId s (.thumbnail name bound fit) = ⟨.error .closedImage, s, [], []⟩) ∧
      (∀ target, perform c imageId s (.crop name target) = ⟨.error .closedImage, s, [], []⟩) ∧
      perform c imageId s (.close name) = ⟨.ok .nothing, s, [], []⟩) ∧
    (∀ (s : Session σ) (name : String),
      ((perform c imageId s (.close name)).session.entryAt (s.names name)).handle.isClosed ∧
      ∀ inside failure,
        ((perform c imageId s (.within name inside failure)).session.entryAt (s.names name)).handle.isClosed) ∧
    ∃ m ∈ moments c imageId codecs steps, m.session = (performAll c imageId { codecs } steps).1 ∧
      m.trace = (performAll c imageId { codecs } steps).2 := by
  refine ⟨fun m a n => m.act_change c imageId a n, ?_, ?_, fun s name => perform_of_isClosed c imageId, ?_,
    exists_last_moment c imageId codecs steps⟩
  · intro i m hm m' later n entry here
    rw [moments, Moment.drop_visits c imageId hm] at later
    exact Moment.visits_keep c imageId (P := fun m => BecomesAt m n entry) (fun _ a h => h.act c imageId a)
      (becomesAt_of_here here) _ m' later
  · intro m hm codec b
    have credit := Moment.visits_keep c imageId (P := Moment.InCredit) (fun _ a h => h.act c imageId a)
      (Moment.inCredit_start codecs) _ m hm
    exact ⟨credit.count_le codec b, credit.released_once⟩
  · intro s name
    unfold perform
    exact ⟨isClosed_closeHandle c _ _, fun inside failure => isClosed_closeHandle c _ _⟩

/-- A close inside a block, whose release fails: the handle is closed nevertheless, and leaving the block and closing it
once more do not release its source a second time. -/
theorem handle_lifecycle_failing_release :
    let script : Script := { header := ⟨⟨40, 30⟩, .jpeg, some 6⟩, sniffed := .jpeg,
                             faults := [⟨.release, 3, ⟨.runtime, "busy"⟩⟩] }
    let steps : List Step := [.openAs "a" "codec" [] 2000 {},
      .within "a" [.thumbnail "a" ⟨10, 10⟩ true, .close "a"] none, .close "a"]
    let all := moments scriptedCodec "image" (fun _ => { script }) steps
    let facts : Facts := ⟨⟨30, 40⟩, { turn := .quarter }, 6, .jpeg, .jpeg⟩
    ∃ m ∈ all[1]?, ∃ m' ∈ all.drop 5, m.session.entries[0]? = some ⟨"codec", .opened 1 facts⟩ ∧
      m'.session.entries[0]? = some ⟨"codec", .closed facts⟩ ∧
      (handedOut (m'.callsOn "codec")).count 1 = 1 ∧ (released (m'.callsOn "codec")).count 1 = 1 ∧
      perform scriptedCodec "image" m'.session (.crop "a" ⟨5, 5⟩) = ⟨.error .closedImage, m'.session, [], []⟩ := by
  intro script steps all facts
  obtain ⟨-, becomes, once, shut, -⟩ := handle_lifecycle scriptedCodec (fun _ => { script }) "image" steps
  obtain ⟨m, hm, here⟩ : ∃ m ∈ all[1]?, m.session.entries[0]? = some ⟨"codec", .opened 1 facts⟩ := by decide +kernel
  obtain ⟨m', last, handed, isClosed, notOpen⟩ : ∃ m' ∈ all.drop 5, (handedOut (m'.callsOn "codec")).count 1 = 1 ∧
      (m'.session.entryAt (m'.session.names "a")).handle.isClosed ∧
      m'.session.entries[0]? ≠ some ⟨"codec", .opened 1 facts⟩ := by decide +kernel
  have later : m' ∈ all.drop 1 := List.mem_of_mem_drop (i := 4) (by rwa [List.drop_drop])
  obtain ⟨after, passed⟩ := (becomes 1 m hm m' later 0 _ here).resolve_left notOpen
  obtain ⟨most, -⟩ := (once m' (List.mem_of_mem_drop last) "codec" 1).2 handed
  exact ⟨m, hm, m', last, here, after, handed, le_antisymm most (List.count_pos_iff.2 passed),
    (shut m'.session "a" isClosed).2.1 ⟨5, 5⟩⟩

end Session

end Darkroom
