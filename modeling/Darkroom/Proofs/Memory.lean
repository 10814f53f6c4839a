import Darkroom.Proofs.Ownership
import Darkroom.Proofs.Sizes
import Mathlib.Algebra.Order.BigOperators.Group.Multiset
/-!
# Memory in use

Calls never leave more buffers in use than were in use before or were handed out (`heldAfter_le`). An account keeps at
most the source of its handle between acts, and an act hands out at most two buffers more, none of them larger than the
budget; so these are bounds at every call, and not only between acts (`memory_bounded`).
-/

namespace Darkroom

variable {ω σ : Type}

/-! ## Buffers handed out -/

theorem heldAfter_le (held : Multiset BufferId) (calls : List (Call ω)) :
    heldAfter held calls ≤ ↑(handedOut calls) + held := by
  induction calls generalizing held with
  | nil => simp [handedOut]
  | cons call calls ih =>
    have later := ih (call.settle held)
    rw [heldAfter_cons]
    cases hmade : call.made? with
    | some b =>
      have hsettle : call.settle held = b ::ₘ held := by rw [Call.settle, hmade]
      have hout : handedOut (call :: calls) = b :: handedOut calls := List.filterMap_cons_some hmade
      rw [hsettle] at later ⊢
      rw [hout, ← Multiset.cons_coe, Multiset.cons_add, ← Multiset.add_cons]
      exact later
    | none =>
      have hout : handedOut (call :: calls) = handedOut calls := List.filterMap_cons_none hmade
      have hsettle : call.settle held ≤ held := by
        rw [Call.settle, hmade]
        dsimp only
        split
        · exact Multiset.erase_le ..
        · exact le_rfl
      rw [hout]
      exact later.trans (add_le_add_right hsettle _)

/-- However far the calls have come. -/
theorem heldAfter_le_so_far (held : Multiset BufferId) {part calls : List (Call ω)} (h : part <+: calls) :
    heldAfter held part ≤ ↑(handedOut calls) + held := by
  have sub : (handedOut part).Sublist (handedOut calls) := h.sublist.filterMap _
  exact (heldAfter_le held part).trans (add_le_add_left (Multiset.coe_le.2 sub.subperm) held)

theorem Climb.handedOut_eq {stages b made o} {calls : List (Call ω)} (h : Climb stages b made calls o) :
    handedOut calls = made.reverse ∧ made.length ≤ stages.length := by
  induction h with
  | arrived => exact ⟨rfl, Nat.le_refl 0⟩
  | @fell st rest b f => exact ⟨by cases st <;> rfl, Nat.zero_le _⟩
  | @climbed st rest b b' made calls o up ih =>
    have hmade : (st.call b (.ok b') : Call ω).made? = some b' := by cases st <;> rfl
    rw [handedOut, List.filterMap_cons_some hmade, ← handedOut, ih.1]
    simpa using ih.2

theorem Clearing.handedOut_eq {made o} {calls : List (Call ω)} (h : Clearing made calls o) : handedOut calls = [] := by
  induction h with
  | cleared => rfl
  | stuck => rfl
  | next down ih => exact ih

/-! ## Fitting a budget -/

/-- At most so many buffers, and none of them larger than the budget. -/
structure Fits (size : BufferId → Dimensions) (budget : Int) (most : Nat) (held : Multiset BufferId) : Prop where
  card_le : held.card ≤ most
  pixels_le : ∀ b ∈ held, (size b).pixels ≤ budget

section Fits
variable {size : BufferId → Dimensions} {budget : Int} {most more : Nat} {held held' : Multiset BufferId}
  {calls : List (Call ω)}

theorem fits_zero : Fits size budget most 0 := ⟨Nat.zero_le _, fun b hb => absurd hb (Multiset.notMem_zero b)⟩

theorem Fits.of_le (h : Fits size budget most held') (hle : held ≤ held') : Fits size budget most held :=
  ⟨(Multiset.card_le_card hle).trans h.card_le, fun b hb => h.pixels_le b (Multiset.mem_of_le hle hb)⟩

theorem Fits.add (h : Fits size budget most held) (h' : Fits size budget more held') :
    Fits size budget (most + more) (held + held') := by
  refine ⟨?_, ?_⟩
  · rw [Multiset.card_add]
    exact Nat.add_le_add h.card_le h'.card_le
  · intro b hb
    exact (Multiset.mem_add.1 hb).elim (h.pixels_le b) (h'.pixels_le b)

theorem Fits.weaken (h : Fits size budget most held) (hm : most ≤ more) : Fits size budget more held :=
  ⟨h.card_le.trans hm, h.pixels_le⟩

theorem Fits.raise {budget' : Int} (h : Fits size budget most held) (hb : budget ≤ budget') :
    Fits size budget' most held :=
  ⟨h.card_le, fun b hm => (h.pixels_le b hm).trans hb⟩

/-- All buffers together. -/
theorem Fits.sum_le (h : Fits size budget most held) :
    (held.map fun b => (size b).pixels).sum ≤ most * max 0 budget := by
  have each : ∀ p ∈ held.map fun b => (size b).pixels, p ≤ max 0 budget := by
    intro p hp
    obtain ⟨b, hb, rfl⟩ := Multiset.mem_map.1 hp
    exact (h.pixels_le b hb).trans (le_max_right ..)
  have all := Multiset.sum_le_card_nsmul _ _ each
  rw [Multiset.card_map, nsmul_eq_mul] at all
  have few : (held.card : Int) ≤ most := by exact_mod_cast h.card_le
  exact all.trans (mul_le_mul_of_nonneg_right few (le_max_left ..))

theorem Opening.fits {data : Bytes} {limits : Limits} {policy : OutputPolicy}
    {o : Except Failure (BufferId × Facts)} (h : Opening data limits policy calls o) (follow : SizesFollow size calls) :
    Fits size limits.budget 1 (handedOut calls) := by
  have source : ∀ {header : Header} {b}, header.Admissible limits →
      [⟨.decodeHeader data, .ok header⟩, ⟨.decodeFull data, .ok b⟩] <:+: calls → Fits size limits.budget 1 {b} := by
    intro header b admitted read
    refine ⟨Nat.le_refl 1, ?_⟩
    intro b' hb
    rw [Multiset.mem_singleton.1 hb, follow.decoded read, ← header.raw.pixels_after]
    exact admitted.pixels_le
  cases h with
  | @unjudged header b f admitted cleanup =>
    exact source admitted ⟨[⟨.sniff data, .ok header.format⟩], [_, _], rfl⟩
  | @opened header b transparent admitted =>
    exact source admitted ⟨[⟨.sniff data, .ok header.format⟩], [_], rfl⟩
  | _ => exact fits_zero

theorem Deriving.fits {facts : Facts} {stages source format} {o : Except Failure ω}
    (h : Deriving stages source format calls o) (follow : SizesFollow size calls)
    (modest : Modest facts (size source) stages) : Fits size facts.dimensions.pixels 2 (handedOut calls) := by
  have climbed : ∀ {made up o'}, Climb stages source made up o' → up <:+: calls →
      Fits size facts.dimensions.pixels 2 ↑made.reverse := by
    intro made up o' climb sub
    refine ⟨?_, ?_⟩
    · rw [Multiset.coe_card, List.length_reverse]
      exact climb.handedOut_eq.2.trans modest.length_le
    · intro b hb
      exact modest.pixels_le _ ((climb.sizes (follow.restrict sub)).1 b (List.mem_reverse.1 hb))
  cases h with
  | fell climb clearing =>
    rw [handedOut_append, climb.handedOut_eq.1, clearing.handedOut_eq, List.append_nil]
    exact climbed climb (List.prefix_append ..).isInfix
  | @written made up down last reply cleared climb clearing =>
    have hout : handedOut ((⟨.encode last format, reply⟩ : Call ω) :: down) = [] := clearing.handedOut_eq
    rw [handedOut_append, climb.handedOut_eq.1, hout, List.append_nil]
    exact climbed climb (List.prefix_append ..).isInfix

theorem Carried.fits {facts : Facts} {plan source format} {o : Except Failure ω}
    (h : Carried plan source format calls o) (follow : SizesFollow size calls)
    (modest : ∀ stages, plan = .ok stages → Modest facts (size source) stages) :
    Fits size facts.dimensions.pixels 2 (handedOut calls) := by
  cases h with
  | senseless => exact fits_zero
  | carried plan derived => exact derived.fits follow (modest _ plan)

end Fits

namespace Session

/-! ## Accounts -/

/-- The calls made for an account. -/
def callsFor (account : Account) (calls : List (Account × Call ω)) : List (Call ω) :=
  (calls.filter (·.1 = account)).map (·.2)

theorem callsFor_append (account : Account) (calls more : List (Account × Call ω)) :
    callsFor account (calls ++ more) = callsFor account calls ++ callsFor account more := by
  rw [callsFor, List.filter_append, List.map_append]
  rfl

theorem callsFor_map_self (account : Account) (calls : List (Call ω)) :
    callsFor account (calls.map (account, ·)) = calls := by
  simp [callsFor, List.filter_map, Function.comp_def]

theorem callsFor_map_other {account other : Account} (h : account ≠ other) (calls : List (Call ω)) :
    callsFor other (calls.map (account, ·)) = [] := by
  simp [callsFor, List.filter_map, Function.comp_def, h]

/-- The buffer an account keeps between acts: the source of its handle, as long as that is open. -/
def keptBy (entries : List HandleEntry) (budgets : List Int) (account : Account) : Option BufferId :=
  account.handle.bind fun n =>
    if budgets[n]? = some account.budget then entries[n]?.bind (·.sourceOn? account.codec) else none

theorem keptBy_eq_some_iff {entries : List HandleEntry} {budgets : List Int} {account : Account} {b : BufferId} :
    keptBy entries budgets account = some b ↔ ∃ n facts, account.handle = some n ∧
      budgets[n]? = some account.budget ∧ entries[n]? = some ⟨account.codec, .opened b facts⟩ := by
  unfold keptBy
  constructor
  · intro h
    obtain ⟨n, hn, h⟩ := Option.bind_eq_some_iff.1 h
    split at h
    · next hbudget =>
      obtain ⟨⟨codec, handle⟩, hentry, h⟩ := Option.bind_eq_some_iff.1 h
      unfold HandleEntry.sourceOn? at h
      split at h
      · next hcodec =>
        cases handle with
        | opened b' facts => cases h; cases hcodec; exact ⟨n, facts, hn, hbudget, hentry⟩
        | _ => cases h
      · cases h
    · cases h
  · rintro ⟨n, facts, hn, hbudget, hentry⟩
    simp [hn, hbudget, hentry, HandleEntry.sourceOn?, Handle.source?]

/-- What is in use for an account between acts. -/
def holding (entries : List HandleEntry) (budgets : List Int) (account : Account) : Multiset BufferId :=
  ↑(keptBy entries budgets account).toList

section
variable {m : Moment ω σ} {a : Act} {account other : Account} {calls : List (Call ω)} {entries : List HandleEntry}
  {budgets : List Int}

/-- An act leaves every handle as it is, or closes it for its own account. Budgets stay. -/
theorem Deed.entry_before (deed : Deed m a account calls entries budgets)
    (h : m.budgets.length = m.session.entries.length) {n : Nat} {entry : HandleEntry}
    (here : m.session.entries[n]? = some entry) : budgets[n]? = m.budgets[n]? ∧ (entries[n]? = some entry ∨
      ∃ facts, entries[n]? = some ⟨entry.codec, .closed facts⟩ ∧
        account = ⟨entry.codec, some n, m.budgetOf (some n)⟩) := by
  obtain ⟨hn, -⟩ := List.getElem?_eq_some_iff.1 here
  cases deed with
  | opened => exact ⟨List.getElem?_append_left (h ▸ hn), .inl (by rw [List.getElem?_append_left hn, here])⟩
  | @closed k codec b facts reply there =>
    refine ⟨rfl, ?_⟩
    by_cases hk : k = n
    · subst hk
      obtain rfl := Option.some.inj (there.symm.trans here)
      exact .inr ⟨facts, List.getElem?_set_self hn, rfl⟩
    · exact .inl (by rw [List.getElem?_set_ne hk, here])
  | _ => exact ⟨rfl, .inl here⟩

/-- An act changes what is kept for its own account only. -/
theorem Deed.keptBy_other (deed : Deed m a account calls entries budgets)
    (h : m.budgets.length = m.session.entries.length) (ne : account ≠ other) :
    keptBy entries budgets other = keptBy m.session.entries m.budgets other := by
  obtain ⟨codec, handle, budget⟩ := other
  refine Option.ext fun b => ?_
  rw [keptBy_eq_some_iff, keptBy_eq_some_iff]
  constructor
  · rintro ⟨n, facts, rfl, hbudget, hentry⟩
    rcases deed.open_after h hentry with ⟨before, same⟩ | ⟨ours, same, -⟩
    · exact ⟨n, facts, rfl, same ▸ hbudget, before⟩
    · rw [same] at hbudget
      cases hbudget
      exact absurd ours ne
  · rintro ⟨n, facts, rfl, hbudget, hentry⟩
    obtain ⟨same, after | ⟨-, -, ours⟩⟩ := deed.entry_before h hentry
    · exact ⟨n, facts, rfl, same ▸ hbudget, after⟩
    · have : m.budgetOf (some n) = budget := by simp [Moment.budgetOf, hbudget]
      rw [this] at ours
      exact absurd ours ne

theorem Moment.getElem?_budgets (h : m.budgets.length = m.session.entries.length) {n : Nat} {entry : HandleEntry}
    (here : m.session.entries[n]? = some entry) : m.budgets[n]? = some (m.budgetOf (some n)) := by
  obtain ⟨hn, -⟩ := List.getElem?_eq_some_iff.1 here
  rw [← h] at hn
  simp [budgetOf, hn]

theorem holding_of_open (h : m.budgets.length = m.session.entries.length) {n : Nat} {codec : String} {b : BufferId}
    {facts : Facts} (here : m.session.entries[n]? = some ⟨codec, .opened b facts⟩) :
    holding m.session.entries m.budgets ⟨codec, some n, m.budgetOf (some n)⟩ = {b} := by
  rw [holding, keptBy_eq_some_iff.2 ⟨n, facts, rfl, Moment.getElem?_budgets h here, here⟩]
  rfl

theorem holding_of_validation (entries : List HandleEntry) (budgets : List Int) (codec : String) (budget : Int) :
    holding entries budgets ⟨codec, none, budget⟩ = 0 := rfl

/-- The calls of an act turn what its account held before into what it keeps afterwards. -/
theorem Deed.holding_after (deed : Deed m a account calls entries budgets)
    (h : m.budgets.length = m.session.entries.length) (quiet : Untroubled calls) :
    heldAfter (holding m.session.entries m.budgets account) calls = holding entries budgets account := by
  cases deed with
  | @opened name codec data budget config calls o opening =>
    have before : holding m.session.entries m.budgets ⟨codec, some m.session.entries.length, budget⟩ = 0 := by
      simp [holding, keptBy]
    have after : holding (m.session.entries ++ [⟨codec, .ofOutcome o⟩]) (m.budgets ++ [budget])
        ⟨codec, some m.session.entries.length, budget⟩ = sourceOf o := by
      have hbudget : (m.budgets ++ [budget])[m.session.entries.length]? = some budget := by
        rw [← h, List.getElem?_concat_length]
      cases o <;>
        simp [holding, keptBy, hbudget, HandleEntry.sourceOn?, Handle.ofOutcome, Handle.source?, sourceOf]
    rw [before, after, (opening.custody 0 quiet).1, Multiset.add_zero]
  | invalid opening =>
    rw [holding_of_validation, (opening.custody 0 quiet).1]
    rfl
  | valid reply opening =>
    rw [holding_of_validation, heldAfter_append, (opening.custody 0 quiet.of_append.1).1]
    exact (release_custody 0 _ reply quiet.of_append.2).1
  | thumbnail here carried => exact (carried.custody _ quiet).1
  | crop here carried => exact (carried.custody _ quiet).1
  | @closed n codec b facts reply here =>
    obtain ⟨hn, -⟩ := List.getElem?_eq_some_iff.1 here
    have after : holding (m.session.entries.set n ⟨codec, .closed facts⟩) m.budgets
        ⟨codec, some n, m.budgetOf (some n)⟩ = 0 := by
      simp [holding, keptBy, hn, HandleEntry.sourceOn?, Handle.source?]
    rw [holding_of_open h here, after]
    exact (release_custody 0 b reply quiet).1
  | idle => rfl

/-- What is kept between acts is one buffer that fits. -/
theorem Moment.Vouched.fits (h : m.Vouched) {size : BufferId → Dimensions}
    (follow : SizesFollow size (m.callsOn account.codec)) :
    Fits size account.budget 1 (holding m.session.entries m.budgets account) := by
  unfold holding
  cases hkept : keptBy m.session.entries m.budgets account with
  | none => exact fits_zero
  | some b =>
    obtain ⟨n, facts, hn, hbudget, hentry⟩ := keptBy_eq_some_iff.1 hkept
    have hsame : m.budgetOf (some n) = account.budget := by simp [budgetOf, hbudget]
    obtain ⟨hturned, -, hpixels⟩ := (h.opened n _ b facts hentry).display follow
    refine ⟨Nat.le_refl 1, ?_⟩
    intro b' hb
    rw [Multiset.mem_singleton.1 hb, ← (size b).pixels_after, hturned, ← hsame]
    exact hpixels

/-- What an act hands out fits together with what was kept before it. -/
theorem Deed.fits (deed : Deed m a account calls entries budgets) (vouched : m.Vouched) {size : BufferId → Dimensions}
    (follow : SizesFollow size (m.callsOn account.codec ++ calls)) :
    Fits size account.budget 3 (↑(handedOut calls) + holding m.session.entries m.budgets account) := by
  have kept := vouched.fits (follow.restrict (List.prefix_append ..).isInfix)
  have ours := follow.restrict (List.suffix_append ..).isInfix
  cases deed with
  | opened opening => exact ((opening.fits ours).add kept).weaken (by decide)
  | invalid opening => exact ((opening.fits ours).add kept).weaken (by decide)
  | @valid codec data budget config calls b facts reply opening =>
    rw [handedOut_append]
    have made := opening.fits (ours.restrict (List.prefix_append ..).isInfix)
    have nothing : handedOut [(⟨.release b, reply⟩ : Call ω)] = [] := rfl
    rw [nothing, List.append_nil]
    exact (made.add kept).weaken (by decide)
  | @thumbnail n codec b facts bound fit calls o here carried =>
    obtain ⟨hturned, -, hpixels⟩ := (vouched.opened n _ b facts here).display
      (follow.restrict (List.prefix_append ..).isInfix)
    have made := carried.fits ours fun stages plan => thumbnail_modest hturned plan
    exact (made.raise hpixels).add kept
  | @crop n codec b facts target calls o here carried =>
    obtain ⟨hturned, -, hpixels⟩ := (vouched.opened n _ b facts here).display
      (follow.restrict (List.prefix_append ..).isInfix)
    have made := carried.fits ours fun stages plan => crop_modest hturned plan
    exact (made.raise hpixels).add kept
  | closed => exact (Multiset.zero_add _).symm ▸ kept.weaken (by decide)
  | idle => exact (Multiset.zero_add _).symm ▸ kept.weaken (by decide)

/-! ## Whose calls they are -/

/-- The calls for a handle are made on the codec it is open on, and under the budget it was opened with. -/
def Moment.Accounted (m : Moment ω σ) : Prop :=
  ∀ x ∈ m.calls, ∀ n, x.1.handle = some n →
    (∃ entry, m.session.entries[n]? = some entry ∧ entry.codec = x.1.codec) ∧ m.budgets[n]? = some x.1.budget

theorem Deed.accounted (deed : Deed m a account calls entries budgets)
    (h : m.budgets.length = m.session.entries.length) {call : Call ω} (hcall : call ∈ calls) {n : Nat}
    (hn : account.handle = some n) :
    (∃ entry, entries[n]? = some entry ∧ entry.codec = account.codec) ∧ budgets[n]? = some account.budget := by
  cases deed with
  | opened =>
    cases hn
    exact ⟨⟨_, List.getElem?_concat_length, rfl⟩, by rw [← h, List.getElem?_concat_length]⟩
  | invalid => cases hn
  | valid => cases hn
  | thumbnail here => cases hn; exact ⟨⟨_, here, rfl⟩, Moment.getElem?_budgets h here⟩
  | crop here => cases hn; exact ⟨⟨_, here, rfl⟩, Moment.getElem?_budgets h here⟩
  | closed reply here =>
    cases hn
    obtain ⟨hlt, -⟩ := List.getElem?_eq_some_iff.1 here
    exact ⟨⟨_, List.getElem?_set_self hlt, rfl⟩, Moment.getElem?_budgets h here⟩
  | idle => cases hcall

theorem Moment.Accounted.act [Measured ω] (h : m.Accounted) (vouched : m.Vouched) (c : Codec ω σ) (imageId : String)
    (a : Act) : (m.act c imageId a).Accounted := by
  obtain ⟨account, calls, hcalls, deed⟩ := m.act_deed c imageId a
  intro x hx n hn
  rw [hcalls] at hx
  rcases List.mem_append.1 hx with hx | hx
  · obtain ⟨⟨entry, hentry, hcodec⟩, hbudget⟩ := h x hx n hn
    obtain ⟨same, hentry' | ⟨facts, hentry', -⟩⟩ := deed.entry_before vouched.length_eq hentry
    · exact ⟨⟨entry, hentry', hcodec⟩, same.trans hbudget⟩
    · exact ⟨⟨_, hentry', hcodec⟩, same.trans hbudget⟩
  · obtain ⟨call, hcall, rfl⟩ := List.mem_map.1 hx
    exact deed.accounted vouched.length_eq hcall hn

/-! ## Bounds -/

/-- What is trusted of the codecs so far: they took every release, and their buffers have the sizes asked for. -/
structure Moment.Trusted (size : String → BufferId → Dimensions) (m : Moment ω σ) : Prop where
  quiet : ∀ codec, Untroubled (m.callsOn codec)
  follow : ∀ codec, SizesFollow (size codec) (m.callsOn codec)

/-- Between acts every account holds what it keeps, and it never held more than three buffers within its budget. -/
structure Moment.Bounded (size : String → BufferId → Dimensions) (m : Moment ω σ) : Prop where
  between : ∀ account, live (callsFor account m.calls) = holding m.session.entries m.budgets account
  ever : ∀ calls, calls <+: m.calls → ∀ account,
    Fits (size account.codec) account.budget 3 (live (callsFor account calls))

/-- Calls up to some point inside an act: up to a point before it, or all before it and some of its own. -/
theorem prefix_before_or_inside {α : Type} {part before more : List α} (h : part <+: before ++ more) :
    part <+: before ∨ ∃ some, some <+: more ∧ part = before ++ some := by
  rcases List.prefix_or_prefix_of_prefix h (List.prefix_append before more) with h' | ⟨some, rfl⟩
  · exact .inl h'
  · exact .inr ⟨some, (List.prefix_append_right_inj before).1 h, rfl⟩

variable {size : String → BufferId → Dimensions}

theorem Moment.bounded_start (codecs : String → σ) : (start codecs : Moment ω σ).Bounded size := by
  have nothing : ∀ account, keptBy [] [] account = none := by
    rintro ⟨codec, _ | n, budget⟩ <;> rfl
  refine ⟨fun account => ?_, ?_⟩
  · show 0 = holding [] [] account
    rw [holding, nothing]
    rfl
  · intro calls hp account
    rw [List.prefix_nil.1 hp]
    exact fits_zero

theorem Moment.Trusted.before {m' : Moment ω σ} (h : m'.Trusted size)
    (hcalls : m'.calls = m.calls ++ calls.map (account, ·)) : m.Trusted size := by
  have hon := Moment.callsOn_append hcalls
  refine ⟨fun codec => ?_, fun codec => ?_⟩
  · have := h.quiet codec
    rw [hon] at this
    exact this.of_append.1
  · have := h.follow codec
    rw [hon] at this
    exact this.restrict (List.prefix_append ..).isInfix

theorem Moment.Bounded.act [Measured ω] (h : m.Bounded size) (vouched : m.Vouched) (c : Codec ω σ) (imageId : String)
    (a : Act) (trusted : (m.act c imageId a).Trusted size) : (m.act c imageId a).Bounded size := by
  obtain ⟨account, calls, hcalls, deed⟩ := m.act_deed c imageId a
  have hon := Moment.callsOn_append hcalls account.codec
  rw [if_pos rfl] at hon
  have quiet : Untroubled calls := by
    have := trusted.quiet account.codec
    rw [hon] at this
    exact this.of_append.2
  have follow : SizesFollow (size account.codec) (m.callsOn account.codec ++ calls) := hon ▸ trusted.follow account.codec
  -- however far the act has come, it holds no more than what it hands out altogether and what was kept
  have inside : ∀ part, part <+: calls → Fits (size account.codec) account.budget 3
      (heldAfter (holding m.session.entries m.budgets account) part) := by
    intro part hp
    exact (deed.fits vouched follow).of_le (heldAfter_le_so_far _ hp)
  refine ⟨?_, ?_⟩
  · intro other
    rw [hcalls, callsFor_append, live, heldAfter_append, ← live, h.between]
    by_cases ho : account = other
    · subst ho
      rw [callsFor_map_self]
      exact deed.holding_after vouched.length_eq quiet
    · rw [callsFor_map_other ho, heldAfter_nil, holding, holding, deed.keptBy_other vouched.length_eq ho]
  · intro part hp other
    rw [hcalls] at hp
    -- the point is before the act, where the bound is known, or inside it
    rcases prefix_before_or_inside hp with hp | ⟨part', hp', rfl⟩
    · exact h.ever part hp other
    · obtain ⟨own, hown, rfl⟩ := List.prefix_map_iff.1 hp'
      rw [callsFor_append, live, heldAfter_append, ← live, h.between]
      by_cases ho : account = other
      · subst ho
        rw [callsFor_map_self]
        exact inside own hown
      · rw [callsFor_map_other ho, heldAfter_nil, ← h.between]
        exact h.ever m.calls (List.prefix_refl _) other

end

end Session

open Session in
/-- If no release fails, then at every call of a session whatever is in use for a handle, or for an image that is only
validated, is at most three buffers, each within the budget the image was opened with. The calls made for a handle are
those of one account, with the codec and the budget of that handle. The last of these moments is where performing the
steps leads. -/
theorem memory_bounded [Measured ω] (c : Codec ω σ) (codecs : String → σ) (imageId : String) (steps : List Step)
    (size : String → BufferId → Dimensions) :
    (∀ m ∈ moments c imageId codecs steps, m.Trusted size → m.Accounted ∧ ∀ calls, calls <+: m.calls → ∀ account,
      (live (callsFor account calls)).card ≤ 3 ∧
      (∀ b ∈ live (callsFor account calls), (size account.codec b).pixels ≤ account.budget) ∧
      ((live (callsFor account calls)).map fun b => (size account.codec b).pixels).sum ≤ 3 * max 0 account.budget) ∧
    ∃ m ∈ moments c imageId codecs steps, m.session = (performAll c imageId { codecs } steps).1 ∧
      m.trace = (performAll c imageId { codecs } steps).2 := by
  have kept := Moment.visits_keep c imageId
    (P := fun m => m.Vouched ∧ m.Accounted ∧ (m.Trusted size → m.Bounded size))
    (fun m a h => ⟨h.1.act c imageId a, h.2.1.act h.1 c imageId a, fun trusted => by
      obtain ⟨account, calls, hcalls, -⟩ := m.act_deed c imageId a
      exact (h.2.2 (trusted.before hcalls)).act h.1 c imageId a trusted⟩)
    (m := Moment.start codecs)
    ⟨Moment.vouched_start codecs, fun x hx => absurd hx List.not_mem_nil, fun _ => Moment.bounded_start codecs⟩
    (actsOfAll c imageId { codecs } steps)
  refine ⟨?_, exists_last_moment c imageId codecs steps⟩
  intro m hm trusted
  obtain ⟨-, accounted, bounded⟩ := kept m hm
  refine ⟨accounted, ?_⟩
  intro calls hp account
  have fits := (bounded trusted).ever calls hp account
  exact ⟨fits.card_le, fits.pixels_le, fits.sum_le⟩

open Session in
/-- The bound of three is reached: a thumbnail that is resized and turned holds its source, the resized buffer and the
turned one, although writing it out fails. -/
theorem memory_bounded_of_turned_thumbnail :
    let script : Script := { header := ⟨⟨40, 30⟩, .jpeg, some 6⟩, sniffed := .jpeg,
                             faults := [⟨.encode, 1, .closedImage⟩] }
    let steps : List Step := [.openAs "a" "codec" [] 2000 {}, .thumbnail "a" ⟨10, 10⟩ true]
    let size : String → BufferId → Dimensions := fun _ b => [⟨0, 0⟩, ⟨40, 30⟩, ⟨10, 8⟩, ⟨8, 10⟩].getD b ⟨0, 0⟩
    ∃ m ∈ moments scriptedCodec "image" (fun _ => { script }) steps, m.Trusted size ∧
      live (callsFor ⟨"codec", some 0, 2000⟩ (m.calls.take 7)) = {1, 2, 3} ∧
      (live (callsFor ⟨"codec", some 0, 2000⟩ (m.calls.take 7))).card ≤ 3 := by
  intro script steps size
  obtain ⟨m, hm, follow, only, held⟩ : ∃ m ∈ moments scriptedCodec "image" (fun _ => { script }) steps,
      SizesFollow (size "codec") (m.callsOn "codec") ∧ (∀ x ∈ m.calls, x.1.codec = "codec") ∧
      live (callsFor ⟨"codec", some 0, 2000⟩ (m.calls.take 7)) = {1, 2, 3} := by decide +kernel
  have trusted : m.Trusted size := by
    refine ⟨(served_moments scriptedCodec "image" _ steps m hm).untroubled fun _ =>
      scriptedCodec_takesReleases script (by decide), ?_⟩
    intro codec
    by_cases hcodec : codec = "codec"
    · rw [hcodec]
      exact follow
    · have none : m.callsOn codec = [] := by
        simp only [Moment.callsOn, List.map_eq_nil_iff, List.filter_eq_nil_iff, decide_eq_true_eq]
        intro x hx hc
        exact hcodec (hc.symm.trans (only x hx))
      rw [none]
      decide
  have bound := ((memory_bounded scriptedCodec _ "image" steps size).1 m hm trusted).2 _ (List.take_prefix 7 _)
  exact ⟨m, hm, trusted, held, (bound _).1⟩

end Darkroom
