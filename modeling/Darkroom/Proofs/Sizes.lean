import Darkroom.Proofs.Geometry
import Darkroom.Proofs.Session
/-!
# Sizes of buffers

Of a codec it is trusted that a buffer measures what was asked for (`SizesFollow`); sizes are read off the calls like
everything else. `Stage.extents` are the sizes a derivation passes through, and it passes through no more pixels than
the image shows (`thumbnail_extents`, `crop_extents`).

`Vouched`: what a handle says of its image goes back to an admitted header, read right before the pixels were decoded.
-/

namespace Darkroom

variable {ω σ : Type}

/-- `size` is what buffers measure: decoded pixels what their header says, and pixels made of others what was asked
for. -/
structure SizesFollow (size : BufferId → Dimensions) (calls : List (Call ω)) : Prop where
  decoded {data header b} : [⟨.decodeHeader data, .ok header⟩, ⟨.decodeFull data, .ok b⟩] <:+: calls →
    size b = header.raw
  turned {b t b'} : ⟨.transform b t, .ok b'⟩ ∈ calls → size b' = (size b).after t
  resized {b w h b'} : ⟨.resize b w h, .ok b'⟩ ∈ calls → size b' = ⟨w, h⟩
  cut {b box b'} : ⟨.crop b box, .ok b'⟩ ∈ calls → size b' = box.size

theorem SizesFollow.restrict {size : BufferId → Dimensions} {part calls : List (Call ω)} (h : SizesFollow size calls)
    (hp : part <:+: calls) : SizesFollow size part where
  decoded hd := h.decoded (hd.trans hp)
  turned ht := h.turned (hp.subset ht)
  resized hr := h.resized (hp.subset hr)
  cut hc := h.cut (hp.subset hc)

/-! ## Checking sizes -/

/-- Whether a call gave a buffer of the size asked for. -/
def Call.measures (size : BufferId → Dimensions) : Call ω → Bool
  | ⟨.transform b t, .ok b'⟩ => size b' = (size b).after t
  | ⟨.resize _ w h, .ok b'⟩ => size b' = ⟨w, h⟩
  | ⟨.crop _ box, .ok b'⟩ => size b' = box.size
  | _ => true

/-- Whether pixels that are decoded right after their header have its size. -/
def Call.announces (size : BufferId → Dimensions) : Call ω → Call ω → Bool
  | ⟨.decodeHeader data, .ok header⟩, ⟨.decodeFull data', .ok b⟩ => data = data' → size b = header.raw
  | _, _ => true

theorem sizesFollow_iff {size : BufferId → Dimensions} {calls : List (Call ω)} : SizesFollow size calls ↔
    (∀ call ∈ calls, call.measures size) ∧ calls.IsChain fun first second => first.announces size second := by
  constructor
  · intro h
    refine ⟨?_, List.isChain_iff_forall_rel_of_append_cons_cons.2 ?_⟩
    · intro call hc
      unfold Call.measures
      split
      · simpa using h.turned hc
      · simpa using h.resized hc
      · simpa using h.cut hc
      · rfl
    · rintro first second before after rfl
      unfold Call.announces
      split
      · next data header data' b =>
        simp only [decide_eq_true_eq]
        rintro rfl
        exact h.decoded ⟨before, after, by simp⟩
      · rfl
  · rintro ⟨hm, hd⟩
    rw [List.isChain_iff_forall_rel_of_append_cons_cons] at hd
    refine ⟨?_, fun ht => by simpa [Call.measures] using hm _ ht, fun hr => by simpa [Call.measures] using hm _ hr,
      fun hc => by simpa [Call.measures] using hm _ hc⟩
    rintro data header b ⟨before, after, hsplit⟩
    have announced := hd (by rw [← hsplit, List.append_assoc]; rfl)
    simpa [Call.announces] using announced

instance (size : BufferId → Dimensions) (calls : List (Call ω)) : Decidable (SizesFollow size calls) :=
  decidable_of_iff _ sizesFollow_iff.symm

/-! ## Turning a size -/

namespace Dimensions

theorem pixels_after (d : Dimensions) (t : Transform) : (d.after t).pixels = d.pixels := by
  unfold after
  split
  · exact Int.mul_comm ..
  · rfl

end Dimensions

/-! ## The sizes a derivation passes through -/

namespace Stage

/-- The size a stage makes of a size. -/
def extent (d : Dimensions) : Stage → Dimensions
  | resize d' => d'
  | turn t => d.after t
  | cut box => box.size

/-- The sizes that stages make, one after another. -/
def extents : Dimensions → List Stage → List Dimensions
  | _, [] => []
  | d, st :: rest => st.extent d :: extents (st.extent d) rest

theorem extents_append (d : Dimensions) (stages more : List Stage) :
    extents d (stages ++ more) = extents d stages ++ extents (stages.foldl extent d) more := by
  induction stages generalizing d with
  | nil => rfl
  | cons st stages ih => rw [List.cons_append, extents, ih, extents, List.foldl_cons, List.cons_append]

theorem size_made {size : BufferId → Dimensions} {calls : List (Call ω)} (follow : SizesFollow size calls) {st : Stage}
    {b b' : BufferId} (h : st.call b (.ok b') ∈ calls) : size b' = st.extent (size b) := by
  cases st with
  | resize d => exact follow.resized h
  | turn t => exact follow.turned h
  | cut box => exact follow.cut h

theorem foldl_turnStages (d : Dimensions) (t : Transform) : (turnStages t).foldl extent d = d.after t := by
  unfold turnStages
  split
  · next h =>
    obtain rfl := Transform.isIdentity_iff.1 h
    rfl
  · rfl

theorem pixels_turnStages (d : Dimensions) (t : Transform) : ∀ e ∈ extents d (turnStages t), e.pixels = d.pixels := by
  intro e he
  unfold turnStages at he
  split at he
  · cases he
  · rw [List.mem_singleton.1 he]
    exact d.pixels_after t

theorem length_turnStages_le (t : Transform) : (turnStages t).length ≤ 1 := by
  unfold turnStages
  split <;> simp

end Stage

section Plans
variable {facts : Facts} {raw : Dimensions}

/-- A thumbnail ends up at its size, whichever stages it can do without. -/
theorem foldl_thumbnailStages (h : raw.after facts.transform = facts.dimensions) (size : Dimensions) :
    (thumbnailStages facts size).foldl Stage.extent raw = size := by
  have resized : (if size = facts.dimensions then [] else [Stage.resize (size.after facts.transform)]).foldl
      Stage.extent raw = size.after facts.transform := by
    split
    · next hs => rw [hs, ← h, Dimensions.after_after]; rfl
    · rfl
  rw [thumbnailStages, List.foldl_append, resized, Stage.foldl_turnStages, Dimensions.after_after]

theorem foldl_cropStages (box : CropBox) : (cropStages facts box).foldl Stage.extent raw = box.size := by
  rw [cropStages, List.foldl_append]
  rfl

/-- A plan is short and passes through no more pixels than the image shows. -/
structure Modest (facts : Facts) (raw : Dimensions) (stages : List Stage) : Prop where
  length_le : stages.length ≤ 2
  pixels_le : ∀ d ∈ Stage.extents raw stages, d.pixels ≤ facts.dimensions.pixels

theorem thumbnail_modest (h : raw.after facts.transform = facts.dimensions) {bound : Dimensions} {fit : Bool}
    {stages : List Stage} (plan : thumbnailPlan facts bound fit = .ok stages) : Modest facts raw stages := by
  unfold thumbnailPlan at plan
  cases hsize : thumbnailSize facts.dimensions bound fit with
  | error e => rw [hsize] at plan; cases plan
  | ok size =>
    rw [hsize] at plan
    obtain rfl := Except.ok.inj plan
    have small := (thumbnailSize_within hsize).pixels_le
    have turning := Stage.length_turnStages_le facts.transform
    unfold thumbnailStages
    refine ⟨?_, ?_⟩
    · rw [List.length_append]
      split
      · rw [List.length_nil]
        omega
      · rw [List.length_singleton]
        omega
    · -- resizing gives the thumbnail's pixels, lying or standing, and turning changes no count
      intro d hd
      rw [Stage.extents_append] at hd
      rcases List.mem_append.1 hd with hd | hd
      · split at hd
        · cases hd
        · rw [List.mem_singleton.1 hd]
          exact (size.pixels_after _).trans_le small
      · rw [Stage.pixels_turnStages _ _ d hd]
        split
        · show raw.pixels ≤ _
          rw [← h, Dimensions.pixels_after]
        · exact (size.pixels_after _).trans_le small

theorem crop_modest (h : raw.after facts.transform = facts.dimensions) {target : Dimensions} {stages : List Stage}
    (plan : cropPlan facts target = .ok stages) : Modest facts raw stages := by
  unfold cropPlan at plan
  cases hbox : cropBox facts.dimensions target with
  | error e => rw [hbox] at plan; cases plan
  | ok box =>
    rw [hbox] at plan
    obtain rfl := Except.ok.inj plan
    have small := (cropBox_inside hbox).within.pixels_le
    have turning := Stage.length_turnStages_le facts.transform
    unfold cropStages
    refine ⟨?_, ?_⟩
    · rw [List.length_append]
      exact Nat.add_le_add_right turning 1
    · intro d hd
      rw [Stage.extents_append] at hd
      rcases List.mem_append.1 hd with hd | hd
      · rw [Stage.pixels_turnStages _ _ d hd, ← h, Dimensions.pixels_after]
      · rw [List.mem_singleton.1 hd]
        exact small

end Plans

/-- The buffers made on the way up have the sizes of the stages, and the last one the size they lead to. -/
theorem Climb.sizes {size : BufferId → Dimensions} {calls : List (Call ω)} {stages b made o}
    (h : Climb stages b made calls o) (follow : SizesFollow size calls) :
    (∀ b' ∈ made, size b' ∈ Stage.extents (size b) stages) ∧
      ∀ last, o = .ok last → size last = stages.foldl Stage.extent (size b) := by
  induction h with
  | arrived => exact ⟨fun b' hb => absurd hb List.not_mem_nil, fun last hl => by cases hl; rfl⟩
  | fell => exact ⟨fun b' hb => absurd hb List.not_mem_nil, fun last hl => by cases hl⟩
  | @climbed st rest b b' made calls o up ih =>
    have here := Stage.size_made follow (List.mem_cons_self ..)
    obtain ⟨hmade, hlast⟩ := ih (follow.restrict (List.suffix_cons ..).isInfix)
    rw [Stage.extents, List.foldl_cons, ← here]
    refine ⟨?_, hlast⟩
    intro b'' hb
    rcases List.mem_append.1 hb with hb | hb
    · exact List.mem_cons_of_mem _ (hmade b'' hb)
    · rw [List.mem_singleton.1 hb]
      exact List.mem_cons_self ..

/-! ## Admitted headers -/

theorem Header.Admissible.positive {header : Header} {limits : Limits} (h : header.Admissible limits) :
    header.display.Positive := by
  have hw := h.width_ge
  have hh := h.height_ge
  unfold leastExtent at hw hh
  exact ⟨by omega, by omega⟩

/-- What is known of a decoded buffer goes back to an admitted header, read right before. -/
def Vouched (calls : List (Call ω)) (budget : Int) (b : BufferId) (facts : Facts) : Prop :=
  ∃ (data : Bytes) (header : Header) (limits : Limits) (output : Format),
    [⟨.decodeHeader data, .ok header⟩, ⟨.decodeFull data, .ok b⟩] <:+: calls ∧
    header.Admissible limits ∧ limits.budget = budget ∧ facts = header.admission.facts output

section Vouched
variable {calls part : List (Call ω)} {budget : Int} {b : BufferId} {facts : Facts}

theorem Vouched.widen (h : Vouched part budget b facts) (hp : part <:+: calls) : Vouched calls budget b facts := by
  obtain ⟨data, header, limits, output, read, rest⟩ := h
  exact ⟨data, header, limits, output, read.trans hp, rest⟩

theorem Opening.vouched {data : Bytes} {limits : Limits} {policy : OutputPolicy}
    (h : Opening data limits policy calls (.ok (b, facts))) : Vouched calls limits.budget b facts := by
  generalize ho : Except.ok (b, facts) = o at h
  cases h with
  | @opened header b transparent admitted =>
    cases ho
    exact ⟨data, header, limits, _, ⟨[⟨.sniff data, .ok header.format⟩], [⟨.hasTransparency b, .ok transparent⟩], rfl⟩,
      admitted, rfl, rfl⟩
  | @unjudged header b' f admitted cleanup => cases cleanup <;> cases ho
  | _ => cases ho

theorem Vouched.positive (h : Vouched calls budget b facts) : facts.dimensions.Positive := by
  obtain ⟨data, header, limits, output, read, admitted, within, rfl⟩ := h
  exact admitted.positive

theorem Vouched.writable (h : Vouched calls budget b facts) : facts.dimensions.Writable .standard := by
  obtain ⟨data, header, limits, output, read, admitted, within, rfl⟩ := h
  exact admitted.writable

/-- The buffer of a handle has the size that turns into the display size, which is not empty and within the budget. -/
theorem Vouched.display {size : BufferId → Dimensions} (h : Vouched calls budget b facts)
    (follow : SizesFollow size calls) : (size b).after facts.transform = facts.dimensions ∧
      facts.dimensions.Positive ∧ facts.dimensions.pixels ≤ budget := by
  obtain ⟨data, header, limits, output, read, admitted, rfl, rfl⟩ := h
  rw [follow.decoded read]
  exact ⟨rfl, admitted.positive, admitted.pixels_le⟩

end Vouched

namespace Session

section
variable {m : Moment ω σ} {a : Act} {account : Account} {calls : List (Call ω)} {entries : List HandleEntry}
  {budgets : List Int}

theorem Deed.length_eq (deed : Deed m a account calls entries budgets)
    (h : m.budgets.length = m.session.entries.length) : budgets.length = entries.length := by
  cases deed with
  | opened => simp [h]
  | closed => simp [h]
  | _ => exact h

/-- A handle open after an act was open before, with the same budget, or was opened by the act and is vouched for. -/
theorem Deed.open_after (deed : Deed m a account calls entries budgets)
    (h : m.budgets.length = m.session.entries.length) {n : Nat} {codec : String} {b : BufferId} {facts : Facts}
    (here : entries[n]? = some ⟨codec, .opened b facts⟩) :
    m.session.entries[n]? = some ⟨codec, .opened b facts⟩ ∧ budgets[n]? = m.budgets[n]? ∨
      account = ⟨codec, some n, account.budget⟩ ∧ budgets[n]? = some account.budget ∧
        Vouched calls account.budget b facts := by
  cases deed with
  | @opened name codec' data budget config calls o opening =>
    -- the new handle stands at the end
    rcases Nat.lt_trichotomy n m.session.entries.length with hn | rfl | hn
    · rw [List.getElem?_append_left hn] at here
      exact .inl ⟨here, List.getElem?_append_left (h ▸ hn)⟩
    · rw [List.getElem?_concat_length, Option.some.injEq, HandleEntry.mk.injEq] at here
      obtain ⟨rfl, ho⟩ := here
      refine .inr ⟨rfl, by rw [← h, List.getElem?_concat_length], ?_⟩
      cases o with
      | error f => cases ho
      | ok image => cases ho; exact opening.vouched
    · rw [List.getElem?_eq_none (by simp; omega)] at here
      cases here
  | @closed k codec' b' facts' reply there =>
    rw [List.getElem?_set] at here
    split at here
    · split at here <;> cases here
    · exact .inl ⟨here, rfl⟩
  | _ => exact .inl ⟨here, rfl⟩

/-- There is a budget for every handle, and every open handle is vouched for within it. -/
structure Moment.Vouched (m : Moment ω σ) : Prop where
  length_eq : m.budgets.length = m.session.entries.length
  opened : ∀ n codec b facts, m.session.entries[n]? = some ⟨codec, .opened b facts⟩ →
    Darkroom.Vouched (m.callsOn codec) (m.budgetOf (some n)) b facts

theorem Moment.vouched_start (codecs : String → σ) : (start codecs : Moment ω σ).Vouched :=
  ⟨rfl, fun n codec b facts h => by cases h⟩

theorem Moment.Vouched.act [Measured ω] (h : m.Vouched) (c : Codec ω σ) (imageId : String) (a : Act) :
    (m.act c imageId a).Vouched := by
  obtain ⟨account, calls, hcalls, deed⟩ := m.act_deed c imageId a
  have hon := Moment.callsOn_append hcalls
  refine ⟨deed.length_eq h.length_eq, ?_⟩
  intro n codec b facts here
  have hbudget : ∀ m : Moment ω σ, m.budgetOf (some n) = m.budgets[n]?.getD 0 := fun _ => rfl
  rw [hon, hbudget]
  rcases deed.open_after h.length_eq here with ⟨before, same⟩ | ⟨ours, same, vouched⟩
  · rw [same, ← hbudget]
    exact (h.opened n codec b facts before).widen (List.prefix_append ..).isInfix
  · rw [same, if_pos (congrArg Account.codec ours)]
    exact vouched.widen (List.suffix_append ..).isInfix

theorem vouched_moments [Measured ω] (c : Codec ω σ) (imageId : String) (codecs : String → σ) (steps : List Step) :
    ∀ m ∈ moments c imageId codecs steps, m.Vouched :=
  Moment.visits_keep c imageId (fun _ a vouched => vouched.act c imageId a) (m := Moment.start codecs)
    (Moment.vouched_start codecs) _

end

end Session

end Darkroom
