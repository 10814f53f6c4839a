import Darkroom.Proofs.ScriptedCodec
import Darkroom.Proofs.Sizes
/-!
# Codecs that go by what their buffers hold

A codec may number its buffers as it likes, as long as it goes by what they hold: a stage on a buffer in use makes a new
one from what it holds, what is written tells what the buffer held, and nothing else becomes of the buffers in use. What
counts as the contents of a buffer and as telling them is left to a `View`; sizes will do, and so will pixels.

On such a codec a derivation succeeds whenever its request makes sense, what it tells is decided by the contents of its
source, and all other buffers keep theirs (`Derivation.thumbnail_faithful`, `Derivation.crop_faithful`). A scripted codec
without faults is one, by the sizes of its buffers (`scriptedCodec_faithful`).
-/

namespace Darkroom

variable {ω σ ν α : Type}

/-- A way to look at a codec. -/
structure View (ω σ ν : Type) where
  /-- The contents of a buffer that is in use. -/
  holds : σ → BufferId → Option ν
  /-- The contents that can come of decoding, by the header. -/
  shows : Header → ν → Prop
  /-- The contents that a stage makes. -/
  make : ν → Stage → ν
  /-- That something encoded tells of these contents, in this format. -/
  tells : ω → Format → ν → Prop

namespace View
variable (view : View ω σ ν)

/-- All buffers in use hold what they held, but for those that are gone. -/
def Keeps (gone : List BufferId) (s s' : σ) : Prop := ∀ b ∉ gone, ∀ v, view.holds s b = some v → view.holds s' b = some v

/-- A buffer that was not in use holds something now. -/
structure HandsOut (s s' : σ) (b : BufferId) (v : ν) : Prop where
  fresh : view.holds s b = none
  held : view.holds s' b = some v
  kept : view.Keeps [] s s'

/-- What is told of contents that stages lead to, or the failure that a request without sense comes to. -/
def Tells : Except Failure ω → Except Failure (Format × ν) → Prop
  | .ok o, .ok (format, v) => view.tells o format v
  | .error f, .error f' => f = f'
  | _, _ => False

variable {view} {s s' s'' : σ} {b : BufferId} {v : ν}

theorem Keeps.refl (gone : List BufferId) (s : σ) : view.Keeps gone s s := fun _ _ _ h => h

theorem Keeps.trans {gone : List BufferId} (h : view.Keeps gone s s') (h' : view.Keeps gone s' s'') :
    view.Keeps gone s s'' := fun b hb v hv => h' b hb v (h b hb v hv)

theorem Keeps.mono {gone gone' : List BufferId} (h : view.Keeps gone s s') (sub : gone ⊆ gone') :
    view.Keeps gone' s s' := fun b hb v hv => h b (fun hg => hb (sub hg)) v hv

/-- What is not in use now was not in use before. -/
theorem Keeps.fresh (h : view.Keeps [] s s') (fresh : view.holds s' b = none) : view.holds s b = none := by
  cases hb : view.holds s b with
  | none => rfl
  | some v =>
    rw [h b List.not_mem_nil v hb] at fresh
    cases fresh

/-- Buffers that were not in use can be gone for all that is kept. -/
theorem Keeps.of_fresh {gone : List BufferId} (h : view.Keeps gone s s') (fresh : ∀ b ∈ gone, view.holds s b = none) :
    view.Keeps [] s s' := by
  intro b _ v hv
  refine h b ?_ v hv
  intro hb
  rw [fresh b hb] at hv
  cases hv

end View

/-! ## Faithful codecs -/

namespace Codec
variable (c : Codec ω σ) (view : View ω σ ν)

/-- What a codec does in one state. Reading a file may fail, and so may decoding it; what is asked of a buffer in use
succeeds. -/
structure FaithfulAt (s : σ) : Prop where
  sniffs : ∀ data, view.Keeps [] s (c.respond s (.sniff data)).2
  reads : ∀ data, view.Keeps [] s (c.respond s (.decodeHeader data)).2
  /-- Pixels are decoded right behind their header. -/
  decodes : ∀ data header s' o s'', c.respond s (.decodeHeader data) = (.ok header, s') →
    c.respond s' (.decodeFull data) = (o, s'') → match o with
      | .ok b => ∃ v, view.shows header v ∧ view.HandsOut s' s'' b v
      | .error _ => view.Keeps [] s' s''
  judges : ∀ b v, view.holds s b = some v →
    ∃ transparent s', c.respond s (.hasTransparency b) = (.ok transparent, s') ∧ view.Keeps [] s s'
  makes : ∀ b v (st : Stage), view.holds s b = some v →
    ∃ b' s', (st.step b).run c s = ⟨.ok b', s', [st.call b (.ok b')], []⟩ ∧ view.HandsOut s s' b' (view.make v st)
  writes : ∀ b v format, view.holds s b = some v →
    ∃ o s', c.respond s (.encode b format) = (.ok o, s') ∧ view.tells o format v ∧ view.Keeps [] s s'
  takes : ∀ b v, view.holds s b = some v → ∃ s', c.respond s (.release b) = (.ok (), s') ∧ view.Keeps [b] s s'

/-- Whatever is asked first. -/
def Faithful (s : σ) : Prop := ∀ qs, c.FaithfulAt view (c.serve s qs).2

variable {c view} {s : σ}

theorem Faithful.now (h : c.Faithful view s) : c.FaithfulAt view s := h []

theorem Faithful.respond (h : c.Faithful view s) (q : Request) : c.Faithful view (c.respond s q).2 :=
  fun qs => h (q :: qs)

theorem Faithful.serve (h : c.Faithful view s) (qs : List Request) : c.Faithful view (c.serve s qs).2 := by
  intro more
  have later := h (qs ++ more)
  rwa [Codec.serve_append] at later

theorem Faithful.run (h : c.Faithful view s) (w : Work ω α) : c.Faithful view (w.run c s).state := by
  have later := h.serve ((w.run c s).calls.map (·.request))
  rwa [Work.run_serve] at later

end Codec

/-! ## Derivations -/

section
variable {c : Codec ω σ} {view : View ω σ ν} {s : σ} {b : BufferId} {v : ν}

/-- Buffers that are all in use can be given back one after another. -/
theorem releaseAll_faithful (faithful : c.Faithful view s) {made : List BufferId} (once : made.Nodup)
    (held : ∀ b ∈ made, ∃ v, view.holds s b = some v) :
    ((Derivation.releaseAll made).run c s).outcome = .ok () ∧
      view.Keeps made s ((Derivation.releaseAll made).run c s).state := by
  induction made generalizing s with
  | nil => exact ⟨rfl, .refl [] s⟩
  | cons b rest ih =>
    obtain ⟨other, once⟩ := List.nodup_cons.1 once
    obtain ⟨v, hv⟩ := held b List.mem_cons_self
    obtain ⟨s', hs', kept⟩ := faithful.now.takes b v hv
    have later : c.Faithful view s' := by
      have := faithful.respond (.release b)
      rwa [hs'] at this
    have held' : ∀ b' ∈ rest, ∃ v, view.holds s' b' = some v := by
      intro b' hb
      obtain ⟨v', hv'⟩ := held b' (List.mem_cons_of_mem _ hb)
      refine ⟨v', kept b' ?_ v' hv'⟩
      rintro hb'
      rw [List.mem_singleton.1 hb'] at hb
      exact other hb
    obtain ⟨ho, hrest⟩ := ih later once held'
    simp only [Derivation.releaseAll, Work.run_bind, Work.request_eq_ask, Work.run_ask, hs', Run.andThen,
      Work.run_ofExcept]
    refine ⟨ho, (kept.mono ?_).trans (hrest.mono ?_)⟩
    · exact List.cons_subset_cons b (List.nil_subset rest)
    · exact List.subset_cons_self b rest

/-- Going through stages succeeds. The buffers made are new and each is in use at the end. -/
theorem attemptSteps_faithful (faithful : c.Faithful view s) (format : Format) (stages : List Stage)
    (made : List BufferId) (hb : view.holds s b = some v) : ∃ made' o s' calls,
      (Derivation.attemptSteps (fun b => Work.request (.encode b format)) (stages.map Stage.step) made b).run c s =
        ⟨.ok (.ok o, made' ++ made), s', calls, []⟩ ∧
      view.tells o format (stages.foldl view.make v) ∧ view.Keeps [] s s' ∧ made'.Nodup ∧
      ∀ b' ∈ made', view.holds s b' = none ∧ ∃ v', view.holds s' b' = some v' := by
  induction stages generalizing s made b v with
  | nil =>
    obtain ⟨o, s', hs', told, kept⟩ := faithful.now.writes b v format hb
    refine ⟨[], o, s', [⟨.encode b format, .ok o⟩], ?_, told, kept, List.nodup_nil, ?_⟩
    · simp [Derivation.attemptSteps, hs']
    · exact fun b' hb' => absurd hb' List.not_mem_nil
  | cons st rest ih =>
    obtain ⟨b₁, s₁, hs₁, out⟩ := faithful.now.makes b v st hb
    have later : c.Faithful view s₁ := by
      have := faithful.run (st.step b)
      rwa [hs₁] at this
    obtain ⟨made', o, s', calls, hrun, told, kept, once, new⟩ := ih later (b₁ :: made) out.held
    refine ⟨made' ++ [b₁], o, s', st.call b (.ok b₁) :: calls, ?_, told, out.kept.trans kept, ?_, ?_⟩
    · simp only [List.map_cons, Derivation.attemptSteps, Work.run_bind, Work.run_attempt, hs₁, Run.andThen, hrun]
      simp
    · -- what is made later is not in use yet, and this one is
      refine once.append (List.nodup_singleton b₁) ?_
      rw [List.disjoint_singleton]
      intro again
      have fresh := (new b₁ again).1
      rw [out.held] at fresh
      cases fresh
    · intro b' hb'
      rcases List.mem_append.1 hb' with hb' | hb'
      · exact ⟨out.kept.fresh (new b' hb').1, (new b' hb').2⟩
      · rw [List.mem_singleton.1 hb']
        exact ⟨out.fresh, _, kept b₁ List.not_mem_nil _ out.held⟩

theorem through_faithful (faithful : c.Faithful view s) (format : Format) (stages : List Stage)
    (hb : view.holds s b = some v) :
    let run := (Derivation.through (stages.map Stage.step) b fun b => Work.request (.encode b format)).run c s
    ∃ o, run.outcome = .ok o ∧ view.tells o format (stages.foldl view.make v) ∧ view.Keeps [] s run.state := by
  obtain ⟨made, o, s', calls, hrun, told, kept, once, new⟩ := attemptSteps_faithful faithful format stages [] hb
  have later : c.Faithful view s' := by
    have := faithful.run
      (Derivation.attemptSteps (fun b => Work.request (.encode b format)) (stages.map Stage.step) [] b)
    rwa [hrun] at this
  obtain ⟨ho, down⟩ := releaseAll_faithful later once fun b' hb' => (new b' hb').2
  rw [List.append_nil] at hrun
  rw [Derivation.through, Work.run_bind, hrun]
  simp only [Run.andThen, Work.run_cleanup]
  refine ⟨o, by rw [ho]; rfl, told, ?_⟩
  exact ((kept.mono (List.nil_subset made)).trans down).of_fresh fun b' hb' => (new b' hb').1

namespace Derivation
variable [Measured ω]

/-- What is to be told of a source that holds `v`. -/
def told (view : View ω σ ν) (plan : Except GeometryError (List Stage)) (format : Format) (v : ν) :
    Except Failure (Format × ν) :=
  (plan.mapError (·.failure)).map fun stages => (format, stages.foldl view.make v)

theorem thumbnail_faithful (faithful : c.Faithful view s) (facts : Facts) (bound : Dimensions) (fit : Bool)
    (hb : view.holds s b = some v) :
    let run := (Derivation.thumbnail b facts bound fit).run c s
    view.Tells run.outcome (told view (thumbnailPlan facts bound fit) facts.outputFormat v) ∧
      view.Keeps [] s run.state := by
  rw [Derivation.thumbnail, thumbnailPlan, Work.run_bind, Work.run_noteAll]
  cases h : thumbnailSize facts.dimensions bound fit with
  | error e => exact ⟨rfl, .refl [] s⟩
  | ok size =>
    obtain ⟨o, ho, htold, kept⟩ := through_faithful faithful facts.outputFormat (thumbnailStages facts size) hb
    rw [← thumbnailSteps_eq] at ho kept
    simp only [Except.mapError, Work.run_bind, Work.run_ofExcept, Run.andThen, ho]
    exact ⟨htold, kept⟩

theorem crop_faithful (faithful : c.Faithful view s) (facts : Facts) (target : Dimensions)
    (hb : view.holds s b = some v) :
    let run := (Derivation.crop b facts target).run c s
    view.Tells run.outcome (told view (cropPlan facts target) facts.outputFormat v) ∧ view.Keeps [] s run.state := by
  rw [Derivation.crop, cropPlan, Work.run_bind, Work.run_noteAll]
  cases h : cropBox facts.dimensions target with
  | error e => exact ⟨rfl, .refl [] s⟩
  | ok box =>
    obtain ⟨o, ho, htold, kept⟩ := through_faithful faithful facts.outputFormat (cropStages facts box) hb
    rw [← cropSteps_eq] at ho kept
    simp only [Except.mapError, Work.run_bind, Work.run_ofExcept, Run.andThen, ho]
    exact ⟨htold, kept⟩

end Derivation

/-! ## Openings -/

/-- What comes of opening: an admitted image whose buffer is new, or nothing that anyone sees. -/
def View.Opens (view : View ω σ ν) (limits : Limits) (policy : OutputPolicy) (s s' : σ) :
    Except Failure (BufferId × Facts) → Prop
  | .ok (b, facts) => ∃ header transparent v, header.Admissible limits ∧
    facts = header.admission.facts (policy.choose header.format transparent) ∧ view.shows header v ∧
    view.HandsOut s s' b v
  | .error _ => view.Keeps [] s s'

theorem View.Opens.kept {limits : Limits} {policy : OutputPolicy} {s' : σ} {o : Except Failure (BufferId × Facts)}
    (h : view.Opens limits policy s s' o) : view.Keeps [] s s' := by
  cases o with
  | error f => exact h
  | ok image =>
    obtain ⟨header, transparent, v, -, -, -, out⟩ := h
    exact out.kept

section
variable (imageId : String) (data : Bytes) (budget : Int) (config : Config)

theorem openImage_faithful (faithful : c.Faithful view s) :
    view.Opens ⟨budget, config.maxDimension⟩ config.outputPolicy s
      ((openImage imageId data budget config).run c s).state
      ((openImage imageId data budget config).run c s).outcome := by
  rcases h₁ : c.respond s (.sniff data) with ⟨o₁, s₁⟩
  have kept₁ := faithful.now.sniffs data
  have faithful₁ := faithful.respond (.sniff data)
  rw [h₁] at kept₁ faithful₁
  cases o₁ with
  | error f => simpa [openImage, h₁, View.Opens] using kept₁
  | ok tag =>
  rcases h₂ : c.respond s₁ (.decodeHeader data) with ⟨o₂, s₂⟩
  have kept₂ := faithful₁.now.reads data
  have faithful₂ := faithful₁.respond (.decodeHeader data)
  rw [h₂] at kept₂ faithful₂
  have kept := kept₁.trans kept₂
  cases o₂ with
  | error f => simpa [openImage, h₁, h₂, View.Opens] using kept
  | ok header =>
  by_cases hf : header.format = tag
  · subst hf
    cases hj : header.assess ⟨budget, config.maxDimension⟩ with
    | error r => simpa [openImage, h₁, h₂, hj, Except.mapError, View.Opens] using kept
    | ok a =>
      obtain ⟨admitted, rfl⟩ := Header.assess_eq_ok_iff.1 hj
      rcases h₃ : c.respond s₂ (.decodeFull data) with ⟨o₃, s₃⟩
      have decoded := faithful₁.now.decodes data header s₂ o₃ s₃ h₂ h₃
      have faithful₃ := faithful₂.respond (.decodeFull data)
      rw [h₃] at faithful₃
      cases o₃ with
      | error f =>
        have := kept.trans decoded
        simpa [openImage, h₁, h₂, hj, Except.mapError, h₃, View.Opens] using this
      | ok b =>
        obtain ⟨v, hv, out⟩ := decoded
        obtain ⟨transparent, s₄, h₄, kept₄⟩ := faithful₃.now.judges b v out.held
        have held : view.HandsOut s s₄ b v :=
          ⟨kept.fresh out.fresh, kept₄ b List.not_mem_nil v out.held, (kept.trans out.kept).trans kept₄⟩
        simp only [openImage, Work.run_bind, Work.request_eq_ask, Work.run_ask, h₁, h₂, Run.andThen, Work.run_ofExcept,
          ne_eq, not_true_eq_false, if_false, Work.run_noteAll, hj, Except.mapError, h₃, Work.run_onFailure, h₄,
          Work.run_pure]
        exact ⟨header, transparent, v, admitted, rfl, hv, held⟩
  · simpa [openImage, h₁, h₂, hf, View.Opens] using kept

theorem validateImage_faithful (faithful : c.Faithful view s) :
    view.Keeps [] s ((validateImage imageId data budget config).run c s).state := by
  have opening := openImage_faithful imageId data budget config faithful
  have later := faithful.run (openImage imageId data budget config)
  simp only [validateImage, withImage, Work.run_bind, Run.andThen]
  rcases h : (openImage imageId data budget config).run c s with ⟨f | ⟨b, facts⟩, s', calls, journal⟩
  · rw [h] at opening
    exact opening
  · rw [h] at opening later
    obtain ⟨header, transparent, v, -, -, -, out⟩ := opening
    obtain ⟨s'', hs'', kept⟩ := later.now.takes b v out.held
    simp only [Work.run_ensure, Work.run_pure, Work.request_eq_ask, Work.run_ask, hs'', Run.andThen, Work.run_ofExcept]
    refine ((out.kept.mono (List.nil_subset [b])).trans kept).of_fresh ?_
    intro b' hb'
    rw [List.mem_singleton.1 hb']
    exact out.fresh

end

end

/-! ## The scripted codec -/

/-- Buffers are numbered from one, and the codec never forgets a size. -/
def ScriptState.holds (s : ScriptState) : BufferId → Option Dimensions
  | 0 => none
  | b + 1 => s.sizes[b]?

/-- A scripted codec by sizes: two texts tell the same but for the number of the buffer. -/
def scriptedView : View String ScriptState Dimensions where
  holds := ScriptState.holds
  shows header d := d = header.raw
  make := Stage.extent
  tells o format d := ∃ b : BufferId, o = s!"{format.name} {d.text} b{b}"

section
variable {s s' : ScriptState} {b : BufferId} {d : Dimensions}

theorem ScriptState.sizeOf_of_holds (h : s.holds b = some d) : s.sizeOf b = d := by
  cases b with
  | zero => cases h
  | succ b =>
    unfold holds at h
    simp [sizeOf, h]

theorem scriptedView_keeps (h : s.sizes <+: s'.sizes) : scriptedView.Keeps [] s s' := by
  obtain ⟨more, hmore⟩ := h
  rintro (_ | b) - v hv
  · cases hv
  · obtain ⟨hlt, -⟩ := List.getElem?_eq_some_iff.1 hv
    show s'.sizes[b]? = some v
    rw [← hmore, List.getElem?_append_left hlt]
    exact hv

/-- The next number is not in use yet. -/
theorem scriptedView_handsOut (h : s'.sizes = s.sizes ++ [d]) :
    scriptedView.HandsOut s s' (s.sizes.length + 1) d where
  fresh := List.getElem?_eq_none le_rfl
  held := by
    show s'.sizes[s.sizes.length]? = some d
    rw [h, List.getElem?_concat_length]
  kept := scriptedView_keeps ⟨[d], h.symm⟩

end

theorem scriptedCodec_faithful (script : Script) (free : script.faults = []) :
    scriptedCodec.Faithful scriptedView { script } := by
  intro qs
  have same := script_serve { script } qs
  generalize (scriptedCodec.serve { script } qs).2 = s at same
  -- nothing fails, so every call is counted and answered
  have answered : ∀ (s : ScriptState) q, s.script = script → scriptedCodec.respond s q =
      (.ok ({ s with called := q.method :: s.called }.answer q).1,
        ({ s with called := q.method :: s.called }.answer q).2) := by
    intro s q same
    have never : s.fault? q.method = none := s.fault?_eq_none (by simp [same, free])
    unfold scriptedCodec
    simp only [never]
  refine ⟨?_, ?_, ?_, ?_, ?_, ?_, ?_⟩
  · intro data
    rw [answered s _ same]
    exact .refl [] s
  · intro data
    rw [answered s _ same]
    exact .refl [] s
  · intro data header s' o s'' hread hfull
    rw [answered s _ same] at hread
    cases hread
    have full := answered { s with called := .decodeHeader :: s.called } (.decodeFull data) same
    cases full.symm.trans hfull
    exact ⟨_, rfl, scriptedView_handsOut rfl⟩
  · intro b d hb
    rw [answered s _ same]
    exact ⟨_, _, rfl, .refl [] s⟩
  · intro b d st hb
    obtain ⟨reply, s', hstep⟩ := Stage.run_step scriptedCodec s st b
    have size := ScriptState.sizeOf_of_holds hb
    have made : reply = .ok (s.sizes.length + 1) ∧ s'.sizes = s.sizes ++ [Stage.extent d st] := by
      cases st <;>
        simp only [Stage.step, Derivation.resizing, Derivation.turning, Derivation.cropping, Work.request_eq_ask,
          Work.run_ask, answered s _ same, Run.andThen, Work.run_ofExcept] at hstep <;>
        cases hstep
      · exact ⟨rfl, rfl⟩
      · exact ⟨rfl, by rw [← size]; rfl⟩
      · exact ⟨rfl, rfl⟩
    obtain ⟨rfl, grown⟩ := made
    exact ⟨_, s', hstep, scriptedView_handsOut grown⟩
  · intro b d format hb
    rw [answered s _ same]
    refine ⟨_, _, rfl, ⟨b, ?_⟩, .refl [] s⟩
    show s!"{format.name} {(s.sizeOf b).text} b{b}" = _
    rw [ScriptState.sizeOf_of_holds hb]
  · intro b d hb
    rw [answered s _ same]
    exact ⟨_, rfl, (View.Keeps.refl [] s).mono (List.nil_subset [b])⟩

end Darkroom
