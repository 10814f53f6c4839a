import Darkroom.Proofs.Opening
/-!
# What deriving an image can come to

A derivation goes up through its stages, each making a buffer from the one before, writes the last buffer out and gives
all of them back (`Climb`, `Clearing`, `Deriving`). Thumbnails and crops differ only in their plan, the stages that the
geometry gives them: `thumbnail_carried` and `crop_carried` say that nothing but the plan is carried out.
-/

namespace Darkroom

variable {ω σ : Type}

/-! ## Stages -/

/-- One change to the pixels, as it is asked of a codec. -/
inductive Stage
  | resize (d : Dimensions)
  | turn (t : Transform)
  | cut (box : CropBox)
deriving DecidableEq

namespace Stage

def step : Stage → Derivation.Step ω
  | resize d => Derivation.resizing d
  | turn t => Derivation.turning t
  | cut box => Derivation.cropping box

/-- The call a stage makes on a buffer, with the buffer that comes of it. -/
def call (b : BufferId) (reply : Except Failure BufferId) : Stage → Call ω
  | resize d => ⟨.resize b d.width d.height, reply⟩
  | turn t => ⟨.transform b t, reply⟩
  | cut box => ⟨.crop b box, reply⟩

theorem run_step (c : Codec ω σ) (s : σ) (st : Stage) (b : BufferId) :
    ∃ reply s', (st.step b).run c s = ⟨reply, s', [st.call b reply], []⟩ := by
  cases st <;> simp [step, Derivation.resizing, Derivation.turning, Derivation.cropping, call]

end Stage

/-! ## Plans -/

theorem Dimensions.after_inj {t : Transform} {d d' : Dimensions} : d.after t = d'.after t ↔ d = d' := by
  obtain ⟨w, h⟩ := d
  obtain ⟨w', h'⟩ := d'
  unfold after swap
  split
  · simp [and_comm]
  · rfl

@[simp] theorem Dimensions.after_after (d : Dimensions) (t : Transform) : (d.after t).after t = d := by
  unfold after
  split <;> rfl

theorem Transform.isIdentity_iff {t : Transform} : t.isIdentity = true ↔ t = .identity := beq_iff_eq

def turnStages (t : Transform) : List Stage := if t.isIdentity then [] else [.turn t]

def thumbnailStages (facts : Facts) (size : Dimensions) : List Stage :=
  (if size = facts.dimensions then [] else [.resize (size.after facts.transform)]) ++ turnStages facts.transform

def cropStages (facts : Facts) (box : CropBox) : List Stage := turnStages facts.transform ++ [.cut box]

/-- What a thumbnail asks of a codec, if its request makes sense. -/
def thumbnailPlan (facts : Facts) (bound : Dimensions) (fit : Bool) : Except GeometryError (List Stage) :=
  (thumbnailSize facts.dimensions bound fit).map (thumbnailStages facts)

def cropPlan (facts : Facts) (target : Dimensions) : Except GeometryError (List Stage) :=
  (cropBox facts.dimensions target).map (cropStages facts)

theorem turningIfNeeded_eq (t : Transform) :
    (Derivation.turningIfNeeded t : List (Derivation.Step ω)) = (turnStages t).map Stage.step := by
  unfold Derivation.turningIfNeeded turnStages
  split <;> rfl

theorem thumbnailSteps_eq (facts : Facts) (size : Dimensions) :
    (Derivation.thumbnailSteps facts size : List (Derivation.Step ω)) = (thumbnailStages facts size).map Stage.step := by
  simp only [Derivation.thumbnailSteps, thumbnailStages, turningIfNeeded_eq, List.map_append, Dimensions.after_inj]
  split <;> rfl

theorem cropSteps_eq (facts : Facts) (box : CropBox) :
    (Derivation.cropSteps facts box : List (Derivation.Step ω)) = (cropStages facts box).map Stage.step := by
  simp only [Derivation.cropSteps, cropStages, turningIfNeeded_eq, List.map_append]
  rfl

/-! ## Going up, and giving back -/

/-- Going through stages from a buffer: the buffers made, the last one first, the calls, and the buffer arrived at. -/
inductive Climb : List Stage → BufferId → List BufferId → List (Call ω) → Except Failure BufferId → Prop
  | arrived {b} : Climb [] b [] [] (.ok b)
  | fell {st rest b f} : Climb (st :: rest) b [] [st.call b (.error f)] (.error f)
  | climbed {st rest b b' made calls o} (up : Climb rest b' made calls o) :
      Climb (st :: rest) b (made ++ [b']) (st.call b (.ok b') :: calls) o

/-- Giving buffers back in order, until one is not taken. -/
inductive Clearing : List BufferId → List (Call ω) → Except Failure Unit → Prop
  | cleared : Clearing [] [] (.ok ())
  | stuck {b rest f} : Clearing (b :: rest) [⟨.release b, .error f⟩] (.error f)
  | next {b rest calls o} (down : Clearing rest calls o) : Clearing (b :: rest) (⟨.release b, .ok ()⟩ :: calls) o

/-- How a derivation can end, with the calls made. -/
inductive Deriving (stages : List Stage) (source : BufferId) (format : Format) :
    List (Call ω) → Except Failure ω → Prop
  | fell {made up down f cleared} (climb : Climb stages source made up (.error f))
      (clearing : Clearing made down cleared) :
      Deriving stages source format (up ++ down) (cleared.bind fun _ => .error f)
  | written {made up down last reply cleared} (climb : Climb stages source made up (.ok last))
      (clearing : Clearing made down cleared) :
      Deriving stages source format (up ++ ⟨.encode last format, reply⟩ :: down) (cleared.bind fun _ => reply)

/-- A plan is carried out, or there is none and nothing is asked of the codec. -/
inductive Carried (plan : Except GeometryError (List Stage)) (source : BufferId) (format : Format) :
    List (Call ω) → Except Failure ω → Prop
  | senseless {e} (h : plan = .error e) : Carried plan source format [] (.error e.failure)
  | carried {stages calls o} (h : plan = .ok stages) (derived : Deriving stages source format calls o) :
      Carried plan source format calls o

theorem Carried.deriving {plan : Except GeometryError (List Stage)} {stages : List Stage} {source : BufferId}
    {format : Format} {calls : List (Call ω)} {o : Except Failure ω} (h : Carried plan source format calls o)
    (hplan : plan = .ok stages) : Deriving stages source format calls o := by
  cases h with
  | senseless h => rw [hplan] at h; cases h
  | carried h derived => rw [hplan] at h; cases h; exact derived

/-- A derivation that comes to something climbs all of its stages and writes what it arrives at. -/
theorem Carried.of_ok {plan : Except GeometryError (List Stage)} {source : BufferId} {format : Format}
    {calls : List (Call ω)} {output : ω} (h : Carried plan source format calls (.ok output)) :
    ∃ stages made up last down, plan = .ok stages ∧ Climb stages source made up (.ok last) ∧
      calls = up ++ ⟨.encode last format, .ok output⟩ :: down := by
  generalize hok : Except.ok output = outcome at h
  cases h with
  | senseless => cases hok
  | carried hplan derived =>
    cases derived with
    | @fell _ _ _ f cleared _ _ => cases cleared <;> cases hok
    | @written _ _ _ last reply cleared climb _ =>
      cases cleared with
      | error => cases hok
      | ok =>
        obtain rfl : Except.ok output = reply := hok
        exact ⟨_, _, _, last, _, hplan, climb, rfl⟩

section Runs
variable (c : Codec ω σ) (s : σ)

theorem releaseAll_clearing (made : List BufferId) :
    Clearing made ((Derivation.releaseAll made).run c s).calls ((Derivation.releaseAll made).run c s).outcome := by
  induction made generalizing s with
  | nil => exact .cleared
  | cons b rest ih =>
    rcases h : c.respond s (.release b) with ⟨f | ⟨⟩, s'⟩
    · simpa [Derivation.releaseAll, h] using Clearing.stuck
    · simpa [Derivation.releaseAll, h] using Clearing.next (ih s')

/-- A climb on top of the buffers made so far, and its end: it fell, or the last buffer is written out. -/
theorem attemptSteps_climb (format : Format) (stages : List Stage) (made : List BufferId) (b : BufferId) :
    ∃ made' up o s', Climb stages b made' up o ∧
      (Derivation.attemptSteps (fun b => Work.request (.encode b format)) (stages.map Stage.step) made b).run c s =
        match o with
        | .error f => ⟨.ok (.error f, made' ++ made), s', up, []⟩
        | .ok last =>
          let (reply, s') := c.respond s' (.encode last format)
          ⟨.ok (reply, made' ++ made), s', up ++ [⟨.encode last format, reply⟩], []⟩ := by
  -- every stage starts from the buffer before it, with one more buffer made
  induction stages generalizing s made b with
  | nil => exact ⟨[], [], .ok b, s, .arrived, by simp [Derivation.attemptSteps]⟩
  | cons st rest ih =>
    obtain ⟨reply, s', hstep⟩ := Stage.run_step c s st b
    cases reply with
    | error f => exact ⟨[], _, .error f, s', .fell, by simp [Derivation.attemptSteps, hstep]⟩
    | ok b' =>
      obtain ⟨made', up, o, s'', climb, hrun⟩ := ih s' (b' :: made) b'
      refine ⟨_, _, o, s'', .climbed climb, ?_⟩
      simp only [List.map_cons, Derivation.attemptSteps, Work.run_bind, Work.run_attempt, hstep, Run.andThen, hrun]
      cases o <;> simp

theorem through_deriving (format : Format) (stages : List Stage) (source : BufferId) :
    Deriving stages source format
      ((Derivation.through (stages.map Stage.step) source fun b => Work.request (.encode b format)).run c s).calls
      ((Derivation.through (stages.map Stage.step) source fun b => Work.request (.encode b format)).run c s).outcome := by
  obtain ⟨made, up, o, s', climb, hrun⟩ := attemptSteps_climb c s format stages [] source
  rw [List.append_nil] at hrun
  rw [Derivation.through, Work.run_bind, hrun]
  cases o with
  | error f =>
    simp only [Run.andThen, Work.run_cleanup, List.append_nil]
    exact .fell climb (releaseAll_clearing c s' made)
  | ok last =>
    simp only [Run.andThen, Work.run_cleanup, List.append_nil, List.append_assoc, List.singleton_append]
    exact .written climb (releaseAll_clearing c _ made)

variable (source : BufferId) (facts : Facts)

/-- What the log is told of an output changes neither the calls nor the outcome. -/
theorem run_told (w : Work ω ω) (remark : ω → List Log.Record) :
    ((do let output ← w; Work.noteAll (remark output); return output).run c s).calls = (w.run c s).calls ∧
    ((do let output ← w; Work.noteAll (remark output); return output).run c s).outcome = (w.run c s).outcome := by
  simp only [Work.run_bind, Work.run_noteAll, Work.run_pure, Run.andThen]
  cases (w.run c s).outcome <;> simp

theorem thumbnail_carried [Measured ω] (bound : Dimensions) (fit : Bool) :
    Carried (thumbnailPlan facts bound fit) source facts.outputFormat
      ((Derivation.thumbnail source facts bound fit).run c s).calls
      ((Derivation.thumbnail source facts bound fit).run c s).outcome := by
  rw [Derivation.thumbnail, Work.run_bind, Work.run_noteAll]
  cases h : thumbnailSize facts.dimensions bound fit with
  | error e => exact .senseless (by rw [thumbnailPlan, h]; rfl)
  | ok size =>
    have plan : thumbnailPlan facts bound fit = .ok (thumbnailStages facts size) := by rw [thumbnailPlan, h]; rfl
    have derived := through_deriving c s facts.outputFormat (thumbnailStages facts size) source
    rw [← thumbnailSteps_eq, ← (run_told c s _ _).1, ← (run_told c s _ _).2] at derived
    exact .carried plan derived

theorem crop_carried [Measured ω] (target : Dimensions) :
    Carried (cropPlan facts target) source facts.outputFormat
      ((Derivation.crop source facts target).run c s).calls
      ((Derivation.crop source facts target).run c s).outcome := by
  rw [Derivation.crop, Work.run_bind, Work.run_noteAll]
  cases h : cropBox facts.dimensions target with
  | error e => exact .senseless (by rw [cropPlan, h]; rfl)
  | ok box =>
    have plan : cropPlan facts target = .ok (cropStages facts box) := by rw [cropPlan, h]; rfl
    have derived := through_deriving c s facts.outputFormat (cropStages facts box) source
    rw [← cropSteps_eq, ← (run_told c s _ _).1, ← (run_told c s _ _).2] at derived
    exact .carried plan derived

end Runs

end Darkroom
