import Darkroom.Proofs.Deriving
import Darkroom.Proofs.Grid
import Darkroom.Raster.Codec
/-!
# What a workshop is given to write

Behind the numbers of its buffers a workshop keeps rasters, and a stage makes one raster from another (`Stage.raster`).
So a derivation whose stages can all be made hands exactly one raster over to be written, the one that its stages lead
to (`Workshop.writes_carried`), and a request that makes no sense none (`Workshop.writes_senseless`). What a derivation
comes to is that raster encoded (`Workshop.encoded_carried`), and an image that opens is held as the raster that was
decoded (`Workshop.opened_ok`).
-/

namespace Darkroom

/-! ## Stages on rasters -/

namespace Stage

/-- What a stage asks for on a buffer. -/
def request (b : BufferId) : Stage → Request
  | resize d => .resize b d.width d.height
  | turn t => .transform b t
  | cut box => .crop b box

theorem request_call {ω : Type} (st : Stage) (b : BufferId) (reply : Except Failure BufferId) :
    (st.call b reply : Call ω).request = st.request b := by
  cases st <;> rfl

theorem call_injective {ω : Type} (st : Stage) (b : BufferId) :
    Function.Injective fun reply => (st.call b reply : Call ω) := by
  intro reply reply' h
  cases st <;> cases h <;> rfl

/-- The raster a stage makes of a raster. -/
def raster (filter : ResampleFilter) (r : Raster) : Stage → Except Failure Raster
  | resize d => Buffer.resize { raster := r } filter d.width d.height
  | turn t => Buffer.transform { raster := r } t
  | cut box => Buffer.crop { raster := r } box

end Stage

namespace Workshop
variable {w w' : Workshop} {b : BufferId} {r r' : Raster}

/-- The rasters that requests, answered one after another, hand over to be written, each with its format. -/
def written : Workshop → List Request → List (Raster × Format)
  | _, [] => []
  | w, q :: rest =>
    let later := written (w.respond q).2 rest
    match q with
    | .encode b format => ((w.buffer b).raster, format) :: later
    | _ => later

theorem written_append (w : Workshop) (qs rest : List Request) :
    w.written (qs ++ rest) = w.written qs ++ (rasterCodec.serve w qs).2.written rest := by
  induction qs generalizing w with
  | nil => rfl
  | cons q qs ih => cases q <;> simp only [List.cons_append, written, Codec.serve, ih] <;> rfl

theorem written_stage (st : Stage) : w.written [st.request b] = [] := by cases st <;> rfl

/-- A stage on a raster that is there keeps what it makes under the next number. -/
theorem serve_stage (st : Stage) (here : w.buffer b = { raster := r }) :
    rasterCodec.serve w [st.request b] =
      let kept := w.keep (st.raster w.options.filter r)
      ([st.call b kept.1], kept.2) := by
  cases st <;> simp only [Stage.request, Stage.call, Codec.serve, rasterCodec, respond, here, Stage.raster]

theorem buffer_push (w : Workshop) (kept : Buffer) :
    { w with buffers := w.buffers.push kept }.buffer (w.buffers.size + 1) = kept := by
  simp [buffer]

/-- How a workshop writes, and what it is made to fail with, no request changes. -/
theorem settings_serve (w : Workshop) (qs : List Request) :
    (rasterCodec.serve w qs).2.options = w.options ∧ (rasterCodec.serve w qs).2.faults = w.faults := by
  have keeps (w : Workshop) (made : Except Failure Raster) :
      (w.keep made).2.options = w.options ∧ (w.keep made).2.faults = w.faults := by
    cases made <;> exact ⟨rfl, rfl⟩
  induction qs generalizing w with
  | nil => exact ⟨rfl, rfl⟩
  | cons q rest ih =>
    obtain ⟨options, faults⟩ := ih (rasterCodec.respond w q).2
    suffices same : (rasterCodec.respond w q).2.options = w.options ∧ (rasterCodec.respond w q).2.faults = w.faults from
      ⟨options.trans same.1, faults.trans same.2⟩
    cases q with
    | decodeFull _ | transform _ _ | resize _ _ _ | crop _ _ => exact keeps w _
    | sniff _ | decodeHeader _ | hasTransparency _ | encode _ _ | release _ => exact ⟨rfl, rfl⟩

/-! ## Derivations on rasters -/

variable {stages : List Stage} {source : BufferId} {format : Format} {calls : List (Call Encoded)}

theorem written_climb {made o} (climb : Climb stages b made calls o) : w.written (calls.map (·.request)) = [] := by
  induction climb generalizing w with
  | arrived => rfl
  | fell => rw [List.map_singleton, Stage.request_call, written_stage]
  | climbed up ih =>
    rw [List.map_cons, Stage.request_call, ← List.singleton_append, written_append, written_stage, ih]
    rfl

/-- Where a climb ends hangs on its stages alone: it arrives at what they lead to, or fails as the first that cannot be
made. -/
theorem climb_follows {made o} (climb : Climb stages b made calls o)
    (served : rasterCodec.serve w (calls.map (·.request)) = (calls, w')) (here : w.buffer b = { raster := r }) :
    match stages.foldlM (fun r st => st.raster w.options.filter r) r with
    | .ok r' => ∃ last, o = .ok last ∧ w'.buffer last = { raster := r' }
    | .error f => o = .error f := by
  induction climb generalizing w r with
  | @arrived b =>
    obtain ⟨-, rfl⟩ := Prod.mk.inj served
    exact ⟨b, rfl, here⟩
  | @fell st rest b f =>
    rw [List.map_singleton, Stage.request_call, serve_stage st here] at served
    have answered := st.call_injective b (List.singleton_inj.1 (Prod.mk.inj served).1)
    rw [List.foldlM_cons]
    cases stage : st.raster w.options.filter r with
    | ok r₁ => simp [stage, keep] at answered
    | error f' =>
      simp only [stage, keep, Except.error.injEq] at answered
      exact congrArg Except.error answered.symm
  | @climbed st rest b b' made calls o up ih =>
    rw [List.map_cons, Stage.request_call, ← List.singleton_append, Codec.serve_append, serve_stage st here] at served
    obtain ⟨answers, last⟩ := Prod.mk.inj served
    obtain ⟨answered, later⟩ := List.cons.inj answers
    have answered := st.call_injective b answered
    rw [List.foldlM_cons]
    cases stage : st.raster w.options.filter r with
    | error f => simp [stage, keep] at answered
    | ok r₁ =>
      simp only [stage, keep, Except.ok.injEq] at answered later last
      subst answered
      exact ih (w := { w with buffers := w.buffers.push { raster := r₁ } }) (Prod.ext later last) (buffer_push w _)

theorem written_clearing {made cleared} (clearing : Clearing made calls cleared) :
    w.written (calls.map (·.request)) = [] := by
  induction clearing generalizing w with
  | cleared => rfl
  | stuck => rfl
  | next down ih => exact ih

/-- A derivation whose stages can all be made hands over what they lead to, and nothing else. -/
theorem written_deriving {o : Except Failure Encoded} (derived : Deriving stages source format calls o)
    (served : rasterCodec.serve w (calls.map (·.request)) = (calls, w')) (here : w.buffer source = { raster := r })
    (reached : stages.foldlM (fun r st => st.raster w.options.filter r) r = .ok r') :
    w.written (calls.map (·.request)) = [(r', format)] := by
  -- the way up is served first, whatever follows
  have upward : ∀ {up rest : List (Call Encoded)}, calls = up ++ rest →
      rasterCodec.serve w (up.map (·.request)) = (up, (rasterCodec.serve w (up.map (·.request))).2) := by
    rintro up rest rfl
    exact Prod.ext (Codec.serve_of_append (congrArg Prod.fst served)).1 rfl
  have arrives {made up o w'} (climb : Climb stages source made up o)
      (served : rasterCodec.serve w (up.map (·.request)) = (up, w')) :
      ∃ last, o = .ok last ∧ w'.buffer last = { raster := r' } := by
    simpa only [reached] using climb_follows climb served here
  cases derived with
  | fell climb clearing =>
    obtain ⟨last, ho, -⟩ := arrives climb (upward rfl)
    cases ho
  | written climb clearing =>
    obtain ⟨last, ho, top⟩ := arrives climb (upward rfl)
    cases ho
    rw [List.map_append, written_append, written_climb climb, List.map_cons, List.nil_append, written, top]
    exact congrArg _ (written_clearing clearing)

/-- The rasters that work hands over to be written, each with its format. -/
def writes {α : Type} (w : Workshop) (work : Work Encoded α) : List (Raster × Format) :=
  w.written ((work.run rasterCodec w).calls.map (·.request))

theorem writes_carried {work : Work Encoded Encoded} {plan : Except GeometryError (List Stage)}
    (carried : Carried plan source format (work.run rasterCodec w).calls (work.run rasterCodec w).outcome)
    (hplan : plan = .ok stages) (here : w.buffer source = { raster := r })
    (reached : stages.foldlM (fun r st => st.raster w.options.filter r) r = .ok r') :
    w.writes work = [(r', format)] := by
  have served := Work.run_serve rasterCodec w work
  unfold writes
  generalize (work.run rasterCodec w).calls = calls, (work.run rasterCodec w).outcome = o at carried served
  exact written_deriving (carried.deriving hplan) served here reached

theorem writes_senseless {work : Work Encoded Encoded} {plan : Except GeometryError (List Stage)} {e : GeometryError}
    (carried : Carried plan source format (work.run rasterCodec w).calls (work.run rasterCodec w).outcome)
    (hplan : plan = .error e) : w.writes work = [] := by
  unfold writes
  generalize (work.run rasterCodec w).calls = calls, (work.run rasterCodec w).outcome = o at carried
  cases carried with
  | senseless => rfl
  | carried h derived => cases h.symm.trans hplan

/-- What a derivation comes to is the raster that its stages lead to, encoded. -/
theorem encoded_carried {work : Work Encoded Encoded} {plan : Except GeometryError (List Stage)} {e : Encoded}
    (carried : Carried plan source format (work.run rasterCodec w).calls (work.run rasterCodec w).outcome)
    (here : w.buffer source = { raster := r }) (made : (work.run rasterCodec w).outcome = .ok e) :
    ∃ stages r', plan = .ok stages ∧ stages.foldlM (fun r st => st.raster w.options.filter r) r = .ok r' ∧
      Buffer.encode { raster := r' } w.options format w.faults.flattening = .ok e := by
  have served := Work.run_serve rasterCodec w work
  generalize (work.run rasterCodec w).calls = calls, (work.run rasterCodec w).outcome = o at carried served made
  subst made
  obtain ⟨stages, _, up, last, down, hplan, climb, rfl⟩ := carried.of_ok
  obtain ⟨upward, onward⟩ := Codec.serve_of_append (congrArg Prod.fst served)
  obtain ⟨options, faults⟩ := settings_serve w (up.map (·.request))
  obtain ⟨arrived, climbed⟩ : ∃ arrived, rasterCodec.serve w (up.map (·.request)) = (up, arrived) :=
    ⟨_, Prod.ext upward rfl⟩
  rw [climbed] at onward options faults
  dsimp only at onward options faults
  have follows := climb_follows climb climbed here
  cases reached : stages.foldlM (fun r st => st.raster w.options.filter r) r with
  | error f => simp [reached] at follows
  | ok r' =>
    rw [reached] at follows
    obtain ⟨_, ⟨⟩, top⟩ := follows
    have answered := (List.cons.inj onward).1
    exact ⟨stages, r', hplan, reached, by simpa [rasterCodec, respond, top, options, faults] using answered⟩

/-! ## Opened images -/

/-- An image that opens is held as the raster that was decoded, and what is known of it follows from its header and from
that raster. -/
theorem opened_ok (w : Workshop) {imageId : String} {data : Bytes} {budget : Int} {config : Config} {b : BufferId}
    {facts : Facts} (opened : ((openImage imageId data budget config).run rasterCodec w).outcome = .ok (b, facts)) :
    ∃ (header : Header) (r : Raster) (transparent : Bool), Raster.decodeHeader data = .ok header ∧
      Raster.decodeFull w.faults data = .ok r ∧
      ((openImage imageId data budget config).run rasterCodec w).state.buffer b = { raster := r } ∧
      Buffer.hasTransparency { raster := r } = .ok transparent ∧
      facts = header.admission.facts (config.outputPolicy.choose header.format transparent) := by
  have ending := openImage_opening rasterCodec w imageId data budget config
  have served := Work.run_serve rasterCodec w (openImage imageId data budget config)
  generalize (openImage imageId data budget config).run rasterCodec w = run at opened ending served ⊢
  rw [opened] at ending
  obtain ⟨header, transparent, -, made, rfl⟩ := ending.of_ok
  rw [made] at served
  simp only [List.map_cons, List.map_nil, Codec.serve, rasterCodec, respond, Prod.mk.injEq, List.cons.injEq,
    Call.mk.injEq, heq_eq_eq, true_and, and_true] at served
  obtain ⟨⟨-, headed, decoded, judged⟩, state⟩ := served
  cases full : Raster.decodeFull w.faults data with
  | error f => simp [full, keep] at decoded
  | ok r =>
    simp only [full, keep, Except.ok.injEq] at decoded judged state
    subst decoded
    have here : run.state.buffer (w.buffers.size + 1) = { raster := r } := state ▸ buffer_push w _
    refine ⟨header, r, transparent, headed, rfl, here, ?_, rfl⟩
    cases faults : w.faults.judging with
    | some f => simp [faults] at judged
    | none => simpa only [faults, buffer_push] using judged

end Workshop

/-! ## Stored images -/

/-- What is known of an image whose pixels are stored under a code. -/
def Grid.facts (stored : Grid Pixel) (code : Option Int) (format output : Format) : Facts :=
  (Header.admission ⟨stored.size, format, code⟩).facts output

theorem Grid.dimensions_facts (stored : Grid Pixel) (code : Option Int) (format output : Format) :
    (stored.facts code format output).dimensions = (stored.transformed (Transform.forCode code)).size :=
  (stored.size_transformed _).symm

/-- Turning makes the transform of a raster, whether it is left out or not. -/
theorem Stage.reach_turnStages (filter : ResampleFilter) (r : Raster) (t : Transform) :
    (turnStages t).foldlM (fun r st => st.raster filter r) r = .ok { r with grid := r.grid.transformed t } := by
  unfold turnStages
  split
  · next h =>
    obtain rfl := Transform.isIdentity_iff.1 h
    rfl
  · rfl

end Darkroom
