import Darkroom.Proofs.Deriving
import Darkroom.Service.Imaging
/-!
# Who remarks on work

Work is a tree, and what it can remark on is read off the tree, whatever a codec replies (`Work.Remarks`). All remarks of
the work done for one image come from five loggers (`Job.describe_remarks`, `Job.derive_remarks`).
-/

namespace Darkroom

variable {ω σ α β : Type}

/-- All that work can remark on. -/
def Work.Remarks (P : Log.Record → Prop) : Work ω α → Prop
  | .done _ => True
  | .fail _ => True
  | .note r rest => P r ∧ rest.Remarks P
  | .ask _ next => ∀ reply, (next reply).Remarks P

namespace Work
variable {P : Log.Record → Prop} {w : Work ω α}

theorem Remarks.journal (h : w.Remarks P) (c : Codec ω σ) (s : σ) : ∀ r ∈ (w.run c s).journal, P r := by
  induction w generalizing s with
  | done => exact fun r hr => absurd hr List.not_mem_nil
  | fail => exact fun r hr => absurd hr List.not_mem_nil
  | note r' rest ih =>
    intro r hr
    rcases List.mem_cons.1 hr with rfl | hr
    · exact h.1
    · exact ih h.2 s r hr
  | ask q next ih => exact ih _ (h _) _

theorem Remarks.bind {f : α → Work ω β} (h : w.Remarks P) (hf : ∀ a, (f a).Remarks P) : (w >>= f).Remarks P := by
  show (w.bind f).Remarks P
  induction w with
  | done a => exact hf a
  | fail => trivial
  | note r rest ih => exact ⟨h.1, ih h.2⟩
  | ask q next ih => exact fun reply => ih reply (h reply)

theorem remarks_ofExcept (o : Except Failure α) : (ofExcept o : Work ω α).Remarks P := by
  cases o <;> trivial

theorem remarks_request (q : Request) : (request q : Work ω _).Remarks P := fun reply => remarks_ofExcept reply

theorem remarks_noteAll {rs : List Log.Record} (h : ∀ r ∈ rs, P r) : (noteAll rs : Work ω Unit).Remarks P := by
  induction rs with
  | nil => trivial
  | cons r rs ih =>
    obtain ⟨first, rest⟩ := List.forall_mem_cons.1 h
    exact ⟨first, ih rest⟩

theorem Remarks.attempt (h : w.Remarks P) : w.attempt.Remarks P := by
  induction w with
  | done => trivial
  | fail => trivial
  | note r rest ih => exact ⟨h.1, ih h.2⟩
  | ask q next ih => exact fun reply => ih reply (h reply)

theorem Remarks.ensure (h : w.Remarks P) {cleanup : Work ω Unit} (hc : cleanup.Remarks P) :
    (w.ensure cleanup).Remarks P :=
  h.attempt.bind fun o => hc.bind fun _ => remarks_ofExcept o

theorem Remarks.onFailure (h : w.Remarks P) {cleanup : Work ω Unit} (hc : cleanup.Remarks P) :
    (w.onFailure cleanup).Remarks P := by
  refine h.attempt.bind fun o => ?_
  cases o with
  | ok a => trivial
  | error f => exact hc.bind fun _ => trivial

end Work

open Work

/-- The loggers of the work done for an image. -/
def imageLoggers : List String :=
  ["imager.core.admission", "imager.core.builder", "imager.core.geometry", "imager.core.image",
    "imager.transport.http_app"]

/-- A record of one of these. -/
def Log.Record.IsOfImage (r : Log.Record) : Prop := r.logger ∈ imageLoggers

/-! ## Geometry, admission, opening -/

theorem isOfImage_thumbnailRemark (source bound : Dimensions) (fit : Bool) :
    ∀ r ∈ thumbnailRemark source bound fit, r.IsOfImage := by
  intro r hr
  unfold thumbnailRemark at hr
  split at hr
  · split at hr
    · exact absurd hr List.not_mem_nil
    · obtain ⟨text, -, rfl⟩ := List.mem_map.1 hr
      exact (by decide : "imager.core.geometry" ∈ imageLoggers)
  · exact absurd hr List.not_mem_nil

theorem isOfImage_cropRemark (source target : Dimensions) : ∀ r ∈ cropRemark source target, r.IsOfImage := by
  intro r hr
  unfold cropRemark at hr
  split at hr
  · split at hr
    · exact absurd hr List.not_mem_nil
    · obtain ⟨text, -, rfl⟩ := List.mem_map.1 hr
      exact (by decide : "imager.core.geometry" ∈ imageLoggers)
  · exact absurd hr List.not_mem_nil

theorem isOfImage_remark (header : Header) (judgement : Except Rejection Admission) :
    ∀ r ∈ header.remark judgement, r.IsOfImage := by
  intro r told
  obtain ⟨records, hremark, hr⟩ : ∃ records, header.remark? .standard judgement = some records ∧ r ∈ records := by
    unfold Header.remark at told
    cases hremark : header.remark? .standard judgement with
    | none => simp [hremark] at told
    | some records => exact ⟨records, rfl, by simpa [hremark] using told⟩
  have ofAdmission : ∀ {record : Log.Record}, [record] = records → record.logger = "imager.core.admission" →
      r.IsOfImage := by
    rintro record rfl logger
    rw [List.mem_singleton.1 hr, Log.Record.IsOfImage, logger]
    decide
  rcases judgement with (_ | ⟨_, size⟩ | ⟨size, most⟩ | ⟨size, budget⟩ | _) | a
  all_goals
    simp only [Header.remark?, Option.bind_eq_bind, Option.bind_eq_some_iff, Option.pure_def, Option.some.injEq] at hremark
  case error.unsupported | error.unwritable =>
    rw [← hremark] at hr
    exact absurd hr List.not_mem_nil
  case error.degenerate =>
    obtain ⟨_, -, told⟩ := hremark
    exact ofAdmission told rfl
  case error.oversized | ok =>
    obtain ⟨_, -, _, -, told⟩ := hremark
    exact ofAdmission told rfl
  case error.overBudget =>
    obtain ⟨_, -, _, -, _, -, told⟩ := hremark
    exact ofAdmission told rfl

theorem openImage_remarks (imageId : String) (data : Bytes) (budget : Int) (config : Config) :
    (openImage imageId data budget config : Work ω _).Remarks Log.Record.IsOfImage := by
  refine (remarks_request _).bind fun sniffed => (remarks_request _).bind fun header => ?_
  split
  · trivial
  · refine (remarks_noteAll (isOfImage_remark header _)).bind fun _ => (remarks_ofExcept _).bind fun admission => ?_
    refine (remarks_request _).bind fun buffer => ?_
    refine ((remarks_request _).onFailure (remarks_request _)).bind fun transparent => ?_
    refine (remarks_noteAll ?_).bind fun _ => trivial
    exact List.forall_mem_singleton.2 (by decide : "imager.core.image" ∈ imageLoggers)

/-! ## Derivations -/

namespace Derivation

theorem releaseAll_remarks {P : Log.Record → Prop} (made : List BufferId) :
    (releaseAll made : Work ω Unit).Remarks P := by
  induction made with
  | nil => trivial
  | cons b rest ih => exact (remarks_request _).bind fun _ => ih

theorem attemptSteps_remarks {P : Log.Record → Prop} {use : BufferId → Work ω α} (hu : ∀ b, (use b).Remarks P)
    (stages : List Stage) (made : List BufferId) (b : BufferId) :
    (attemptSteps use (stages.map Stage.step) made b).Remarks P := by
  induction stages generalizing made b with
  | nil => exact (hu b).attempt.bind fun _ => trivial
  | cons st rest ih =>
    have step : (st.step b : Work ω BufferId).Remarks P := by cases st <;> exact remarks_request _
    refine step.attempt.bind fun o => ?_
    cases o with
    | ok next => exact ih _ next
    | error f => trivial

/-- Going through stages and writing out what they make remarks on nothing. -/
theorem encoding_remarks {P : Log.Record → Prop} (stages : List Stage) (source : BufferId) (format : Format) :
    (through (stages.map Stage.step) source fun b => request (.encode b format) : Work ω ω).Remarks P := by
  have written (b : BufferId) := remarks_request (ω := ω) (P := P) (.encode b format)
  have attempted := attemptSteps_remarks written stages [] source
  exact attempted.bind fun attempt => (releaseAll_remarks attempt.2).bind fun _ => remarks_ofExcept attempt.1

variable [Measured ω]

theorem thumbnail_remarks (source : BufferId) (facts : Facts) (bound : Dimensions) (fit : Bool) :
    (thumbnail source facts bound fit : Work ω ω).Remarks Log.Record.IsOfImage := by
  refine (remarks_noteAll (isOfImage_thumbnailRemark _ _ _)).bind fun _ => (remarks_ofExcept _).bind fun size => ?_
  rw [thumbnailSteps_eq]
  refine (encoding_remarks _ source facts.outputFormat).bind fun output => ?_
  refine (remarks_noteAll ?_).bind fun _ => trivial
  exact List.forall_mem_singleton.2 (by decide : "imager.core.builder" ∈ imageLoggers)

theorem crop_remarks (source : BufferId) (facts : Facts) (target : Dimensions) :
    (crop source facts target : Work ω ω).Remarks Log.Record.IsOfImage := by
  refine (remarks_noteAll (isOfImage_cropRemark _ _)).bind fun _ => (remarks_ofExcept _).bind fun box => ?_
  rw [cropSteps_eq]
  refine (encoding_remarks _ source facts.outputFormat).bind fun output => ?_
  refine (remarks_noteAll ?_).bind fun _ => trivial
  exact List.forall_mem_singleton.2 (by decide : "imager.core.builder" ∈ imageLoggers)

end Derivation

/-! ## Jobs -/

theorem withImage_remarks (imageId : String) (data : Bytes) (budget : Int) (config : Config)
    {use : BufferId → Facts → Work ω α} (hu : ∀ b facts, (use b facts).Remarks Log.Record.IsOfImage) :
    (withImage imageId data budget config use).Remarks Log.Record.IsOfImage :=
  (openImage_remarks imageId data budget config).bind fun image => (hu image.1 image.2).ensure (remarks_request _)

namespace Service

theorem isOfImage_record (context : Log.Context) (text : String) (attributes : Attributes) :
    ∀ r ∈ [record context text attributes], r.IsOfImage :=
  List.forall_mem_singleton.2 (by decide : "imager.transport.http_app" ∈ imageLoggers)

namespace Job
variable (j : Job)

theorem describe_remarks : (j.describe : Work ω _).Remarks Log.Record.IsOfImage := by
  unfold describe opened
  refine withImage_remarks _ _ _ _ fun b facts => (remarks_noteAll (isOfImage_record _ _ _)).bind fun _ => ?_
  split <;> trivial

theorem derive_remarks [Measured ω] {operation : Handle → Work ω ω}
    (ho : ∀ b facts, (operation (.opened b facts)).Remarks Log.Record.IsOfImage) :
    (j.derive operation).Remarks Log.Record.IsOfImage := by
  refine Remarks.bind (withImage_remarks _ _ _ _ fun b facts => ?_) fun image => ?_
  · exact (remarks_noteAll (isOfImage_record _ _ _)).bind fun _ => (ho b facts).bind fun output => trivial
  · exact (remarks_noteAll (isOfImage_record _ _ _)).bind fun _ => trivial

end Job

end Service

end Darkroom
