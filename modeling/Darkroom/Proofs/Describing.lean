import Darkroom.Proofs.Admission
import Darkroom.Proofs.Fulfilment
/-!
# What is told of an image

A description is checked before it is told, by bounds of its own. Every image that opens keeps within them, since they
follow from what admission asks of a header and from how orientation codes are read. So nothing but closing can fail
where an image that opened is described, and the code that is told leads from the stored size to the size that is told
(`image_described`).
-/

namespace Darkroom

variable {ω σ : Type}

/-! ## Checking a description -/

/-- What is told of an image, by what was decided about it. -/
def Facts.description (f : Facts) : Description :=
  ⟨f.dimensions.width, f.dimensions.height, f.inputFormat.name, f.outputFormat.name, f.orientation⟩

/-- The bounds that a description is checked for. -/
structure Description.WithinBounds (d : Description) : Prop where
  width_ge : 2 ≤ d.width
  height_ge : 2 ≤ d.height
  code_ge : 1 ≤ d.orientation
  code_le : d.orientation ≤ 8

open Validation in
/-- The check asks for these bounds and for nothing else. -/
theorem Description.ofAttributes_eq_ok_iff {f : Facts} {d : Description} :
    Description.ofAttributes (factAttributes f) = .ok d ↔ d = f.description ∧ d.WithinBounds := by
  have width : (factAttributes f).get? "width" = some (.int f.dimensions.width) := rfl
  have height : (factAttributes f).get? "height" = some (.int f.dimensions.height) := rfl
  have input : (factAttributes f).get? "input_format" = some (.string f.inputFormat.name) := rfl
  have output : (factAttributes f).get? "output_format" = some (.string f.outputFormat.name) := rfl
  have code : (factAttributes f).get? "orientation" = some (.int f.orientation) := rfl
  simp only [ofAttributes, width, height, input, output, code, Checked.seq_eq_ok_iff, Checked.map_eq_ok_iff,
    field_some_eq_ok_iff, between_eq_ok_iff, atLeast_eq_ok_iff, integer, text, Except.ok.injEq]
  constructor
  · rintro ⟨_, _, ⟨_, _, ⟨_, _, ⟨_, _, ⟨_, ⟨rfl, hw⟩, rfl⟩, ⟨rfl, hh⟩, rfl⟩, rfl, rfl⟩, rfl, rfl⟩, ⟨rfl, hc, hc'⟩, rfl⟩
    exact ⟨rfl, hw, hh, hc, hc'⟩
  · rintro ⟨rfl, hw, hh, hc, hc'⟩
    exact ⟨_, _, ⟨_, _, ⟨_, _, ⟨_, _, ⟨_, ⟨rfl, hw⟩, rfl⟩, ⟨rfl, hh⟩, rfl⟩, rfl, rfl⟩, rfl, rfl⟩, ⟨rfl, hc, hc'⟩, rfl⟩

/-! ## Admitted images -/

/-- A description that tells of an image as it was announced: the size that shows, under a code that leads there. -/
structure Description.TellsOf (d : Description) (header : Header) (t : Transform) : Prop where
  bounds : d.WithinBounds
  input_eq : d.inputFormat = header.format.name
  input_known : d.inputFormat ∈ ["JPEG", "PNG", "GIF"]
  output_known : d.outputFormat ∈ ["JPEG", "PNG"]
  code_leads : upright header.raw (some d.orientation) = (⟨d.width, d.height⟩, t)

theorem Format.name_mem_of_known {format : Format} (known : format ≠ .unknown) :
    format.name ∈ ["JPEG", "PNG", "GIF"] := by
  cases format with
  | unknown => exact absurd rfl known
  | _ => decide

theorem OutputPolicy.name_choose_mem (p : OutputPolicy) (format : Format) (transparent : Bool) :
    (p.choose format transparent).name ∈ ["JPEG", "PNG"] := by
  obtain ⟨lossy⟩ := p
  cases format <;> cases transparent <;> cases lossy <;> decide

theorem Header.Admissible.tellsOf {header : Header} {limits : Limits} (admitted : header.Admissible limits)
    (policy : OutputPolicy) (transparent : Bool) :
    (header.admission.facts (policy.choose header.format transparent)).description.TellsOf header
      header.admission.transform where
  bounds :=
    have known : IsKnownCode (some header.admission.orientation) := isKnownCode_orientationOrUpright header.orientation
    ⟨admitted.width_ge, admitted.height_ge, known.1, known.2⟩
  input_eq := rfl
  input_known := Format.name_mem_of_known admitted.known
  output_known := policy.name_choose_mem header.format transparent
  code_leads := by
    show (header.raw.after (Transform.forCode (some (orientationOrUpright header.orientation))),
      Transform.forCode (some (orientationOrUpright header.orientation))) = _
    rw [forCode_orientationOrUpright]
    rfl

/-! ## Describing -/

namespace Service

/-- A description that passes its check is told, unless closing the image fails. -/
theorem Job.outcome_describe (c : Codec ω σ) (s : σ) (j : Job) {b : BufferId} {facts : Facts} {d : Description}
    (opened : ((openImage j.imageId j.data j.settings.maxBufferPixels j.settings.imageConfig).run c s).outcome =
      .ok (b, facts)) (checked : Description.ofAttributes (Description.factAttributes facts) = .ok d) :
    let opening := (openImage j.imageId j.data j.settings.maxBufferPixels j.settings.imageConfig).run c s
    (j.describe.run c s).outcome = ((Handle.opened b facts).close.run c opening.state).outcome.map fun _ => d := by
  intro opening
  rw [Job.describe, Job.opened, outcome_withImage, opened]
  simp only [Except.bind, checked, Work.run_bind, Work.run_noteAll, Work.run_pure, Run.andThen]
  generalize ((Handle.opened b facts).close.run c opening.state).outcome = closed
  cases closed <;> rfl

end Service

/-- Whatever a codec makes of an upload, an image that opens can be described: what is told passes its check, formats are
named, and the code leads from the size that the header announced to the size that is told. Only closing can fail. -/
theorem image_described (c : Codec ω σ) (s : σ) (j : Service.Job) {b : BufferId} {facts : Facts}
    (opened : ((openImage j.imageId j.data j.settings.maxBufferPixels j.settings.imageConfig).run c s).outcome =
      .ok (b, facts)) :
    let opening := (openImage j.imageId j.data j.settings.maxBufferPixels j.settings.imageConfig).run c s
    ∃ (header : Header) (d : Description), ⟨.decodeHeader j.data, .ok header⟩ ∈ opening.calls ∧
      Description.ofAttributes (Description.factAttributes facts) = .ok d ∧ d = facts.description ∧
      d.TellsOf header facts.transform ∧
      (j.describe.run c s).outcome = ((Handle.opened b facts).close.run c opening.state).outcome.map fun _ => d := by
  intro opening
  have ending := openImage_opening c s j.imageId j.data j.settings.maxBufferPixels j.settings.imageConfig
  rw [opened] at ending
  obtain ⟨header, transparent, admitted, made, rfl⟩ := ending.of_ok
  have told := admitted.tellsOf j.settings.imageConfig.outputPolicy transparent
  have checked := Description.ofAttributes_eq_ok_iff.2 ⟨rfl, told.bounds⟩
  exact ⟨header, _, made ▸ by simp, checked, rfl, told, j.outcome_describe c s opened checked⟩

/-- An image stored on its side: it is told in the size that shows, under the code that leads there. -/
theorem image_described_on_its_side :
    let script : Script := { header := ⟨⟨40, 30⟩, .png, some 6⟩, sniffed := .png }
    let j : Service.Job := { data := [], settings := { maxBufferPixels := 2000 }, imageId := "told", context := {} }
    let facts : Facts := ⟨⟨30, 40⟩, { turn := .quarter }, 6, .png, .jpeg⟩
    ((openImage "told" [] 2000 j.settings.imageConfig : Work String _).run scriptedCodec { script }).outcome =
      .ok (1, facts) ∧
    (j.describe.run scriptedCodec { script }).outcome = .ok ⟨30, 40, "PNG", "JPEG", 6⟩ ∧
    upright ⟨40, 30⟩ (some 6) = (⟨30, 40⟩, facts.transform) := by
  intro script j facts
  have opened : ((openImage "told" [] 2000 j.settings.imageConfig : Work String _).run scriptedCodec
      { script }).outcome = .ok (1, facts) := by decide +kernel
  obtain ⟨header, d, -, -, rfl, told, outcome⟩ := image_described scriptedCodec { script } j opened
  refine ⟨opened, outcome.trans ?_, ?_⟩
  · decide +kernel
  · decide +kernel

end Darkroom
