import Darkroom.Proofs.Faults
import Darkroom.Proofs.Ownership
/-!
# Validating an image

An image is validated by opening it and giving its source back at once (`validateImage_validated`). So validating comes
to what opening comes to, and leaves the buffers in use as they were (`validation_agrees`).
-/

namespace Darkroom

variable {ω σ : Type}

/-! ## What validating an image can come to -/

/-- How validating can end, with the calls made, where opening makes `calls` first. -/
inductive Validated (calls : List (Call ω)) :
    Except Failure (BufferId × Facts) → List (Call ω) → Except Failure (Dimensions × Format) → Prop
  | failed {f} : Validated calls (.error f) calls (.error f)
  | closed {b facts} (reply : Except Failure Unit) : Validated calls (.ok (b, facts))
      (calls ++ [⟨.release b, reply⟩]) (reply.map fun _ => (facts.dimensions, facts.inputFormat))

section
variable (c : Codec ω σ) (s : σ) (data : Bytes) (budget : Int) (config : Config)

/-- What an image is called in the log changes nothing for the codec and for who opens it. -/
theorem run_openImage_congr (imageId imageId' : String) :
    let run := (openImage imageId data budget config).run c s
    let run' := (openImage imageId' data budget config).run c s
    run'.outcome = run.outcome ∧ run'.calls = run.calls := by
  rcases h₁ : c.respond s (.sniff data) with ⟨f | tag, s₁⟩
  · simp [openImage, h₁]
  rcases h₂ : c.respond s₁ (.decodeHeader data) with ⟨f | header, s₂⟩
  · simp [openImage, h₁, h₂]
  by_cases hf : header.format = tag
  · cases hj : header.assess ⟨budget, config.maxDimension⟩ with
    | error r => simp [openImage, h₁, h₂, hf, hj, Except.mapError]
    | ok a =>
      rcases h₃ : c.respond s₂ (.decodeFull data) with ⟨f | b, s₃⟩
      · simp [openImage, h₁, h₂, hf, hj, Except.mapError, h₃]
      rcases h₄ : c.respond s₃ (.hasTransparency b) with ⟨f | transparent, s₄⟩
      · rcases h₅ : c.respond s₄ (.release b) with ⟨f' | ⟨⟩, s₅⟩ <;>
          simp [openImage, h₁, h₂, hf, hj, Except.mapError, h₃, h₄, h₅, Except.bind]
      · simp [openImage, h₁, h₂, hf, hj, Except.mapError, h₃, h₄]
  · simp [openImage, h₁, h₂, hf]

theorem validateImage_validated (imageId : String) :
    let opening := (openImage imageId data budget config).run c s
    let validation := (validateImage imageId data budget config).run c s
    Validated opening.calls opening.outcome validation.calls validation.outcome := by
  simp only [validateImage, withImage, Work.run_bind, Run.andThen]
  rcases (openImage imageId data budget config).run c s with ⟨f | ⟨b, facts⟩, s', calls, journal⟩
  · simpa using Validated.failed
  · rcases h : c.respond s' (.release b) with ⟨f | ⟨⟩, s''⟩
    · simpa [h, Except.bind, Except.map] using Validated.closed (.error f)
    · simpa [h, Except.bind, Except.map] using Validated.closed (.ok ())

end

/-! ## Validating and opening -/

section
variable {calls calls' : List (Call ω)} {o : Except Failure (BufferId × Facts)}
  {o' : Except Failure (Dimensions × Format)}

/-- The source of an image that opened is given back, and nothing else. -/
theorem Validated.calls_eq (h : Validated calls o calls' o') (quiet : Untroubled calls') :
    calls' = calls ++ givesBack (Handle.ofOutcome o).source?.toList ∧
      o' = o.map fun image => (image.2.dimensions, image.2.inputFormat) := by
  cases h with
  | failed => exact ⟨(List.append_nil _).symm, rfl⟩
  | @closed b facts reply =>
    cases reply with
    | error f => exact absurd (by simp) (quiet b f)
    | ok => exact ⟨rfl, rfl⟩

theorem Validated.heldAfter_eq {data : Bytes} {limits : Limits} {policy : OutputPolicy} (held : Multiset BufferId)
    (h : Validated calls o calls' o') (opening : Opening data limits policy calls o) (quiet : Untroubled calls') :
    heldAfter held calls' = held := by
  cases h with
  | failed => rw [(opening.custody held quiet).1, sourceOf, Multiset.zero_add]
  | @closed b facts reply =>
    rw [heldAfter_append, (opening.custody held quiet.of_append.1).1, sourceOf, Multiset.singleton_add]
    exact (release_custody held b reply quiet.of_append.2).1

end

/-- On a codec that takes every release, validating an image gives its display size and its format if the image can be
opened, and otherwise the failure of opening it. It asks what opening asks and then gives the source back, so the same
buffers are in use as before. -/
theorem validation_agrees {c : Codec ω σ} {s : σ} (takes : c.TakesReleases s) (imageId imageId' : String) (data : Bytes)
    (budget : Int) (config : Config) :
    let opening := (openImage imageId data budget config).run c s
    let validation := (validateImage imageId' data budget config).run c s
    (∀ size format, validation.outcome = .ok (size, format) ↔ ∃ b facts, opening.outcome = .ok (b, facts) ∧
      facts.dimensions = size ∧ facts.inputFormat = format) ∧
    (∀ f, validation.outcome = .error f ↔ opening.outcome = .error f) ∧
    validation.calls = opening.calls ++ givesBack (Handle.ofOutcome opening.outcome).source?.toList ∧
    ∀ before, live (before ++ validation.calls) = live before := by
  intro opening validation
  obtain ⟨sameOutcome, sameCalls⟩ := run_openImage_congr c s data budget config imageId imageId'
  have validated := validateImage_validated c s data budget config imageId'
  have endings := openImage_opening c s imageId' data budget config
  have quiet := takes.untroubled_run (validateImage imageId' data budget config)
  obtain ⟨hcalls, houtcome⟩ := validated.calls_eq quiet
  rw [sameOutcome, sameCalls] at hcalls
  rw [sameOutcome] at houtcome
  refine ⟨?_, ?_, hcalls, ?_⟩
  · intro size format
    rw [houtcome]
    rcases opening.outcome with f | ⟨b, facts⟩ <;> simp [Except.map]
  · intro f
    rw [houtcome]
    cases opening.outcome <;> simp [Except.map]
  · intro before
    rw [live, heldAfter_append]
    exact validated.heldAfter_eq _ endings quiet

/-- An image stored on its side: it is opened, given back and told in its display size. -/
theorem validation_agrees_on_its_side :
    let script : Script := { header := ⟨⟨40, 30⟩, .jpeg, some 6⟩, sniffed := .jpeg }
    let validation := (validateImage "checked" [] 2000 {} : Work String _).run scriptedCodec { script }
    let facts : Facts := ⟨⟨30, 40⟩, { turn := .quarter }, 6, .jpeg, .jpeg⟩
    scriptedCodec.TakesReleases { script } ∧
    ((openImage "opened" [] 2000 {} : Work String _).run scriptedCodec { script }).outcome = .ok (1, facts) ∧
    validation.outcome = .ok (⟨30, 40⟩, .jpeg) ∧ handedOut validation.calls = [1] ∧ live validation.calls = 0 := by
  intro script validation facts
  have takes : scriptedCodec.TakesReleases { script } := scriptedCodec_takesReleases script (by decide)
  have opened : ((openImage "opened" [] 2000 {} : Work String _).run scriptedCodec { script }).outcome = .ok (1, facts) :=
    by decide +kernel
  obtain ⟨valid, -, -, inUse⟩ := validation_agrees takes "opened" "checked" [] 2000 {}
  exact ⟨takes, opened, (valid _ _).2 ⟨1, facts, opened, rfl, rfl⟩, by decide +kernel, inUse []⟩

end Darkroom
