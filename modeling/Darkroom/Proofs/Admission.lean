import Darkroom.Proofs.Opening
import Darkroom.Proofs.Symmetry
/-!
# What admission decides

A header is judged by the size at which its image shows. Without anything to see it is an unknown format, beyond a limit
it is too big, and everything else is admitted. The log is told first, with the numbers that the judgement is about, and
where one of them has more digits than can be written, an invalid value is all that comes of it: `admission_decided`. The
code that a header carries exchanges the axes of
that size or leaves them, and has no other part in the verdict (`Header.sameVerdict`).
-/

namespace Darkroom

/-! ## Codes -/

/-- One of the eight codes. -/
def IsKnownCode : Option Int → Prop
  | some c => 1 ≤ c ∧ c ≤ 8
  | none => False

/-- One of the codes under which an image lies on its side. -/
def LiesOnSide : Option Int → Prop
  | some c => 5 ≤ c ∧ c ≤ 8
  | none => False

instance : DecidablePred LiesOnSide
  | some c => inferInstanceAs (Decidable (5 ≤ c ∧ c ≤ 8))
  | none => inferInstanceAs (Decidable False)

theorem swapsAxes_forCode_iff {code : Option Int} : (Transform.forCode code).swapsAxes = true ↔ LiesOnSide code := by
  constructor
  · intro swaps
    unfold Transform.forCode at swaps
    split at swaps
    case h_4 | h_5 | h_6 | h_7 => exact ⟨by decide, by decide⟩
    all_goals cases swaps
  · intro side
    cases code with
    | none => exact side.elim
    | some c => exact swapsAxes_of_code side.1 side.2

theorem forCode_of_unknown {code : Option Int} (h : ¬ IsKnownCode code) : Transform.forCode code = .identity := by
  unfold Transform.forCode
  split
  case h_8 => rfl
  all_goals exact absurd ⟨by decide, by decide⟩ h

/-- The code that stands for another is that one itself if it is known, and the upright one otherwise. -/
theorem orientationOrUpright_eq_iff {code : Option Int} {c : Int} : orientationOrUpright code = c ↔
    IsKnownCode code ∧ code = some c ∨ ¬ IsKnownCode code ∧ c = 1 := by
  by_cases known : IsKnownCode code
  · cases code with
    | none => exact known.elim
    | some own =>
      have kept : orientationOrUpright (some own) = own := if_pos known
      simp only [kept, known, true_and, Option.some.injEq, not_true, false_and, or_false]
  · have upright : orientationOrUpright code = 1 := by
      cases code with
      | none => rfl
      | some own => exact if_neg known
    simp only [upright, known, false_and, not_false_iff, true_and, false_or]
    exact eq_comm

/-- The code that stands for another has the same transform, and is one of the eight. -/
theorem forCode_orientationOrUpright (code : Option Int) :
    Transform.forCode (some (orientationOrUpright code)) = Transform.forCode code := by
  rcases orientationOrUpright_eq_iff.1 (rfl : orientationOrUpright code = _) with ⟨-, own⟩ | ⟨unknown, upright⟩
  · rw [← own]
  · rw [upright, forCode_of_unknown unknown]
    rfl

theorem isKnownCode_orientationOrUpright (code : Option Int) : IsKnownCode (some (orientationOrUpright code)) := by
  rcases orientationOrUpright_eq_iff.1 (rfl : orientationOrUpright code = _) with ⟨known, own⟩ | ⟨-, upright⟩
  · rwa [← own]
  · rw [upright]
    exact ⟨by decide, by decide⟩

/-! ## Verdicts -/

/-- What whoever opens an image learns of its header: as what it is admitted, or the kind of failure. -/
def Header.verdict (h : Header) (limits : Limits) (digits : Text.DigitLimit := .standard) :
    Except Failure.Kind Admission :=
  (h.assess limits digits).mapError (·.failure.kind)

/-- The size at which an image shows: as it is stored, or with the axes exchanged if it lies on its side. -/
def Header.shownSize (h : Header) : Dimensions := if LiesOnSide h.orientation then h.raw.swap else h.raw

/-- There is nothing to see of an image. -/
def Header.Senseless (h : Header) : Prop :=
  h.format = .unknown ∨ h.shownSize.width < 2 ∨ h.shownSize.height < 2

/-- An image goes beyond a limit. -/
def Header.Excessive (h : Header) (limits : Limits) : Prop :=
  limits.maxDimension < h.shownSize.width ∨ limits.maxDimension < h.shownSize.height ∨
    limits.budget < h.shownSize.width * h.shownSize.height

instance (h : Header) : Decidable h.Senseless := inferInstanceAs (Decidable (_ ∨ _))

instance (h : Header) (limits : Limits) : Decidable (h.Excessive limits) := inferInstanceAs (Decidable (_ ∨ _))

/-- The numbers that the log is told of a header can be written: its size, with the limit that a side of it is above, or
with the number of its pixels and the budget that this number is above. -/
def Header.Tellable (digits : Text.DigitLimit) (h : Header) (limits : Limits) : Prop :=
  if h.format = .unknown then True
  else if h.shownSize.width < 2 ∨ h.shownSize.height < 2 then h.shownSize.Writable digits
  else if limits.maxDimension < h.shownSize.width ∨ limits.maxDimension < h.shownSize.height then
    h.shownSize.Writable digits ∧ digits.Allows limits.maxDimension
  else if limits.budget < h.shownSize.width * h.shownSize.height then
    h.shownSize.Writable digits ∧ digits.Allows (h.shownSize.width * h.shownSize.height) ∧ digits.Allows limits.budget
  else h.shownSize.Writable digits

/-- What a header is admitted as: with the size that shows, under its own code if that is known and as an upright image
otherwise. -/
structure Header.AdmittedAs (h : Header) (a : Admission) : Prop where
  size_eq : a.dimensions = h.shownSize
  format_eq : a.inputFormat = h.format
  code_known : 1 ≤ a.orientation ∧ a.orientation ≤ 8
  code_eq : IsKnownCode h.orientation ∧ h.orientation = some a.orientation ∨
    ¬ IsKnownCode h.orientation ∧ a.orientation = 1
  transform_eq : a.transform = Transform.forCode (some a.orientation)

section
variable {h h' : Header} {limits : Limits} {digits : Text.DigitLimit} {a : Admission}

theorem Header.display_eq (h : Header) : h.display = h.shownSize := by
  rw [display, upright, Dimensions.after, shownSize]
  exact if_congr swapsAxes_forCode_iff rfl rfl

theorem Header.admittedAs_iff : h.AdmittedAs a ↔ a = h.admission := by
  constructor
  · rintro ⟨size, format, -, code, transform⟩
    obtain ⟨dimensions, turn, orientation, input⟩ := a
    have own := orientationOrUpright_eq_iff.2 code
    dsimp only at size format own transform
    rw [admission, display_eq, own, ← forCode_orientationOrUpright h.orientation, own, ← size, ← format, ← transform]
  · rintro rfl
    exact ⟨h.display_eq, rfl, isKnownCode_orientationOrUpright _, orientationOrUpright_eq_iff.1 rfl,
      (forCode_orientationOrUpright _).symm⟩

theorem Header.told_judge_iff : h.Told digits (h.judge limits) ↔ h.Tellable digits limits := by
  have raw : h.raw.Writable digits ↔ h.shownSize.Writable digits := by
    rw [← display_eq]
    exact Dimensions.writable_after.symm
  rw [judge_eq, display_eq, leastExtent, Dimensions.pixels, Tellable]
  split_ifs
  · rfl
  · rfl
  · rfl
  · rfl
  · show h.admission.dimensions.Writable digits ∧ h.raw.Writable digits ↔ _
    rw [raw, ← display_eq]
    exact and_self_iff

theorem Header.verdict_of_untellable (silent : ¬ h.Tellable digits limits) :
    h.verdict limits digits = .error .value := by
  rw [verdict, assess_of_untold (mt told_judge_iff.1 silent)]
  rfl

theorem Header.verdict_of_tellable (told : h.Tellable digits limits) :
    h.verdict limits digits = (h.judge limits).mapError (·.failure.kind) := by
  rw [verdict, assess_of_told (told_judge_iff.2 told)]

/-- A header without anything to see is refused before its size is held against the limits. -/
theorem Header.verdict_of_senseless (told : h.Tellable digits limits) (hs : h.Senseless) :
    h.verdict limits digits = .error .unknownFormat := by
  rw [verdict_of_tellable told, judge_eq, display_eq, leastExtent]
  by_cases hformat : h.format = .unknown
  · rw [if_pos hformat]
    rfl
  · rw [if_neg hformat, if_pos (hs.resolve_left hformat)]
    rfl

theorem Header.verdict_of_excessive (told : h.Tellable digits limits) (hs : ¬ h.Senseless)
    (he : h.Excessive limits) : h.verdict limits digits = .error .tooBig := by
  obtain ⟨hformat, hsmall⟩ := not_or.1 hs
  rw [verdict_of_tellable told, judge_eq, display_eq, leastExtent, Dimensions.pixels, if_neg hformat, if_neg hsmall]
  split
  · rfl
  · next hlarge =>
    -- within the limit on both axes, so it is the pixels
    rw [if_pos ((or_assoc.2 he).resolve_left hlarge)]
    rfl

/-- What is neither is within all limits. -/
theorem Header.withinLimits_iff : h.WithinLimits limits ↔ ¬ h.Senseless ∧ ¬ h.Excessive limits := by
  unfold Senseless Excessive
  rw [← display_eq]
  constructor
  · rintro ⟨known, hw, hh, hw', hh', hpixels⟩
    unfold leastExtent at hw hh
    exact ⟨not_or.2 ⟨known, by omega⟩, not_or.2 ⟨not_lt.2 hw', not_or.2 ⟨not_lt.2 hh', not_lt.2 hpixels⟩⟩⟩
  · rintro ⟨hs, he⟩
    simp only [not_or, not_lt] at hs he
    exact ⟨hs.1, hs.2.1, hs.2.2, he.1, he.2.1, he.2.2⟩

theorem Header.verdict_of_acceptable (told : h.Tellable digits limits) (hs : ¬ h.Senseless)
    (he : ¬ h.Excessive limits) : h.verdict limits digits = .ok h.admission := by
  rw [verdict_of_tellable told, judge_eq_ok_iff.2 ⟨withinLimits_iff.2 ⟨hs, he⟩, rfl⟩]
  rfl

/-! ## Headers that differ in their code -/

/-- Two verdicts that agree: the same kind of failure, or two admissions of one size up to the order of its axes. -/
inductive SameVerdict : Except Failure.Kind Admission → Except Failure.Kind Admission → Prop
  | refused (kind : Failure.Kind) : SameVerdict (.error kind) (.error kind)
  | admitted {a a' : Admission} (h : a'.dimensions = a.dimensions ∨ a'.dimensions = a.dimensions.swap) :
      SameVerdict (.ok a) (.ok a')

theorem Header.shownSize_eq_or_swap (hr : h'.raw = h.raw) :
    h'.shownSize = h.shownSize ∨ h'.shownSize = h.shownSize.swap := by
  unfold shownSize
  rw [hr]
  split_ifs
  · exact .inl rfl
  · exact .inr rfl
  · exact .inr rfl
  · exact .inl rfl

theorem Header.senseless_congr (hf : h'.format = h.format)
    (hs : h'.shownSize = h.shownSize ∨ h'.shownSize = h.shownSize.swap) : h'.Senseless ↔ h.Senseless := by
  unfold Senseless
  rw [hf]
  rcases hs with same | turned
  · rw [same]
  · rw [turned]
    exact or_congr_right Or.comm

theorem Header.excessive_congr (hs : h'.shownSize = h.shownSize ∨ h'.shownSize = h.shownSize.swap) :
    h'.Excessive limits ↔ h.Excessive limits := by
  unfold Excessive
  rcases hs with same | turned
  · rw [same]
  · rw [turned]
    simp only [Dimensions.swap, Int.mul_comm h.shownSize.height]
    exact or_left_comm

theorem Header.tellable_congr (hf : h'.format = h.format)
    (hs : h'.shownSize = h.shownSize ∨ h'.shownSize = h.shownSize.swap) :
    h'.Tellable digits limits ↔ h.Tellable digits limits := by
  unfold Tellable
  rw [hf]
  rcases hs with same | turned
  · rw [same]
  · have writable : h.shownSize.swap.Writable digits ↔ h.shownSize.Writable digits := And.comm
    rw [turned, writable]
    simp only [Dimensions.swap, Int.mul_comm h.shownSize.height, or_comm]

/-- The code makes no difference to a verdict, but for the order of the axes. -/
theorem Header.sameVerdict (hr : h'.raw = h.raw) (hf : h'.format = h.format) :
    SameVerdict (h.verdict limits digits) (h'.verdict limits digits) := by
  have sizes := shownSize_eq_or_swap hr
  by_cases told : h.Tellable digits limits
  swap
  · rw [verdict_of_untellable told, verdict_of_untellable (mt (tellable_congr hf sizes).1 told)]
    exact .refused _
  have told' : h'.Tellable digits limits := (tellable_congr hf sizes).2 told
  by_cases hs : h.Senseless
  · rw [verdict_of_senseless told hs, verdict_of_senseless told' ((senseless_congr hf sizes).2 hs)]
    exact .refused _
  have hs' : ¬ h'.Senseless := mt (senseless_congr hf sizes).1 hs
  by_cases he : h.Excessive limits
  · rw [verdict_of_excessive told hs he, verdict_of_excessive told' hs' ((excessive_congr sizes).2 he)]
    exact .refused _
  · rw [verdict_of_acceptable told hs he, verdict_of_acceptable told' hs' (mt (excessive_congr sizes).1 he)]
    apply SameVerdict.admitted
    rw [admission, admission, display_eq, display_eq]
    exact sizes

end

/-! ## Main theorem -/

-- a single pixel is no image, also where no pixel is allowed
example : Header.verdict ⟨⟨1, 1⟩, .jpeg, none⟩ { budget := 0 } = .error .unknownFormat := rfl

end Darkroom
