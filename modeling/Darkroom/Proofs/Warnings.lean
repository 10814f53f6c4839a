import Darkroom.Proofs.ReadingBack
import Darkroom.Proofs.Sizes
import Darkroom.Settings.Basic
/-!
# Warnings about settings

The warnings about settings are those that there is reason for (`mem_risks_iff`), and two of them say that every image
will be refused. They are right: then no header is admitted. Without them the smallest image that has something to see is
admitted, unless the budget is of one to three pixels, since that image has four (`refusal_foretold`).
-/

namespace Darkroom

/-! ## The smallest image -/

/-- The smallest image that has something to see. -/
def Header.least (format : Format) (code : Option Int) : Header := ⟨⟨leastExtent, leastExtent⟩, format, code⟩

section
variable {h : Header} {limits : Limits} {format : Format}

/-- A square shows as it is stored, whatever its code. -/
theorem Header.display_least (format : Format) (code : Option Int) :
    (least format code).display = ⟨leastExtent, leastExtent⟩ := by
  rw [display, upright, Dimensions.after]
  exact ite_self _

theorem Header.least_admissible_iff (known : format ≠ .unknown) (code : Option Int) :
    (least format code).Admissible limits ↔
      leastExtent ≤ limits.maxDimension ∧ leastExtent * leastExtent ≤ limits.budget := by
  have shown := display_least format code
  constructor
  · rintro ⟨⟨-, -, -, width_le, -, pixels_le⟩, -⟩
    rw [shown] at width_le pixels_le
    exact ⟨width_le, pixels_le⟩
  · rintro ⟨extent, pixels⟩
    refine ⟨⟨known, ?width_ge, ?height_ge, ?width_le, ?height_le, ?pixels_le⟩, ?writable⟩ <;> rw [shown]
    case width_le | height_le => exact extent
    case pixels_le => exact pixels
    case writable => decide

/-- Where any image is admitted, the smallest one is. -/
theorem Header.Admissible.least (admitted : h.Admissible limits) (known : format ≠ .unknown) (code : Option Int) :
    (Header.least format code).Admissible limits := by
  have extent : 0 ≤ leastExtent := by decide
  have pixels : leastExtent * leastExtent ≤ h.display.pixels :=
    Int.mul_le_mul admitted.width_ge admitted.height_ge extent (extent.trans admitted.width_ge)
  exact (least_admissible_iff known code).2 ⟨admitted.width_ge.trans admitted.width_le, pixels.trans admitted.pixels_le⟩

end

-- two pixels to a side are room enough, also for an image that lies on its side
example : (Header.least .gif (some 6)).assess ⟨4, 2⟩ = .ok ⟨⟨2, 2⟩, Transform.forCode (some 6), 6, .gif⟩ := rfl

namespace Settings

/-! ## What is refused -/

/-- The limits that an image is opened under. -/
def limits (s : Settings) : Limits := ⟨s.maxBufferPixels, s.maxDimension⟩

/-- Whatever a header says, it is refused. -/
def RefusesAll (s : Settings) : Prop := ∀ h : Header, ∃ r, h.assess s.limits = .error r

theorem refusesAll_iff {s : Settings} : s.RefusesAll ↔ s.maxBufferPixels < 4 ∨ s.maxDimension < 2 := by
  have png : Format.png ≠ .unknown := by decide
  have room : (Header.least .png none).Admissible s.limits ↔ 2 ≤ s.maxDimension ∧ 4 ≤ s.maxBufferPixels :=
    Header.least_admissible_iff png none
  constructor
  · intro refused
    have unfit := Header.assess_eq_error_iff.1 (refused (.least .png none))
    rw [room] at unfit
    omega
  · intro tight h
    refine Header.assess_eq_error_iff.2 fun admitted => ?_
    have least := room.1 (admitted.least png none)
    omega

/-! ## What is warned of -/

/-- There is reason for a warning. -/
def Runs (s : Settings) : Risk → Prop
  | .noPixels => s.maxBufferPixels ≤ 0
  | .moreThanDecoded => decodedPixels < s.maxBufferPixels
  | .noAxis => s.maxDimension < 2
  | .quality q => q = s.jpegQuality ∧ ¬ (1 ≤ q ∧ q ≤ 95)

theorem mem_risks_iff (s : Settings) (r : Risk) : r ∈ s.risks ↔ s.Runs r := by
  -- a budget that is too large is not too small as well, so neither warning on it hides the other
  have positive : 0 < decodedPixels := by decide
  cases r <;> grind [risks, Runs]

/-- A warning says that every image will be refused. -/
def Risk.ForetellsRefusal (r : Risk) : Prop :=
  ∃ before after : String, r.text = before ++ "every image will be rejected" ++ after

/-- The words have a letter that the other warnings are without. -/
theorem Risk.ForetellsRefusal.letter {r : Risk} (h : r.ForetellsRefusal) : 'v' ∈ r.text.toList := by
  obtain ⟨before, after, words⟩ := h
  rw [words, String.toList_append, String.toList_append]
  exact List.mem_append_left _ (List.mem_append_right _ (by decide))

theorem isDigit_or_sign_of_mem_toString {n : Int} {c : Char} (h : c ∈ (toString n).toList) : c.isDigit ∨ c = '-' := by
  have digits : ∀ m, c ∈ Nat.toDigits 10 m → c.isDigit := fun m => Nat.isDigit_of_mem_toDigits (by decide) (by decide)
  rw [Json.toList_toString] at h
  split at h
  · exact .inl (digits _ h)
  · exact (List.mem_cons.1 h).symm.imp_left (digits _)

theorem Risk.foretellsRefusal_iff {r : Risk} : r.ForetellsRefusal ↔ r = .noPixels ∨ r = .noAxis := by
  cases r with
  | noPixels => exact iff_of_true ⟨"max_buffer_pixels <= 0: ", " as too big.", rfl⟩ (.inl rfl)
  | noAxis => exact iff_of_true ⟨"max_dimension < 2: ", ".", rfl⟩ (.inr rfl)
  | moreThanDecoded =>
    refine iff_of_false (fun foretells => ?_) (by simp)
    exact absurd foretells.letter (by decide +kernel)
  | quality q =>
    refine iff_of_false (fun foretells => ?_) (by simp)
    have text : (quality q).text.toList =
        "jpeg_quality=".toList ++ (toString q).toList ++ " is outside the useful 1..95 range.".toList :=
      (String.toList_append ..).trans (congrArg (· ++ _) (String.toList_append ..))
    have letter := foretells.letter
    rw [text, List.mem_append, List.mem_append] at letter
    rcases letter with (start | number) | rest
    · exact absurd start (by decide)
    · exact absurd (isDigit_or_sign_of_mem_toString number) (by decide)
    · exact absurd rest (by decide)

/-- It is said in advance that every image will be refused. -/
def ForetellsRefusal (s : Settings) : Prop := ∃ r ∈ s.risks, r.ForetellsRefusal

theorem foretellsRefusal_iff {s : Settings} : s.ForetellsRefusal ↔ s.maxBufferPixels ≤ 0 ∨ s.maxDimension < 2 := by
  simp only [ForetellsRefusal, mem_risks_iff, Risk.foretellsRefusal_iff, and_or_left, exists_or, exists_eq_right, Runs]

/-! ## Main theorem -/

/-- Every image is refused where that is said in advance, and else just under a budget of one to three pixels. -/
theorem refusal_foretold (s : Settings) :
    (s.RefusesAll ↔ s.ForetellsRefusal ∨ 1 ≤ s.maxBufferPixels ∧ s.maxBufferPixels ≤ 3) ∧
    ((s.ForetellsRefusal ↔ s.RefusesAll) ↔
      ¬ (1 ≤ s.maxBufferPixels ∧ s.maxBufferPixels ≤ 3 ∧ 2 ≤ s.maxDimension)) := by
  rw [refusesAll_iff, foretellsRefusal_iff]
  constructor <;> omega

/-- Three pixels are a budget, and too little for any image. -/
theorem scant_budget_not_foretold :
    let scant : Settings := { maxBufferPixels := 3 }
    scant.RefusesAll ∧ ¬ scant.ForetellsRefusal := by
  intro scant
  rw [refusesAll_iff, foretellsRefusal_iff]
  decide

end Settings

end Darkroom
