import Darkroom.Proofs.Framing
import Mathlib.Algebra.Order.Field.Basic
/-!
# Sizes by whole-number division

Geometry finds its sizes with exact fractions. Whole numbers do as well: products tell which axis governs (`Governs`),
and an extent at a ratio is rounded by a single division (`scaledExtent_ratio`). `geometry_divides` says that every
thumbnail and every crop without room for its target has the size found so, whichever axis is taken on a tie, with the
ratio reduced or not, and for a closed box.
-/

namespace Darkroom

/-! ## Whole numbers only -/

/-- The pixels of an extent at the ratio `n / d`: twice the extent and half a pixel, divided and rounded down. -/
def dividedExtent (extent n d : Int) : Int := max 1 ((2 * extent * n + d) / (2 * d))

def Dimensions.divided (size : Dimensions) (n d : Int) : Dimensions :=
  ⟨dividedExtent size.width n d, dividedExtent size.height n d⟩

/-- `n / d` is the bound by the extent of a source on the axis that governs: the narrower one inside a box, the wider one
around it. Products are compared, and on a tie both axes govern. -/
inductive Governs (source bound : Dimensions) : Bool → Int → Int → Prop
  | across_inside (h : bound.width * source.height ≤ bound.height * source.width) :
      Governs source bound true bound.width source.width
  | down_inside (h : bound.height * source.width ≤ bound.width * source.height) :
      Governs source bound true bound.height source.height
  | across_around (h : bound.height * source.width ≤ bound.width * source.height) :
      Governs source bound false bound.width source.width
  | down_around (h : bound.width * source.height ≤ bound.height * source.width) :
      Governs source bound false bound.height source.height

/-- One of the axes governs. -/
theorem exists_governs (source bound : Dimensions) (fit : Bool) : ∃ n d, Governs source bound fit n d := by
  rcases le_total (bound.width * source.height) (bound.height * source.width) with h | h
  · cases fit with
    | true => exact ⟨_, _, .across_inside h⟩
    | false => exact ⟨_, _, .down_around h⟩
  · cases fit with
    | true => exact ⟨_, _, .down_inside h⟩
    | false => exact ⟨_, _, .across_around h⟩

/-! ## Rounding -/

theorem roundHalfUp_ratio {d : Int} (hd : 0 < d) (a : Int) : roundHalfUp (a / d) = (2 * a + d) / (2 * d) := by
  have hd' : (d : Rat) ≠ 0 := by exact_mod_cast hd.ne'
  have joined : (a / d + 1 / 2 : Rat) = ((2 * a + d : Int) : Rat) / ((2 * d : Int) : Rat) := by
    push_cast
    field_simp
  rw [roundHalfUp_eq, joined, Int.floor_div_cast_of_nonneg (by omega), Int.floor_intCast]

/-- Scaling by a fraction is one division. -/
theorem scaledExtent_ratio {d : Int} (hd : 0 < d) (extent n : Int) :
    scaledExtent extent (n / d) = dividedExtent extent n d := by
  have product : (extent * (n / d) : Rat) = ((extent * n : Int) : Rat) / d := by
    push_cast
    exact (mul_div_assoc ..).symm
  rw [scaledExtent, product, roundHalfUp_ratio hd, dividedExtent, mul_assoc]

theorem Dimensions.scaled_ratio {d : Int} (hd : 0 < d) (size : Dimensions) (n : Int) :
    size.scaled (n / d) = size.divided n d := by
  rw [scaled, scaledExtent_ratio hd, scaledExtent_ratio hd, divided]

/-! ## The governing axis -/

/-- Ratios compare as their products do. -/
theorem ratio_le_ratio_iff {n d n' d' : Int} (hd : 0 < d) (hd' : 0 < d') :
    (n / d : Rat) ≤ n' / d' ↔ n * d' ≤ n' * d := by
  have hd : (0 : Rat) < d := by exact_mod_cast hd
  have hd' : (0 : Rat) < d' := by exact_mod_cast hd'
  rw [div_le_div_iff₀ hd hd']
  exact_mod_cast Iff.rfl

section
variable {source bound target : Dimensions} {fit : Bool} {n d : Int}

theorem Governs.ratio_eq (hs : source.Positive) (h : Governs source bound fit n d) :
    boxRatio source bound fit = n / d := by
  have hw : 0 < source.width := zero_lt_one.trans_le hs.1
  have hh : 0 < source.height := zero_lt_one.trans_le hs.2
  cases h with
  | across_inside h => exact min_eq_left ((ratio_le_ratio_iff hw hh).2 h)
  | down_inside h => exact min_eq_right ((ratio_le_ratio_iff hh hw).2 h)
  | across_around h => exact max_eq_left ((ratio_le_ratio_iff hh hw).2 h)
  | down_around h => exact max_eq_right ((ratio_le_ratio_iff hw hh).2 h)

theorem Governs.divisor_pos (hs : source.Positive) (h : Governs source bound fit n d) : 0 < d := by
  obtain ⟨hw, hh⟩ := hs
  cases h <;> omega

/-- A box has room for a source if it has on the governing axis. -/
theorem Governs.hasRoom_iff (hs : source.Positive) (h : Governs source bound fit n d) :
    bound.HasRoom source fit ↔ d ≤ n := by
  have hd : (0 : Rat) < d := by exact_mod_cast h.divisor_pos hs
  rw [← one_le_boxRatio_iff hs, h.ratio_eq hs, one_le_div hd, Int.cast_le]

/-- Scaled by the ratio of a box, a size is divided on the governing axis. -/
theorem Governs.scaled_eq (hs : source.Positive) (h : Governs source bound fit n d) :
    source.scaled (boxRatio source bound fit) = source.divided n d := by
  rw [h.ratio_eq hs]
  exact source.scaled_ratio (h.divisor_pos hs) n

theorem Governs.thumbnailSize_answers (hs : source.Positive) (hb : 0 ≤ bound.width ∧ 0 ≤ bound.height)
    (h : Governs source bound fit n d) :
    Answers (fun limit => thumbnailSize source bound fit limit) (d ≤ n) source bound
      (if d ≤ n then source else source.divided n d) := by
  obtain ⟨size, hsize⟩ := exists_thumbnailSize hs hb.1 hb.2 fit
  have answers := thumbnailSize_answers_of_ok hsize
  rw [h.hasRoom_iff hs] at answers
  split
  · next room => rwa [eq_source_of_hasRoom ((h.hasRoom_iff hs).2 room) hsize] at answers
  · next outgrown => rwa [thumbnailSize_of_not_hasRoom (mt (h.hasRoom_iff hs).1 outgrown) hsize, h.scaled_eq hs] at answers

/-- Nothing of a target without room is cut off by the source once it is divided. -/
theorem Governs.cropSize_eq (hs : source.Positive) (ht : target.Positive)
    (outgrown : source.width < target.width ∨ source.height < target.height) (h : Governs target source true n d) :
    cropSize source target = target.divided n d := by
  have room : ¬ source.HasRoom target true := by
    rw [Dimensions.hasRoom_inside]
    omega
  rw [cropSize_of_not_hasRoom hs ht room, h.scaled_eq ht]

end

/-! ## Main theorem -/

/-- The sizes of thumbnails, and of crops without room for their target, by whole-number division. They are given unless a
limit on digits leaves nothing to tell of what is scaled. -/
theorem geometry_divides (source : Dimensions) (hs : source.Positive) :
    (∀ (bound : Dimensions) (fit : Bool), 0 ≤ bound.width → 0 ≤ bound.height →
      (∃ n d, Governs source bound fit n d) ∧ ∀ n d, Governs source bound fit n d →
        Answers (fun limit => thumbnailSize source bound fit limit) (d ≤ n) source bound
          (if d ≤ n then source else source.divided n d)) ∧
    ∀ target : Dimensions, target.Positive → (source.width < target.width ∨ source.height < target.height) →
      (∃ n d, Governs target source true n d) ∧ ∀ n d, Governs target source true n d →
        ∃ box : CropBox, box.size = target.divided n d ∧
          Answers (fun limit => cropBox source target limit) (source.HasRoom target true) source target box := by
  constructor
  · intro bound fit hw hh
    refine ⟨exists_governs source bound fit, ?_⟩
    intro n d governs
    exact governs.thumbnailSize_answers hs ⟨hw, hh⟩
  · intro target ht outgrown
    refine ⟨exists_governs target source true, ?_⟩
    intro n d governs
    obtain ⟨box, hbox⟩ := exists_cropBox hs ht
    refine ⟨box, ?_, cropBox_answers_of_ok hbox⟩
    rw [size_cropBox hbox]
    exact governs.cropSize_eq hs ht outgrown

/-- Two eighths of six rows are a row and a half, which goes up, with a closed axis in the box. Of a target of four rows
a third is left, which goes down. -/
theorem geometry_divides_unreduced :
    thumbnailSize ⟨8, 6⟩ ⟨2, 0⟩ false = .ok (Dimensions.divided ⟨8, 6⟩ 2 8) ∧
    Dimensions.divided ⟨8, 6⟩ 2 8 = ⟨2, 2⟩ ∧
    ∃ box, cropBox ⟨8, 6⟩ ⟨24, 4⟩ = .ok box ∧ box.size = Dimensions.divided ⟨24, 4⟩ 8 24 ∧
      Dimensions.divided ⟨24, 4⟩ 8 24 = ⟨8, 1⟩ := by
  obtain ⟨thumbnails, crops⟩ := geometry_divides ⟨8, 6⟩ ⟨by decide, by decide⟩
  obtain ⟨-, divided⟩ := thumbnails ⟨2, 0⟩ false (by decide) (by decide)
  have across : Governs ⟨8, 6⟩ ⟨2, 0⟩ false 2 8 := .across_around (by decide)
  have tellable : Dimensions.Tellable .standard ⟨8, 6⟩ ⟨2, 0⟩ :=
    Dimensions.tellable_iff.2 (by decide +kernel)
  obtain ⟨-, cropped⟩ := crops ⟨24, 4⟩ ⟨by decide, by decide⟩ (.inl (by decide))
  have across' : Governs ⟨24, 4⟩ ⟨8, 6⟩ true 8 24 := .across_inside (by decide)
  have tellable' : Dimensions.Tellable .standard ⟨8, 6⟩ ⟨24, 4⟩ :=
    Dimensions.tellable_iff.2 (by decide +kernel)
  obtain ⟨box, size, answers⟩ := cropped 8 24 across'
  exact ⟨(divided 2 8 across).given .standard (.inr tellable), by decide, box, answers.given .standard (.inr tellable'),
    size, by decide⟩

end Darkroom
