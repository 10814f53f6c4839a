import Darkroom.Proofs.Geometry
import Mathlib.Algebra.Order.Group.Unbundled.Abs
import Mathlib.Tactic.Ring
/-!
# Thumbnails and their boxes

A thumbnail inside its box goes nowhere beyond it, and one around its box covers it as far as the source goes. Where the
box has no room for the source, both touch the box on the axis that governs the scale (`thumbnail_fits_box`,
`thumbnail_covers_box`). On that axis nothing is rounded, and on the other one by half a pixel at most, so the aspect ratio
is off by no more than that (`thumbnail_keeps_aspect`). A box leaves the thumbnails made for it as they are
(`thumbnail_idempotent`), and a larger one makes none of them smaller (`thumbnail_monotone`).
-/

namespace Darkroom

/-! ## The nearest whole number -/

/-- No whole number is nearer, and one as near is not above. -/
structure IsNearest (n : Int) (x : Rat) : Prop where
  closest : ∀ m : Int, |x - n| ≤ |x - m|
  upper : ∀ m : Int, |x - m| = |x - n| → m ≤ n

theorem abs_sub_roundHalfUp_le (x : Rat) : |x - roundHalfUp x| ≤ 1 / 2 := by
  have below := Int.floor_le (x + 1 / 2)
  have above := Int.lt_floor_add_one (x + 1 / 2)
  rw [roundHalfUp_eq, abs_le]
  constructor <;> linarith

/-- A tie is lost by the lower one of two. -/
theorem half_lt_of_roundHalfUp_lt {x : Rat} {m : Int} (h : roundHalfUp x < m) : 1 / 2 < |x - m| := by
  rw [roundHalfUp_eq, Int.floor_lt] at h
  rw [abs_sub_comm]
  exact lt_of_lt_of_le (by linarith) (le_abs_self _)

theorem half_le_of_lt_roundHalfUp {x : Rat} {m : Int} (h : m < roundHalfUp x) : 1 / 2 ≤ |x - m| := by
  have next : ((m + 1 : Int) : Rat) ≤ x + 1 / 2 := Int.le_floor.1 h
  push_cast at next
  exact le_trans (by linarith) (le_abs_self _)

theorem isNearest_roundHalfUp (x : Rat) : IsNearest (roundHalfUp x) x := by
  have near := abs_sub_roundHalfUp_le x
  constructor
  · intro m
    rcases lt_trichotomy m (roundHalfUp x) with h | rfl | h
    · exact near.trans (half_le_of_lt_roundHalfUp h)
    · exact le_rfl
    · exact near.trans (half_lt_of_roundHalfUp_lt h).le
  · -- a number above is farther than half, so it is no tie
    intro m tie
    by_contra above
    have farther := half_lt_of_roundHalfUp_lt (not_le.1 above)
    rw [tie] at farther
    exact absurd near (not_le.2 farther)

theorem IsNearest.unique {n n' : Int} {x : Rat} (h : IsNearest n x) (h' : IsNearest n' x) : n = n' := by
  have tie : |x - n| = |x - n'| := le_antisymm (h.closest n') (h'.closest n)
  exact le_antisymm (h'.upper n tie) (h.upper n' tie.symm)

theorem isNearest_iff {n : Int} {x : Rat} : IsNearest n x ↔ n = roundHalfUp x := by
  constructor
  · intro h
    exact h.unique (isNearest_roundHalfUp x)
  · rintro rfl
    exact isNearest_roundHalfUp x

instance (n : Int) (x : Rat) : Decidable (IsNearest n x) := decidable_of_iff _ isNearest_iff.symm

example : IsNearest 2 (3 / 2) ∧ ¬ IsNearest 1 (3 / 2) := by decide +kernel

/-- The pixels of an extent: one if less than half of one is left, and otherwise the nearest number of them. -/
def IsPixelsOf (n : Int) (x : Rat) : Prop :=
  if x < 1 / 2 then n = 1 else IsNearest n x

theorem one_le_roundHalfUp_iff {x : Rat} : 1 ≤ roundHalfUp x ↔ 1 / 2 ≤ x := by
  rw [roundHalfUp_eq, Int.le_floor]
  push_cast
  constructor <;> intro h <;> linarith

theorem scaledExtent_eq_roundHalfUp {extent : Int} {scale : Rat} (h : 1 / 2 ≤ (extent * scale : Rat)) :
    scaledExtent extent scale = roundHalfUp (extent * scale) :=
  max_eq_right (one_le_roundHalfUp_iff.2 h)

theorem scaledExtent_isPixelsOf (extent : Int) (scale : Rat) :
    IsPixelsOf (scaledExtent extent scale) (extent * scale) := by
  unfold IsPixelsOf
  split
  · next small =>
    rw [← not_le, ← one_le_roundHalfUp_iff, not_le] at small
    exact max_eq_left small.le
  · next large =>
    rw [isNearest_iff]
    exact scaledExtent_eq_roundHalfUp (not_lt.1 large)

section
variable {limit : Text.DigitLimit} {source bound size : Dimensions} {fit : Bool}

/-! ## Touching the box -/

/-- Without room in the box, a thumbnail has the extent of the box on the governing axis, and is one pixel there if the
box is closed. -/
theorem thumbnailSize_touches (room : ¬ bound.HasRoom source fit)
    (h : thumbnailSize source bound fit limit = .ok size) :
    size.width = max 1 bound.width ∨ size.height = max 1 bound.height := by
  obtain ⟨⟨hw, hh⟩, -⟩ := sensible_of_thumbnailSize h
  rw [thumbnailSize_of_not_hasRoom room h]
  rcases boxRatio_eq_across_or_down source bound fit with governs | governs
  · left
    rw [governs, Dimensions.width_scaled, scaledExtent_div hw]
  · right
    rw [governs, Dimensions.height_scaled, scaledExtent_div hh]

/-- A scale not below that of a bound does not lead below the bound, as far as the extent goes. -/
theorem min_le_scaledExtent {extent bound : Int} {scale : Rat} (he : 1 ≤ extent)
    (h : min (bound / extent : Rat) 1 ≤ scale) : min bound extent ≤ scaledExtent extent scale := by
  have mono : Monotone (scaledExtent extent) := fun _ _ hle => scaledExtent_mono (by omega) hle
  calc min bound extent
    _ ≤ min (max 1 bound) extent := min_le_min_right _ (le_max_right ..)
    _ = min (scaledExtent extent (bound / extent)) (scaledExtent extent 1) := by
      rw [scaledExtent_div he, scaledExtent_one he]
    _ = scaledExtent extent (min (bound / extent) 1) := (mono.map_min).symm
    _ ≤ scaledExtent extent scale := mono h

/-- Around a box nothing falls short of it, as far as the source goes. -/
theorem thumbnailSize_around (h : thumbnailSize source bound false limit = .ok size) :
    min bound.width source.width ≤ size.width ∧ min bound.height source.height ≤ size.height := by
  obtain ⟨⟨hw, hh⟩, -, rfl, -⟩ := thumbnailSize_eq_ok_iff.1 h
  exact ⟨min_le_scaledExtent hw (min_le_min_right _ (le_max_left ..)),
    min_le_scaledExtent hh (min_le_min_right _ (le_max_right ..))⟩

/-! ## The aspect ratio -/

/-- The scale of a thumbnail leads to a whole number of pixels on one axis. -/
theorem thumbnailScale_whole {scale : Rat} (h : thumbnailScale source bound fit limit = .ok scale) :
    (∃ n : Int, (source.width * scale : Rat) = n) ∨ ∃ n : Int, (source.height * scale : Rat) = n := by
  obtain ⟨⟨hw, hh⟩, -, hmin⟩ := thumbnailScale_eq_ok_iff.1 h
  rcases min_choice (boxRatio source bound fit) 1 with governs | governs
  · rw [hmin, governs]
    rcases boxRatio_eq_across_or_down source bound fit with across | down
    · exact .inl ⟨bound.width, by rw [across, mul_div_extent hw]⟩
    · exact .inr ⟨bound.height, by rw [down, mul_div_extent hh]⟩
  · exact .inl ⟨source.width, by rw [hmin, governs, mul_one]⟩

/-- An axis that is not rounded is as long as the scale says. -/
theorem scaledExtent_exact {extent n : Int} {scale : Rat} (whole : (extent * scale : Rat) = n)
    (h : 1 / 2 ≤ (extent * scale : Rat)) : (scaledExtent extent scale : Rat) = extent * scale := by
  rw [scaledExtent_eq_roundHalfUp h, whole, roundHalfUp_intCast]

/-- With one axis exact and the other half a pixel off at most, the sides are off their proportion by half the exact
axis at most. -/
theorem skew_le {exact other exact' other' : Int} {scale : Rat} (hpos : 0 ≤ exact)
    (hexact : (exact' : Rat) = exact * scale) (hother : |(other * scale : Rat) - other'| ≤ 1 / 2) :
    2 * |exact' * other - other' * exact| ≤ exact := by
  have hpos' : (0 : Rat) ≤ exact := by exact_mod_cast hpos
  have skew : ((exact' * other - other' * exact : Int) : Rat) = exact * (other * scale - other') := by
    push_cast
    rw [hexact]
    ring
  have bounded : ((2 * |exact' * other - other' * exact| : Int) : Rat) ≤ exact := by
    calc ((2 * |exact' * other - other' * exact| : Int) : Rat)
      _ = 2 * |((exact' * other - other' * exact : Int) : Rat)| := by push_cast; rfl
      _ = 2 * (exact * |(other * scale : Rat) - other'|) := by rw [skew, abs_mul, abs_of_nonneg hpos']
      _ ≤ 2 * (exact * (1 / 2)) := by gcongr
      _ = exact := by ring
  exact_mod_cast bounded

theorem abs_sub_scaledExtent_le {extent : Int} {scale : Rat} (h : 1 / 2 ≤ (extent * scale : Rat)) :
    |(extent * scale : Rat) - scaledExtent extent scale| ≤ 1 / 2 := by
  rw [scaledExtent_eq_roundHalfUp h]
  exact abs_sub_roundHalfUp_le _

/-- Scaled sides keep their proportion up to half of the longer side, unless one came down to less than half a pixel. -/
theorem scaled_skew_le {scale : Rat} (hs : source.Positive)
    (hscale : thumbnailScale source bound fit limit = .ok scale) (hw : 1 / 2 ≤ (source.width * scale : Rat)) (hh : 1 / 2 ≤ (source.height * scale : Rat)) :
    2 * |(source.scaled scale).width * source.height - (source.scaled scale).height * source.width| ≤
      max source.width source.height := by
  obtain ⟨positive_width, positive_height⟩ := hs
  -- the bound is half of the axis that is not rounded, whichever that is
  rcases thumbnailScale_whole hscale with ⟨n, across⟩ | ⟨n, down⟩
  · apply le_max_of_le_left
    exact skew_le (by omega) (scaledExtent_exact across hw) (abs_sub_scaledExtent_le hh)
  · apply le_max_of_le_right
    rw [abs_sub_comm]
    exact skew_le (by omega) (scaledExtent_exact down hh) (abs_sub_scaledExtent_le hw)

/-! ## Larger boxes -/

theorem boxRatio_mono {bound' : Dimensions} (hs : source.Positive) (hw : bound.width ≤ bound'.width)
    (hh : bound.height ≤ bound'.height) : boxRatio source bound fit ≤ boxRatio source bound' fit := by
  obtain ⟨positive_width, positive_height⟩ := hs
  have across : (bound.width / source.width : Rat) ≤ bound'.width / source.width := by
    apply div_le_div_of_nonneg_right
    · exact_mod_cast hw
    · exact_mod_cast (by omega : 0 ≤ source.width)
  have down : (bound.height / source.height : Rat) ≤ bound'.height / source.height := by
    apply div_le_div_of_nonneg_right
    · exact_mod_cast hh
    · exact_mod_cast (by omega : 0 ≤ source.height)
  cases fit with
  | true => exact min_le_min across down
  | false => exact max_le_max across down

theorem boxRatio_inside_le_around (source bound : Dimensions) :
    boxRatio source bound true ≤ boxRatio source bound false := min_le_max

/-- Of one source, a thumbnail is no larger than one for a box of a greater ratio. -/
theorem thumbnailSize_mono {bound' size' : Dimensions} {fit' : Bool}
    (h : thumbnailSize source bound fit limit = .ok size) (h' : thumbnailSize source bound' fit' limit = .ok size')
    (hle : boxRatio source bound fit ≤ boxRatio source bound' fit') : size.Within size' := by
  obtain ⟨positive, -, rfl, -⟩ := thumbnailSize_eq_ok_iff.1 h
  obtain ⟨-, -, rfl, -⟩ := thumbnailSize_eq_ok_iff.1 h'
  -- one pixel, scaled, or as it was: all three are the source scaled, so no case is different
  apply positive.scaled_within
  exact min_le_min_right _ hle

end

/-! ## Main theorems -/

/-- A size inside a box and its source, but for the last pixel: the source's own if the box has room for it, and
otherwise one that touches the box. -/
structure Dimensions.FitsBox (size source bound : Dimensions) : Prop where
  positive : size.Positive
  width_le : size.width ≤ max 1 (min bound.width source.width)
  height_le : size.height ≤ max 1 (min bound.height source.height)
  touches : if source.width ≤ bound.width ∧ source.height ≤ bound.height then size = source
    else size.width = max 1 bound.width ∨ size.height = max 1 bound.height

/-- Every thumbnail inside a box has such a size. It is given however long the numbers are that have to be told of it, if
the runtime sets no limit on digits; where it does, a thumbnail that is scaled is refused for a longer one. -/
theorem thumbnail_fits_box (source bound : Dimensions) (hs : source.Positive)
    (hb : 0 ≤ bound.width ∧ 0 ≤ bound.height) :
    ∃ size : Dimensions, size.FitsBox source bound ∧
      Answers (fun limit => thumbnailSize source bound true limit)
        (source.width ≤ bound.width ∧ source.height ≤ bound.height) source bound size := by
  obtain ⟨size, hsize⟩ := exists_thumbnailSize hs hb.1 hb.2 true
  obtain ⟨positive, within_width, within_height⟩ := thumbnailSize_within hsize
  obtain ⟨inside_width, inside_height⟩ := thumbnailSize_inside hsize
  refine ⟨size, ⟨positive, by omega, by omega, ?_⟩, thumbnailSize_answers_of_ok hsize⟩
  split
  · next room => exact eq_source_of_hasRoom (Dimensions.hasRoom_inside.2 room) hsize
  · next outgrown => exact thumbnailSize_touches (mt Dimensions.hasRoom_inside.1 outgrown) hsize

/-- A strip that comes down to a line one pixel high. -/
theorem thumbnail_fits_box_as_a_line :
    thumbnailSize ⟨5000, 2⟩ ⟨100, 1⟩ true = .ok ⟨100, 1⟩ ∧ Dimensions.FitsBox ⟨100, 1⟩ ⟨5000, 2⟩ ⟨100, 1⟩ := by
  obtain ⟨size, fits, answers⟩ :=
    thumbnail_fits_box ⟨5000, 2⟩ ⟨100, 1⟩ ⟨by decide, by decide⟩ ⟨by decide, by decide⟩
  have hline : thumbnailSize ⟨5000, 2⟩ ⟨100, 1⟩ true = .ok ⟨100, 1⟩ := by decide +kernel
  obtain ⟨rfl, -⟩ := answers.eq_of_given hline
  exact ⟨hline, fits⟩

/-- The least width with more digits than are written, next to a height that the source is scaled to. -/
example : thumbnailSize ⟨100, 50⟩ ⟨10 ^ 4300, 5⟩ true none = .ok ⟨10, 5⟩ ∧
    thumbnailSize ⟨100, 50⟩ ⟨10 ^ 4300, 5⟩ true = .error (.unwritable .standard) := by decide +kernel

/-- A size around a box, as far as its source goes: one that touches the box if the source is larger on both axes, and
otherwise the source's own. -/
structure Dimensions.CoversBox (size source bound : Dimensions) : Prop where
  positive : size.Positive
  covers_width : min bound.width source.width ≤ size.width
  covers_height : min bound.height source.height ≤ size.height
  width_le : size.width ≤ source.width
  height_le : size.height ≤ source.height
  touches : if bound.width < source.width ∧ bound.height < source.height
    then size.width = max 1 bound.width ∨ size.height = max 1 bound.height
    else size = source

/-- Every thumbnail around a box has such a size, and one that is scaled is refused only where a limit on digits leaves
nothing to tell of it. -/
theorem thumbnail_covers_box (source bound : Dimensions) (hs : source.Positive)
    (hb : 0 ≤ bound.width ∧ 0 ≤ bound.height) :
    ∃ size : Dimensions, size.CoversBox source bound ∧
      Answers (fun limit => thumbnailSize source bound false limit)
        (source.width ≤ bound.width ∨ source.height ≤ bound.height) source bound size := by
  obtain ⟨size, hsize⟩ := exists_thumbnailSize hs hb.1 hb.2 false
  obtain ⟨positive, hwidth, hheight⟩ := thumbnailSize_within hsize
  obtain ⟨covers_width, covers_height⟩ := thumbnailSize_around hsize
  refine ⟨size, ⟨positive, covers_width, covers_height, hwidth, hheight, ?_⟩, thumbnailSize_answers_of_ok hsize⟩
  split
  · next outgrown => exact thumbnailSize_touches (Dimensions.not_hasRoom_around.2 outgrown) hsize
  · next room => exact eq_source_of_hasRoom (not_not.1 (mt Dimensions.not_hasRoom_around.1 room)) hsize

/-- A side of one pixel and a half, which goes up. -/
theorem thumbnail_covers_box_on_a_tie :
    thumbnailSize ⟨4, 6⟩ ⟨1, 0⟩ false = .ok ⟨1, 2⟩ ∧ Dimensions.CoversBox ⟨1, 2⟩ ⟨4, 6⟩ ⟨1, 0⟩ := by
  obtain ⟨size, covers, answers⟩ := thumbnail_covers_box ⟨4, 6⟩ ⟨1, 0⟩ ⟨by decide, by decide⟩ ⟨by decide, by decide⟩
  have htie : thumbnailSize ⟨4, 6⟩ ⟨1, 0⟩ false = .ok ⟨1, 2⟩ := by decide +kernel
  obtain ⟨rfl, -⟩ := answers.eq_of_given htie
  exact ⟨htie, covers⟩

/-- A size that keeps the proportion of its source at this scale: each side has the pixels that the scale leaves of it,
and unless one came down to less than half a pixel the proportion is off by half of the longer side at most. -/
structure Dimensions.KeepsAspect (size source : Dimensions) (scale : Rat) : Prop where
  width_pixels : IsPixelsOf size.width (source.width * scale)
  height_pixels : IsPixelsOf size.height (source.height * scale)
  skew_le : ¬ (source.width * scale : Rat) < 1 / 2 → ¬ (source.height * scale : Rat) < 1 / 2 →
    2 * |size.width * source.height - size.height * source.width| ≤ max source.width source.height

theorem thumbnail_keeps_aspect (source bound : Dimensions) (hs : source.Positive)
    (hb : 0 ≤ bound.width ∧ 0 ≤ bound.height) (fit : Bool) :
    let scale := min (boxRatio source bound fit) 1
    (∀ limit, thumbnailScale source bound fit limit = .ok scale) ∧
      ∃ size : Dimensions, size.KeepsAspect source scale ∧
        Answers (fun limit => thumbnailSize source bound fit limit) (bound.HasRoom source fit) source bound size := by
  intro scale
  have hscale : ∀ limit, thumbnailScale source bound fit limit = .ok scale := fun limit =>
    thumbnailScale_eq_ok_iff.2 ⟨hs, hb, rfl⟩
  refine ⟨hscale, source.scaled scale, ⟨scaledExtent_isPixelsOf .., scaledExtent_isPixelsOf .., ?_⟩,
    thumbnailSize_answers hs hb fit⟩
  intro hw hh
  exact scaled_skew_le hs (hscale none) (not_lt.1 hw) (not_lt.1 hh)

/-- As far off as can be: half a pixel is one, and twice the difference of the products is the longer side. -/
theorem thumbnail_keeps_aspect_at_the_limit : thumbnailScale ⟨6, 3⟩ ⟨1, 1⟩ true = .ok (1 / 6) ∧
    thumbnailSize ⟨6, 3⟩ ⟨1, 1⟩ true = .ok ⟨1, 1⟩ ∧ Dimensions.KeepsAspect ⟨1, 1⟩ ⟨6, 3⟩ (1 / 6) ∧
    2 * |1 * 3 - 1 * 6| = max (6 : Int) 3 := by
  obtain ⟨hscale, size, keeps, answers⟩ :=
    thumbnail_keeps_aspect ⟨6, 3⟩ ⟨1, 1⟩ ⟨by decide, by decide⟩ ⟨by decide, by decide⟩ true
  have hsixth : thumbnailScale ⟨6, 3⟩ ⟨1, 1⟩ true = .ok (1 / 6) := by decide +kernel
  have hpixel : thumbnailSize ⟨6, 3⟩ ⟨1, 1⟩ true = .ok ⟨1, 1⟩ := by decide +kernel
  rw [Except.ok.inj ((hscale .standard).symm.trans hsixth)] at keeps
  obtain ⟨rfl, -⟩ := answers.eq_of_given hpixel
  exact ⟨hsixth, hpixel, keeps, by decide⟩

/-- A thumbnail is left as it is by the box it was made for, since there is room for it or it is a single pixel. Whatever
the limit on digits, the second thumbnail is given where the first one is. -/
theorem thumbnail_idempotent (source bound : Dimensions) (hs : source.Positive)
    (hb : 0 ≤ bound.width ∧ 0 ≤ bound.height) (fit : Bool) :
    ∃ size, Answers (fun limit => thumbnailSize source bound fit limit) (bound.HasRoom source fit) source bound size ∧
      (∀ limit, thumbnailSize source bound fit limit = .ok size → thumbnailSize size bound fit limit = .ok size) ∧
      (bound.HasRoom size fit ∨ size = ⟨1, 1⟩) := by
  obtain ⟨size, hsize⟩ := exists_thumbnailSize hs hb.1 hb.2 fit
  exact ⟨size, thumbnailSize_answers_of_ok hsize, fun _ => thumbnailSize_again, thumbnailSize_settles hsize⟩

/-- Around a box without width, of a source that is far from square. -/
theorem thumbnail_idempotent_around_a_slit :
    thumbnailSize ⟨10, 1000⟩ ⟨0, 3⟩ false = .ok ⟨1, 3⟩ ∧ thumbnailSize ⟨1, 3⟩ ⟨0, 3⟩ false = .ok ⟨1, 3⟩ := by
  obtain ⟨size, answers, again, -⟩ :=
    thumbnail_idempotent ⟨10, 1000⟩ ⟨0, 3⟩ ⟨by decide, by decide⟩ ⟨by decide, by decide⟩ false
  have hslit : thumbnailSize ⟨10, 1000⟩ ⟨0, 3⟩ false = .ok ⟨1, 3⟩ := by decide +kernel
  obtain ⟨rfl, -⟩ := answers.eq_of_given hslit
  exact ⟨hslit, again .standard hslit⟩

/-- A larger box never makes a thumbnail smaller, and inside a box it is no larger than around it. -/
theorem thumbnail_monotone (source bound : Dimensions) (hs : source.Positive)
    (hb : 0 ≤ bound.width ∧ 0 ≤ bound.height) :
    (∀ (fit : Bool) (bound' : Dimensions), bound.width ≤ bound'.width → bound.height ≤ bound'.height →
      ∃ size size',
        Answers (fun limit => thumbnailSize source bound fit limit) (bound.HasRoom source fit) source bound size ∧
        Answers (fun limit => thumbnailSize source bound' fit limit) (bound'.HasRoom source fit) source bound' size' ∧
        size.Within size') ∧
    ∃ inside around,
      Answers (fun limit => thumbnailSize source bound true limit) (bound.HasRoom source true) source bound inside ∧
      Answers (fun limit => thumbnailSize source bound false limit) (bound.HasRoom source false) source bound around ∧
      inside.Within around := by
  constructor
  · intro fit bound' hw hh
    obtain ⟨size, hsize⟩ := exists_thumbnailSize hs hb.1 hb.2 fit
    obtain ⟨size', hsize'⟩ := exists_thumbnailSize hs (hb.1.trans hw) (hb.2.trans hh) fit
    exact ⟨size, size', thumbnailSize_answers_of_ok hsize, thumbnailSize_answers_of_ok hsize',
      thumbnailSize_mono hsize hsize' (boxRatio_mono hs hw hh)⟩
  · obtain ⟨inside, hinside⟩ := exists_thumbnailSize hs hb.1 hb.2 true
    obtain ⟨around, haround⟩ := exists_thumbnailSize hs hb.1 hb.2 false
    exact ⟨inside, around, thumbnailSize_answers_of_ok hinside, thumbnailSize_answers_of_ok haround,
      thumbnailSize_mono hinside haround (boxRatio_inside_le_around ..)⟩

/-- The width governs the smaller box, where the height is left one pixel, and the height governs the larger one. -/
theorem thumbnail_monotone_across_axes :
    thumbnailSize ⟨1000, 3⟩ ⟨100, 1⟩ true = .ok ⟨100, 1⟩ ∧ thumbnailSize ⟨1000, 3⟩ ⟨1000, 2⟩ true = .ok ⟨667, 2⟩ ∧
    thumbnailSize ⟨1000, 3⟩ ⟨100, 1⟩ false = .ok ⟨333, 1⟩ ∧
    Dimensions.Within ⟨100, 1⟩ ⟨667, 2⟩ ∧ Dimensions.Within ⟨100, 1⟩ ⟨333, 1⟩ := by
  obtain ⟨larger, inside, around, hinside, haround, within_around⟩ :=
    thumbnail_monotone ⟨1000, 3⟩ ⟨100, 1⟩ ⟨by decide, by decide⟩ ⟨by decide, by decide⟩
  obtain ⟨size, size', hsize, hsize', within⟩ := larger true ⟨1000, 2⟩ (by decide) (by decide)
  have hsmall : thumbnailSize ⟨1000, 3⟩ ⟨100, 1⟩ true = .ok ⟨100, 1⟩ := by decide +kernel
  have hlarge : thumbnailSize ⟨1000, 3⟩ ⟨1000, 2⟩ true = .ok ⟨667, 2⟩ := by decide +kernel
  have hfill : thumbnailSize ⟨1000, 3⟩ ⟨100, 1⟩ false = .ok ⟨333, 1⟩ := by decide +kernel
  obtain ⟨rfl, -⟩ := hsize.eq_of_given hsmall
  obtain ⟨rfl, -⟩ := hsize'.eq_of_given hlarge
  obtain ⟨rfl, -⟩ := hinside.eq_of_given hsmall
  obtain ⟨rfl, -⟩ := haround.eq_of_given hfill
  exact ⟨hsmall, hlarge, hfill, within, within_around⟩

end Darkroom
