import Darkroom.Geometry
import Mathlib.Data.Rat.Floor
import Mathlib.Tactic.Linarith
import Mathlib.Tactic.Positivity
/-!
# Sizes that geometry gives

A thumbnail and a crop are never empty and never larger than what they are made of, on either axis
(`thumbnailSize_within`, `cropBox_inside`). A request that makes sense has one (`exists_thumbnailSize`, `exists_cropBox`),
unless its numbers have to be told and cannot be written (`exists_thumbnailSize_told`, `exists_cropBox_told`).

A thumbnail is its source scaled (`thumbnailSize_eq_ok_iff`), by one or by the ratio of the box (`boxRatio`), and scaling
is monotone and keeps whole numbers (`scaledExtent_mono`, `scaledExtent_of_eq`). So a box has room for the thumbnails made
for it, and a thumbnail made again of a thumbnail keeps its size (`thumbnailSize_again`). A crop has the size of a
thumbnail of its target, made for the source as a box (`thumbnailSize_cropSize`).
-/

namespace Darkroom

/-! ## Rounding and scales -/

theorem lesser_eq_min (a b : Rat) : lesser a b = min a b := (min_def a b).symm

theorem greater_eq_max (a b : Rat) : greater a b = max a b := (max_def a b).symm

theorem roundHalfUp_eq (x : Rat) : roundHalfUp x = ⌊x + 1 / 2⌋ := rfl

theorem roundHalfUp_mono {x y : Rat} (h : x ≤ y) : roundHalfUp x ≤ roundHalfUp y := by
  rw [roundHalfUp_eq, roundHalfUp_eq]
  exact Int.floor_le_floor (by linarith)

theorem roundHalfUp_intCast (n : Int) : roundHalfUp n = n := by
  rw [roundHalfUp_eq, Int.floor_eq_iff]
  constructor <;> linarith

theorem one_le_scaledExtent (extent : Int) (scale : Rat) : 1 ≤ scaledExtent extent scale := le_max_left ..

theorem scaledExtent_mono {extent : Int} (he : 0 ≤ extent) {scale scale' : Rat} (h : scale ≤ scale') :
    scaledExtent extent scale ≤ scaledExtent extent scale' := by
  apply max_le_max le_rfl
  apply roundHalfUp_mono
  exact mul_le_mul_of_nonneg_left h (by exact_mod_cast he)

/-- Nothing is rounded where a scale leads to a whole number of pixels. -/
theorem scaledExtent_of_eq {extent n : Int} {scale : Rat} (h : (extent * scale : Rat) = n) :
    scaledExtent extent scale = max 1 n := by
  rw [scaledExtent, h, roundHalfUp_intCast]

theorem scaledExtent_zero (extent : Int) : scaledExtent extent 0 = 1 := by
  have nothing : (extent * 0 : Rat) = (0 : Int) := by simp
  rw [scaledExtent_of_eq nothing]
  rfl

theorem scaledExtent_one {extent : Int} (he : 1 ≤ extent) : scaledExtent extent 1 = extent := by
  rw [scaledExtent_of_eq (mul_one _), max_eq_right he]

/-- The scale of a bound to an extent leads to the bound. -/
theorem mul_div_extent {extent : Int} (he : 1 ≤ extent) (bound : Int) :
    (extent * (bound / extent) : Rat) = bound := by
  have hne : (extent : Rat) ≠ 0 := by exact_mod_cast (by omega : extent ≠ 0)
  exact mul_div_cancel₀ _ hne

theorem scaledExtent_div {extent : Int} (he : 1 ≤ extent) (bound : Int) :
    scaledExtent extent (bound / extent) = max 1 bound :=
  scaledExtent_of_eq (mul_div_extent he bound)

/-- A scale within that of a bound does not lead above the bound, unless there is nothing left. -/
theorem scaledExtent_le_of_le_div {extent most : Int} {scale : Rat} (he : 1 ≤ extent) (hpos : 0 < scale)
    (h : scale ≤ most / extent) : scaledExtent extent scale ≤ most := by
  have he' : (0 : Rat) < extent := by exact_mod_cast he
  have hmost : (0 : Rat) < most := (div_pos_iff_of_pos_right he').1 (hpos.trans_le h)
  have hmost' : 1 ≤ most := by exact_mod_cast hmost
  calc scaledExtent extent scale
    _ ≤ scaledExtent extent (most / extent) := scaledExtent_mono (by omega) h
    _ = max 1 most := scaledExtent_div he most
    _ = most := max_eq_right hmost'

/-! ## Requests that make sense -/

theorem find?_below_eq_none_iff {extents : List (Extent × Int)} {least : Int} :
    extents.find? (·.2 < least) = none ↔ ∀ x ∈ extents, least ≤ x.2 := by
  rw [List.find?_eq_none]
  simp only [decide_eq_true_eq, Int.not_lt]

theorem requireAtLeast_eq_ok_iff {limit : Text.DigitLimit} {least : Int} {wrong : Extent → Int → GeometryError}
    {extents : List (Extent × Int)} :
    requireAtLeast limit least wrong extents = .ok () ↔ ∀ x ∈ extents, least ≤ x.2 := by
  rw [← find?_below_eq_none_iff, requireAtLeast]
  cases extents.find? (·.2 < least) <;> simp

/-- What is said of a size with a side below the least that it may be: the first such side is named, unless its number is
too long. -/
def Dimensions.complaint? (least : Int) (wide high : Int → GeometryError) (limit : Text.DigitLimit) (d : Dimensions) :
    Option GeometryError :=
  if d.width < least then some (if limit.Allows d.width then wide d.width else .unwritable limit)
  else if d.height < least then some (if limit.Allows d.height then high d.height else .unwritable limit)
  else none

theorem Dimensions.complaint?_eq_none_iff {least : Int} {wide high : Int → GeometryError} {limit : Text.DigitLimit}
    {d : Dimensions} : d.complaint? least wide high limit = none ↔ least ≤ d.width ∧ least ≤ d.height := by
  unfold complaint?
  grind

/-- What is said of the box that a thumbnail is asked for. -/
def Dimensions.boundComplaint? (limit : Text.DigitLimit) (bound : Dimensions) : Option GeometryError :=
  bound.complaint? 0 (.belowZero .boundWidth) (.belowZero .boundHeight) limit

/-- What is said of the size that a crop is asked for. -/
def Dimensions.targetComplaint? (limit : Text.DigitLimit) (target : Dimensions) : Option GeometryError :=
  target.complaint? 1 (.belowOne .targetWidth) (.belowOne .targetHeight) limit

/-! ## Sizes within sizes -/

/-- Not empty. -/
def Dimensions.Positive (d : Dimensions) : Prop := 1 ≤ d.width ∧ 1 ≤ d.height

/-- No larger on either axis, and not empty. -/
structure Dimensions.Within (d outer : Dimensions) : Prop where
  positive : d.Positive
  width_le : d.width ≤ outer.width
  height_le : d.height ≤ outer.height

/-- A rectangle with nothing outside of its source, and not empty. -/
structure CropBox.Inside (box : CropBox) (outer : Dimensions) : Prop where
  positive : box.size.Positive
  left_ge : 0 ≤ box.left
  upper_ge : 0 ≤ box.upper
  right_le : box.right ≤ outer.width
  lower_le : box.lower ≤ outer.height

theorem Dimensions.Within.pixels_le {d outer : Dimensions} (h : d.Within outer) : d.pixels ≤ outer.pixels := by
  obtain ⟨⟨hw, hh⟩, hwidth, hheight⟩ := h
  exact mul_le_mul hwidth hheight (by omega) (by omega)

/-- Nothing but a single pixel is within a single pixel. -/
theorem Dimensions.Within.eq_one {d : Dimensions} (h : d.Within ⟨1, 1⟩) : d = ⟨1, 1⟩ := by
  obtain ⟨⟨hw, hh⟩, hw', hh'⟩ := h
  exact Dimensions.mk.injEq .. |>.mpr ⟨le_antisymm hw' hw, le_antisymm hh' hh⟩

theorem CropBox.Inside.within {box : CropBox} {outer : Dimensions} (h : box.Inside outer) : box.size.Within outer := by
  obtain ⟨hp, hl, hu, hr, hb⟩ := h
  unfold CropBox.left at hl
  unfold CropBox.upper at hu
  unfold CropBox.right at hr
  unfold CropBox.lower at hb
  exact ⟨hp, by show box.width ≤ _; omega, by show box.height ≤ _; omega⟩

/-! ## Sizes that can be told -/

/-- A number no greater than another one has no more digits. -/
theorem Text.DigitLimit.Allows.of_natAbs_le {limit : Text.DigitLimit} {m n : Int} (h : limit.Allows n)
    (hle : m.natAbs ≤ n.natAbs) : limit.Allows m := by
  intro most hmost
  have short := h most hmost
  have hpos : 0 < most := Nat.length_toDigits_pos.trans_le short
  rw [Nat.length_toDigits_le_iff (by decide) hpos] at short ⊢
  exact hle.trans_lt short

/-- Neither number of the size is too long. -/
def Dimensions.Writable (limit : Text.DigitLimit) (d : Dimensions) : Prop :=
  limit.Allows d.width ∧ limit.Allows d.height

theorem Dimensions.writable_none (d : Dimensions) : d.Writable none :=
  ⟨Text.DigitLimit.allows_none _, Text.DigitLimit.allows_none _⟩

theorem Dimensions.Within.writable {limit : Text.DigitLimit} {d outer : Dimensions} (h : d.Within outer)
    (houter : outer.Writable limit) : d.Writable limit := by
  obtain ⟨⟨hw, hh⟩, hwidth, hheight⟩ := h
  exact ⟨houter.1.of_natAbs_le (by omega), houter.2.of_natAbs_le (by omega)⟩

instance (limit : Text.DigitLimit) (d : Dimensions) : Decidable (d.Writable limit) :=
  inferInstanceAs (Decidable (_ ∧ _))

theorem Dimensions.written?_eq (limit : Text.DigitLimit) (d : Dimensions) :
    d.written? limit = if d.Writable limit then some d.text else none := by
  simp only [written?, Text.number?, Text.written?, Writable]
  by_cases hw : limit.Allows d.width <;> by_cases hh : limit.Allows d.height <;> simp only [hw, hh] <;> rfl

/-- What is asked of a source that cannot be granted as it stands is told along with the source, and both can be. -/
structure Dimensions.Tellable (limit : Text.DigitLimit) (source request : Dimensions) : Prop where
  source : source.Writable limit
  request : request.Writable limit

theorem Dimensions.tellable_iff {limit : Text.DigitLimit} {source request : Dimensions} :
    source.Tellable limit request ↔ source.Writable limit ∧ request.Writable limit :=
  ⟨fun h => ⟨h.source, h.request⟩, fun h => ⟨h.1, h.2⟩⟩

theorem Dimensions.tellable_none (source request : Dimensions) : Dimensions.Tellable none source request :=
  ⟨source.writable_none, request.writable_none⟩

/-- What a geometry answers to a request, whatever the limit on digits: it gives `x`, except where the request is not
granted as it stands and has a number too long to be told, or its source has. -/
structure Answers {α : Type} (answer : Text.DigitLimit → Except GeometryError α) (asItStands : Prop)
    (source request : Dimensions) (x : α) : Prop where
  unlimited : answer none = .ok x
  given : ∀ limit, asItStands ∨ source.Tellable limit request → answer limit = .ok x
  refused : ∀ limit, ¬ asItStands → ¬ source.Tellable limit request → answer limit = .error (.unwritable limit)

theorem Answers.intro {α : Type} {answer : Text.DigitLimit → Except GeometryError α} {asItStands : Prop}
    {source request : Dimensions} {text? : Text.DigitLimit → Option String} {x : α}
    (told : ∀ limit, (text? limit).isSome = true ↔ source.Tellable limit request)
    (granted : asItStands → ∀ limit, answer limit = .ok x)
    (adapted : ¬ asItStands → ∀ limit, answer limit = toldOf limit (text? limit) x) :
    Answers answer asItStands source request x := by
  have given : ∀ limit, asItStands ∨ source.Tellable limit request → answer limit = .ok x := by
    intro limit can
    by_cases stands : asItStands
    · exact granted stands limit
    · obtain ⟨text, htext⟩ := Option.isSome_iff_exists.1 ((told limit).2 (can.resolve_left stands))
      rw [adapted stands, htext, toldOf]
  refine ⟨given none (.inr (source.tellable_none request)), given, ?_⟩
  intro limit adapts silent
  have untold : text? limit = none := Option.not_isSome_iff_eq_none.1 (mt (told limit).1 silent)
  rw [adapted adapts, untold, toldOf]

/-- What is given under one limit on digits is given without a limit. -/
theorem Answers.eq_of_given {α : Type} {answer : Text.DigitLimit → Except GeometryError α} {asItStands : Prop}
    {source request : Dimensions} {x y : α} (h : Answers answer asItStands source request x) {limit : Text.DigitLimit}
    (given : answer limit = .ok y) : y = x ∧ (asItStands ∨ source.Tellable limit request) := by
  by_cases can : asItStands ∨ source.Tellable limit request
  · rw [h.given limit can] at given
    exact ⟨(Except.ok.inj given).symm, can⟩
  · rw [not_or] at can
    rw [h.refused limit can.1 can.2] at given
    cases given

/-! ## Boxes -/

/-- A box has room for a source as it is: on both axes for a thumbnail inside the box, on one for a thumbnail
around it. -/
def Dimensions.HasRoom (bound source : Dimensions) : Bool → Prop
  | true => source.width ≤ bound.width ∧ source.height ≤ bound.height
  | false => source.width ≤ bound.width ∨ source.height ≤ bound.height

/-- The ratio of a box to a source on the axis that governs a thumbnail: the narrower one inside the box, the wider one
around it. -/
def boxRatio (source bound : Dimensions) : Bool → Rat
  | true => min (bound.width / source.width) (bound.height / source.height)
  | false => max (bound.width / source.width) (bound.height / source.height)

/-- A size scaled on both axes. -/
def Dimensions.scaled (d : Dimensions) (scale : Rat) : Dimensions :=
  ⟨scaledExtent d.width scale, scaledExtent d.height scale⟩

section
variable {limit : Text.DigitLimit} {source bound target size : Dimensions} {fit : Bool}

@[simp] theorem Dimensions.hasRoom_inside :
    bound.HasRoom source true ↔ source.width ≤ bound.width ∧ source.height ≤ bound.height := Iff.rfl

@[simp] theorem Dimensions.hasRoom_around :
    bound.HasRoom source false ↔ source.width ≤ bound.width ∨ source.height ≤ bound.height := Iff.rfl

theorem Dimensions.not_hasRoom_around :
    ¬ bound.HasRoom source false ↔ bound.width < source.width ∧ bound.height < source.height := by
  rw [hasRoom_around]
  omega

@[simp] theorem Dimensions.width_scaled (d : Dimensions) (scale : Rat) :
    (d.scaled scale).width = scaledExtent d.width scale := rfl

@[simp] theorem Dimensions.height_scaled (d : Dimensions) (scale : Rat) :
    (d.scaled scale).height = scaledExtent d.height scale := rfl

theorem Dimensions.scaled_zero (d : Dimensions) : d.scaled 0 = ⟨1, 1⟩ := by
  simp [scaled, scaledExtent_zero]

theorem Dimensions.Positive.scaled_one (hs : source.Positive) : source.scaled 1 = source := by
  rw [Dimensions.scaled, scaledExtent_one hs.1, scaledExtent_one hs.2]

theorem boxRatio_eq_across_or_down (source bound : Dimensions) (fit : Bool) :
    boxRatio source bound fit = bound.width / source.width ∨ boxRatio source bound fit = bound.height / source.height := by
  cases fit with
  | true => exact min_choice ..
  | false => exact max_choice ..

theorem boxRatio_nonneg (hs : source.Positive) (hb : 0 ≤ bound.width ∧ 0 ≤ bound.height) :
    0 ≤ boxRatio source bound fit := by
  obtain ⟨hw, hh⟩ := hs
  rcases boxRatio_eq_across_or_down source bound fit with h | h
  · rw [h]
    exact div_nonneg (by exact_mod_cast hb.1) (by exact_mod_cast by omega)
  · rw [h]
    exact div_nonneg (by exact_mod_cast hb.2) (by exact_mod_cast by omega)

theorem one_le_boxRatio_iff (hs : source.Positive) : 1 ≤ boxRatio source bound fit ↔ bound.HasRoom source fit := by
  obtain ⟨hw, hh⟩ := hs
  have across : (1 : Rat) ≤ bound.width / source.width ↔ source.width ≤ bound.width := by
    rw [one_le_div (by exact_mod_cast hw), Int.cast_le]
  have down : (1 : Rat) ≤ bound.height / source.height ↔ source.height ≤ bound.height := by
    rw [one_le_div (by exact_mod_cast hh), Int.cast_le]
  cases fit with
  | true => exact le_min_iff.trans (and_congr across down)
  | false => exact le_max_iff.trans (or_congr across down)

theorem Dimensions.Positive.scaled_within (hs : source.Positive) {scale scale' : Rat} (h : scale ≤ scale') :
    (source.scaled scale).Within (source.scaled scale') := by
  obtain ⟨hw, hh⟩ := hs
  refine ⟨⟨one_le_scaledExtent .., one_le_scaledExtent ..⟩, ?_, ?_⟩
  · exact scaledExtent_mono (by omega) h
  · exact scaledExtent_mono (by omega) h

/-- A box has room for what its ratio makes of a source, unless that is nothing. -/
theorem hasRoom_scaled (hs : source.Positive) {scale : Rat} (hpos : 0 < scale)
    (h : scale ≤ boxRatio source bound fit) : bound.HasRoom (source.scaled scale) fit := by
  obtain ⟨hw, hh⟩ := hs
  cases fit with
  | true =>
    obtain ⟨across, down⟩ := le_min_iff.1 h
    exact ⟨scaledExtent_le_of_le_div hw hpos across, scaledExtent_le_of_le_div hh hpos down⟩
  | false => exact (le_max_iff.1 h).imp (scaledExtent_le_of_le_div hw hpos) (scaledExtent_le_of_le_div hh hpos)

/-! ## Thumbnails -/

theorem thumbnailScale_eq_ok_iff {scale : Rat} : thumbnailScale source bound fit limit = .ok scale ↔
    source.Positive ∧ (0 ≤ bound.width ∧ 0 ≤ bound.height) ∧ scale = min (boxRatio source bound fit) 1 := by
  have hpos : requirePositive limit [(.sourceWidth, source.width), (.sourceHeight, source.height)] = .ok () ↔ _ :=
    requireAtLeast_eq_ok_iff
  have hneg : requireNonNegative limit [(.boundWidth, bound.width), (.boundHeight, bound.height)] = .ok () ↔ _ :=
    requireAtLeast_eq_ok_iff
  simp only [List.forall_mem_cons, List.not_mem_nil, false_imp_iff, implies_true, and_true] at hpos hneg
  have hratio : boxRatio source bound fit =
      if fit then min (bound.width / source.width : Rat) (bound.height / source.height)
      else max (bound.width / source.width : Rat) (bound.height / source.height) := by
    cases fit <;> rfl
  rw [Dimensions.Positive, ← hpos, ← hneg, hratio]
  unfold thumbnailScale
  cases requirePositive limit [(.sourceWidth, source.width), (.sourceHeight, source.height)] with
  | error e => simp [bind, Except.bind]
  | ok =>
    cases requireNonNegative limit [(.boundWidth, bound.width), (.boundHeight, bound.height)] with
    | error e => simp [bind, Except.bind]
    | ok =>
      simp only [bind, Except.bind, pure, Except.pure, Except.ok.injEq, true_and, lesser_eq_min, greater_eq_max]
      exact eq_comm

/-- A scale is one exactly if the box has room for the source. -/
theorem scale_eq_one_iff (hs : source.Positive) : min (boxRatio source bound fit) 1 = 1 ↔ bound.HasRoom source fit := by
  rw [min_eq_right_iff, one_le_boxRatio_iff hs]

/-- What is made of a source is no larger than it. -/
theorem Dimensions.Positive.scaled_within_source (hs : source.Positive) {scale : Rat} (h : scale ≤ 1) :
    (source.scaled scale).Within source := by
  have within := hs.scaled_within h
  rwa [hs.scaled_one] at within

/-- A thumbnail that is scaled can be told of if its source and its box can, as it is no larger than the source. -/
theorem thumbnailText?_isSome_iff {scale : Rat} (within : size.Within source) :
    (thumbnailText? limit source bound size fit scale).isSome = true ↔ source.Tellable limit bound := by
  rw [thumbnailText?, source.written?_eq, size.written?_eq, bound.written?_eq, Dimensions.tellable_iff]
  by_cases hsource : source.Writable limit
  · by_cases hbound : bound.Writable limit <;> simp [hsource, within.writable hsource, hbound]
  · simp [hsource]

/-- Every request for a thumbnail that makes sense has one, unless it is scaled and cannot be told of. -/
theorem thumbnailSize_answers (hs : source.Positive) (hb : 0 ≤ bound.width ∧ 0 ≤ bound.height) (fit : Bool) :
    Answers (fun limit => thumbnailSize source bound fit limit) (bound.HasRoom source fit) source bound
      (source.scaled (min (boxRatio source bound fit) 1)) := by
  have within := hs.scaled_within_source (min_le_right (boxRatio source bound fit) 1)
  have asItStands : min (boxRatio source bound fit) 1 = 1 ↔ bound.HasRoom source fit := scale_eq_one_iff hs
  generalize hscale : min (boxRatio source bound fit) 1 = scale at within asItStands ⊢
  have known : ∀ limit, thumbnailScale source bound fit limit = .ok scale := fun limit =>
    thumbnailScale_eq_ok_iff.2 ⟨hs, hb, hscale.symm⟩
  have told : ∀ limit, (thumbnailText? limit source bound (source.scaled scale) fit scale).isSome = true ↔
      source.Tellable limit bound := fun _ => thumbnailText?_isSome_iff within
  apply Answers.intro told
  · intro room limit
    simp only [thumbnailSize, known, bind, Except.bind, if_pos (asItStands.2 room)]
    rw [asItStands.2 room, hs.scaled_one]
    rfl
  · intro outgrown limit
    simp only [thumbnailSize, known, bind, Except.bind, if_neg (mt asItStands.1 outgrown)]
    rfl

/-- Only a request that makes sense has a thumbnail, and the scale of one. -/
theorem exists_scale_of_thumbnailSize (h : thumbnailSize source bound fit limit = .ok size) :
    ∃ scale, thumbnailScale source bound fit limit = .ok scale := by
  cases hscale : thumbnailScale source bound fit limit with
  | ok scale => exact ⟨scale, rfl⟩
  | error e =>
    rw [thumbnailSize, hscale] at h
    cases h

theorem sensible_of_thumbnailSize (h : thumbnailSize source bound fit limit = .ok size) :
    source.Positive ∧ 0 ≤ bound.width ∧ 0 ≤ bound.height := by
  obtain ⟨scale, hscale⟩ := exists_scale_of_thumbnailSize h
  obtain ⟨hs, hb, -⟩ := thumbnailScale_eq_ok_iff.1 hscale
  exact ⟨hs, hb⟩

theorem thumbnailSize_eq_ok_iff : thumbnailSize source bound fit limit = .ok size ↔
    source.Positive ∧ (0 ≤ bound.width ∧ 0 ≤ bound.height) ∧
      size = source.scaled (min (boxRatio source bound fit) 1) ∧
      (bound.HasRoom source fit ∨ source.Tellable limit bound) := by
  constructor
  · intro h
    obtain ⟨hs, hb⟩ := sensible_of_thumbnailSize h
    exact ⟨hs, hb, (thumbnailSize_answers hs hb fit).eq_of_given h⟩
  · rintro ⟨hs, hb, rfl, can⟩
    exact (thumbnailSize_answers hs hb fit).given limit can

/-- Without a limit on digits, a request for a thumbnail that makes sense has one. -/
theorem exists_thumbnailSize (hs : source.Positive) (hw : 0 ≤ bound.width) (hh : 0 ≤ bound.height) (fit : Bool) :
    ∃ size, thumbnailSize source bound fit none = .ok size :=
  ⟨_, (thumbnailSize_answers hs ⟨hw, hh⟩ fit).unlimited⟩

/-- Of a source that can be written, a thumbnail is given unless it is scaled to a box that cannot. -/
theorem exists_thumbnailSize_told (hs : source.Positive) (hsource : source.Writable limit)
    (hb : 0 ≤ bound.width ∧ 0 ≤ bound.height) (h : bound.HasRoom source fit ∨ bound.Writable limit) :
    ∃ size, thumbnailSize source bound fit limit = .ok size :=
  ⟨_, (thumbnailSize_answers hs hb fit).given limit (h.imp_right (Dimensions.Tellable.mk hsource))⟩

/-- The size of a thumbnail is what geometry answers under every limit on digits. -/
theorem thumbnailSize_answers_of_ok (h : thumbnailSize source bound fit none = .ok size) :
    Answers (fun limit => thumbnailSize source bound fit limit) (bound.HasRoom source fit) source bound size := by
  obtain ⟨hs, hb, rfl, -⟩ := thumbnailSize_eq_ok_iff.1 h
  exact thumbnailSize_answers hs hb fit

/-- What is said of a box is the failure of a thumbnail in it. -/
theorem thumbnailSize_of_complaint {e : GeometryError} (hs : source.Positive)
    (h : bound.boundComplaint? limit = some e) (fit : Bool) : thumbnailSize source bound fit limit = .error e := by
  have sensible : requirePositive limit [(.sourceWidth, source.width), (.sourceHeight, source.height)] = .ok () :=
    requireAtLeast_eq_ok_iff.2 (by simpa [Dimensions.Positive] using hs)
  have complained : requireNonNegative limit [(.boundWidth, bound.width), (.boundHeight, bound.height)] =
      .error e := by
    unfold Dimensions.boundComplaint? Dimensions.complaint? at h
    unfold requireNonNegative requireAtLeast
    grind
  unfold thumbnailSize thumbnailScale
  rw [sensible, complained]
  rfl

/-- A thumbnail is not empty and no larger than its source. -/
theorem thumbnailSize_within (h : thumbnailSize source bound fit limit = .ok size) : size.Within source := by
  obtain ⟨hs, -, rfl, -⟩ := thumbnailSize_eq_ok_iff.1 h
  exact hs.scaled_within_source (min_le_right ..)

/-- A thumbnail keeps the size of a source that its box has room for. -/
theorem thumbnailSize_of_hasRoom (hs : source.Positive) (hb : 0 ≤ bound.width ∧ 0 ≤ bound.height)
    (room : bound.HasRoom source fit) : thumbnailSize source bound fit limit = .ok source := by
  rw [thumbnailSize_eq_ok_iff, (scale_eq_one_iff hs).2 room, hs.scaled_one]
  exact ⟨hs, hb, rfl, .inl room⟩

theorem eq_source_of_hasRoom (room : bound.HasRoom source fit)
    (h : thumbnailSize source bound fit limit = .ok size) : size = source := by
  obtain ⟨hs, hb⟩ := sensible_of_thumbnailSize h
  rw [thumbnailSize_of_hasRoom hs hb room] at h
  exact (Except.ok.inj h).symm

/-- Without room in the box, a thumbnail is scaled by the ratio of the box. -/
theorem thumbnailSize_of_not_hasRoom (room : ¬ bound.HasRoom source fit)
    (h : thumbnailSize source bound fit limit = .ok size) : size = source.scaled (boxRatio source bound fit) := by
  obtain ⟨hs, -, rfl, -⟩ := thumbnailSize_eq_ok_iff.1 h
  rw [← one_le_boxRatio_iff hs, not_le] at room
  rw [min_eq_left room.le]

/-- A box has room for every thumbnail made for it, except that it may have come down to a single pixel. -/
theorem thumbnailSize_settles (h : thumbnailSize source bound fit limit = .ok size) :
    bound.HasRoom size fit ∨ size = ⟨1, 1⟩ := by
  obtain ⟨hs, hb, rfl, -⟩ := thumbnailSize_eq_ok_iff.1 h
  have hnonneg : 0 ≤ min (boxRatio source bound fit) 1 := le_min (boxRatio_nonneg hs hb) zero_le_one
  rcases hnonneg.eq_or_lt with hzero | hpos
  · -- a closed box leaves nothing but the last pixel
    right
    rw [← hzero, source.scaled_zero]
  · left
    exact hasRoom_scaled hs hpos (min_le_left ..)

/-- Making the same thumbnail of a thumbnail keeps its size: the box has room for it, or it is a single pixel. What is told
of the first one is not shorter than what is told of the second. -/
theorem thumbnailSize_again (h : thumbnailSize source bound fit limit = .ok size) :
    thumbnailSize size bound fit limit = .ok size := by
  have within := thumbnailSize_within h
  obtain ⟨hs, hb, hsize, can⟩ := thumbnailSize_eq_ok_iff.1 h
  rcases thumbnailSize_settles h with room | single
  · exact thumbnailSize_of_hasRoom within.positive hb room
  · have can' : bound.HasRoom size fit ∨ size.Tellable limit bound := by
      rcases can with room | ⟨hsource, hbound⟩
      · rw [eq_source_of_hasRoom room h]
        exact .inl room
      · exact .inr ⟨within.writable hsource, hbound⟩
    have kept := (thumbnailSize_answers within.positive hb fit).given limit can'
    rw [kept, single]
    have still := (single ▸ within.positive).scaled_within_source (min_le_right (boxRatio ⟨1, 1⟩ bound fit) 1)
    rw [still.eq_one]

/-- Inside a box nothing goes beyond it, but for the last pixel. -/
theorem thumbnailSize_inside (h : thumbnailSize source bound true limit = .ok size) :
    size.width ≤ max 1 bound.width ∧ size.height ≤ max 1 bound.height := by
  rcases thumbnailSize_settles h with ⟨hw, hh⟩ | rfl
  · exact ⟨le_max_of_le_right hw, le_max_of_le_right hh⟩
  · exact ⟨le_max_left .., le_max_left ..⟩

theorem thumbnailSize_within_box (hb : bound.Positive) (h : thumbnailSize source bound true limit = .ok size) :
    size.Within bound := by
  obtain ⟨hw, hh⟩ := thumbnailSize_inside h
  rw [max_eq_right hb.1] at hw
  rw [max_eq_right hb.2] at hh
  exact ⟨(thumbnailSize_within h).positive, hw, hh⟩

/-! ## Crops -/

theorem fitsWithin_iff : fitsWithin source target = true ↔ source.HasRoom target true := by
  rw [Dimensions.hasRoom_inside, fitsWithin, Bool.and_eq_true, decide_eq_true_eq, decide_eq_true_eq]

theorem cropSize_of_hasRoom (room : source.HasRoom target true) : cropSize source target = target := by
  rw [cropSize, if_pos (fitsWithin_iff.2 room)]

/-- A crop has the size of a thumbnail of the target, made to fit inside the source. -/
theorem thumbnailSize_cropSize (hs : source.Positive) (ht : target.Positive) :
    thumbnailSize target source true none = .ok (cropSize source target) := by
  have nonneg : 0 ≤ source.width ∧ 0 ≤ source.height := ⟨zero_le_one.trans hs.1, zero_le_one.trans hs.2⟩
  by_cases room : source.HasRoom target true
  · rw [cropSize_of_hasRoom room]
    exact thumbnailSize_of_hasRoom ht nonneg room
  · obtain ⟨size, hsize⟩ := exists_thumbnailSize ht nonneg.1 nonneg.2 true
    obtain rfl := thumbnailSize_of_not_hasRoom room hsize
    -- a thumbnail inside the source is no larger than it, so nothing is cut off
    obtain ⟨-, hw, hh⟩ := thumbnailSize_within_box hs hsize
    rw [hsize, cropSize, if_neg (mt fitsWithin_iff.1 room), lesser_eq_min]
    exact congrArg Except.ok (congrArg₂ Dimensions.mk (min_eq_right hw).symm (min_eq_right hh).symm)

/-- What a crop is cut to is not empty and no larger than its source. -/
theorem cropSize_within (hs : source.Positive) (ht : target.Positive) : (cropSize source target).Within source :=
  thumbnailSize_within_box hs (thumbnailSize_cropSize hs ht)

/-- The rectangle of a size in the middle of a source. -/
def Dimensions.centred (size source : Dimensions) : CropBox :=
  ⟨size.width, size.height, (source.width - size.width).fdiv 2, (source.height - size.height).fdiv 2⟩

/-- A crop that does not get its target can be told of if its source and its target can, as it is no larger than the
source. -/
theorem cropText?_isSome_iff (within : size.Within source) :
    (cropText? limit source target size).isSome = true ↔ source.Tellable limit target := by
  rw [cropText?, source.written?_eq, size.written?_eq, target.written?_eq, Dimensions.tellable_iff]
  by_cases hsource : source.Writable limit
  · by_cases htarget : target.Writable limit <;> simp [hsource, within.writable hsource, htarget]
  · by_cases htarget : target.Writable limit <;> simp [hsource, htarget]

/-- Every request for a crop that makes sense has one, unless the source has no room for its target and this cannot be
told. -/
theorem cropBox_answers (hs : source.Positive) (ht : target.Positive) :
    Answers (fun limit => cropBox source target limit) (source.HasRoom target true) source target
      ((cropSize source target).centred source) := by
  have sensible : ∀ limit, requirePositive limit [(.sourceWidth, source.width), (.sourceHeight, source.height),
      (.targetWidth, target.width), (.targetHeight, target.height)] = .ok () := fun limit =>
    requireAtLeast_eq_ok_iff.2 (by simpa [Dimensions.Positive, and_assoc] using And.intro hs ht)
  apply Answers.intro fun limit => cropText?_isSome_iff (cropSize_within hs ht)
  · intro room limit
    simp only [cropBox, sensible, bind, Except.bind, if_pos (fitsWithin_iff.2 room)]
    rfl
  · intro outgrown limit
    simp only [cropBox, sensible, bind, Except.bind, if_neg (mt fitsWithin_iff.1 outgrown)]
    rfl

/-- Only a request that makes sense has a crop. -/
theorem sensible_of_cropBox {box : CropBox} (h : cropBox source target limit = .ok box) :
    source.Positive ∧ target.Positive := by
  have hsense := @requireAtLeast_eq_ok_iff limit 1 .belowOne [(.sourceWidth, source.width),
    (.sourceHeight, source.height), (.targetWidth, target.width), (.targetHeight, target.height)]
  rw [cropBox, requirePositive] at h
  cases hpos : requireAtLeast limit 1 .belowOne [(.sourceWidth, source.width), (.sourceHeight, source.height),
      (.targetWidth, target.width), (.targetHeight, target.height)] with
  | error e =>
    rw [hpos] at h
    cases h
  | ok => simpa [Dimensions.Positive, and_assoc] using hsense.1 hpos

theorem cropBox_eq_ok_iff {box : CropBox} : cropBox source target limit = .ok box ↔
    source.Positive ∧ target.Positive ∧ box = (cropSize source target).centred source ∧
      (source.HasRoom target true ∨ source.Tellable limit target) := by
  constructor
  · intro h
    obtain ⟨hs, ht⟩ := sensible_of_cropBox h
    exact ⟨hs, ht, (cropBox_answers hs ht).eq_of_given h⟩
  · rintro ⟨hs, ht, rfl, can⟩
    exact (cropBox_answers hs ht).given limit can

/-- Without a limit on digits, a request for a crop that makes sense has one. -/
theorem exists_cropBox (hs : source.Positive) (ht : target.Positive) : ∃ box, cropBox source target none = .ok box :=
  ⟨_, (cropBox_answers hs ht).unlimited⟩

/-- From a source that can be written, a crop is given unless there is no room for its target, which cannot. -/
theorem exists_cropBox_told (hs : source.Positive) (hsource : source.Writable limit) (ht : target.Positive)
    (h : source.HasRoom target true ∨ target.Writable limit) : ∃ box, cropBox source target limit = .ok box :=
  ⟨_, (cropBox_answers hs ht).given limit (h.imp_right (Dimensions.Tellable.mk hsource))⟩

/-- The rectangle of a crop is what geometry answers under every limit on digits. -/
theorem cropBox_answers_of_ok {box : CropBox} (h : cropBox source target none = .ok box) :
    Answers (fun limit => cropBox source target limit) (source.HasRoom target true) source target box := by
  obtain ⟨hs, ht, rfl, -⟩ := cropBox_eq_ok_iff.1 h
  exact cropBox_answers hs ht

/-- What is said of a target is the failure of a crop to it. -/
theorem cropBox_of_complaint {e : GeometryError} (hs : source.Positive) (h : target.targetComplaint? limit = some e) :
    cropBox source target limit = .error e := by
  obtain ⟨hw, hh⟩ := hs
  have complained : requirePositive limit [(.sourceWidth, source.width), (.sourceHeight, source.height),
      (.targetWidth, target.width), (.targetHeight, target.height)] = .error e := by
    unfold Dimensions.targetComplaint? Dimensions.complaint? at h
    unfold requirePositive requireAtLeast
    grind
  unfold cropBox
  rw [complained]
  rfl

/-- Two halves of a rest leave nothing of it, or one. -/
theorem sub_two_mul_fdiv (rest : Int) : 0 ≤ rest - 2 * rest.fdiv 2 ∧ rest - 2 * rest.fdiv 2 ≤ 1 := by
  rw [Int.fdiv_eq_ediv_of_nonneg _ (by decide)]
  omega

/-- A crop is cut from inside its source. -/
theorem cropBox_inside {box : CropBox} (h : cropBox source target limit = .ok box) : box.Inside source := by
  obtain ⟨hs, ht, rfl, -⟩ := cropBox_eq_ok_iff.1 h
  obtain ⟨positive, hw, hh⟩ := cropSize_within hs ht
  have across := sub_two_mul_fdiv (source.width - (cropSize source target).width)
  have down := sub_two_mul_fdiv (source.height - (cropSize source target).height)
  refine ⟨positive, ?_, ?_, ?_, ?_⟩
  all_goals
    simp only [Dimensions.centred, CropBox.left, CropBox.upper, CropBox.right, CropBox.lower]
    omega

end

end Darkroom
