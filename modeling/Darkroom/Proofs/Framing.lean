import Darkroom.Proofs.Scaling
/-!
# Where a crop is cut, and how large

A crop is cut from the middle of its source: what is left over on an axis is the same on both sides, or one pixel more
to the right and below (`crop_centred`). A target that the source has no room for shrinks, as a thumbnail of it would,
until it reaches the source on one axis. It is then the largest size of its aspect ratio: nothing that keeps the ratio
exactly is larger on either axis (`crop_largest`).
-/

namespace Darkroom

section
variable {limit : Text.DigitLimit} {source target : Dimensions} {box : CropBox}

/-! ## The middle of a source -/

/-- Cut from the middle: of what is left over, half is to the left and above, rounded down. -/
structure CropBox.Centred (box : CropBox) (source : Dimensions) : Prop where
  inside : box.Inside source
  across : 0 ≤ (source.width - box.width) - 2 * box.offsetX ∧ (source.width - box.width) - 2 * box.offsetX ≤ 1
  down : 0 ≤ (source.height - box.height) - 2 * box.offsetY ∧ (source.height - box.height) - 2 * box.offsetY ≤ 1

theorem size_cropBox (h : cropBox source target limit = .ok box) : box.size = cropSize source target := by
  obtain ⟨-, -, rfl, -⟩ := cropBox_eq_ok_iff.1 h
  rfl

theorem cropBox_centred (h : cropBox source target limit = .ok box) : box.Centred source := by
  have inside := cropBox_inside h
  obtain ⟨-, -, rfl, -⟩ := cropBox_eq_ok_iff.1 h
  exact ⟨inside, sub_two_mul_fdiv _, sub_two_mul_fdiv _⟩

/-- A crop of a size that another crop came to is the same crop, and nothing has to be told of it. -/
theorem cropBox_again {limit' : Text.DigitLimit} (h : cropBox source target limit = .ok box) :
    cropBox source box.size limit' = .ok box := by
  obtain ⟨hs, ht, hbox, -⟩ := cropBox_eq_ok_iff.1 h
  obtain ⟨positive, hw, hh⟩ := cropSize_within hs ht
  have room : source.HasRoom (cropSize source target) true := ⟨hw, hh⟩
  rw [size_cropBox h, cropBox_eq_ok_iff, cropSize_of_hasRoom room]
  exact ⟨hs, positive, hbox, .inl room⟩

/-! ## Sizes of one aspect ratio -/

def Dimensions.SameAspect (d target : Dimensions) : Prop := d.width * target.height = d.height * target.width

theorem Dimensions.SameAspect.div_eq {d : Dimensions} (h : d.SameAspect target) (ht : target.Positive) :
    (d.width / target.width : Rat) = d.height / target.height := by
  have hw : (target.width : Rat) ≠ 0 := by exact_mod_cast (zero_lt_one.trans_le ht.1).ne'
  have hh : (target.height : Rat) ≠ 0 := by exact_mod_cast (zero_lt_one.trans_le ht.2).ne'
  rw [div_eq_div_iff hw hh]
  exact_mod_cast h

/-- A size of the target's aspect ratio is the target scaled, with nothing rounded. -/
theorem Dimensions.SameAspect.eq_scaled {d : Dimensions} (h : d.SameAspect target) (hd : d.Positive)
    (ht : target.Positive) : d = target.scaled (boxRatio target d true) := by
  have ratio : boxRatio target d true = d.width / target.width := by
    rw [boxRatio, h.div_eq ht, min_self]
  have across : scaledExtent target.width (boxRatio target d true) = d.width := by
    rw [ratio, scaledExtent_div ht.1, max_eq_right hd.1]
  have down : scaledExtent target.height (boxRatio target d true) = d.height := by
    rw [ratio, h.div_eq ht, scaledExtent_div ht.2, max_eq_right hd.2]
  rw [Dimensions.scaled, across, down]

/-- What keeps the target's aspect ratio inside the source is no larger than the target scaled to the source. -/
theorem Dimensions.SameAspect.within {d : Dimensions} (h : d.SameAspect target) (hd : d.Within source)
    (ht : target.Positive) : d.Within (target.scaled (boxRatio target source true)) := by
  obtain ⟨positive, hw, hh⟩ := hd
  rw [h.eq_scaled positive ht]
  exact ht.scaled_within (boxRatio_mono ht hw hh)

/-! ## Targets without room -/

/-- A target without room in the source is scaled to it. -/
theorem cropSize_of_not_hasRoom (hs : source.Positive) (ht : target.Positive) (room : ¬ source.HasRoom target true) :
    cropSize source target = target.scaled (boxRatio target source true) :=
  thumbnailSize_of_not_hasRoom room (thumbnailSize_cropSize hs ht)

/-- A crop that does not get its target reaches the source on the governing axis. -/
theorem cropSize_touches (hs : source.Positive) (ht : target.Positive) (room : ¬ source.HasRoom target true) :
    (cropSize source target).width = source.width ∨ (cropSize source target).height = source.height := by
  have touches := thumbnailSize_touches room (thumbnailSize_cropSize hs ht)
  rwa [max_eq_right hs.1, max_eq_right hs.2] at touches

end

/-! ## Main theorems -/

/-- Every crop is cut from the middle of its source. It is no larger than the target, is the target if the source has
room for it, and asked for once more stays as it is. A target without room is refused only where a limit on digits leaves
nothing to tell of it. -/
theorem crop_centred (source target : Dimensions) (hs : source.Positive) (ht : target.Positive) :
    ∃ box : CropBox, box.Centred source ∧
      box.width ≤ min source.width target.width ∧ box.height ≤ min source.height target.height ∧
      (target.width ≤ source.width → target.height ≤ source.height → box.size = target) ∧
      Answers (fun limit => cropBox source target limit)
        (target.width ≤ source.width ∧ target.height ≤ source.height) source target box ∧
      ∀ limit, cropBox source box.size limit = .ok box := by
  obtain ⟨box, hbox⟩ := exists_cropBox hs ht
  have hsize := size_cropBox hbox
  obtain ⟨-, hw, hh⟩ : box.size.Within source := hsize ▸ cropSize_within hs ht
  obtain ⟨-, hw', hh'⟩ : box.size.Within target := hsize ▸ thumbnailSize_within (thumbnailSize_cropSize hs ht)
  refine ⟨box, cropBox_centred hbox, le_min hw hw', le_min hh hh', ?_, cropBox_answers_of_ok hbox,
    fun limit => cropBox_again hbox⟩
  intro across down
  rw [hsize, cropSize_of_hasRoom ⟨across, down⟩]

/-- Half of three rows is a row and a half, which goes up to two, and of the three rows left over two are below. -/
theorem crop_centred_with_odd_rest : cropBox ⟨8, 5⟩ ⟨16, 3⟩ = .ok ⟨8, 2, 0, 1⟩ ∧
    CropBox.Centred ⟨8, 2, 0, 1⟩ ⟨8, 5⟩ ∧ cropBox ⟨8, 5⟩ ⟨8, 2⟩ = .ok ⟨8, 2, 0, 1⟩ := by
  obtain ⟨box, centred, -, -, -, answers, again⟩ :=
    crop_centred ⟨8, 5⟩ ⟨16, 3⟩ ⟨by decide, by decide⟩ ⟨by decide, by decide⟩
  have hodd : cropBox ⟨8, 5⟩ ⟨16, 3⟩ = .ok ⟨8, 2, 0, 1⟩ := by decide +kernel
  obtain ⟨rfl, -⟩ := answers.eq_of_given hodd
  exact ⟨hodd, centred, again .standard⟩

/-- The least width with more digits than are written, for a source without room for it. -/
example : cropBox ⟨100, 50⟩ ⟨10 ^ 4300, 1⟩ none = .ok ⟨100, 1, 0, 24⟩ ∧
    cropBox ⟨100, 50⟩ ⟨10 ^ 4300, 1⟩ = .error (.unwritable .standard) := by decide +kernel

/-- A size that a target comes to at this scale, the largest inside its source: the source does not cut it off, each
side has the pixels that the scale leaves of the target, and what keeps the target's aspect ratio exactly is within
it. -/
structure Dimensions.LargestOf (size source target : Dimensions) (scale : Rat) : Prop where
  reaches : size.width = source.width ∨ size.height = source.height
  width_pixels : IsPixelsOf size.width (target.width * scale)
  height_pixels : IsPixelsOf size.height (target.height * scale)
  width_uncut : min source.width (scaledExtent target.width scale) = scaledExtent target.width scale
  height_uncut : min source.height (scaledExtent target.height scale) = scaledExtent target.height scale
  largest : ∀ d : Dimensions, d.Within source → d.SameAspect target → d.Within size

theorem crop_largest (source target : Dimensions) (hs : source.Positive) (ht : target.Positive)
    (outgrown : source.width < target.width ∨ source.height < target.height) :
    let scale : Rat := min (source.width / target.width) (source.height / target.height)
    ∃ box : CropBox, box.size.LargestOf source target scale ∧
      Answers (fun limit => cropBox source target limit) (source.HasRoom target true) source target box := by
  intro scale
  have room : ¬ source.HasRoom target true := by
    rw [Dimensions.hasRoom_inside]
    omega
  obtain ⟨box, hbox⟩ := exists_cropBox hs ht
  have reaches := cropSize_touches hs ht room
  obtain ⟨-, hw, hh⟩ := cropSize_within hs ht
  refine ⟨box, ?_, cropBox_answers_of_ok hbox⟩
  rw [size_cropBox hbox]
  rw [cropSize_of_not_hasRoom hs ht room] at reaches hw hh ⊢
  exact ⟨reaches, scaledExtent_isPixelsOf .., scaledExtent_isPixelsOf .., min_eq_right hw, min_eq_right hh,
    fun d hd same => same.within hd ht⟩

/-- A third of four rows goes down to one, and a row of exactly this aspect ratio is shorter than what is cut. -/
theorem crop_largest_as_a_line : cropBox ⟨100, 7⟩ ⟨300, 4⟩ = .ok ⟨100, 1, 0, 3⟩ ∧
    Dimensions.LargestOf ⟨100, 1⟩ ⟨100, 7⟩ ⟨300, 4⟩ (1 / 3) ∧
    Dimensions.SameAspect ⟨75, 1⟩ ⟨300, 4⟩ ∧ Dimensions.Within ⟨75, 1⟩ ⟨100, 1⟩ := by
  obtain ⟨box, largest, answers⟩ :=
    crop_largest ⟨100, 7⟩ ⟨300, 4⟩ ⟨by decide, by decide⟩ ⟨by decide, by decide⟩ (.inl (by decide))
  have hline : cropBox ⟨100, 7⟩ ⟨300, 4⟩ = .ok ⟨100, 1, 0, 3⟩ := by decide +kernel
  have hthird : (min ((100 : Int) / (300 : Int)) ((7 : Int) / (4 : Int)) : Rat) = 1 / 3 := by decide +kernel
  obtain ⟨rfl, -⟩ := answers.eq_of_given hline
  rw [hthird] at largest
  have same : Dimensions.SameAspect ⟨75, 1⟩ ⟨300, 4⟩ := rfl
  exact ⟨hline, largest, same, largest.largest _ ⟨⟨by decide, by decide⟩, by decide, by decide⟩ same⟩

end Darkroom
