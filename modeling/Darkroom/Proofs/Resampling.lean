import Darkroom.Proofs.Grid
import Darkroom.Raster.Buffer
import Mathlib.Algebra.BigOperators.Ring.Finset
import Mathlib.Tactic.Linarith
import Mathlib.Tactic.Ring
/-!
# Resampling and turning

A filter makes a pixel of what it weighs (`weightedByte_eq`). Its weights are rounded on the way, so from the other end of
a line they need not be the same ones: filtering goes along with every exchange that lays an image out, except that the
two directions change places with rows and columns, and that a mirrored axis is gone over from its other end
(`filtered_laid`). Where the weights do mirror, the end makes no difference (`filtered_eq`). Nearest neighbour takes single
pixels, which it looks for from the other end of an axis that is mirrored (`Sampled.laid`).
-/

namespace Darkroom

/-! ## Weights -/

/-- What a place weighs among taps. -/
def weightAt (taps : List (Nat × Int)) (p : Nat) : Int := ((taps.filter (·.1 = p)).map (·.2)).sum

theorem weightAt_cons (tap : Nat × Int) (taps : List (Nat × Int)) (p : Nat) :
    weightAt (tap :: taps) p = (if tap.1 = p then tap.2 else 0) + weightAt taps p := by
  unfold weightAt
  by_cases h : tap.1 = p <;> simp [h]

/-- Places may be weighed one by one, those without a tap as nothing. -/
theorem sum_taps {n : Nat} {taps : List (Nat × Int)} (places : ∀ tap ∈ taps, tap.1 < n) (v : Nat → Int) :
    (taps.map fun tap => tap.2 * v tap.1).sum = ∑ p ∈ Finset.range n, weightAt taps p * v p := by
  induction taps with
  | nil => simp [weightAt]
  | cons tap taps ih =>
    obtain ⟨here, others⟩ := List.forall_mem_cons.1 places
    have one : ∑ p ∈ Finset.range n, (if tap.1 = p then tap.2 else 0) * v p = tap.2 * v tap.1 := by
      simp [Finset.sum_ite_eq, here]
    simp only [List.map_cons, List.sum_cons, weightAt_cons, add_mul, Finset.sum_add_distrib, one, ih others]

theorem foldl_add {β : Type} (l : List β) (g : β → Int) (start : Int) :
    l.foldl (fun sum b => sum + g b) start = start + (l.map g).sum := by
  induction l generalizing start with
  | nil => simp
  | cons b l ih => simp [ih, add_assoc]

theorem weightedByte_sum (taps : List (Nat × Int)) (value : Nat → UInt8) :
    weightedByte taps value = clampByte ((twoPow (ResampleFilter.weightBits - 1) +
      (taps.map fun tap => tap.2 * ((value tap.1).toNat : Int)).sum : Int) >>> ResampleFilter.weightBits) :=
  congrArg (fun n : Int => clampByte (n >>> ResampleFilter.weightBits)) (foldl_add taps _ _)

/-- Of taps nothing counts but what each place weighs. -/
theorem weightedByte_eq {n : Nat} {taps : List (Nat × Int)} (places : ∀ tap ∈ taps, tap.1 < n) (value : Nat → UInt8) :
    weightedByte taps value = clampByte ((twoPow (ResampleFilter.weightBits - 1) +
      ∑ p ∈ Finset.range n, weightAt taps p * (value p).toNat : Int) >>> ResampleFilter.weightBits) := by
  rw [weightedByte_sum, sum_taps places fun p => (value p).toNat]

theorem weightedPixel_congr {taps taps' : List (Nat × Int)} {pixel pixel' : Nat → Pixel}
    (h : ∀ byte : Pixel → UInt8, weightedByte taps (fun p => byte (pixel p)) =
      weightedByte taps' fun p => byte (pixel' p)) : weightedPixel taps pixel = weightedPixel taps' pixel' := by
  simp only [weightedPixel, Pixel.mk.injEq]
  exact ⟨h Pixel.a, h Pixel.b, h Pixel.c, h Pixel.d⟩

/-! ## Lines from their other end -/

namespace ResampleFilter
variable (f : ResampleFilter) (source target x : Nat)

/-- The taps for a place, or those for the place that lies as far from the other end, counted from there. -/
def tapsFrom (far : Bool) : List (Nat × Int) :=
  if far then (f.taps source target (target - 1 - x)).map fun (p, w) => (source - 1 - p, w)
  else f.taps source target x

/-- From both ends of a line a filter weighs it the same, if it weighs it at all. -/
def Mirrors : Prop := source = target ∨ ∀ x < target, ∀ p < source,
  weightAt (f.tapsFrom source target x true) p = weightAt (f.tapsFrom source target x false) p

instance : Decidable (f.Mirrors source target) := inferInstanceAs (Decidable (_ ∨ ∀ x < target, ∀ p < source, _))

variable {f source target x}

theorem endPlace_le : f.endPlace source target x ≤ source := Nat.min_le_left _ _

theorem place_lt : ∀ tap ∈ f.taps source target x, tap.1 < source := by
  intro tap there
  simp only [taps, List.map_map, List.mem_map, List.mem_range'_1, Function.comp_apply] at there
  obtain ⟨p, within, rfl⟩ := there
  have last : f.endPlace source target x ≤ source := endPlace_le
  show p < source
  omega

theorem tapsFrom_false : f.tapsFrom source target x false = f.taps source target x := if_neg Bool.false_ne_true

theorem placeFrom_lt (far : Bool) : ∀ tap ∈ f.tapsFrom source target x far, tap.1 < source := by
  cases far with
  | false =>
    rw [tapsFrom_false]
    exact place_lt
  | true =>
    intro tap there
    obtain ⟨tap', there', rfl⟩ := List.mem_map.1 there
    have := place_lt tap' there'
    show source - 1 - tap'.1 < source
    omega

/-- A line read backwards makes the same pixels from its other end, the last one first. -/
theorem weightedPixel_reversed (far : Bool) (hx : x < target) {pixel reversed : Nat → Pixel}
    (h : ∀ p < source, reversed p = pixel (source - 1 - p)) :
    weightedPixel (f.tapsFrom source target x far) reversed =
      weightedPixel (f.tapsFrom source target (target - 1 - x) !far) pixel := by
  refine weightedPixel_congr fun byte => ?_
  rw [weightedByte_sum, weightedByte_sum]
  congr 3
  cases far with
  | false =>
    have back : target - 1 - (target - 1 - x) = x := by omega
    simp only [tapsFrom, Bool.not_false, if_true, Bool.false_eq_true, if_false, back, List.map_map]
    refine congrArg List.sum (List.map_congr_left fun tap there => ?_)
    simp only [Function.comp_apply, h tap.1 (place_lt tap there)]
  | true =>
    simp only [tapsFrom, Bool.not_true, if_true, Bool.false_eq_true, if_false, List.map_map]
    refine congrArg List.sum (List.map_congr_left fun tap there => ?_)
    have inside := place_lt tap there
    have back : source - 1 - (source - 1 - tap.1) = tap.1 := by omega
    simp only [Function.comp_apply, h (source - 1 - tap.1) (by omega), back]

/-- Where a filter mirrors, it makes no difference which end a line is read from. -/
theorem weightedPixel_of_mirrors (mirrors : f.Mirrors source target) (resized : source ≠ target) (hx : x < target)
    (far : Bool) (pixel : Nat → Pixel) : weightedPixel (f.tapsFrom source target x far) pixel =
      weightedPixel (f.tapsFrom source target x false) pixel := by
  cases far with
  | false => rfl
  | true =>
    refine weightedPixel_congr fun byte => ?_
    have same :
        ∑ p ∈ Finset.range source, weightAt (f.tapsFrom source target x true) p * ((byte (pixel p)).toNat : Int) =
          ∑ p ∈ Finset.range source, weightAt (f.tapsFrom source target x false) p * (byte (pixel p)).toNat :=
      Finset.sum_congr rfl fun p hp => by rw [mirrors.resolve_left resized x hx p (Finset.mem_range.1 hp)]
    rw [weightedByte_eq (placeFrom_lt true), weightedByte_eq (placeFrom_lt false), same]

end ResampleFilter

/-! ## Filtered grids -/

namespace Grid

section
variable {α : Type} (g : Grid α)

theorem swapped_swapped : g.swapped.swapped = g := ext_at? rfl rfl fun x y _ => by simp

theorem mirror_swapped : (g.rearranged .mirror).swapped = g.swapped.upended := ext_at? rfl rfl fun x y _ => by simp

theorem upended_swapped : g.upended.swapped = g.swapped.rearranged .mirror := ext_at? rfl rfl fun x y _ => by simp

end

/-- Every row resampled to a width, gone over from its other end if asked for. -/
def filterRowsFrom (far : Bool) (f : ResampleFilter) (width : Nat) (g : Grid Pixel) : Grid Pixel :=
  if width = g.width then g
  else ofFn width g.height fun x y =>
    weightedPixel (f.tapsFrom g.width width x far) fun p => g.pixelAt p y.val

/-- Every column resampled to a height, gone over from its other end if asked for. -/
def filterColumnsFrom (far : Bool) (f : ResampleFilter) (height : Nat) (g : Grid Pixel) : Grid Pixel :=
  (g.swapped.filterRowsFrom far f height).swapped

section
variable {f : ResampleFilter} (g : Grid Pixel) {size : Nat} (far : Bool)

theorem filterRowsFrom_of_eq (h : size = g.width) : g.filterRowsFrom far f size = g := if_pos h

theorem filterColumnsFrom_of_eq (h : size = g.height) : g.filterColumnsFrom far f size = g := by
  rw [filterColumnsFrom, filterRowsFrom_of_eq _ far h, swapped_swapped]

@[simp] theorem width_filterRowsFrom : (g.filterRowsFrom far f size).width = size := by
  unfold filterRowsFrom
  split
  · next h => exact h.symm
  · rfl

@[simp] theorem height_filterRowsFrom : (g.filterRowsFrom far f size).height = g.height := by
  unfold filterRowsFrom
  split <;> rfl

@[simp] theorem width_filterColumnsFrom : (g.filterColumnsFrom far f size).width = g.width := by
  simp [filterColumnsFrom]

@[simp] theorem height_filterColumnsFrom : (g.filterColumnsFrom far f size).height = size := by
  simp [filterColumnsFrom]

theorem at?_filterRowsFrom (hw : size ≠ g.width) {i j : Nat} (hi : i < size) (hj : j < g.height) :
    (g.filterRowsFrom far f size).at? i j =
      some (weightedPixel (f.tapsFrom g.width size i far) fun p => g.pixelAt p j) := by
  rw [filterRowsFrom, if_neg hw]
  exact at?_ofFn _ ⟨i, hi⟩ ⟨j, hj⟩

theorem filterRowsFrom_false : g.filterRowsFrom false f size = g.filterRows f size := by
  simp [filterRowsFrom, filterRows, ResampleFilter.tapsFrom_false, Array.getD]

theorem filterColumnsFrom_false : g.filterColumnsFrom false f size = g.filterColumns f size := by
  by_cases h : size = g.height
  · rw [filterColumns, if_pos h, filterColumnsFrom_of_eq g false h]
  · rw [filterColumns, if_neg h]
    refine ext_at? (by simp) (by simp) fun x y has => ?_
    obtain ⟨i, j, hi, hj, rfl, rfl⟩ := has.exists_nat
    rw [width_filterColumnsFrom] at hi
    rw [height_filterColumnsFrom] at hj
    rw [filterColumnsFrom, at?_swapped, at?_filterRowsFrom g.swapped false h hj hi, ResampleFilter.tapsFrom_false]
    refine .trans ?_ (at?_ofFn _ ⟨i, hi⟩ ⟨j, hj⟩).symm
    simp [Array.getD, pixelAt, hj]

theorem filterRowsFrom_mirror :
    (g.rearranged .mirror).filterRowsFrom far f size = (g.filterRowsFrom (!far) f size).rearranged .mirror := by
  by_cases h : size = g.width
  · rw [filterRowsFrom_of_eq g _ h, filterRowsFrom_of_eq (g.rearranged .mirror) _ h]
  · refine ext_at? (by simp) (by simp) fun x y has => ?_
    obtain ⟨i, j, hi, hj, rfl, rfl⟩ := has.exists_nat
    rw [width_filterRowsFrom] at hi
    rw [height_filterRowsFrom, height_rearranged] at hj
    have place : ((size : Int) - 1 - i) = (size - 1 - i : Nat) := by omega
    rw [at?_filterRowsFrom (g.rearranged .mirror) far h hi hj, at?_mirror, width_filterRowsFrom, place,
      at?_filterRowsFrom g _ h (by omega) hj]
    congr 1
    refine ResampleFilter.weightedPixel_reversed far hi fun p hp => ?_
    change p < g.width at hp
    have place : ((g.width : Int) - 1 - p) = (g.width - 1 - p : Nat) := by omega
    rw [pixelAt, at?_mirror, place]
    rfl

theorem filterRowsFrom_upended : g.upended.filterRowsFrom far f size = (g.filterRowsFrom far f size).upended := by
  by_cases h : size = g.width
  · rw [filterRowsFrom_of_eq g far h, filterRowsFrom_of_eq g.upended far h]
  · refine ext_at? (by simp) (by simp) fun x y has => ?_
    obtain ⟨i, j, hi, hj, rfl, rfl⟩ := has.exists_nat
    rw [width_filterRowsFrom] at hi
    rw [height_filterRowsFrom, height_upended] at hj
    have place : ((g.height : Int) - 1 - j) = (g.height - 1 - j : Nat) := by omega
    rw [at?_filterRowsFrom g.upended far h hi hj, at?_upended, height_filterRowsFrom, place,
      at?_filterRowsFrom g far h hi (by omega)]
    simp only [pixelAt, at?_upended, place, width_upended]

theorem filterColumnsFrom_mirror :
    (g.rearranged .mirror).filterColumnsFrom far f size = (g.filterColumnsFrom far f size).rearranged .mirror := by
  rw [filterColumnsFrom, filterColumnsFrom, mirror_swapped, filterRowsFrom_upended, upended_swapped]

theorem filterColumnsFrom_upended :
    g.upended.filterColumnsFrom far f size = (g.filterColumnsFrom (!far) f size).upended := by
  rw [filterColumnsFrom, filterColumnsFrom, upended_swapped, filterRowsFrom_mirror, mirror_swapped]

theorem filterRowsFrom_swapped : g.swapped.filterRowsFrom far f size = (g.filterColumnsFrom far f size).swapped := by
  rw [filterColumnsFrom, swapped_swapped]

theorem filterColumnsFrom_swapped : g.swapped.filterColumnsFrom far f size = (g.filterRowsFrom far f size).swapped := by
  rw [filterColumnsFrom, swapped_swapped]

variable {far}

theorem filterRowsFrom_of_mirrors (mirrors : far → f.Mirrors g.width size) :
    g.filterRowsFrom far f size = g.filterRowsFrom false f size := by
  cases far with
  | false => rfl
  | true =>
    by_cases h : size = g.width
    · rw [filterRowsFrom_of_eq g _ h, filterRowsFrom_of_eq g _ h]
    · refine ext_at? (by simp) (by simp) fun x y has => ?_
      obtain ⟨i, j, hi, hj, rfl, rfl⟩ := has.exists_nat
      rw [width_filterRowsFrom] at hi
      rw [height_filterRowsFrom] at hj
      rw [at?_filterRowsFrom g _ h hi hj, at?_filterRowsFrom g _ h hi hj,
        ResampleFilter.weightedPixel_of_mirrors (mirrors rfl) (Ne.symm h) hi]

/-- Two bright pixels in a row, of which bicubic weights make more from one end than from the other. -/
example :
    let row : Grid Pixel := ofFn 335 1 fun x _ => { a := if x.val = 36 then 72 else if x.val = 39 then 199 else 0 }
    (row.filterRowsFrom false .bicubic 291).at? 32 0 = some { a := 9 } ∧
      (row.filterRowsFrom true .bicubic 291).at? 32 0 = some { a := 8 } := by
  intro row
  have wide : 291 ≠ row.width := by decide
  have here (far : Bool) := at?_filterRowsFrom (f := .bicubic) row far wide (i := 32) (j := 0) (by decide) (by decide)
  refine ⟨(here false).trans ?_, (here true).trans ?_⟩ <;> decide +kernel

theorem filterColumnsFrom_of_mirrors (mirrors : far → f.Mirrors g.height size) :
    g.filterColumnsFrom far f size = g.filterColumnsFrom false f size := by
  rw [filterColumnsFrom, filterRowsFrom_of_mirrors g.swapped mirrors]
  rfl

end

/-- Both directions filtered, one after the other, each from its other end if asked for. -/
def filtered (columnsFirst across down : Bool) (f : ResampleFilter) (width height : Nat) (g : Grid Pixel) : Grid Pixel :=
  if columnsFirst then (g.filterColumnsFrom down f height).filterRowsFrom across f width
  else (g.filterRowsFrom across f width).filterColumnsFrom down f height

section
variable {f : ResampleFilter} (g : Grid Pixel) {width height : Nat}

theorem resampled_eq (hf : f ≠ .nearest) : g.resampled f width height = g.filtered false false false f width height := by
  rw [filtered, if_neg Bool.false_ne_true, filterColumnsFrom_false, filterRowsFrom_false]
  cases f <;> first | rfl | exact absurd rfl hf

/-- Filtering an image as it is stored comes to filtering it as it is laid out, but in the other order if rows and columns
are exchanged, and from the other end of every axis that is mirrored. -/
theorem filtered_laid (swap across down : Bool) :
    (g.laid swap across down).filtered swap across down f width height =
      (g.filtered false false false f (if swap then height else width) (if swap then width else height)).laid
        swap across down := by
  cases swap <;> cases across <;> cases down <;>
    simp [filtered, laid, filterRowsFrom_mirror, filterColumnsFrom_upended, filterRowsFrom_upended,
      filterColumnsFrom_mirror, filterRowsFrom_swapped, filterColumnsFrom_swapped]

/-- The order matters only where both directions are filtered, and the end only where the weights do not mirror. -/
theorem filtered_eq {columnsFirst across down : Bool}
    (order : columnsFirst = false ∨ width = g.width ∨ height = g.height)
    (rows : across → f.Mirrors g.width width) (columns : down → f.Mirrors g.height height) :
    g.filtered columnsFirst across down f width height = g.filtered false false false f width height := by
  have either : g.filtered columnsFirst across down f width height = g.filtered false across down f width height := by
    cases columnsFirst with
    | false => rfl
    | true =>
      show (g.filterColumnsFrom down f height).filterRowsFrom across f width =
        (g.filterRowsFrom across f width).filterColumnsFrom down f height
      rcases order.resolve_left Bool.noConfusion with h | h
      · rw [filterRowsFrom_of_eq g across h, filterRowsFrom_of_eq _ across (h.trans (g.width_filterColumnsFrom down).symm)]
      · rw [filterColumnsFrom_of_eq g down h,
          filterColumnsFrom_of_eq _ down (h.trans (g.height_filterRowsFrom across).symm)]
  rw [either]
  show (g.filterRowsFrom across f width).filterColumnsFrom down f height = _
  rw [filterRowsFrom_of_mirrors g rows, filterColumnsFrom_of_mirrors]
  · rfl
  · rwa [height_filterRowsFrom]

end

/-! ## Pixels worked on one by one -/

section
variable {α β : Type} (φ : α → β) (g : Grid α)

theorem map_laid (swap across down : Bool) : (g.laid swap across down).map φ = (g.map φ).laid swap across down := by
  refine ext_at? (by simp) (by simp) fun x y _ => ?_
  simp only [at?_map, at?_laid, width_laid, height_laid, width_map, height_map]
  split <;> rfl

end

section
variable {mode : Mode} {work work' : Grid Pixel → Grid Pixel} (g : Grid Pixel)

theorem throughOpacity_laid {swap across down : Bool}
    (h : ∀ g, work' (g.laid swap across down) = (work g).laid swap across down) :
    (g.laid swap across down).throughOpacity mode work' = (g.throughOpacity mode work).laid swap across down := by
  unfold throughOpacity
  split
  · rw [map_laid, h, map_laid]
  · exact h g

theorem throughOpacity_congr (h : ∀ g', g'.size = g.size → work g' = work' g') :
    g.throughOpacity mode work = g.throughOpacity mode work' := by
  unfold throughOpacity
  split
  · exact congrArg _ (h (g.map _) rfl)
  · exact h g rfl

end

end Grid

/-! ## Nearest neighbour -/

/-- Every place is taken from where its middle lies in the source, as if nothing were rounded on the way. -/
def NearestExact (source target : Nat) : Prop :=
  ∀ x < target, (nearestPlaces source target).getD x 0 = ((2 * x + 1) * source / (2 * target) : Nat)

instance (source target : Nat) : Decidable (NearestExact source target) :=
  inferInstanceAs (Decidable (∀ x < target, _))

/-- The source place that the middle of a place lies in; of two places that meet there, the upper one or, on an axis
that is mirrored, the lower one. -/
def samplePlace (mirrored : Bool) (source target : Nat) (x : Int) : Int :=
  if mirrored then ((2 * x + 1) * source - 1) / (2 * target) else (2 * x + 1) * source / (2 * target)

/-- No middle of a place lies where two source places meet. -/
def MeetsNoEdge (source target : Nat) : Prop := ∀ x < target, ¬ 2 * target ∣ (2 * x + 1) * source

instance (source target : Nat) : Decidable (MeetsNoEdge source target) :=
  inferInstanceAs (Decidable (∀ x < target, _))

theorem samplePlace_mirrored {source target : Nat} (ht : 0 < target) (x : Int) :
    source - 1 - samplePlace false source target (target - 1 - x) = samplePlace true source target x := by
  have positive : 0 < 2 * (target : Int) := by omega
  have reversed : (2 * (target - 1 - x) + 1) * (source : Int) = -((2 * x + 1) * source) + source * (2 * target) := by
    ring
  simp only [samplePlace, if_true, if_neg Bool.false_ne_true, reversed]
  rw [Int.add_mul_ediv_right _ _ positive.ne']
  generalize (2 * x + 1) * (source : Int) = n, 2 * (target : Int) = d at positive
  -- counted from the far end, rounding down is rounding up
  have up : -n / d = -((n - 1) / d) - 1 := by
    have parts := Int.emod_add_mul_ediv (n - 1) d
    have least := Int.emod_nonneg (n - 1) positive.ne'
    have most := Int.emod_lt_of_pos (n - 1) positive
    exact ((Int.ediv_emod_unique positive (r := d - 1 - (n - 1) % d)).2 ⟨by linarith, by omega, by omega⟩).1
  omega

theorem samplePlace_self {source : Nat} (hs : 0 < source) (mirrored : Bool) (x : Int) :
    samplePlace mirrored source source x = x := by
  have positive : 0 < 2 * (source : Int) := by omega
  cases mirrored with
  | false => exact ((Int.ediv_emod_unique positive (r := source)).2 ⟨by ring, by omega, by omega⟩).1
  | true => exact ((Int.ediv_emod_unique positive (r := source - 1)).2 ⟨by ring, by omega, by omega⟩).1

theorem samplePlace_natCast (source target x : Nat) :
    samplePlace false source target x = ((2 * x + 1) * source / (2 * target) : Nat) := by
  simp only [samplePlace, if_neg Bool.false_ne_true]
  push_cast
  rfl

theorem samplePlace_eq {mirrored : Bool} {source target x : Nat} (h : mirrored → MeetsNoEdge source target)
    (hx : x < target) : samplePlace mirrored source target x = samplePlace false source target x := by
  cases mirrored with
  | false => rfl
  | true =>
    have positive : 0 < 2 * (target : Int) := by omega
    have noEdge : ¬ 2 * (target : Int) ∣ (2 * x + 1) * source := by exact_mod_cast h rfl x hx
    simp only [samplePlace, if_true, if_neg Bool.false_ne_true]
    generalize (2 * x + 1) * (source : Int) = n, 2 * (target : Int) = d at positive noEdge
    have parts := Int.emod_add_mul_ediv n d
    have least := Int.emod_pos_of_not_dvd noEdge
    have most := Int.emod_lt_of_pos n positive
    exact ((Int.ediv_emod_unique positive (r := n % d - 1)).2 ⟨by linarith, by omega, by omega⟩).1

namespace Grid

/-- Every cell is the one that the middle of its place lies in. -/
def Sampled (across down : Bool) (g sample : Grid Pixel) : Prop := ∀ x y, sample.Has x y →
  sample.at? x y = g.at? (samplePlace across g.width sample.width x) (samplePlace down g.height sample.height y)

section
variable {g sample : Grid Pixel} {across down : Bool}

theorem sampled_self (g : Grid Pixel) (across down : Bool) : g.Sampled across down g := by
  rintro x y ⟨hx, hy⟩
  rw [samplePlace_self (by omega), samplePlace_self (by omega)]

theorem takeNearest_sampled {width height : Nat} (hw : 0 < g.width) (hh : 0 < g.height)
    (across : NearestExact g.width width) (down : NearestExact g.height height) :
    g.Sampled false false (g.takeNearest width height) := by
  have within : ∀ {source target x : Nat}, 0 < source → x < target → (2 * x + 1) * source / (2 * target) < source := by
    intro source target x hs hx
    refine Nat.div_lt_of_lt_mul (Nat.mul_lt_mul_of_pos_right ?_ hs)
    omega
  intro x y has
  obtain ⟨i, j, rfl, rfl⟩ := has.exists_fin
  have column := within hw i.isLt
  have row := within hh j.isLt
  refine (at?_ofFn _ i j).trans ?_
  rw [across i i.isLt, down j j.isLt, samplePlace_natCast, samplePlace_natCast]
  have here := at?_fin g ⟨_, column⟩ ⟨_, row⟩
  exact (congrArg (fun cell => some (cell.getD {})) here).trans here.symm

theorem Sampled.swapped (h : g.Sampled across down sample) : g.swapped.Sampled down across sample.swapped := by
  intro x y has
  rw [at?_swapped, at?_swapped]
  exact h y x ⟨has.2, has.1⟩

theorem Sampled.mirror (h : g.Sampled false down sample) :
    (g.rearranged .mirror).Sampled true down (sample.rearranged .mirror) := by
  rintro x y ⟨⟨hx, hx'⟩, hy⟩
  change x < sample.width at hx'
  rw [at?_mirror, at?_mirror, h _ _ ⟨⟨by omega, by omega⟩, hy⟩]
  show _ = g.at? (g.width - 1 - samplePlace true g.width sample.width x) (samplePlace down g.height sample.height y)
  rw [← samplePlace_mirrored (by omega), Int.sub_sub_self]

theorem Sampled.upended (h : g.Sampled across false sample) : g.upended.Sampled across true sample.upended := by
  rintro x y ⟨hx, hy, hy'⟩
  change y < sample.height at hy'
  rw [at?_upended, at?_upended, h _ _ ⟨hx, by omega, by omega⟩]
  show _ = g.at? (samplePlace across g.width sample.width x) (g.height - 1 - samplePlace true g.height sample.height y)
  rw [← samplePlace_mirrored (by omega), Int.sub_sub_self]

/-- Sampling an image as it is stored samples what it is laid out as, from the other end of every axis that is
mirrored. -/
theorem Sampled.laid (h : g.Sampled false false sample) (swap across down : Bool) :
    (g.laid swap across down).Sampled across down (sample.laid swap across down) := by
  have swapped : (g.laid swap false false).Sampled false false (sample.laid swap false false) := by
    cases swap with
    | false => exact h
    | true => exact h.swapped
  have mirrored : (g.laid swap across false).Sampled across false (sample.laid swap across false) := by
    cases across with
    | false => exact swapped
    | true => exact swapped.mirror
  cases down with
  | false => exact mirrored
  | true => exact mirrored.upended

theorem Sampled.eq_of_meetsNoEdge {sample' : Grid Pixel} (h : g.Sampled across down sample)
    (h' : g.Sampled false false sample') (hsize : sample.size = sample'.size)
    (column : across → MeetsNoEdge g.width sample.width) (row : down → MeetsNoEdge g.height sample.height) :
    sample = sample' := by
  obtain ⟨wide, high⟩ := size_inj.1 hsize
  refine ext_at? wide high fun x y has => ?_
  have has' : sample'.Has x y := by rwa [Has, ← wide, ← high]
  rw [h x y has, h' x y has', ← wide, ← high]
  obtain ⟨i, j, hi, hj, rfl, rfl⟩ := has.exists_nat
  rw [samplePlace_eq column hi, samplePlace_eq row hj]

end

end Grid

end Darkroom
