import Darkroom.Proofs.Geometry
import Darkroom.Proofs.Resampling
import Darkroom.Proofs.Workshop
/-!
# Thumbnails, pixel by pixel

A thumbnail is resized as it is stored and turned afterwards, when it is small. `thumbnail_resized_as_stored` says what
comes of it beside a thumbnail that is turned first (`turnedFirst`): the same wherever filters keep their order and weigh a
mirrored axis the same from both ends and sampling meets no edge of a pixel, and exactly what else where not.
-/

namespace Darkroom

/-! ## Resizing a raster -/

section
variable {mode : Mode} {f : ResampleFilter} (g : Grid Pixel) {width height : Nat}

theorem Grid.resampledIn_smooth (hf : mode.filter f ≠ .nearest) : g.resampledIn mode f width height =
    g.throughOpacity mode (·.filtered false false false (mode.filter f) width height) := by
  have resampled : g.resampledIn mode f width height =
      g.throughOpacity mode (·.resampled (mode.filter f) width height) := by
    unfold Grid.resampledIn
    split
    · next h => exact absurd h hf
    · rfl
  rw [resampled]
  exact g.throughOpacity_congr fun g' _ => g'.resampled_eq hf

theorem Grid.resampledIn_nearest (hf : mode.filter f = .nearest) :
    g.resampledIn mode f width height = g.takeNearest width height := by
  unfold Grid.resampledIn
  rw [hf]

theorem Grid.size_resampledIn : (g.resampledIn mode f width height).size = ⟨width, height⟩ := by
  by_cases hf : mode.filter f = .nearest
  · rw [Grid.resampledIn_nearest g hf]
    rfl
  · rw [Grid.resampledIn_smooth g hf]
    unfold Grid.throughOpacity
    split <;> simp [Grid.size, Grid.filtered]

/-- A grid that has the size already stays as it is. -/
def Grid.resized (g : Grid Pixel) (mode : Mode) (f : ResampleFilter) (size : Dimensions) : Grid Pixel :=
  if size = g.size then g else g.resampledIn mode f size.width.toNat size.height.toNat

theorem Grid.size_resized {size : Dimensions} (positive : size.Positive) : (g.resized mode f size).size = size := by
  unfold resized
  split
  · next h => exact h.symm
  · obtain ⟨hw, hh⟩ := positive
    rw [size_resampledIn, Int.toNat_of_nonneg (by omega), Int.toNat_of_nonneg (by omega)]

theorem Buffer.resize_eq (r : Raster) (f : ResampleFilter) {size : Dimensions} (positive : size.Positive) :
    Buffer.resize { raster := r } f size.width size.height = .ok { r with grid := r.grid.resized r.mode f size } := by
  have same : (size.width = r.width ∧ size.height = r.height) ↔ size = r.grid.size := by
    cases size
    simp [Grid.size, Raster.width, Raster.height]
  have sensible : ¬ (size.width < 1 ∨ size.height < 1) := by
    obtain ⟨hw, hh⟩ := positive
    omega
  have live : Buffer.live { raster := r } = .ok r := rfl
  simp only [Buffer.resize, live, bind, Except.bind, Grid.resized]
  by_cases h : size = r.grid.size
  · rw [if_pos (same.2 h), if_pos h]
    rfl
  · rw [if_neg (mt same.1 h), if_neg h, if_neg sensible]
    rfl

end

theorem Dimensions.Positive.exists_nat {d : Dimensions} (h : d.Positive) :
    ∃ width height : Nat, d = ⟨width, height⟩ := by
  obtain ⟨hw, hh⟩ := h
  refine ⟨d.width.toNat, d.height.toNat, ?_⟩
  rw [Int.toNat_of_nonneg (by omega), Int.toNat_of_nonneg (by omega)]

theorem Dimensions.Positive.after {d : Dimensions} (h : d.Positive) (t : Transform) : (d.after t).Positive := by
  unfold Dimensions.after
  split
  · exact ⟨h.2, h.1⟩
  · exact h

/-! ## Turning late -/

/-- A thumbnail made the other way round: what is stored is turned first, and what shows is resized. -/
def turnedFirst (f : ResampleFilter) (r : Raster) (t : Transform) (size : Dimensions) : Except Failure Raster := do
  let shown ← Buffer.transform { raster := r } t
  Buffer.resize { raster := shown } f size.width size.height

/-- A thumbnail `late` that is resized as it is stored and then turned, beside one that is turned first. -/
structure TurnedLate (mode : Mode) (f : ResampleFilter) (t : Transform) (shown late first : Grid Pixel) : Prop where
  unresized : late.size = shown.size → late = shown ∧ first = shown
  /-- The directions are filtered in the order in which they are stored, and from the end that is stored first. -/
  filtered : f ≠ .nearest → late.size ≠ shown.size →
    late = shown.throughOpacity mode
      (·.filtered t.swapsAxes t.mirrorsAcross t.mirrorsDown f late.width late.height) ∧
    first = shown.throughOpacity mode (·.filtered false false false f late.width late.height)
  filtered_eq : f ≠ .nearest → t.swapsAxes = false ∨ late.width = shown.width ∨ late.height = shown.height →
    (t.mirrorsAcross → f.Mirrors shown.width late.width) → (t.mirrorsDown → f.Mirrors shown.height late.height) →
    late = first
  sampled : f = .nearest → NearestExact shown.width late.width → NearestExact shown.height late.height →
    shown.Sampled t.mirrorsAcross t.mirrorsDown late ∧ shown.Sampled false false first
  sampled_eq : f = .nearest → NearestExact shown.width late.width → NearestExact shown.height late.height →
    (t.mirrorsAcross → MeetsNoEdge shown.width late.width) → (t.mirrorsDown → MeetsNoEdge shown.height late.height) →
    late = first

section
variable {g : Grid Pixel} {mode : Mode} {f : ResampleFilter} {t : Transform} {width height : Nat}

theorem Grid.resampledIn_transformed (hf : mode.filter f ≠ .nearest) :
    (g.resampledIn mode f (if t.swapsAxes then height else width) (if t.swapsAxes then width else height)).transformed t =
      (g.transformed t).throughOpacity mode
        (·.filtered t.swapsAxes t.mirrorsAcross t.mirrorsDown (mode.filter f) width height) := by
  rw [resampledIn_smooth g hf, transformed_eq_laid, transformed_eq_laid]
  exact (throughOpacity_laid g fun g' => g'.filtered_laid t.swapsAxes t.mirrorsAcross t.mirrorsDown).symm

theorem Grid.takeNearest_transformed (nonempty : g.size.Positive) (across : NearestExact (g.transformed t).width width)
    (down : NearestExact (g.transformed t).height height) :
    (g.transformed t).Sampled t.mirrorsAcross t.mirrorsDown
      ((g.takeNearest (if t.swapsAxes then height else width) (if t.swapsAxes then width else height)).transformed t) := by
  obtain ⟨hw, hh⟩ := nonempty
  simp only [size] at hw hh
  rw [transformed_eq_laid, width_laid] at across
  rw [transformed_eq_laid, height_laid] at down
  rw [transformed_eq_laid, transformed_eq_laid]
  generalize t.swapsAxes = swap at across down ⊢
  cases swap with
  | false => exact (takeNearest_sampled (by omega) (by omega) across down).laid _ _ _
  | true => exact (takeNearest_sampled (by omega) (by omega) down across).laid _ _ _

theorem Grid.after_eq_size_iff {size : Dimensions} : size.after t = g.size ↔ size = (g.transformed t).size := by
  rw [size_transformed, ← @Dimensions.after_inj t, Dimensions.after_after]

theorem turnedLate_self (shown : Grid Pixel) : TurnedLate mode f t shown shown shown where
  unresized _ := ⟨rfl, rfl⟩
  filtered _ ne := absurd rfl ne
  filtered_eq _ _ _ _ := rfl
  sampled _ _ _ := ⟨shown.sampled_self _ _, shown.sampled_self _ _⟩
  sampled_eq _ _ _ _ _ := rfl

/-- For grids of another size than what shows, the comparison comes down to how their pixels are found. -/
theorem turnedLate_of_resampled {shown late first : Grid Pixel} (lateSize : late.size = ⟨width, height⟩)
    (firstSize : first.size = ⟨width, height⟩) (resized : ⟨width, height⟩ ≠ shown.size)
    (filtered : f ≠ .nearest →
      late = shown.throughOpacity mode (·.filtered t.swapsAxes t.mirrorsAcross t.mirrorsDown f width height) ∧
      first = shown.throughOpacity mode (·.filtered false false false f width height))
    (sampled : f = .nearest → NearestExact shown.width width → NearestExact shown.height height →
      shown.Sampled t.mirrorsAcross t.mirrorsDown late ∧ shown.Sampled false false first) :
    TurnedLate mode f t shown late first := by
  obtain ⟨rfl, rfl⟩ := Grid.size_eq_iff.1 lateSize
  refine ⟨fun h => absurd (lateSize.symm.trans h) resized, fun hf _ => filtered hf, ?_, sampled, ?_⟩
  · intro hf order rows columns
    rw [(filtered hf).1, (filtered hf).2]
    refine shown.throughOpacity_congr fun g' hg' => ?_
    obtain ⟨wide, high⟩ := Grid.size_inj.1 hg'
    exact g'.filtered_eq (by rwa [wide, high]) (by rwa [wide]) (by rwa [high])
  · intro hf across down noEdgeAcross noEdgeDown
    obtain ⟨lateSampled, firstSampled⟩ := sampled hf across down
    exact lateSampled.eq_of_meetsNoEdge firstSampled (lateSize.trans firstSize.symm) noEdgeAcross noEdgeDown

theorem turnedLate_resized (nonempty : g.size.Positive) {size : Dimensions} (positive : size.Positive) :
    TurnedLate mode (mode.filter f) t (g.transformed t) ((g.resized mode f (size.after t)).transformed t)
      ((g.transformed t).resized mode f size) := by
  by_cases unchanged : size = (g.transformed t).size
  · rw [Grid.resized, Grid.resized, if_pos unchanged, if_pos (Grid.after_eq_size_iff.2 unchanged)]
    exact turnedLate_self _
  -- from here on both are resampled
  obtain ⟨width, height, rfl⟩ := positive.exists_nat
  have stored : g.resized mode f (Dimensions.after t ⟨width, height⟩) =
      g.resampledIn mode f (if t.swapsAxes then height else width) (if t.swapsAxes then width else height) := by
    rw [Grid.resized, if_neg (mt Grid.after_eq_size_iff.1 unchanged), Dimensions.after]
    cases t.swapsAxes <;> rfl
  have upright : (g.transformed t).resized mode f ⟨width, height⟩ = (g.transformed t).resampledIn mode f width height :=
    if_neg unchanged
  rw [stored, upright]
  refine turnedLate_of_resampled ?_ (Grid.size_resampledIn _) unchanged ?_ ?_
  · rw [Grid.size_transformed, Grid.size_resampledIn, Dimensions.after]
    cases t.swapsAxes <;> rfl
  · intro hf
    exact ⟨Grid.resampledIn_transformed hf, Grid.resampledIn_smooth _ hf⟩
  · intro hf across down
    obtain ⟨hw, hh⟩ : (g.transformed t).size.Positive := Grid.size_transformed g t ▸ nonempty.after t
    simp only [Grid.size] at hw hh
    rw [Grid.resampledIn_nearest _ hf, Grid.resampledIn_nearest _ hf]
    exact ⟨Grid.takeNearest_transformed nonempty across down,
      Grid.takeNearest_sampled (by omega) (by omega) across down⟩

end

/-- What the stages of a thumbnail make of a raster. -/
theorem Stage.reach_thumbnailStages (filter : ResampleFilter) (r : Raster) (code : Option Int) (format output : Format)
    {size : Dimensions} (positive : size.Positive) :
    (thumbnailStages (r.grid.facts code format output) size).foldlM (fun r st => st.raster filter r) r =
      .ok { r with grid :=
        (r.grid.resized r.mode filter (size.after (Transform.forCode code))).transformed (Transform.forCode code) } := by
  have resized : (if size = (r.grid.facts code format output).dimensions then []
        else [Stage.resize (size.after (Transform.forCode code))]).foldlM (fun r st => st.raster filter r) r =
      .ok { r with grid := r.grid.resized r.mode filter (size.after (Transform.forCode code)) } := by
    have same :
        size = (r.grid.facts code format output).dimensions ↔ size.after (Transform.forCode code) = r.grid.size := by
      rw [Grid.dimensions_facts, Grid.after_eq_size_iff]
    by_cases h : size = (r.grid.facts code format output).dimensions
    · rw [if_pos h, Grid.resized, if_pos (same.1 h)]
      rfl
    · rw [if_neg h, List.foldlM_cons]
      show Buffer.resize { raster := r } filter _ _ >>= _ = _
      rw [Buffer.resize_eq r filter (positive.after _)]
      rfl
  rw [thumbnailStages, List.foldlM_append]
  show List.foldlM _ r (if _ then _ else [Stage.resize (size.after (Transform.forCode code))]) >>= _ = _
  rw [resized]
  exact Stage.reach_turnStages filter _ _

/-- A thumbnail is resized as it is stored and turned when it is small, which makes the difference that `TurnedLate`
tells to one that is turned first. -/
theorem thumbnail_resized_as_stored {w : Workshop} {b : BufferId} {r : Raster} (here : w.buffer b = { raster := r })
    (code : Option Int) (format output : Format) (bound : Dimensions) (fit : Bool) :
    let t := Transform.forCode code
    let shown := r.grid.transformed t
    let written := w.writes ((Handle.opened b (r.grid.facts code format output)).thumbnail bound fit)
    match thumbnailSize shown.size bound fit with
    | .error _ => written = []
    | .ok size => ∃ late first, written = [({ r with grid := late }, output)] ∧
        turnedFirst w.options.filter r t size = .ok { r with grid := first } ∧ late.size = size ∧ first.size = size ∧
        TurnedLate r.mode (r.mode.filter w.options.filter) t shown late first := by
  intro t shown written
  have carried := thumbnail_carried rasterCodec w b (r.grid.facts code format output) bound fit
  cases hsize : thumbnailSize shown.size bound fit with
  | error e =>
    refine Workshop.writes_senseless (e := e) carried ?_
    rw [thumbnailPlan, Grid.dimensions_facts, hsize]
    rfl
  | ok size =>
    have positive := (thumbnailSize_within hsize).positive
    have plan : thumbnailPlan (r.grid.facts code format output) bound fit =
        .ok (thumbnailStages (r.grid.facts code format output) size) := by
      rw [thumbnailPlan, Grid.dimensions_facts, hsize]
      rfl
    have nonempty : r.grid.size.Positive := by
      obtain ⟨-, hw, hh⟩ := thumbnailSize_within hsize
      have showing : shown.size.Positive := ⟨positive.1.trans hw, positive.2.trans hh⟩
      have stored := showing.after t
      rwa [Grid.size_transformed, Dimensions.after_after] at stored
    refine ⟨_, _,
      Workshop.writes_carried carried plan here (Stage.reach_thumbnailStages _ r code format output positive),
      Buffer.resize_eq _ _ positive, ?_, Grid.size_resized _ positive, turnedLate_resized nonempty positive⟩
    rw [Grid.size_transformed, Grid.size_resized _ (positive.after _), Dimensions.after_after]

/-- An image stored on its side, and single pixels of it: turned late or first, the thumbnail is the same. -/
theorem thumbnail_of_an_image_on_its_side :
    let r : Raster := ⟨.gray, ⟨2, 6, #[{ a := 15 }, { a := 25 }, { a := 14 }, { a := 24 }, { a := 13 }, { a := 23 },
      { a := 12 }, { a := 22 }, { a := 11 }, { a := 21 }, { a := 10 }, { a := 20 }], rfl⟩, #[], {}⟩
    let w : Workshop := { options := { filter := .nearest }, buffers := #[{ raster := r }] }
    ∃ late, w.writes ((Handle.opened 1 (r.grid.facts (some 6) .png .png)).thumbnail ⟨2, 2⟩ true) =
        [({ r with grid := late }, .png)] ∧
      turnedFirst .nearest r (Transform.forCode (some 6)) ⟨2, 1⟩ = .ok { r with grid := late } ∧
      late.size = ⟨2, 1⟩ ∧ late.at? 0 0 = some { a := 21 } ∧ late.at? 1 0 = some { a := 24 } := by
  intro r w
  have hsize : thumbnailSize (r.grid.transformed (Transform.forCode (some 6))).size ⟨2, 2⟩ true = .ok ⟨2, 1⟩ := by
    decide +kernel
  have law := @thumbnail_resized_as_stored w 1 r rfl (some 6) .png .png ⟨2, 2⟩ true
  dsimp only at law
  rw [hsize] at law
  obtain ⟨late, first, written, turned, lateSize, -, compared⟩ := law
  obtain ⟨wide, high⟩ : late.width = 2 ∧ late.height = 1 := Grid.size_eq_iff.1 lateSize
  have across : NearestExact (r.grid.transformed (Transform.forCode (some 6))).width late.width := by
    rw [wide]
    decide +kernel
  have down : NearestExact (r.grid.transformed (Transform.forCode (some 6))).height late.height := by
    rw [high]
    decide +kernel
  have noEdge : MeetsNoEdge (r.grid.transformed (Transform.forCode (some 6))).width late.width := by
    rw [wide]
    decide +kernel
  have sampled := (compared.sampled rfl across down).1
  obtain rfl := compared.sampled_eq rfl across down (fun _ => noEdge) (fun mirrored => nomatch mirrored)
  refine ⟨late, written, turned, lateSize, ?_, ?_⟩
  · rw [sampled 0 0 ⟨by omega, by omega⟩, wide, high]
    decide +kernel
  · rw [sampled 1 0 ⟨by omega, by omega⟩, wide, high]
    decide +kernel

/-- Two images of which a single pixel is left: one is mirrored, and the middle of the pixel lies where two others meet;
one is stored on its side, and both directions are rounded. -/
theorem thumbnail_differs_from_turned_first :
    let mirrored : Raster := ⟨.gray, ⟨2, 2, #[{ a := 10 }, { a := 20 }, { a := 10 }, { a := 20 }], rfl⟩, #[], {}⟩
    let onItsSide : Raster := ⟨.gray, ⟨2, 2, #[{ a := 0 }, { a := 3 }, { a := 0 }, { a := 1 }], rfl⟩, #[], {}⟩
    let written (filter : ResampleFilter) (r : Raster) (code : Option Int) : List (Raster × Format) :=
      Workshop.writes { options := { filter }, buffers := #[{ raster := r }] }
        ((Handle.opened 1 (r.grid.facts code .png .png)).thumbnail ⟨1, 1⟩ true)
    thumbnailSize ⟨2, 2⟩ ⟨1, 1⟩ true = .ok ⟨1, 1⟩ ∧ NearestExact 2 1 ∧
    (written .nearest mirrored (some 2)).map (·.1.grid.cells) = [#[{ a := 20 }]] ∧
    (turnedFirst .nearest mirrored (Transform.forCode (some 2)) ⟨1, 1⟩).toOption.map (·.grid.cells) =
      some #[{ a := 10 }] ∧
    (written .lanczos onItsSide (some 6)).map (·.1.grid.cells) = [#[{ a := 2 }]] ∧
    (turnedFirst .lanczos onItsSide (Transform.forCode (some 6)) ⟨1, 1⟩).toOption.map (·.grid.cells) =
      some #[{ a := 1 }] := by
  decide +kernel

end Darkroom
