import Darkroom.Proofs.Geometry
import Darkroom.Proofs.Workshop
/-!
# Crops, pixel by pixel

A crop is turned upright before anything is cut, and the rectangle is found from the upright size. So what is written
depends on what an image shows and not on how it is stored (`crop_ignores_storage`).
-/

namespace Darkroom

/-! ## Cutting -/

/-- What is cut out of an image has the size of the rectangle, and each cell comes from its place in there. -/
structure CutFrom {α : Type} (shown : Grid α) (box : CropBox) (cut : Grid α) : Prop where
  size_eq : cut.size = box.size
  inside : ∀ x y, cut.Has x y → shown.Has (box.offsetX + x) (box.offsetY + y)
  at?_eq : ∀ x y, cut.Has x y → cut.at? x y = shown.at? (box.offsetX + x) (box.offsetY + y)

section
variable {α : Type} (g : Grid α) (blank : α) {x y : Int}

theorem Grid.at?_cut {left upper : Int} {width height : Nat} (has : (g.cut left upper width height blank).Has x y) :
    (g.cut left upper width height blank).at? x y = some ((g.at? (left + x) (upper + y)).getD blank) := by
  obtain ⟨i, j, rfl, rfl⟩ := has.exists_fin
  exact at?_ofFn (fun i j => (g.at? (left + i.val) (upper + j.val)).getD blank) i j

theorem Grid.cut_inside {box : CropBox} (inside : box.Inside g.size) :
    CutFrom g box (g.cut box.left box.upper box.width.toNat box.height.toNat blank) := by
  obtain ⟨⟨hw, hh⟩, hl, hu, hr, hb⟩ := inside
  simp only [CropBox.size] at hw hh
  have width : (box.width.toNat : Int) = box.width := Int.toNat_of_nonneg (by omega)
  have height : (box.height.toNat : Int) = box.height := Int.toNat_of_nonneg (by omega)
  have within : ∀ x y, (g.cut box.left box.upper box.width.toNat box.height.toNat blank).Has x y →
      g.Has (box.offsetX + x) (box.offsetY + y) := by
    rintro x y ⟨⟨hx, hx'⟩, hy, hy'⟩
    simp only [cut, width_ofFn, height_ofFn, width, height] at hx' hy'
    simp only [CropBox.left, CropBox.upper, CropBox.right, CropBox.lower, size] at hl hu hr hb
    exact ⟨⟨by omega, by omega⟩, by omega, by omega⟩
  refine ⟨?_, within, ?_⟩
  · rw [CropBox.size, ← width, ← height]
    rfl
  · intro x y has
    -- nothing cut from inside is blank
    obtain ⟨cell, hcell⟩ := Option.isSome_iff_exists.1 (within x y has).at?_isSome
    rw [at?_cut g blank has, CropBox.left, CropBox.upper, hcell]
    rfl

end

/-! ## Crops of stored images -/

theorem Stage.reach_cut (filter : ResampleFilter) (r : Raster) {box : CropBox} (hw : 0 ≤ box.width)
    (hh : 0 ≤ box.height) :
    (Stage.cut box).raster filter r =
      .ok { r with grid := r.grid.cut box.left box.upper box.width.toNat box.height.toNat {} } := by
  have across : ¬ box.right < box.left := by unfold CropBox.right CropBox.left; omega
  have down : ¬ box.lower < box.upper := by unfold CropBox.lower CropBox.upper; omega
  simp only [raster, Buffer.crop, if_neg across, if_neg down]
  rfl

section
variable {w : Workshop} {r : Raster} {b : BufferId} {code : Option Int} {stored shown : Grid Pixel}

/-- A crop is written as what is cut from the image that shows. -/
theorem Workshop.writes_crop (shows : ShowsAs code stored shown)
    (here : w.buffer b = { raster := { r with grid := stored } }) (format output : Format) {target : Dimensions} {box : CropBox} (hbox : cropBox shown.size target = .ok box) :
    w.writes ((Handle.opened b (stored.facts code format output)).crop target) =
      [({ r with grid := shown.cut box.left box.upper box.width.toNat box.height.toNat {} }, output)] := by
  obtain ⟨⟨hw, hh⟩, -⟩ := cropBox_inside hbox
  simp only [CropBox.size] at hw hh
  have plan :
      cropPlan (stored.facts code format output) target = .ok (cropStages (stored.facts code format output) box) := by
    rw [cropPlan, Grid.dimensions_facts, showsAs_iff.1 shows, hbox]
    rfl
  refine writes_carried (crop_carried rasterCodec w b _ target) plan here ?_
  rw [cropStages, List.foldlM_append, Stage.reach_turnStages]
  show (Stage.cut box).raster w.options.filter { r with grid := stored.transformed (Transform.forCode code) } >>=
    pure = _
  rw [showsAs_iff.1 shows, Stage.reach_cut _ _ (by omega) (by omega)]
  rfl

theorem Workshop.writes_crop_senseless (shows : ShowsAs code stored shown) (format output : Format)
    {target : Dimensions} {e : GeometryError} (hbox : cropBox shown.size target = .error e) :
    w.writes ((Handle.opened b (stored.facts code format output)).crop target) = [] := by
  refine writes_senseless (e := e) (crop_carried rasterCodec w b _ target) ?_
  rw [cropPlan, Grid.dimensions_facts, showsAs_iff.1 shows, hbox]
  rfl

end

/-- Any image can be stored under any code. However it is stored, a crop writes the same pixels as from the image stored
upright, and these are cut from the image at the rectangle for its size. -/
theorem crop_ignores_storage (code : Option Int) (shown : Grid Pixel) :
    (∃ stored, ShowsAs code stored shown) ∧
    ∀ stored, ShowsAs code stored shown → ∀ (r : Raster) (w w' : Workshop) (b b' : BufferId),
      w.buffer b = { raster := { r with grid := stored } } → w'.buffer b' = { raster := { r with grid := shown } } →
      ∀ (format output : Format) (target : Dimensions),
        let written := w.writes ((Handle.opened b (stored.facts code format output)).crop target)
        written = w'.writes ((Handle.opened b' (shown.facts (some 1) format output)).crop target) ∧
        match cropBox shown.size target with
        | .error _ => written = []
        | .ok box => ∃ cut, written = [({ r with grid := cut }, output)] ∧ CutFrom shown box cut := by
  refine ⟨exists_showsAs code shown, ?_⟩
  intro stored shows r w w' b b' here here' format output target
  have upright : ShowsAs (some 1) shown shown := showsAs_iff.2 rfl
  cases hbox : cropBox shown.size target with
  | error e =>
    dsimp only
    rw [Workshop.writes_crop_senseless shows format output hbox,
      Workshop.writes_crop_senseless upright format output hbox]
    exact ⟨rfl, rfl⟩
  | ok box =>
    dsimp only
    rw [Workshop.writes_crop shows here format output hbox, Workshop.writes_crop upright here' format output hbox]
    exact ⟨rfl, _, rfl, shown.cut_inside {} (cropBox_inside hbox)⟩

/-- An image stored on its side: what is cut out of the middle stood in the middle of the image, not of what is
stored. -/
theorem crop_of_an_image_on_its_side :
    let shown : Grid Pixel := ⟨4, 2, #[{ a := 10 }, { a := 11 }, { a := 12 }, { a := 13 },
      { a := 20 }, { a := 21 }, { a := 22 }, { a := 23 }], rfl⟩
    let stored : Grid Pixel := ⟨2, 4, #[{ a := 13 }, { a := 23 }, { a := 12 }, { a := 22 },
      { a := 11 }, { a := 21 }, { a := 10 }, { a := 20 }], rfl⟩
    let w : Workshop := { options := {}, buffers := #[{ raster := ⟨.gray, stored, #[], {}⟩ }] }
    ShowsAs (some 6) stored shown ∧ ∃ cut : Grid Pixel,
      w.writes ((Handle.opened 1 (stored.facts (some 6) .jpeg .jpeg)).crop ⟨2, 1⟩) = [(⟨.gray, cut, #[], {}⟩, .jpeg)] ∧
      cut.size = ⟨2, 1⟩ ∧ cut.at? 0 0 = some { a := 11 } ∧ cut.at? 1 0 = some { a := 12 } := by
  intro shown stored w
  have shows : ShowsAs (some 6) stored shown := showsAs_iff.2 (by decide +kernel)
  let w' : Workshop := { options := {}, buffers := #[{ raster := ⟨.gray, shown, #[], {}⟩ }] }
  have law := ((crop_ignores_storage (some 6) shown).2 stored shows ⟨.gray, stored, #[], {}⟩ w w' 1 1 rfl rfl .jpeg
    .jpeg ⟨2, 1⟩).2
  have hbox : cropBox shown.size ⟨2, 1⟩ = .ok ⟨2, 1, 1, 0⟩ := by decide +kernel
  rw [hbox] at law
  obtain ⟨cut, written, from_⟩ := law
  have wide : (cut.width : Int) = 2 := congrArg Dimensions.width from_.size_eq
  have high : (cut.height : Int) = 1 := congrArg Dimensions.height from_.size_eq
  refine ⟨shows, cut, written, from_.size_eq, ?_, ?_⟩
  · rw [from_.at?_eq 0 0 ⟨by omega, by omega⟩]
    rfl
  · rw [from_.at?_eq 1 0 ⟨by omega, by omega⟩]
    rfl

end Darkroom
