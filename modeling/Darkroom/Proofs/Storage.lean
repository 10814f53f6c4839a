import Darkroom.Proofs.Resampling
import Darkroom.Proofs.Transparency
/-!
# A picture in several modes

A picture in black and white can be stored as bits, as numbers of palette entries or as gray bytes (`Raster.Stores`). A
filter works on each byte of a pixel by itself (`Grid.plane_resampled`), so gray bytes and palette entries that have
become colours are resampled to the same gray levels. Bits are native and remain bits, of which single ones are taken:
they are resampled as nearest neighbour resamples the bytes, whatever the filter (`storage_resampled`).
-/

namespace Darkroom

/-! ## Bytes of pixels -/

inductive Pixel.Plane
  | a
  | b
  | c
  | d
deriving DecidableEq, Repr

def Pixel.byte (p : Pixel) : Pixel.Plane → UInt8
  | .a => p.a
  | .b => p.b
  | .c => p.c
  | .d => p.d

theorem byte_weightedPixel (taps : List (Nat × Int)) (pixel : Nat → Pixel) (i : Pixel.Plane) :
    (weightedPixel taps pixel).byte i = weightedByte taps fun p => (pixel p).byte i := by
  cases i <;> rfl

namespace Grid

/-- One byte of each pixel. -/
def plane (g : Grid Pixel) (i : Pixel.Plane) : Grid UInt8 := g.map (·.byte i)

theorem at?_plane (g : Grid Pixel) (i : Pixel.Plane) (x y : Int) : (g.plane i).at? x y = (g.at? x y).map (·.byte i) :=
  at?_map _ g x y

theorem plane_map (g : Grid Pixel) (φ : Pixel → Pixel) (i : Pixel.Plane) : (g.map φ).plane i = g.map fun p => (φ p).byte i := by
  refine ext_at? rfl rfl fun x y _ => ?_
  rw [at?_plane, at?_map, at?_map, Option.map_map]
  rfl

section
variable {g g' : Grid Pixel} {i i' : Pixel.Plane} (same : g.plane i = g'.plane i')
include same

theorem size_eq_of_plane : g.width = g'.width ∧ g.height = g'.height := by
  have wide := congrArg Grid.width same
  have high := congrArg Grid.height same
  exact ⟨wide, high⟩

theorem map_byte_at? (x y : Int) : (g.at? x y).map (·.byte i) = (g'.at? x y).map (·.byte i') := by
  rw [← at?_plane, same, at?_plane]

/-- Outside both grids all bytes are zero. -/
theorem byte_at? (x y : Int) : ((g.at? x y).getD {}).byte i = ((g'.at? x y).getD {}).byte i' := by
  have zero : ∀ i, ({} : Pixel).byte i = 0 := fun i => by cases i <;> rfl
  have here := map_byte_at? same x y
  cases there : g.at? x y <;> cases there' : g'.at? x y <;> simp_all

theorem plane_filterRowsFrom (far : Bool) (f : ResampleFilter) (size : Nat) :
    (g.filterRowsFrom far f size).plane i = (g'.filterRowsFrom far f size).plane i' := by
  obtain ⟨wide, high⟩ := size_eq_of_plane same
  by_cases h : size = g.width
  · rw [filterRowsFrom_of_eq g far h, filterRowsFrom_of_eq g' far (h.trans wide), same]
  · have wide' : ((g.filterRowsFrom far f size).plane i).width = size := g.width_filterRowsFrom far
    have high' : ((g.filterRowsFrom far f size).plane i).height = g.height := g.height_filterRowsFrom far
    refine ext_at? (wide'.trans (g'.width_filterRowsFrom far).symm)
      (high'.trans (high.trans (g'.height_filterRowsFrom far).symm)) fun x y has => ?_
    obtain ⟨p, q, hp, hq, rfl, rfl⟩ := has.exists_nat
    rw [wide'] at hp
    rw [high'] at hq
    rw [at?_plane, at?_plane, at?_filterRowsFrom g far h hp hq, at?_filterRowsFrom g' far (wide ▸ h) hp (high ▸ hq)]
    simp only [Option.map_some, byte_weightedPixel, wide, pixelAt, byte_at? same]

theorem plane_swapped : g.swapped.plane i = g'.swapped.plane i' := by
  obtain ⟨wide, high⟩ := size_eq_of_plane same
  refine ext_at? high wide fun x y _ => ?_
  rw [at?_plane, at?_plane, at?_swapped, at?_swapped, map_byte_at? same]

theorem plane_filterColumnsFrom (far : Bool) (f : ResampleFilter) (size : Nat) :
    (g.filterColumnsFrom far f size).plane i = (g'.filterColumnsFrom far f size).plane i' :=
  plane_swapped (plane_filterRowsFrom (plane_swapped same) far f size)

theorem plane_takeNearest (width height : Nat) :
    (g.takeNearest width height).plane i = (g'.takeNearest width height).plane i' := by
  obtain ⟨wide, high⟩ := size_eq_of_plane same
  refine ext_at? rfl rfl fun x y has => ?_
  obtain ⟨⟨p, hp⟩, ⟨q, hq⟩, rfl, rfl⟩ := has.exists_fin
  have taken : ∀ g : Grid Pixel, (g.takeNearest width height).at? p q =
      some ((g.at? ((nearestPlaces g.width width).getD p 0) ((nearestPlaces g.height height).getD q 0)).getD {}) :=
    fun g => at?_ofFn _ ⟨p, hp⟩ ⟨q, hq⟩
  rw [at?_plane, at?_plane, taken, taken, Option.map_some, Option.map_some, byte_at? same, wide, high]

/-- What becomes of a byte of the pixels hangs on that byte alone. -/
theorem plane_resampled (f : ResampleFilter) (width height : Nat) :
    (g.resampled f width height).plane i = (g'.resampled f width height).plane i' := by
  by_cases hf : f = .nearest
  · subst hf
    exact plane_takeNearest same width height
  · rw [resampled_eq g hf, resampled_eq g' hf]
    exact plane_filterColumnsFrom (plane_filterRowsFrom same false f width) false f height

end

theorem size_resampled (g : Grid Pixel) (f : ResampleFilter) (width height : Nat) :
    (g.resampled f width height).size = ⟨width, height⟩ := by
  by_cases hf : f = .nearest
  · subst hf
    rfl
  · simp [resampled_eq g hf, size, filtered]

theorem resampledIn_of_noAlpha (g : Grid Pixel) {mode : Mode} (noAlpha : mode.hasAlpha = false) (f : ResampleFilter)
    (width height : Nat) : g.resampledIn mode f width height = g.resampled (mode.filter f) width height := by
  unfold resampledIn
  cases mode.filter f <;> simp [throughOpacity, noAlpha, resampled]

end Grid

/-! ## Gray levels -/

/-- The gray of a colour whose three bytes are the same. -/
def Pixel.gray? (p : Pixel) : Option UInt8 := if p.b = p.a ∧ p.c = p.a then some p.a else none

theorem Pixel.gray?_eq_some_iff {p : Pixel} {level : UInt8} :
    p.gray? = some level ↔ p.a = level ∧ p.b = level ∧ p.c = level := by
  simp only [gray?, Option.ite_none_right_eq_some, Option.some.injEq]
  constructor
  · rintro ⟨⟨b, c⟩, rfl⟩
    exact ⟨rfl, b, c⟩
  · rintro ⟨rfl, b, c⟩
    exact ⟨⟨b, c⟩, rfl⟩

namespace Raster

/-- The gray level that a pixel of a raster without opacities shows, unless it is coloured. -/
def grayLevel? (r : Raster) (p : Pixel) : Option UInt8 :=
  match r.mode with
  | .bilevel | .gray => some p.a
  | .palette => (r.paletteColor p.a).gray?
  | .rgb => p.gray?
  | _ => none

def grayLevels (r : Raster) : Grid (Option UInt8) := r.grid.map r.grayLevel?

/-- Gray bytes. -/
def ofLevels (levels : Grid UInt8) : Raster := { mode := .gray, grid := levels.map fun level => { a := level } }

/-- A raster of bits, gray bytes or colours that shows gray levels. -/
structure Shades (n : Raster) (levels : Grid UInt8) : Prop where
  mode_eq : n.mode = .bilevel ∨ n.mode = .gray ∨ n.mode = .rgb
  plane_a : n.grid.plane .a = levels
  plane_bc : n.mode = .rgb → n.grid.plane .b = levels ∧ n.grid.plane .c = levels

section
variable {n : Raster} {levels : Grid UInt8}

theorem plane_ofLevels (levels : Grid UInt8) : (ofLevels levels).grid.plane .a = levels := by
  refine Grid.ext_at? rfl rfl fun x y _ => ?_
  rw [Grid.at?_plane, ofLevels, Grid.at?_map]
  cases levels.at? x y <;> rfl

theorem Shades.size_eq (shades : n.Shades levels) : n.width = levels.width ∧ n.height = levels.height := by
  rw [← plane_ofLevels levels] at shades
  exact Grid.size_eq_of_plane shades.plane_a

theorem Shades.grayLevels_eq (shades : n.Shades levels) : n.grayLevels = levels.map some := by
  obtain ⟨wide, high⟩ := shades.size_eq
  refine Grid.ext_at? wide high fun x y has => ?_
  obtain ⟨p, here⟩ := Option.isSome_iff_exists.1 (Grid.Has.at?_isSome (g := n.grid) has)
  have byte : ∀ {i}, n.grid.plane i = levels → levels.at? x y = some (p.byte i) := by
    rintro i rfl
    rw [Grid.at?_plane, here, Option.map_some]
  have level := byte shades.plane_a
  rw [grayLevels, Grid.at?_map, Grid.at?_map, here, level, Option.map_some, Option.map_some, Option.some.injEq]
  rcases shades.mode_eq with bilevel | gray | rgb
  · rw [grayLevel?, bilevel]
    rfl
  · rw [grayLevel?, gray]
    rfl
  · obtain ⟨b, c⟩ := shades.plane_bc rgb
    have second : p.b = p.a := Option.some.inj ((byte b).symm.trans level)
    have third : p.c = p.a := Option.some.inj ((byte c).symm.trans level)
    rw [grayLevel?, rgb]
    exact Pixel.gray?_eq_some_iff.2 ⟨rfl, second, third⟩

theorem Shades.hasAlpha_eq (shades : n.Shades levels) : n.mode.hasAlpha = false := by
  rcases shades.mode_eq with h | h | h <;> rw [h] <;> rfl

theorem Shades.resampled (shades : n.Shades levels) (f : ResampleFilter) (width height : Nat) :
    Shades { n with grid := n.grid.resampled f width height } (((ofLevels levels).grid.resampled f width height).plane .a) where
  mode_eq := shades.mode_eq
  plane_a := Grid.plane_resampled (shades.plane_a.trans (plane_ofLevels levels).symm) f width height
  plane_bc := fun rgb => by
    obtain ⟨b, c⟩ := shades.plane_bc rgb
    exact ⟨Grid.plane_resampled (b.trans (plane_ofLevels levels).symm) f width height,
      Grid.plane_resampled (c.trans (plane_ofLevels levels).symm) f width height⟩

end

/-- Resizing where there are no opacities, whatever size is asked for. -/
theorem resize_of_noAlpha {n : Raster} (noAlpha : n.mode.hasAlpha = false) (f : ResampleFilter) (width height : Int) :
    Buffer.resize { raster := n } f width height =
      if width = n.width ∧ height = n.height then .ok n
      else if width < 1 ∨ height < 1 then .error (.value "height and width must be > 0")
      else .ok { n with grid := n.grid.resampled (n.mode.filter f) width.toNat height.toNat } := by
  have live : Buffer.live { raster := n } = .ok n := rfl
  simp only [Buffer.resize, live, bind, Except.bind, Grid.resampledIn_of_noAlpha _ noAlpha]
  split
  · rfl
  · split <;> rfl

/-- Only bits are sampled whatever the filter. -/
theorem Shades.filter_eq {n : Raster} {levels : Grid UInt8} (shades : n.Shades levels) (f : ResampleFilter) :
    n.mode.filter f = if n.mode = .bilevel then .nearest else f := by
  rcases shades.mode_eq with h | h | h <;> rw [h] <;> rfl

/-- Rasters that show the same gray levels do so as well when they are resized, if their modes make the same of the
filters or there is nothing to resize. -/
theorem Shades.resize_congr {n n' : Raster} {levels : Grid UInt8} (shades : n.Shades levels) (shades' : n'.Shades levels)
    {f f' : ResampleFilter} {width height : Int}
    (filter : n.mode.filter f = n'.mode.filter f' ∨ width = levels.width ∧ height = levels.height) :
    (Buffer.resize { raster := n } f width height).map grayLevels =
      (Buffer.resize { raster := n' } f' width height).map grayLevels := by
  obtain ⟨wide, high⟩ := shades.size_eq
  obtain ⟨wide', high'⟩ := shades'.size_eq
  rw [resize_of_noAlpha shades.hasAlpha_eq, resize_of_noAlpha shades'.hasAlpha_eq, wide, high, wide', high']
  by_cases same : width = levels.width ∧ height = levels.height
  · rw [if_pos same, if_pos same, Except.map, Except.map, shades.grayLevels_eq, shades'.grayLevels_eq]
  · rw [if_neg same, if_neg same]
    split
    · rfl
    · rw [filter.resolve_right same, Except.map, Except.map, (shades.resampled _ _ _).grayLevels_eq,
        (shades'.resampled _ _ _).grayLevels_eq]

theorem Shades.resize_ok {n : Raster} {levels : Grid UInt8} (shades : n.Shades levels) (f : ResampleFilter)
    {width height : Int} (positive : 0 < width ∧ 0 < height) :
    ∃ m levels', Buffer.resize { raster := n } f width height = .ok m ∧ m.Shades levels' ∧
      levels'.size = ⟨width, height⟩ := by
  obtain ⟨wide, high⟩ := shades.size_eq
  rw [resize_of_noAlpha shades.hasAlpha_eq]
  split
  · next same =>
    refine ⟨n, levels, rfl, shades, ?_⟩
    rw [Grid.size, ← wide, ← high, same.1, same.2]
  · rw [if_neg (by omega)]
    refine ⟨_, _, rfl, shades.resampled _ _ _, ?_⟩
    refine (Grid.size_resampled _ _ _ _).trans ?_
    rw [Int.toNat_of_nonneg positive.1.le, Int.toNat_of_nonneg positive.2.le]

/-! ## Stored pictures -/

/-- White and black as bytes. -/
def tone (white : Bool) : UInt8 := if white then 255 else 0

/-- A picture in black and white stored as bits, as gray bytes, or by a palette through which nothing shows. -/
structure Stores (r : Raster) (picture : Grid Bool) : Prop where
  mode_eq : r.mode = .bilevel ∨ r.mode = .palette ∨ r.mode = .gray
  hidesNothing : r.mode = .palette → r.info.transparency = none
  levels : r.grayLevels = picture.map fun white => some (tone white)

section
variable {r : Raster} {picture : Grid Bool}

/-- A byte that tells the gray level of every pixel is that of the picture. -/
theorem Stores.map_eq (stored : r.Stores picture) {byte : Pixel → UInt8}
    (tells : ∀ p level, r.grayLevel? p = some level → byte p = level) : r.grid.map byte = picture.map tone := by
  have wide := congrArg Grid.width stored.levels
  have high := congrArg Grid.height stored.levels
  refine Grid.ext_at? wide high fun x y has => ?_
  obtain ⟨p, here⟩ := Option.isSome_iff_exists.1 (Grid.Has.at?_isSome (g := r.grid) has)
  have level := congrArg (·.at? x y) stored.levels
  simp only [grayLevels, Grid.at?_map, here, Option.map_some] at level
  obtain ⟨white, there, level⟩ := Option.map_eq_some_iff.1 level.symm
  rw [Grid.at?_map, Grid.at?_map, here, there, Option.map_some, Option.map_some, tells p _ level.symm]

/-- Made native, a stored picture shows its black and white, and only bits are bits. -/
theorem Stores.native (stored : r.Stores picture) :
    ∃ n, r.toNative = .ok n ∧ n.Shades (picture.map tone) ∧ (n.mode = .bilevel ↔ r.mode = .bilevel) := by
  rcases stored.mode_eq with bilevel | palette | gray
  · refine ⟨r, toNative_of_native (by simp [bilevel, Mode.native]), ⟨by simp [bilevel], ?_, by simp [bilevel]⟩, Iff.rfl⟩
    refine stored.map_eq fun p level h => ?_
    rw [grayLevel?, bilevel] at h
    exact Option.some.inj h
  · have color : ∀ p level, r.grayLevel? p = some level → (r.paletteColor p.a).gray? = some level := by
      intro p level h
      rwa [grayLevel?, palette] at h
    have plane : ∀ i, (∀ p level, r.grayLevel? p = some level → Pixel.byte { r.paletteColor p.a with d := 0 } i = level) →
        r.paletteToRgb.grid.plane i = picture.map tone :=
      fun i tells => (Grid.plane_map _ _ i).trans (stored.map_eq tells)
    refine ⟨r.paletteToRgb, by simp only [toNative, palette, stored.hidesNothing palette], ⟨?_, ?_, fun _ => ⟨?_, ?_⟩⟩, ?_⟩
    · simp [paletteToRgb, mapPixels]
    · exact plane .a fun p level h => (Pixel.gray?_eq_some_iff.1 (color p level h)).1
    · exact plane .b fun p level h => (Pixel.gray?_eq_some_iff.1 (color p level h)).2.1
    · exact plane .c fun p level h => (Pixel.gray?_eq_some_iff.1 (color p level h)).2.2
    · simp [paletteToRgb, mapPixels, palette]
  · refine ⟨r, toNative_of_native (by simp [gray, Mode.native]), ⟨by simp [gray], ?_, by simp [gray]⟩, Iff.rfl⟩
    refine stored.map_eq fun p level h => ?_
    rw [grayLevel?, gray] at h
    exact Option.some.inj h

end

/-- A decoded raster made native and resized. -/
def nativelyResized (r : Raster) (f : ResampleFilter) (width height : Int) : Except Failure Raster := do
  Buffer.resize { raster := ← r.toNative } f width height

theorem nativelyResized_eq {r n : Raster} (made : r.toNative = .ok n) (f : ResampleFilter) (width height : Int) :
    r.nativelyResized f width height = Buffer.resize { raster := n } f width height := by
  rw [nativelyResized, made]
  rfl

/-- However a picture in black and white is stored, every size can be made of it, all in gray levels. They are the same
for gray bytes and for a palette. For bits they are those that nearest neighbour makes of the others, whatever the filter,
so they are the same if that is the filter or if nothing is resized. -/
theorem storage_resampled (picture : Grid Bool) {r s : Raster} (stored : r.Stores picture) (stored' : s.Stores picture)
    (f : ResampleFilter) (width height : Int) :
    ((r.mode = .bilevel ↔ s.mode = .bilevel) ∨ f = .nearest ∨ (width = picture.width ∧ height = picture.height) →
      (r.nativelyResized f width height).map grayLevels = (s.nativelyResized f width height).map grayLevels) ∧
    (r.mode = .bilevel →
      (r.nativelyResized f width height).map grayLevels = (s.nativelyResized .nearest width height).map grayLevels) ∧
    (0 < width ∧ 0 < height → ∃ n, r.nativelyResized f width height = .ok n ∧ n.grayLevels.size = ⟨width, height⟩ ∧
      ∀ level ∈ n.grayLevels.cells, level.isSome) := by
  obtain ⟨n, made, shades, bits⟩ := stored.native
  obtain ⟨n', made', shades', bits'⟩ := stored'.native
  refine ⟨fun alike => ?_, fun bilevel => ?_, fun positive => ?_⟩
  · rw [nativelyResized_eq made, nativelyResized_eq made']
    refine shades.resize_congr shades' ?_
    rcases alike with alike | nearest | same
    · exact .inl (by simp only [shades.filter_eq, shades'.filter_eq, bits, bits', alike])
    · exact .inl (by rw [shades.filter_eq, shades'.filter_eq, nearest, ite_self, ite_self])
    · exact .inr same
  · rw [nativelyResized_eq made, nativelyResized_eq made']
    refine shades.resize_congr shades' (.inl ?_)
    rw [shades.filter_eq, shades'.filter_eq, if_pos (bits.2 bilevel), ite_self]
  · obtain ⟨m, levels, sized, shows, size⟩ := shades.resize_ok f positive
    refine ⟨m, (nativelyResized_eq made ..).trans sized, ?_, ?_⟩
    · rw [shows.grayLevels_eq]
      exact size
    · rw [shows.grayLevels_eq]
      intro level shown
      obtain ⟨_, -, rfl⟩ := Array.mem_map.1 shown
      rfl

/-- A white and a black pixel, as entries of a palette and as bits, of which one pixel is made. -/
theorem storage_resampled_of_two_pixels :
    let picture : Grid Bool := ⟨2, 1, #[true, false], rfl⟩
    let paletted : Raster := ⟨.palette, ⟨2, 1, #[{ a := 1 }, { a := 0 }], rfl⟩, #[(0, 0, 0), (255, 255, 255)], {}⟩
    let bits : Raster := ⟨.bilevel, ⟨2, 1, #[{ a := 255 }, { a := 0 }], rfl⟩, #[], {}⟩
    paletted.Stores picture ∧ bits.Stores picture ∧
      (bits.nativelyResized .bilinear 1 1).map grayLevels = (paletted.nativelyResized .nearest 1 1).map grayLevels ∧
      ∃ n, bits.nativelyResized .bilinear 1 1 = .ok n ∧ n.grayLevels.size = ⟨1, 1⟩ := by
  intro picture paletted bits
  have entries : paletted.Stores picture := ⟨by decide, fun _ => rfl, by decide +kernel⟩
  have stored : bits.Stores picture := ⟨by decide, nofun, by decide +kernel⟩
  obtain ⟨-, sampled, made⟩ := storage_resampled picture stored entries .bilinear 1 1
  obtain ⟨n, resized, size, -⟩ := made (by decide)
  exact ⟨entries, stored, sampled rfl, n, resized, size⟩

/-- A white and a black pixel become a gray one where they are stored as bytes, and a black one where they are stored as
bits. -/
theorem bits_not_filtered :
    let picture : Grid Bool := ⟨2, 1, #[true, false], rfl⟩
    let bytes : Raster := ⟨.gray, ⟨2, 1, #[{ a := 255 }, { a := 0 }], rfl⟩, #[], {}⟩
    let bits : Raster := ⟨.bilevel, ⟨2, 1, #[{ a := 255 }, { a := 0 }], rfl⟩, #[], {}⟩
    bytes.Stores picture ∧ bits.Stores picture ∧
      ((bytes.nativelyResized .bilinear 1 1).map grayLevels).toOption.map (·.cells) = some #[some 128] ∧
      ((bits.nativelyResized .bilinear 1 1).map grayLevels).toOption.map (·.cells) = some #[some 0] := by
  refine ⟨⟨by decide, nofun, by decide +kernel⟩, ⟨by decide, nofun, by decide +kernel⟩, ?_, ?_⟩ <;> decide +kernel

end Raster

end Darkroom
