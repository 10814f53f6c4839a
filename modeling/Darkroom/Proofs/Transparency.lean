import Darkroom.Proofs.Grid
import Darkroom.Proofs.Work
import Darkroom.Raster.Codec
/-!
# Transparent pixels

A pixel may be told not to show by its own opacity, by the palette entry it refers to, or by its colour being the one
that the container names (`Raster.Invisible`). Bringing an image to a native mode keeps all three apart from wide gray
values: these are divided by 256 while the value that the container names stays as it is, so that a pixel which did not
show does so afterwards, unless it is black.
-/

namespace Darkroom

/-! ## What does not show -/

namespace Transparency

/-- Whether a palette entry is fully transparent. -/
def HidesEntry (t : Transparency) (index : Nat) : Prop :=
  match t with
  | .single n => n = index
  | .entries alphas => alphas[index]? = some 0
  | .color _ _ _ | .text _ => False

/-- Whether a palette of 256 entries can carry what is said of it. -/
def FitsPalette : Transparency → Prop
  | .single n => 0 ≤ n ∧ n < 256
  | .entries alphas => alphas.length ≤ 256
  | .color _ _ _ | .text _ => False

end Transparency

namespace Raster

/-- Whether a pixel is fully transparent in a raster: by its opacity, by its palette entry, or by its colour. -/
def Invisible (r : Raster) (p : Pixel) : Prop :=
  match r.mode with
  | .grayAlpha | .paletteAlpha => p.b = 0
  | .rgba => p.d = 0
  | .palette => ∃ t ∈ r.info.transparency, t.HidesEntry p.a.toNat
  | .bilevel | .gray => r.info.transparency = some (.single p.a.toNat)
  | .gray16 => r.info.transparency = some (.single p.gray16Value)
  | .rgb => r.info.transparency = some (.color p.a.toNat p.b.toNat p.c.toNat)
  | _ => False

end Raster

/-! ## Modes -/

/-- The modes of images that no compression has changed: those of PNG and GIF files, and palettes with an opacity for
each pixel. -/
def Mode.lossless : List Mode := [.bilevel, .gray, .gray16, .palette, .paletteAlpha, .grayAlpha, .rgb, .rgba]

/-- The modes in which images are resampled and written as they are. -/
def Mode.native : List Mode := [.bilevel, .gray, .grayAlpha, .rgb, .rgba, .cmyk]

namespace Raster

/-! ## Values brought along -/

theorem gray16Value_div (p : Pixel) : p.gray16Value / 256 = p.b.toNat := by
  have value : p.gray16Value = p.a.toNat + 256 * p.b.toNat := rfl
  have low := p.a.toNat_lt
  omega

theorem grayOfWide_gray16Value (p : Pixel) : grayOfWide p.gray16Value = p.b := by
  have byte : (p.gray16Value : Int).tdiv 256 = p.b.toNat := by
    rw [Int.tdiv_eq_ediv_of_nonneg (Int.natCast_nonneg _), ← gray16Value_div]
    rfl
  have high := p.b.toNat_lt
  rw [grayOfWide, byte, clampByte, if_neg (by omega), if_neg (by omega)]
  simp

theorem entryAlpha_eq_zero_iff {t : Transparency} {index : UInt8} :
    entryAlpha t index = 0 ↔ t.HidesEntry index.toNat := by
  unfold entryAlpha Transparency.HidesEntry
  cases t with
  | single n => simp
  | entries alphas =>
    show alphas.getD index.toNat 255 = 0 ↔ alphas[index.toNat]? = some 0
    rw [List.getD_eq_getElem?_getD]
    cases alphas[index.toNat]? <;> simp
  | color _ _ _ | text _ => simp

theorem paletteAlphaFailure?_eq_none_iff {t : Transparency} : paletteAlphaFailure? t = none ↔ t.FitsPalette := by
  cases t <;> simp [paletteAlphaFailure?, Transparency.FitsPalette]

/-! ## Made native -/

/-- What is made of a raster in a lossless mode where it is made native. -/
inductive Nativized (r : Raster) : Raster → Prop
  | kept (native : r.mode ∈ Mode.native) : Nativized r r
  | opaquePalette (paletted : r.mode = .palette) (shown : r.info.transparency = none) : Nativized r r.paletteToRgb
  | palette {t : Transparency} (paletted : r.mode = .palette) (hides : r.info.transparency = some t)
      (fits : t.FitsPalette) : Nativized r (r.paletteToRgba t)
  | paletteAlpha (paletted : r.mode = .paletteAlpha) :
      Nativized r (r.mapPixels .rgba fun p => { r.paletteColor p.a with d := p.b })
  /-- Only the high byte is left. -/
  | gray16 (wide : r.mode = .gray16) : Nativized r (r.mapPixels .gray fun p => { a := p.b })

variable {r n : Raster} {x y : Int} {p : Pixel}

theorem toNative_of_native (native : r.mode ∈ Mode.native) : r.toNative = .ok r := by
  unfold toNative
  cases mode : r.mode <;> first | rfl | simp [mode, Mode.native] at native

theorem toNative_eq_ok_iff (lossless : r.mode ∈ Mode.lossless) : r.toNative = .ok n ↔ Nativized r n := by
  constructor
  · intro made
    cases mode : r.mode with
    | palette =>
      cases hides : r.info.transparency with
      | none =>
        simp only [toNative, mode, hides, Except.ok.injEq] at made
        exact made ▸ .opaquePalette mode hides
      | some t =>
        simp only [toNative, mode, hides] at made
        cases failure : paletteAlphaFailure? t with
        | none =>
          simp only [failure, Except.ok.injEq] at made
          exact made ▸ .palette mode hides (paletteAlphaFailure?_eq_none_iff.1 failure)
        | some f => simp only [failure, reduceCtorEq] at made
    | paletteAlpha =>
      simp only [toNative, mode, Except.ok.injEq] at made
      exact made ▸ .paletteAlpha mode
    | gray16 =>
      simp only [toNative, mode, grayOfWide_gray16Value, Except.ok.injEq] at made
      exact made ▸ .gray16 mode
    | bilevel | gray | grayAlpha | rgb | rgba =>
      have native : r.mode ∈ Mode.native := by simp [mode, Mode.native]
      rw [toNative_of_native native, Except.ok.injEq] at made
      exact made ▸ .kept native
    | _ => simp [mode, Mode.lossless] at lossless
  · intro made
    cases made with
    | kept native => exact toNative_of_native native
    | opaquePalette paletted shown => simp only [toNative, paletted, shown]
    | palette paletted hides fits => simp only [toNative, paletted, hides, paletteAlphaFailure?_eq_none_iff.2 fits]
    | paletteAlpha paletted => simp only [toNative, paletted]
    | gray16 wide => simp only [toNative, wide, grayOfWide_gray16Value]

/-- Only a palette that cannot carry its transparency is not made native. -/
theorem exists_toNative_iff (lossless : r.mode ∈ Mode.lossless) :
    (∃ n, r.toNative = .ok n) ↔ (r.mode = .palette → ∀ t ∈ r.info.transparency, t.FitsPalette) := by
  simp only [toNative_eq_ok_iff lossless]
  constructor
  · rintro ⟨n, made⟩ paletted t ht
    cases made with
    | kept native => simp [paletted, Mode.native] at native
    | opaquePalette _ shown => cases shown.symm.trans ht
    | palette _ hides fits => cases hides.symm.trans ht; exact fits
    | paletteAlpha other | gray16 other => cases paletted.symm.trans other
  · intro fits
    cases mode : r.mode with
    | palette =>
      cases hides : r.info.transparency with
      | none => exact ⟨_, .opaquePalette mode hides⟩
      | some t => exact ⟨_, .palette mode hides (fits mode t hides)⟩
    | paletteAlpha => exact ⟨_, .paletteAlpha mode⟩
    | gray16 => exact ⟨_, .gray16 mode⟩
    | bilevel | gray | grayAlpha | rgb | rgba => exact ⟨r, .kept (by simp [mode, Mode.native])⟩
    | _ => simp [mode, Mode.lossless] at lossless

theorem Nativized.size_eq (made : Nativized r n) : n.grid.size = r.grid.size := by cases made <;> rfl

theorem Nativized.mode_mem (made : Nativized r n) : n.mode ∈ Mode.native := by
  cases made with
  | kept native => exact native
  | _ => simp [paletteToRgb, paletteToRgba, mapPixels, Mode.native]

/-- Each place is made of what was there. -/
theorem at?_mapPixels (here : r.grid.at? x y = some p) (mode : Mode) (f : Pixel → Pixel) :
    (r.mapPixels mode f).grid.at? x y = some (f p) := by
  simp only [mapPixels, Grid.at?_map, here, Option.map_some]

/-- Every way a pixel can be fully transparent outlasts the conversion. A wide gray value is an exception: its high byte
is compared with all of the value that stood for transparency. -/
theorem Nativized.invisible_iff (made : Nativized r n) (here : r.grid.at? x y = some p) :
    ∃ q, n.grid.at? x y = some q ∧ (n.Invisible q ↔ if r.mode = .gray16 then
      r.info.transparency = some (.single (p.gray16Value / 256 : Nat)) else r.Invisible p) := by
  cases made with
  | kept native =>
    have narrow : r.mode ≠ .gray16 := by rintro wide; simp [wide, Mode.native] at native
    exact ⟨p, here, by rw [if_neg narrow]⟩
  | opaquePalette paletted shown =>
    exact ⟨_, at?_mapPixels here _ _, by simp [Invisible, paletteToRgb, mapPixels, paletted, shown]⟩
  | @palette t paletted hides fits =>
    refine ⟨{ r.paletteColor p.a with d := entryAlpha t p.a }, at?_mapPixels here .rgba _, ?_⟩
    simp [Invisible, paletteToRgba, mapPixels, paletted, hides, entryAlpha_eq_zero_iff]
  | paletteAlpha paletted => exact ⟨_, at?_mapPixels here _ _, by simp [Invisible, mapPixels, paletted]⟩
  | gray16 wide =>
    refine ⟨_, at?_mapPixels here _ _, ?_⟩
    simp [Invisible, mapPixels, wide, gray16Value_div]

/-- A wide gray value that stood for transparency does so as its high byte only if it is black. -/
theorem invisible_wide_iff (wide : r.mode = .gray16) (hidden : r.Invisible p) :
    r.info.transparency = some (.single (p.gray16Value / 256 : Nat)) ↔ p.gray16Value = 0 := by
  have key : r.info.transparency = some (.single p.gray16Value) := by
    simpa only [Invisible, wide] using hidden
  rw [key, Option.some.injEq, Transparency.single.injEq]
  omega

/-- Images in a lossless mode are made native unless a palette cannot carry its transparency, and every pixel stays where
it is. One that is fully transparent stays so and no other becomes so, but for wide gray values: there the high byte is
compared with all of the value that stood for transparency, so that of the pixels which had it black ones alone stay
transparent. -/
theorem transparency_outlasts_toNative (r : Raster) (lossless : r.mode ∈ Mode.lossless) :
    ((∃ n, r.toNative = .ok n) ↔ (r.mode = .palette → ∀ t ∈ r.info.transparency, t.FitsPalette)) ∧
    ∀ n, r.toNative = .ok n → n.mode ∈ Mode.native ∧ n.grid.size = r.grid.size ∧
      ∀ x y p, r.grid.at? x y = some p → ∃ q, n.grid.at? x y = some q ∧
        (r.mode ≠ .gray16 → (n.Invisible q ↔ r.Invisible p)) ∧
        (r.mode = .gray16 →
          (n.Invisible q ↔ r.info.transparency = some (.single (p.gray16Value / 256 : Nat))) ∧
          (r.Invisible p → (n.Invisible q ↔ p.gray16Value = 0))) := by
  refine ⟨exists_toNative_iff lossless, fun n made => ?_⟩
  have made := (toNative_eq_ok_iff lossless).1 made
  refine ⟨made.mode_mem, made.size_eq, fun x y p here => ?_⟩
  obtain ⟨q, there, invisible⟩ := made.invisible_iff here
  refine ⟨q, there, fun narrow => by rwa [if_neg narrow] at invisible, fun wide => ?_⟩
  rw [if_pos wide] at invisible
  exact ⟨invisible, fun hidden => invisible.trans (invisible_wide_iff wide hidden)⟩

/-- A palette whose second entry is fully transparent. -/
theorem transparency_outlasts_toNative_of_an_entry :
    let r : Raster := { mode := .palette, grid := .fill 1 1 { a := 1 }, palette := #[(1, 2, 3), (4, 5, 6)],
                        info := { transparency := some (.entries [255, 0]) } }
    r.mode ∈ Mode.lossless ∧ r.Invisible { a := 1 } ∧
      ∃ n, r.toNative = .ok n ∧ ∃ q, n.grid.at? 0 0 = some q ∧ n.Invisible q := by
  intro r
  have lossless : r.mode ∈ Mode.lossless := by decide
  have hidden : r.Invisible { a := 1 } := ⟨_, rfl, rfl⟩
  obtain ⟨made_iff, outlasts⟩ := r.transparency_outlasts_toNative lossless
  have fits : ∀ t ∈ r.info.transparency, t.FitsPalette := by
    rintro _ ⟨⟩
    exact (by decide : 2 ≤ 256)
  obtain ⟨n, made⟩ := made_iff.2 fun _ => fits
  obtain ⟨-, -, places⟩ := outlasts n made
  obtain ⟨q, there, same, -⟩ := places 0 0 { a := 1 } rfl
  exact ⟨lossless, hidden, n, made, q, there, (same (by decide)).2 hidden⟩

/-- A pixel of the gray 0x1234 where that very gray is transparent: it is opaque once it is native. -/
theorem wide_gray_shows_once_native :
    let r : Raster := { mode := .gray16, grid := .fill 1 1 { a := 0x34, b := 0x12 },
                        info := { transparency := some (.single 0x1234) } }
    r.mode ∈ Mode.lossless ∧ ∃ p, r.grid.at? 0 0 = some p ∧ r.Invisible p ∧
      ∃ n q, r.toNative = .ok n ∧ n.grid.at? 0 0 = some q ∧ ¬ n.Invisible q := by
  intro r
  refine ⟨by decide, { a := 0x34, b := 0x12 }, rfl, rfl, _, { a := 0x12 }, rfl, by decide +kernel, ?_⟩
  show ¬ some (Transparency.single 0x1234) = some (.single 0x12)
  decide

end Raster

end Darkroom
