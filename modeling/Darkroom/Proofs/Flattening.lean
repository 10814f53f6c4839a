import Darkroom.Proofs.Crop
import Darkroom.Proofs.Transparency
/-!
# Written without transparency

The output format is chosen once, from the whole source, and what is written as JPEG is laid on white much later, when
it has been turned and cut. JPEG is chosen only for sources of which every pixel is opaque
(`OutputPolicy.opaque_of_choose_jpeg`). Turning and cutting pick pixels and make none (`Reworked.pickedFrom`), so what
they lead to is opaque as well. Of opaque pixels white leaves the colours as they are and takes nothing but the opacity
(`Opaque.flattens`).
-/

namespace Darkroom

/-! ## Opaque pixels -/

namespace Pixel

/-- How opaque a pixel is in a mode. -/
def alpha (mode : Mode) (p : Pixel) : UInt8 :=
  match mode with
  | .grayAlpha => p.b
  | .rgba => p.d
  | _ => 255

/-- The colour of a pixel in a native mode without its opacity; gray has equal parts of red, green and blue. -/
def color (mode : Mode) (p : Pixel) : Pixel :=
  match mode with
  | .bilevel | .gray | .grayAlpha => ⟨p.a, p.a, p.a, 0⟩
  | .rgb | .rgba => ⟨p.a, p.b, p.c, 0⟩
  | _ => p

end Pixel

namespace Raster

/-- Nothing shows through: no pixel is less than fully opaque, and where pixels have no opacity the container names
nothing that is transparent. -/
structure Opaque (r : Raster) : Prop where
  alpha_eq : ∀ x y p, r.grid.at? x y = some p → p.alpha r.mode = 255
  unnamed : r.mode.hasAlpha = false → r.info.transparency = none

variable {r r' : Raster}

theorem any_lt_255_eq_false_iff {opacity : Pixel → UInt8} : (r.grid.cells.any fun p => opacity p < 255) = false ↔
    ∀ x y p, r.grid.at? x y = some p → opacity p = 255 := by
  have full : ∀ o : UInt8, ¬ o < 255 ↔ o = 255 := by
    intro o
    rw [UInt8.not_lt, UInt8.le_iff_toNat_le, ← UInt8.toNat_inj]
    have := o.toNat_lt
    show 255 ≤ o.toNat ↔ o.toNat = 255
    omega
  rw [Array.any_eq_false']
  simp only [decide_eq_true_eq, full, Grid.mem_cells_iff]
  exact ⟨fun h x y p here => h p ⟨x, y, here⟩, fun h p ⟨x, y, here⟩ => h x y p here⟩

theorem opaque_iff_of_alpha (alpha : r.mode.hasAlpha) :
    r.Opaque ↔ ∀ x y p, r.grid.at? x y = some p → p.alpha r.mode = 255 :=
  ⟨Opaque.alpha_eq, fun h => ⟨h, fun none => by simp [alpha] at none⟩⟩

theorem opaque_iff_of_no_alpha (alpha : r.mode.hasAlpha = false) : r.Opaque ↔ r.info.transparency = none := by
  refine ⟨fun h => h.unnamed alpha, fun h => ⟨fun x y p _ => ?_, fun _ => h⟩⟩
  cases mode : r.mode <;> first | rfl | simp [mode, Mode.hasAlpha] at alpha

/-- Transparency is looked for in every pixel. Only of an image without pixels it cannot be told. -/
theorem hasTransparency_eq_ok_iff {transparent : Bool} : r.hasTransparency = .ok transparent ↔
    (r.mode.hasAlpha → r.isEmpty = false) ∧ (transparent = false ↔ r.Opaque) := by
  cases alpha : r.mode.hasAlpha with
  | false =>
    have told : r.hasTransparency = .ok r.info.transparency.isSome := by
      unfold hasTransparency
      cases mode : r.mode <;> first | rfl | simp [mode, Mode.hasAlpha] at alpha
    rw [told, opaque_iff_of_no_alpha alpha]
    cases r.info.transparency <;> cases transparent <;> simp
  | true =>
    have told : r.hasTransparency = if r.isEmpty then .error ⟨.type, "cannot unpack an extent that does not exist"⟩
        else .ok (r.grid.cells.any fun p => p.alpha r.mode < 255) := by
      unfold hasTransparency
      cases mode : r.mode <;> first | rfl | simp [mode, Mode.hasAlpha] at alpha
    rw [told, opaque_iff_of_alpha alpha, ← any_lt_255_eq_false_iff]
    cases r.isEmpty <;> cases transparent <;> simp

/-! ## On white -/

theorem onWhite_opaque (x : UInt8) : onWhite x 255 = x := by
  have byte := x.toNat_lt
  have same : Pixel.divide255 (255 * (255 - (255 : UInt8).toNat) + x.toNat * (255 : UInt8).toNat) = x.toNat := by
    show ((255 * 0 + x.toNat * 255 + 128) / 256 + (255 * 0 + x.toNat * 255 + 128)) / 256 = x.toNat
    omega
  rw [onWhite, same]
  simp

/-- The colours of a raster, place by place, without its opacities. -/
def SameColors (r r' : Raster) : Prop :=
  r.grid.size = r'.grid.size ∧
    ∀ x y, (r.grid.at? x y).map (Pixel.color r.mode) = (r'.grid.at? x y).map (Pixel.color r'.mode)

theorem sameColors_mapPixels {mode : Mode} {f : Pixel → Pixel}
    (same : ∀ x y p, r.grid.at? x y = some p → (f p).color mode = p.color r.mode) (info : ImageInfo) :
    SameColors { r.mapPixels mode f with info } r := by
  refine ⟨rfl, fun x y => ?_⟩
  show ((r.grid.map f).at? x y).map (Pixel.color mode) = _
  rw [Grid.at?_map]
  cases here : r.grid.at? x y with
  | none => rfl
  | some p => exact congrArg some (same x y p here)

/-- Flattening a buffer flattens its raster. -/
theorem flattened_buffer (r : Raster) :
    Buffer.flattened { raster := r } = r.flattened.map fun flat => { raster := flat } := by
  cases mode : r.mode with
  | gray | rgb | cmyk =>
    simp only [Buffer.flattened, flattened, mode]
    rfl
  | _ =>
    simp only [Buffer.flattened, mode]
    show (r.flattened >>= fun flat => pure ({ raster := flat } : Buffer)) = _
    cases r.flattened <;> rfl

/-- The modes of JPEG, in which pixels have no opacity. -/
def jpegModes : List Mode := [.gray, .rgb, .cmyk]

/-- The colours of a raster alone: no pixel has an opacity, and nothing is named that is transparent. -/
structure ColorsOf (r flat : Raster) : Prop where
  mode_mem : flat.mode ∈ jpegModes
  unnamed : flat.info.transparency = none
  same : flat.SameColors r

/-- Opaque pixels keep their colours on white. -/
theorem Opaque.flattens (native : r.mode ∈ Mode.native) (isOpaque : r.Opaque) :
    ∃ flat, r.flattened = .ok flat ∧ r.ColorsOf flat := by
  cases mode : r.mode with
  | gray | rgb | cmyk =>
    have unnamed : r.info.transparency = none := isOpaque.unnamed (by rw [mode]; rfl)
    exact ⟨r, by simp only [flattened, mode], by simp [mode, jpegModes], unnamed, rfl, fun _ _ => rfl⟩
  | bilevel =>
    have unnamed : r.info.transparency = none := isOpaque.unnamed (by rw [mode]; rfl)
    refine ⟨_, by simp only [flattened, mode]; rfl, ?_⟩
    refine ⟨.tail _ (.head _), unnamed, sameColors_mapPixels (fun x y p here => ?_) r.info⟩
    simp only [Pixel.color, mode]
  | grayAlpha =>
    refine ⟨_, by simp only [flattened, mode]; rfl, ?_⟩
    refine ⟨.tail _ (.head _), rfl, sameColors_mapPixels (fun x y p here => ?_) {}⟩
    have full : p.b = 255 := by simpa only [Pixel.alpha, mode] using isOpaque.alpha_eq x y p here
    simp only [full, onWhite_opaque, Pixel.color, mode]
  | rgba =>
    refine ⟨_, by simp only [flattened, mode]; rfl, ?_⟩
    refine ⟨.tail _ (.head _), rfl, sameColors_mapPixels (fun x y p here => ?_) {}⟩
    have full : p.d = 255 := by simpa only [Pixel.alpha, mode] using isOpaque.alpha_eq x y p here
    simp only [full, onWhite_opaque, Pixel.color, mode]
  | _ => simp [mode, Mode.native] at native

/-! ## Turned and cut -/

/-- What turning a raster and cutting from inside of it make, any number of times. -/
inductive Reworked (r : Raster) : Raster → Prop
  | source : Reworked r r
  | turned {r' : Raster} (h : Reworked r r') (t : Transform) : Reworked r { r' with grid := r'.grid.transformed t }
  | cut {r' : Raster} {box : CropBox} (h : Reworked r r') (inside : box.Inside r'.grid.size) :
      Reworked r { r' with grid := r'.grid.cut box.left box.upper box.width.toNat box.height.toNat {} }

/-- The same kind of pixels, each of which stands somewhere in the source. -/
structure PickedFrom (r r' : Raster) : Prop where
  mode_eq : r'.mode = r.mode
  info_eq : r'.info = r.info
  picked : ∀ x y p, r'.grid.at? x y = some p → ∃ x' y', r.grid.at? x' y' = some p

theorem PickedFrom.trans {r₁ r₂ r₃ : Raster} (h : PickedFrom r₁ r₂) (h' : PickedFrom r₂ r₃) : PickedFrom r₁ r₃ where
  mode_eq := h'.mode_eq.trans h.mode_eq
  info_eq := h'.info_eq.trans h.info_eq
  picked x y p here := by
    obtain ⟨x', y', there⟩ := h'.picked x y p here
    exact h.picked x' y' p there

theorem pickedFrom_turned (r : Raster) (t : Transform) : PickedFrom r { r with grid := r.grid.transformed t } := by
  refine ⟨rfl, rfl, fun x y p here => ?_⟩
  simp only [Grid.transformed_eq_laid, Grid.at?_laid] at here
  split at here
  · exact ⟨_, _, here⟩
  · exact ⟨_, _, here⟩

theorem pickedFrom_cut {box : CropBox} (inside : box.Inside r.grid.size) :
    PickedFrom r { r with grid := r.grid.cut box.left box.upper box.width.toNat box.height.toNat {} } := by
  refine ⟨rfl, rfl, fun x y p here => ?_⟩
  by_cases has : (r.grid.cut box.left box.upper box.width.toNat box.height.toNat {}).Has x y
  · exact ⟨_, _, ((r.grid.cut_inside {} inside).at?_eq x y has).symm.trans here⟩
  · cases (Grid.at?_of_not_has has).symm.trans here

/-- Turning and cutting make no pixels, however often. -/
theorem Reworked.pickedFrom (h : Reworked r r') : PickedFrom r r' := by
  induction h with
  | source => exact ⟨rfl, rfl, fun x y p here => ⟨x, y, here⟩⟩
  | @turned r' h t ih => exact ih.trans (r'.pickedFrom_turned t)
  | cut h inside ih => exact ih.trans (pickedFrom_cut inside)

theorem PickedFrom.isOpaque (h : PickedFrom r r') (isOpaque : r.Opaque) : r'.Opaque where
  alpha_eq x y p here := by
    obtain ⟨x', y', there⟩ := h.picked x y p here
    rw [h.mode_eq]
    exact isOpaque.alpha_eq x' y' p there
  unnamed := by
    rw [h.mode_eq, h.info_eq]
    exact isOpaque.unnamed

/-- A raster that is opaque and written in its own colours, in a mode that has no opacity. -/
structure LosesNothing (r : Raster) : Prop where
  isOpaque : r.Opaque
  flattens : ∃ flat, Buffer.flattened { raster := r } = .ok { raster := flat } ∧ r.ColorsOf flat

theorem Opaque.losesNothing (native : r.mode ∈ Mode.native) (isOpaque : r.Opaque) : r.LosesNothing := by
  obtain ⟨flat, made, colors⟩ := isOpaque.flattens native
  exact ⟨isOpaque, flat, by rw [flattened_buffer, made]; rfl, colors⟩

end Raster

/-- JPEG is chosen for a lossless source only if the source is opaque. -/
theorem OutputPolicy.opaque_of_choose_jpeg (policy : OutputPolicy) {source : Format}
    (lossless : source = .png ∨ source = .gif) {r : Raster} {transparent : Bool}
    (judged : Buffer.hasTransparency { raster := r } = .ok transparent) (chosen : policy.choose source transparent = .jpeg) :
    r.Opaque := by
  have told : r.hasTransparency = .ok transparent := by
    unfold Buffer.hasTransparency at judged
    split at judged
    · exact judged
    · exact judged
  refine (Raster.hasTransparency_eq_ok_iff.1 told).2.1 ?_
  rcases lossless with rfl | rfl <;> cases transparent <;> first | rfl | cases chosen

/-- A crop writes what is cut from the source once it is turned, or nothing if it makes no sense. -/
theorem Workshop.writes_crop_reworked {w : Workshop} {b : BufferId} {r : Raster} (here : w.buffer b = { raster := r })
    (code : Option Int) (format output : Format) (target : Dimensions) :
    let writes := w.writes ((Handle.opened b (r.grid.facts code format output)).crop target)
    match cropBox (r.grid.size.after (Transform.forCode code)) target with
    | .error _ => writes = []
    | .ok _ => ∃ cut, writes = [(cut, output)] ∧ r.Reworked cut := by
  rw [← Grid.size_transformed]
  have shows : ShowsAs code r.grid (r.grid.transformed (Transform.forCode code)) := showsAs_iff.2 rfl
  cases hbox : cropBox (r.grid.transformed (Transform.forCode code)).size target with
  | error e => exact writes_crop_senseless shows format output hbox
  | ok box => exact ⟨_, writes_crop shows here format output hbox, .cut (.turned .source _) (cropBox_inside hbox)⟩

/-- If JPEG is chosen for a PNG or GIF image then nothing is lost to flattening: every pixel is opaque, and stays so
however often the image is turned and cut, which never fails; and laid on white the result shows the same colours.
Whatever the orientation and whatever crop is asked for, what is written is such a result. -/
theorem jpeg_loses_nothing (policy : OutputPolicy) {source : Format} (lossless : source = .png ∨ source = .gif)
    {r : Raster} (native : r.mode ∈ Mode.native) {transparent : Bool}
    (judged : Buffer.hasTransparency { raster := r } = .ok transparent)
    (chosen : policy.choose source transparent = .jpeg) :
    (∀ r', r.Reworked r' → r'.LosesNothing ∧
      (∀ t, ∃ turned, Buffer.transform { raster := r' } t = .ok turned ∧ r.Reworked turned) ∧
      ∀ box : CropBox, box.Inside r'.grid.size →
        ∃ cut, Buffer.crop { raster := r' } box = .ok cut ∧ r.Reworked cut) ∧
    ∀ (w : Workshop) (b : BufferId), w.buffer b = { raster := r } → ∀ (code : Option Int) (target : Dimensions),
      let writes := w.writes ((Handle.opened b (r.grid.facts code source .jpeg)).crop target)
      match cropBox (r.grid.size.after (Transform.forCode code)) target with
      | .error _ => writes = []
      | .ok _ => ∃ cut, writes = [(cut, .jpeg)] ∧ r.Reworked cut ∧ cut.LosesNothing := by
  have isOpaque := policy.opaque_of_choose_jpeg lossless judged chosen
  have reworked : ∀ r', r.Reworked r' → r'.LosesNothing := by
    intro r' h
    have picked := h.pickedFrom
    exact (picked.isOpaque isOpaque).losesNothing (picked.mode_eq ▸ native)
  refine ⟨fun r' h => ⟨reworked r' h, fun t => ⟨_, rfl, h.turned t⟩, fun box inside => ?_⟩, ?_⟩
  · obtain ⟨hw, hh⟩ := inside.positive
    simp only [CropBox.size] at hw hh
    exact ⟨_, Stage.reach_cut .nearest r' (by omega) (by omega), h.cut inside⟩
  · intro w b here code target
    have written := w.writes_crop_reworked here code source .jpeg target
    revert written
    cases cropBox (r.grid.size.after (Transform.forCode code)) target with
    | error e => exact id
    | ok box =>
      rintro ⟨cut, written, h⟩
      exact ⟨cut, written, h, reworked cut h⟩

/-- An opaque image with opacities, turned and cut. -/
theorem jpeg_loses_nothing_of_an_opaque_png :
    let r : Raster := { mode := .rgba, grid := ⟨2, 1, #[⟨1, 2, 3, 255⟩, ⟨4, 5, 6, 255⟩], rfl⟩ }
    let cut : Raster := { r with grid := ⟨1, 1, #[⟨4, 5, 6, 255⟩], rfl⟩ }
    r.mode ∈ Mode.native ∧ Buffer.hasTransparency { raster := r } = .ok false ∧
      OutputPolicy.choose {} .png false = .jpeg ∧ r.Reworked cut ∧ cut.LosesNothing := by
  intro r cut
  have native : r.mode ∈ Mode.native := by decide
  have full : (r.grid.cells.any fun p => p.d < 255) = false := by decide +kernel
  have judged : Buffer.hasTransparency { raster := r } = .ok false := congrArg Except.ok full
  have chosen : OutputPolicy.choose {} .png false = .jpeg := rfl
  have reworked : r.Reworked cut := by
    have inside : (CropBox.mk 1 1 0 0).Inside (r.grid.transformed { turn := .half }).size :=
      ⟨⟨by decide, by decide⟩, by decide, by decide, by decide, by decide⟩
    have pixels : cut.grid = (r.grid.transformed { turn := .half }).cut 0 0 1 1 {} := by decide +kernel
    show r.Reworked { r with grid := cut.grid }
    rw [pixels]
    exact .cut (.turned .source { turn := .half }) inside
  exact ⟨native, judged, chosen, reworked, ((jpeg_loses_nothing {} (.inl rfl) native judged chosen).1 cut reworked).1⟩

end Darkroom
