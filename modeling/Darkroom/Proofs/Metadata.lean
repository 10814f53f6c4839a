import Darkroom.Proofs.Flattening
import Darkroom.Proofs.Fulfilment
/-!
# What is written beside the pixels

What a container said travels with the pixels: no stage changes it (`Stage.keeps_info`). Writing leaves the EXIF block
behind. A comment is left behind by a PNG, and by a JPEG only where pixels had opacities, since laying them on white
makes an image of its own (`Raster.comment_flattened`).
-/

namespace Darkroom

/-! ## On the way -/

theorem Stage.keeps_info {filter : ResampleFilter} {st : Stage} {r r' : Raster} (made : st.raster filter r = .ok r') :
    r'.mode = r.mode ∧ r'.info = r.info := by
  cases st with
  | turn t =>
    cases made
    exact ⟨rfl, rfl⟩
  | resize d =>
    simp only [raster, Buffer.resize] at made
    obtain ⟨_, live, made⟩ := bind_ok made
    cases live
    split at made
    · cases made
      exact ⟨rfl, rfl⟩
    · split at made
      · cases made
      · cases made
        exact ⟨rfl, rfl⟩
  | cut box =>
    simp only [raster, Buffer.crop] at made
    split at made
    · cases made
    · split at made
      · cases made
      · cases made
        exact ⟨rfl, rfl⟩

theorem Stage.keep_info {filter : ResampleFilter} {stages : List Stage} {r r' : Raster}
    (made : stages.foldlM (fun r st => st.raster filter r) r = .ok r') : r'.mode = r.mode ∧ r'.info = r.info := by
  induction stages generalizing r with
  | nil => cases made; exact ⟨rfl, rfl⟩
  | cons st rest ih =>
    obtain ⟨r₁, stage, later⟩ := bind_ok made
    obtain ⟨mode, info⟩ := ih later
    obtain ⟨mode', info'⟩ := Stage.keeps_info stage
    exact ⟨mode.trans mode', info.trans info'⟩

/-! ## Written -/

namespace Raster
variable {r : Raster}

theorem comment_flattened {flat : Raster} (made : r.flattened = .ok flat) :
    flat.info.comment = if r.mode.hasAlpha then none else r.info.comment := by
  unfold flattened at made
  cases mode : r.mode <;> simp only [mode, Except.ok.injEq, reduceCtorEq] at made <;> subst made <;> rfl

variable {options : WritingOptions} {e : Encoded}

theorem writePng_content (made : r.writePng = .ok e) : e.exif = none ∧ ∃ pixels key, e.content = .png pixels key := by
  unfold writePng at made
  obtain ⟨_, -, made⟩ := bind_ok made
  split at made
  case h_9 => cases made
  all_goals
    obtain ⟨key, -, made⟩ := bind_ok made
    cases made
    exact ⟨rfl, _, _, rfl⟩

theorem writeJpeg_content (made : r.writeJpeg options = .ok e) :
    e.exif = none ∧ e.content = .jpeg (quantizers options.jpegQuality) r.info.comment := by
  unfold writeJpeg at made
  obtain ⟨_, -, made⟩ := bind_ok made
  split at made
  · cases made
  · cases made
    exact ⟨rfl, rfl⟩

end Raster

/-- The comment that is written with an image. -/
def Encoded.comment? (e : Encoded) : Option Bytes :=
  match e.content with
  | .png _ _ => none
  | .jpeg _ comment => comment

/-- Nothing of the EXIF block is written, and of comments only what a JPEG takes over from an image without opacities. -/
theorem Buffer.encode_metadata {r : Raster} {options : WritingOptions} {format : Format} {flattening : Option Failure}
    {e : Encoded} (made : Buffer.encode { raster := r } options format flattening = .ok e) :
    e.exif = none ∧ e.comment? = if format = .jpeg ∧ r.mode.hasAlpha = false then r.info.comment else none := by
  unfold Buffer.encode at made
  have made := mapError_ok made
  cases format with
  | jpeg =>
    cases flattening with
    | some f => cases made
    | none =>
      obtain ⟨_, flattened, made⟩ := bind_ok made
      rw [Raster.flattened_buffer] at flattened
      cases flat : r.flattened with
      | error f => rw [flat] at flattened; cases flattened
      | ok flat' =>
        rw [flat] at flattened
        cases flattened
        obtain ⟨exif, content⟩ := Raster.writeJpeg_content made
        refine ⟨exif, ?_⟩
        rw [Encoded.comment?, content]
        dsimp only
        rw [Raster.comment_flattened flat]
        cases r.mode.hasAlpha <;> rfl
  | png =>
    obtain ⟨exif, pixels, key, content⟩ := Raster.writePng_content made
    exact ⟨exif, by rw [Encoded.comment?, content]; rfl⟩
  | gif | unknown => cases made

/-- Whatever is derived from an image that opened, no EXIF block is written with it, and a comment only if a JPEG is
written and pixels had no opacities: then it is the comment that was decoded with the image. -/
theorem comment_outlasts_derivations (w : Workshop) {imageId : String} {data : Bytes} {budget : Int} {config : Config}
    {b : BufferId} {facts : Facts}
    (opened : ((openImage imageId data budget config).run rasterCodec w).outcome = .ok (b, facts)) :
    ∃ r, Raster.decodeFull w.faults data = .ok r ∧
      ((openImage imageId data budget config).run rasterCodec w).state.buffer b = { raster := r } ∧
      ∀ w' : Workshop, w'.buffer b = { raster := r } → ∀ (order : Service.Order) (e : Encoded),
        ((order.work (.opened b facts)).run rasterCodec w').outcome = .ok e →
          e.exif = none ∧ e.comment? =
            if facts.outputFormat = .jpeg ∧ r.mode.hasAlpha = false then r.info.comment else none := by
  obtain ⟨header, r, transparent, -, decoded, here, -, -⟩ := w.opened_ok opened
  refine ⟨r, decoded, here, fun w' here' order e made => ?_⟩
  obtain ⟨plan, carried⟩ := order.carried rasterCodec w' b facts
  obtain ⟨stages, r', -, reached, encoded⟩ := Workshop.encoded_carried carried here' made
  obtain ⟨mode, info⟩ := Stage.keep_info reached
  have written := Buffer.encode_metadata encoded
  rwa [mode, info] at written

/-- A gray JPEG of two by two pixels with a comment. -/
def notedJpeg : Bytes :=
  [0xFF, 0xD8, 0xFF, 0xFE, 0x00, 0x06, 0x6E, 0x6F, 0x74, 0x65, 0xFF, 0xDB, 0x00, 0x43, 0x00] ++ List.replicate 64 1 ++
    [0xFF, 0xC0, 0x00, 0x0B, 0x08, 0x00, 0x02, 0x00, 0x02, 0x01, 0x01, 0x11, 0x00,
      0xFF, 0xDA, 0x00, 0x08, 0x01, 0x01, 0x00, 0x00, 0x3F, 0x00, 0x2B, 0xFF, 0xD9]

/-- Opened and cut, the JPEG is written without an EXIF block. -/
theorem comment_outlasts_derivations_of_a_jpeg :
    let w : Workshop := { options := {} }
    let facts : Facts := ⟨⟨2, 2⟩, {}, 1, .jpeg, .jpeg⟩
    let opening := (openImage "noted" notedJpeg 1000 {} : Work Encoded _).run rasterCodec w
    opening.outcome = .ok (1, facts) ∧ ∃ e : Encoded,
      (((Handle.opened 1 facts).crop ⟨2, 2⟩).run rasterCodec opening.state).outcome = .ok e ∧ e.exif = none := by
  intro w facts opening
  have opened : opening.outcome = .ok (1, facts) := by decide +kernel
  have cropped : (((Handle.opened 1 facts).crop ⟨2, 2⟩).run rasterCodec opening.state).outcome.toOption.isSome := by
    decide +kernel
  obtain ⟨r, -, here, written⟩ := comment_outlasts_derivations w opened
  cases made : (((Handle.opened 1 facts).crop ⟨2, 2⟩).run rasterCodec opening.state).outcome with
  | error f => simp [made, Except.toOption] at cropped
  | ok e => exact ⟨opened, e, rfl, (written opening.state here (.crop ⟨2, 2⟩) e made).1⟩

/-- What is cut out of the JPEG is written with the comment that stood in the source. -/
theorem comment_written_with_a_crop :
    let opening := (openImage "noted" notedJpeg 1000 {} : Work Encoded _).run rasterCodec { options := {} }
    ∃ b facts e, opening.outcome = .ok (b, facts) ∧
      (((Handle.opened b facts).crop ⟨2, 2⟩).run rasterCodec opening.state).outcome = .ok e ∧
      e.comment? = some [0x6E, 0x6F, 0x74, 0x65] := by
  intro opening
  let facts : Facts := ⟨⟨2, 2⟩, {}, 1, .jpeg, .jpeg⟩
  have opened : opening.outcome = .ok (1, facts) := by decide +kernel
  have commented : (((Handle.opened 1 facts).crop ⟨2, 2⟩).run rasterCodec opening.state).outcome.toOption.bind
      (·.comment?) = some [0x6E, 0x6F, 0x74, 0x65] := by
    decide +kernel
  cases made : (((Handle.opened 1 facts).crop ⟨2, 2⟩).run rasterCodec opening.state).outcome with
  | error f => simp [made, Except.toOption] at commented
  | ok e => exact ⟨1, facts, e, opened, made, by simpa [made, Except.toOption] using commented⟩

end Darkroom
