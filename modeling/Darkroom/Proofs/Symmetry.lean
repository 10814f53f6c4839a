import Darkroom.Proofs.Deriving
import Darkroom.Proofs.Geometry
import Mathlib.Logic.Function.Basic
/-!
# Width and height are treated alike

Geometry commutes with exchanging the axes, ties and refusals included (`thumbnailSize_swap`, `cropBox_swap`). So an
image that lies on its side may be sized as it shows or as it is stored: the thumbnail that is resized to is the same
(`geometry_symmetric`).
-/

namespace Darkroom

/-! ## Exchanging the axes -/

def CropBox.swap (b : CropBox) : CropBox := ⟨b.height, b.width, b.offsetY, b.offsetX⟩

theorem Dimensions.swap_involutive : Function.Involutive Dimensions.swap := fun _ => rfl

theorem CropBox.swap_involutive : Function.Involutive CropBox.swap := fun _ => rfl

/-- What one geometry answers is what the other does, exchanged, and both refuse the same requests as a wrong value. -/
inductive Exchanged {α : Type} (swap : α → α) : Except GeometryError α → Except GeometryError α → Prop
  | given (x : α) : Exchanged swap (.ok x) (.ok (swap x))
  | refused {e e' : GeometryError} {text text' : String} (h : e.failure = .value text) (h' : e'.failure = .value text') :
      Exchanged swap (.error e) (.error e')

theorem exchanged_of_iff {α : Type} {swap : α → α} (involutive : Function.Involutive swap)
    {answer answer' : Except GeometryError α} (h : ∀ x, answer' = .ok (swap x) ↔ answer = .ok x) :
    Exchanged swap answer answer' := by
  cases answer with
  | ok x =>
    rw [(h x).2 rfl]
    exact .given x
  | error e =>
    cases answer' with
    | ok x' =>
      have given := (h (swap x')).1 (congrArg Except.ok (involutive x').symm)
      cases given
    | error e' => exact .refused rfl rfl

section
variable {limit : Text.DigitLimit} {source bound target size : Dimensions} {fit : Bool}

theorem Dimensions.positive_swap : source.swap.Positive ↔ source.Positive := And.comm

theorem boxRatio_swap (source bound : Dimensions) (fit : Bool) :
    boxRatio source.swap bound.swap fit = boxRatio source bound fit := by
  cases fit with
  | true => exact min_comm ..
  | false => exact max_comm ..

theorem Dimensions.scaled_swap (d : Dimensions) (scale : Rat) : d.swap.scaled scale = (d.scaled scale).swap := rfl

theorem Dimensions.tellable_swap : source.swap.Tellable limit bound.swap ↔ source.Tellable limit bound := by
  rw [Dimensions.tellable_iff, Dimensions.tellable_iff]
  exact and_congr And.comm And.comm

theorem Dimensions.hasRoom_swap : bound.swap.HasRoom source.swap fit ↔ bound.HasRoom source fit := by
  cases fit with
  | true => exact And.comm
  | false => exact Or.comm

theorem thumbnailSize_swap :
    thumbnailSize source.swap bound.swap fit limit = .ok size.swap ↔ thumbnailSize source bound fit limit = .ok size := by
  rw [thumbnailSize_eq_ok_iff, thumbnailSize_eq_ok_iff, Dimensions.positive_swap, boxRatio_swap, Dimensions.scaled_swap,
    Dimensions.swap_involutive.injective.eq_iff, Dimensions.hasRoom_swap, Dimensions.tellable_swap]
  exact and_congr_right' (and_congr_left' And.comm)

theorem cropSize_swap (hs : source.Positive) (ht : target.Positive) :
    cropSize source.swap target.swap = (cropSize source target).swap := by
  have exchanged := thumbnailSize_swap.2 (thumbnailSize_cropSize hs ht)
  rw [thumbnailSize_cropSize (Dimensions.positive_swap.2 hs) (Dimensions.positive_swap.2 ht)] at exchanged
  exact Except.ok.inj exchanged

theorem cropBox_swap {box : CropBox} :
    cropBox source.swap target.swap limit = .ok box.swap ↔ cropBox source target limit = .ok box := by
  rw [cropBox_eq_ok_iff, cropBox_eq_ok_iff, Dimensions.positive_swap, Dimensions.positive_swap,
    Dimensions.hasRoom_swap, Dimensions.tellable_swap]
  apply and_congr_right
  intro hs
  apply and_congr_right
  intro ht
  apply and_congr_left'
  rw [cropSize_swap hs ht, ← CropBox.swap_involutive.injective.eq_iff]
  rfl

end

/-! ## Images on their side -/

theorem swapsAxes_of_code {code : Int} (h : 5 ≤ code) (h' : code ≤ 8) :
    (Transform.forCode (some code)).swapsAxes = true := by
  obtain rfl | rfl | rfl | rfl : code = 5 ∨ code = 6 ∨ code = 7 ∨ code = 8 := by omega
  all_goals rfl

theorem Transform.isIdentity_of_swapsAxes {t : Transform} (h : t.swapsAxes = true) : t.isIdentity = false := by
  rw [Bool.eq_false_iff]
  intro upright
  rw [Transform.isIdentity_iff.1 upright] at h
  cases h

theorem Dimensions.after_of_swapsAxes {t : Transform} (h : t.swapsAxes = true) (d : Dimensions) : d.after t = d.swap :=
  if_pos h

/-- An image on its side is resized to the exchanged size, unless it is stored at that, and then turned. -/
theorem thumbnailSteps_of_swapsAxes {ω : Type} {facts : Facts} (h : facts.transform.swapsAxes = true)
    (size : Dimensions) : (Derivation.thumbnailSteps facts size : List (Derivation.Step ω)) =
      (if size.swap = facts.dimensions.swap then [] else [Derivation.resizing size.swap]) ++
        [Derivation.turning facts.transform] := by
  have turned : (Derivation.turningIfNeeded facts.transform : List (Derivation.Step ω)) =
      [Derivation.turning facts.transform] := by
    rw [Derivation.turningIfNeeded, Transform.isIdentity_of_swapsAxes h]
    rfl
  simp only [Derivation.thumbnailSteps, Dimensions.after_of_swapsAxes h, turned]

/-! ## Main theorem -/

/-- Geometry treats width and height alike, and a thumbnail of an image on its side is resized to the size that geometry
gives for the image as it is stored and the box turned along with it. A number that is too long is so on either axis. -/
theorem geometry_symmetric {ω : Type} (source request : Dimensions) (fit : Bool) (limit : Text.DigitLimit) :
    Exchanged Dimensions.swap (thumbnailSize source request fit limit)
      (thumbnailSize source.swap request.swap fit limit) ∧
    Exchanged CropBox.swap (cropBox source request limit) (cropBox source.swap request.swap limit) ∧
    ∀ (raw : Dimensions) (code : Int) (facts : Facts), 5 ≤ code → code ≤ 8 →
      (facts.dimensions, facts.transform) = upright raw (some code) →
      Exchanged Dimensions.swap (thumbnailSize facts.dimensions request fit limit)
        (thumbnailSize raw request.swap fit limit) ∧
      ∀ size, (Derivation.thumbnailSteps facts size : List (Derivation.Step ω)) =
        (if size.swap = raw then [] else [Derivation.resizing size.swap]) ++ [Derivation.turning facts.transform] := by
  have sizes : ∀ source : Dimensions, Exchanged Dimensions.swap (thumbnailSize source request fit limit)
      (thumbnailSize source.swap request.swap fit limit) := by
    intro source
    exact exchanged_of_iff Dimensions.swap_involutive fun _ => thumbnailSize_swap
  refine ⟨sizes source, exchanged_of_iff CropBox.swap_involutive fun _ => cropBox_swap, ?_⟩
  intro raw code facts least most shown
  obtain ⟨hdimensions, htransform⟩ := Prod.mk.inj shown
  have swaps : facts.transform.swapsAxes = true := by
    rw [htransform]
    exact swapsAxes_of_code least most
  have stored : facts.dimensions.swap = raw := by
    rw [hdimensions, Dimensions.after_of_swapsAxes (htransform ▸ swaps)]
    rfl
  constructor
  · rw [← stored]
    exact sizes facts.dimensions
  · intro size
    rw [← stored]
    exact thumbnailSteps_of_swapsAxes swaps size

/-- A side of one pixel and a half, which goes up whichever of the two it is. -/
theorem geometry_symmetric_on_a_tie :
    let facts : Facts := ⟨⟨4, 6⟩, { turn := .quarter }, 6, .jpeg, .jpeg⟩
    (facts.dimensions, facts.transform) = upright ⟨6, 4⟩ (some 6) ∧
    thumbnailSize facts.dimensions ⟨1, 0⟩ false = .ok ⟨1, 2⟩ ∧ thumbnailSize ⟨6, 4⟩ ⟨0, 1⟩ false = .ok ⟨2, 1⟩ ∧
    (Derivation.thumbnailSteps facts ⟨1, 2⟩ : List (Derivation.Step Unit)) =
      [Derivation.resizing ⟨2, 1⟩, Derivation.turning facts.transform] := by
  intro facts
  obtain ⟨-, -, turned⟩ := @geometry_symmetric Unit ⟨4, 6⟩ ⟨1, 0⟩ false .standard
  obtain ⟨sizes, steps⟩ := turned ⟨6, 4⟩ 6 facts (by decide) (by decide) rfl
  have shown : thumbnailSize facts.dimensions ⟨1, 0⟩ false = .ok ⟨1, 2⟩ := by decide +kernel
  have exchanged : Exchanged Dimensions.swap (.ok ⟨1, 2⟩) (thumbnailSize ⟨6, 4⟩ ⟨0, 1⟩ false) := shown ▸ sizes
  refine ⟨rfl, shown, ?_, steps ⟨1, 2⟩⟩
  generalize thumbnailSize ⟨6, 4⟩ ⟨0, 1⟩ false = stored at exchanged ⊢
  cases exchanged with
  | given => rfl

end Darkroom
