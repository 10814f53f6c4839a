import Darkroom.Proofs.Grid
import Darkroom.Raster.Buffer
/-!
# Orientation codes, pixel by pixel

A code says of every pixel that shows where it is stored (`storedAt`). The transform of the code makes the image of these
pixels, of the size that was told in advance (`transformed_upright`), and it is undone by the transform of a code, for most
of them the same one (`Transform.inverse`, `inverse_forCode`). `buffer_turned_upright` says it of a buffer.
-/

namespace Darkroom

/-! ## Where pixels are stored -/

/-- Column and row of the stored pixel that shows at a place, by orientation code. -/
def storedAt (stored : Dimensions) (code x y : Int) : Int × Int :=
  match code with
  | 2 => (stored.width - 1 - x, y)
  | 3 => (stored.width - 1 - x, stored.height - 1 - y)
  | 4 => (x, stored.height - 1 - y)
  | 5 => (y, x)
  | 6 => (y, stored.height - 1 - x)
  | 7 => (stored.width - 1 - y, stored.height - 1 - x)
  | 8 => (stored.width - 1 - y, x)
  | _ => (x, y)

/-- The upright image of stored pixels: it has the size told by the code, and each pixel comes from its place. -/
structure UprightOf {α : Type} (code : Int) (stored shown : Grid α) : Prop where
  size_eq : shown.size = (upright stored.size (some code)).1
  inside : ∀ x y, shown.Has x y → stored.Has (storedAt stored.size code x y).1 (storedAt stored.size code x y).2
  at?_eq : ∀ x y, shown.at? x y = stored.at? (storedAt stored.size code x y).1 (storedAt stored.size code x y).2

/-- The place of a code is the one that its transform takes a pixel from. -/
theorem storedAt_eq (stored : Dimensions) (code x y : Int) :
    let t := Transform.forCode (some code)
    let x' := if t.mirrorsAcross then (stored.after t).width - 1 - x else x
    let y' := if t.mirrorsDown then (stored.after t).height - 1 - y else y
    storedAt stored code x y = if t.swapsAxes then (y', x') else (x', y') := by
  unfold storedAt
  split
  case h_8 =>
    -- none of the seven codes that need a transform
    have untouched : Transform.forCode (some code) = .identity := by
      unfold Transform.forCode
      split <;> simp_all
    rw [untouched]
    rfl
  all_goals rfl

section
variable {α : Type} (g : Grid α)

theorem Grid.Has.of_at?_isSome {g : Grid α} {x y : Int} (h : (g.at? x y).isSome) : g.Has x y := by
  by_contra outside
  rw [at?_of_not_has outside] at h
  cases h

theorem Grid.at?_transformed_forCode (code x y : Int) : (g.transformed (Transform.forCode (some code))).at? x y =
    g.at? (storedAt g.size code x y).1 (storedAt g.size code x y).2 := by
  rw [storedAt_eq]
  generalize Transform.forCode (some code) = t
  have laid := g.at?_laid t.swapsAxes t.mirrorsAcross t.mirrorsDown x y
  rw [← transformed_eq_laid] at laid
  rw [laid, ← size_transformed]
  dsimp only [size]
  split <;> rfl

/-- The transform of a code makes the image that shows. -/
theorem transformed_upright (code : Int) : UprightOf code g (g.transformed (Transform.forCode (some code))) := by
  refine ⟨g.size_transformed _, ?_, g.at?_transformed_forCode code⟩
  intro x y has
  apply Grid.Has.of_at?_isSome
  rw [← g.at?_transformed_forCode code]
  exact has.at?_isSome

/-! ## Turning back -/

/-- The transform that undoes another: a mirror image undoes itself, whichever way it is turned. -/
def Transform.inverse : Transform → Transform
  | ⟨.quarter, false⟩ => ⟨.threeQuarters, false⟩
  | ⟨.threeQuarters, false⟩ => ⟨.quarter, false⟩
  | t => t

theorem Grid.transformed_inverse (t : Transform) : (g.transformed t).transformed t.inverse = g := by
  obtain ⟨turn, flip⟩ := t
  refine ext_at? ?_ ?_ ?_
  · cases turn <;> cases flip <;> rfl
  · cases turn <;> cases flip <;> rfl
  · intro x y _
    cases turn <;> cases flip <;>
      simp [transformed, Rearrangement.ofTurn?, Transform.inverse]

/-- The code whose transform undoes that of a code. -/
def undoing : Int → Int
  | 6 => 8
  | 8 => 6
  | code => code

theorem inverse_forCode (code : Int) :
    (Transform.forCode (some code)).inverse = Transform.forCode (some (undoing code)) := by
  unfold undoing
  split
  · rfl
  · rfl
  · next not_six not_eight =>
    -- mirror images, the half turn, and what is upright as it is
    unfold Transform.forCode
    split
    case h_5 six => exact absurd (Option.some.inj six) not_six
    case h_7 eight => exact absurd (Option.some.inj eight) not_eight
    all_goals rfl

end

/-! ## Main theorem -/

/-- Every buffer is turned into one that shows its pixels upright and is the same otherwise, and is turned back by the
code that undoes the first one. -/
theorem buffer_turned_upright (r : Raster) (code : Int) : ∃ shown, UprightOf code r.grid shown ∧
    Buffer.transform { raster := r } (Transform.forCode (some code)) = .ok { r with grid := shown } ∧
    Buffer.transform { raster := { r with grid := shown } } (Transform.forCode (some (undoing code))) = .ok r := by
  refine ⟨_, transformed_upright r.grid code, rfl, ?_⟩
  show Except.ok { r with grid := _ } = _
  rw [← inverse_forCode, Grid.transformed_inverse]

end Darkroom
