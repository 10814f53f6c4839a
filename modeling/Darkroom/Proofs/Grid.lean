import Darkroom.Dimensions
import Darkroom.Raster.Grid
import Mathlib.Algebra.Group.Basic
import Mathlib.Algebra.Group.Int.Defs
import Mathlib.Tactic.Common
/-!
# Pixel grids, cell by cell

A grid is known by its size and its cells (`Grid.ext_at?`), so every rearrangement is told by where a cell comes from.
All of them come down to three exchanges: rows with columns, left with right, top with bottom (`Grid.laid`,
`Grid.transformed_eq_laid`).

`ShowsAs`: what an orientation code says of stored pixels, told by the sides that their first row and first column show
on. `showsAs_iff`: the transform of a code makes exactly the image that shows.
-/

namespace Darkroom

variable {α : Type}

namespace Grid

/-! ## Cells -/

def size (g : Grid α) : Dimensions := ⟨g.width, g.height⟩

theorem size_eq_iff {g : Grid α} {width height : Nat} :
    g.size = ⟨width, height⟩ ↔ g.width = width ∧ g.height = height := by
  simp only [size, Dimensions.mk.injEq, Int.natCast_inj]

theorem size_inj {g g' : Grid α} : g.size = g'.size ↔ g.width = g'.width ∧ g.height = g'.height :=
  size_eq_iff

/-- A place inside a grid. -/
def Has (g : Grid α) (x y : Int) : Prop := (0 ≤ x ∧ x < g.width) ∧ (0 ≤ y ∧ y < g.height)

section
variable {g : Grid α} {x y : Int}

theorem at?_fin (g : Grid α) (i : Fin g.width) (j : Fin g.height) : g.at? i j = some (g.get i j) := by
  have inside : g.Has i j := ⟨⟨by omega, by omega⟩, by omega, by omega⟩
  exact dif_pos inside

theorem at?_of_not_has (h : ¬ g.Has x y) : g.at? x y = none := dif_neg h

/-- A place inside is a column and a row. -/
theorem Has.exists_fin (h : g.Has x y) : ∃ (i : Fin g.width) (j : Fin g.height), x = i ∧ y = j := by
  obtain ⟨⟨hx, hx'⟩, hy, hy'⟩ := h
  exact ⟨⟨x.toNat, by omega⟩, ⟨y.toNat, by omega⟩, (Int.toNat_of_nonneg hx).symm, (Int.toNat_of_nonneg hy).symm⟩

theorem Has.exists_nat (h : g.Has x y) : ∃ i j : Nat, i < g.width ∧ j < g.height ∧ x = i ∧ y = j := by
  obtain ⟨i, j, hx, hy⟩ := h.exists_fin
  exact ⟨i, j, i.isLt, j.isLt, hx, hy⟩

theorem Has.at?_isSome (h : g.Has x y) : (g.at? x y).isSome := by
  obtain ⟨i, j, rfl, rfl⟩ := h.exists_fin
  rw [at?_fin]
  rfl

/-- Counted row by row, each cell stands in the column and the row that its number divided by the width tells. -/
theorem at?_mod_div {i : Nat} (hi : i < g.cells.size) :
    g.Has (i % g.width : Nat) (i / g.width : Nat) ∧ g.at? (i % g.width : Nat) (i / g.width : Nat) = some g.cells[i] := by
  have inside : i < g.width * g.height := g.size_eq ▸ hi
  have positive : 0 < g.width := Nat.pos_of_mul_pos_right (Nat.zero_lt_of_lt inside)
  have column : i % g.width < g.width := Nat.mod_lt _ positive
  have row : i / g.width < g.height := Nat.div_lt_of_lt_mul inside
  refine ⟨⟨⟨Int.natCast_nonneg _, by exact_mod_cast column⟩, Int.natCast_nonneg _, by exact_mod_cast row⟩, ?_⟩
  rw [g.at?_fin ⟨i % g.width, column⟩ ⟨i / g.width, row⟩]
  simp only [get, Nat.div_add_mod' i g.width]

theorem ext_at? {g' : Grid α} (hw : g.width = g'.width) (hh : g.height = g'.height)
    (h : ∀ x y, g.Has x y → g.at? x y = g'.at? x y) : g = g' := by
  have cells : g.cells = g'.cells := by
    refine Array.ext (by rw [g.size_eq, g'.size_eq, hw, hh]) fun i hi hi' => ?_
    obtain ⟨has, here⟩ := g.at?_mod_div hi
    have there := (g'.at?_mod_div hi').2
    rw [← hw, ← h _ _ has, here] at there
    exact Option.some.inj there
  obtain ⟨w, h', cells, size⟩ := g
  obtain ⟨_, _, _, _⟩ := g'
  cases hw
  cases hh
  cases cells
  rfl

theorem mem_cells_iff {a : α} : a ∈ g.cells ↔ ∃ x y, g.at? x y = some a := by
  constructor
  · intro h
    obtain ⟨i, hi, rfl⟩ := Array.mem_iff_getElem.1 h
    exact ⟨_, _, (g.at?_mod_div hi).2⟩
  · rintro ⟨x, y, h⟩
    by_cases has : g.Has x y
    · obtain ⟨i, j, rfl, rfl⟩ := has.exists_fin
      rw [at?_fin, Option.some.injEq] at h
      exact h ▸ Array.getElem_mem _
    · rw [at?_of_not_has has] at h
      cases h

end

section
variable {w h : Nat} (f : Fin w → Fin h → α)

@[simp] theorem width_ofFn : (ofFn w h f).width = w := rfl

@[simp] theorem height_ofFn : (ofFn w h f).height = h := rfl

theorem get_ofFn (i : Fin w) (j : Fin h) : (ofFn w h f).get i j = f i j := by
  have column : (j.val * w + i.val) % w = i.val := by
    rw [Nat.mul_comm, Nat.mul_add_mod, Nat.mod_eq_of_lt i.isLt]
  have row : (j.val * w + i.val) / w = j.val := by
    rw [Nat.mul_comm, Nat.mul_add_div (Nat.zero_lt_of_lt i.isLt), Nat.div_eq_of_lt i.isLt, Nat.add_zero]
  simp only [get, ofFn, Array.getElem_ofFn]
  congr 1
  · exact Fin.ext column
  · exact Fin.ext row

theorem at?_ofFn (i : Fin w) (j : Fin h) : (ofFn w h f).at? i j = some (f i j) := by
  rw [← get_ofFn f i j]
  exact at?_fin (ofFn w h f) i j

end

section
variable {β : Type} (φ : α → β) (g : Grid α)

@[simp] theorem width_map : (g.map φ).width = g.width := rfl

@[simp] theorem height_map : (g.map φ).height = g.height := rfl

@[simp] theorem at?_map (x y : Int) : (g.map φ).at? x y = (g.at? x y).map φ := by
  by_cases h : g.Has x y
  · obtain ⟨i, j, rfl, rfl⟩ := h.exists_fin
    rw [at?_fin g i j]
    refine (at?_fin (g.map φ) i j).trans ?_
    simp [get, map]
  · rw [at?_of_not_has h]
    exact at?_of_not_has h

end

/-! ## Rearrangements -/

variable (g : Grid α)

/-- A grid whose cells come from places of another. -/
theorem at?_ofFn_get {w h : Nat} {p : Fin w → Fin h → Fin g.width} {q : Fin w → Fin h → Fin g.height}
    (column row : Int → Int → Int) (hp : ∀ i j, (p i j : Int) = column i j) (hq : ∀ i j, (q i j : Int) = row i j)
    (inside : ∀ x y : Int, ((0 ≤ x ∧ x < w) ∧ 0 ≤ y ∧ y < h) ↔ g.Has (column x y) (row x y)) (x y : Int) :
    (ofFn w h fun i j => g.get (p i j) (q i j)).at? x y = g.at? (column x y) (row x y) := by
  by_cases hxy : (ofFn w h fun i j => g.get (p i j) (q i j)).Has x y
  · obtain ⟨i, j, rfl, rfl⟩ : ∃ (i : Fin w) (j : Fin h), x = i ∧ y = j := hxy.exists_fin
    refine (at?_ofFn _ i j).trans ?_
    rw [← at?_fin, hp, hq]
  · rw [at?_of_not_has hxy, at?_of_not_has fun h => hxy ((inside x y).2 h)]

@[simp] theorem width_rearranged (how : Rearrangement) : (g.rearranged how).width =
    match how with
    | .mirror | .turn180 => g.width
    | .turn90 | .turn270 => g.height := by
  cases how <;> rfl

@[simp] theorem height_rearranged (how : Rearrangement) : (g.rearranged how).height =
    match how with
    | .mirror | .turn180 => g.height
    | .turn90 | .turn270 => g.width := by
  cases how <;> rfl

@[simp] theorem at?_mirror (x y : Int) : (g.rearranged .mirror).at? x y = g.at? (g.width - 1 - x) y :=
  g.at?_ofFn_get (fun x _ => g.width - 1 - x) (fun _ y => y) (by intros; simp; omega) (fun _ _ => rfl)
    (by unfold Has; omega) x y

@[simp] theorem at?_turn90 (x y : Int) : (g.rearranged .turn90).at? x y = g.at? (g.width - 1 - y) x :=
  g.at?_ofFn_get (fun _ y => g.width - 1 - y) (fun x _ => x) (by intros; simp; omega) (fun _ _ => rfl)
    (by unfold Has; omega) x y

@[simp] theorem at?_turn180 (x y : Int) :
    (g.rearranged .turn180).at? x y = g.at? (g.width - 1 - x) (g.height - 1 - y) :=
  g.at?_ofFn_get (fun x _ => g.width - 1 - x) (fun _ y => g.height - 1 - y) (by intros; simp; omega)
    (by intros; simp; omega) (by unfold Has; omega) x y

@[simp] theorem at?_turn270 (x y : Int) : (g.rearranged .turn270).at? x y = g.at? y (g.height - 1 - x) :=
  g.at?_ofFn_get (fun _ y => y) (fun x _ => g.height - 1 - x) (fun _ _ => rfl) (by intros; simp; omega)
    (by unfold Has; omega) x y

/-- Rows and columns exchanged. -/
def swapped : Grid α := ofFn g.height g.width fun i j => g.get j i

/-- Top and bottom exchanged. -/
def upended : Grid α := (g.rearranged .mirror).rearranged .turn180

@[simp] theorem width_swapped : g.swapped.width = g.height := rfl

@[simp] theorem height_swapped : g.swapped.height = g.width := rfl

@[simp] theorem width_upended : g.upended.width = g.width := rfl

@[simp] theorem height_upended : g.upended.height = g.height := rfl

@[simp] theorem at?_swapped (x y : Int) : g.swapped.at? x y = g.at? y x :=
  g.at?_ofFn_get (fun _ y => y) (fun x _ => x) (fun _ _ => rfl) (fun _ _ => rfl) (by unfold Has; omega) x y

@[simp] theorem at?_upended (x y : Int) : g.upended.at? x y = g.at? x (g.height - 1 - y) := by
  simp [upended]

/-! ## Transforms -/

/-- Rows and columns are exchanged first, then left and right, then top and bottom, each if asked for. -/
def laid (swap across down : Bool) : Grid α :=
  let g := if swap then g.swapped else g
  let g := if across then g.rearranged .mirror else g
  if down then g.upended else g

@[simp] theorem width_laid (swap across down : Bool) :
    (g.laid swap across down).width = if swap then g.height else g.width := by
  cases swap <;> cases across <;> cases down <;> rfl

@[simp] theorem height_laid (swap across down : Bool) :
    (g.laid swap across down).height = if swap then g.width else g.height := by
  cases swap <;> cases across <;> cases down <;> rfl

/-- Where the cell shown at a place is stored. -/
theorem at?_laid (swap across down : Bool) (x y : Int) : (g.laid swap across down).at? x y =
    let x := if across then (g.laid swap across down).width - 1 - x else x
    let y := if down then (g.laid swap across down).height - 1 - y else y
    if swap then g.at? y x else g.at? x y := by
  cases swap <;> cases across <;> cases down <;> simp [laid]

end Grid

namespace Transform

/-- Whether what shows from left to right is stored from the far end of its axis. -/
def mirrorsAcross : Transform → Bool
  | ⟨.none, flip⟩ => flip
  | ⟨.quarter, _⟩ => true
  | ⟨.half, flip⟩ => !flip
  | ⟨.threeQuarters, _⟩ => false

/-- Whether what shows from top to bottom is stored from the far end of its axis. -/
def mirrorsDown : Transform → Bool
  | ⟨.none, _⟩ => false
  | ⟨.quarter, flip⟩ => flip
  | ⟨.half, _⟩ => true
  | ⟨.threeQuarters, flip⟩ => !flip

end Transform

theorem Grid.transformed_eq_laid (g : Grid α) (t : Transform) :
    g.transformed t = g.laid t.swapsAxes t.mirrorsAcross t.mirrorsDown := by
  obtain ⟨turn, flip⟩ := t
  cases turn <;> cases flip <;> refine ext_at? rfl rfl fun x y _ => ?_ <;>
    simp [transformed, laid, Rearrangement.ofTurn?, Transform.swapsAxes, Turn.swapsAxes, Transform.mirrorsAcross,
      Transform.mirrorsDown]

theorem Grid.size_transformed (g : Grid α) (t : Transform) : (g.transformed t).size = g.size.after t := by
  rw [transformed_eq_laid, size, width_laid, height_laid, Dimensions.after]
  split <;> rfl

/-! ## Orientation codes -/

/-- A side of an image as it shows. -/
inductive Side
  | top
  | bottom
  | left
  | right
deriving DecidableEq, Repr

namespace Side

/-- The sides that the first stored row and the first stored column show on, by orientation code. -/
def ofCode : Option Int → Side × Side
  | some 2 => (top, right)
  | some 3 => (bottom, right)
  | some 4 => (bottom, left)
  | some 5 => (left, top)
  | some 6 => (right, top)
  | some 7 => (right, bottom)
  | some 8 => (left, bottom)
  | _ => (top, left)

/-- How far a place is from a side. -/
def distance (shown : Grid α) (x y : Int) : Side → Int
  | top => y
  | bottom => shown.height - 1 - y
  | left => x
  | right => shown.width - 1 - x

/-- How many rows or columns lie along a side. -/
def depth (shown : Grid α) : Side → Nat
  | top | bottom => shown.height
  | left | right => shown.width

/-- The sides that a way of laying cells out puts the first row and the first column on. -/
def ofLaying (swap across down : Bool) : Side × Side :=
  let column := if across then right else left
  let row := if down then bottom else top
  if swap then (column, row) else (row, column)

theorem ofCode_eq (code : Option Int) :
    let t := Transform.forCode code
    ofCode code = ofLaying t.swapsAxes t.mirrorsAcross t.mirrorsDown := by
  unfold ofCode
  split
  case h_8 =>
    -- none of the seven codes that need a transform
    unfold Transform.forCode
    split <;> first | rfl | contradiction
  all_goals rfl

end Side

/-- Stored cells show as an image under an orientation code: a cell is stored as many rows from the first as it shows
from the side of the first row, and as many columns from the first as it shows from the side of the first column. -/
structure ShowsAs (code : Option Int) (stored shown : Grid α) : Prop where
  width_eq : stored.width = (Side.ofCode code).2.depth shown
  height_eq : stored.height = (Side.ofCode code).1.depth shown
  at?_eq : ∀ x y, stored.at? ((Side.ofCode code).2.distance shown x y) ((Side.ofCode code).1.distance shown x y) =
    shown.at? x y

/-- The transform of a code makes what shows of what is stored, and of nothing else. -/
theorem showsAs_iff {code : Option Int} {stored shown : Grid α} :
    ShowsAs code stored shown ↔ stored.transformed (Transform.forCode code) = shown := by
  have sides := Side.ofCode_eq code
  dsimp only at sides
  rw [Grid.transformed_eq_laid]
  generalize (Transform.forCode code).swapsAxes = swap, (Transform.forCode code).mirrorsAcross = across,
    (Transform.forCode code).mirrorsDown = down at sides ⊢
  constructor
  · rintro ⟨hw, hh, cells⟩
    rw [sides] at hw hh cells
    have sizes : (stored.laid swap across down).width = shown.width ∧
        (stored.laid swap across down).height = shown.height := by
      cases swap <;> cases across <;> cases down <;> exact ⟨by assumption, by assumption⟩
    refine Grid.ext_at? sizes.1 sizes.2 fun x y _ => ?_
    rw [← cells, Grid.at?_laid, sizes.1, sizes.2]
    cases swap <;> cases across <;> cases down <;> rfl
  · rintro rfl
    refine ⟨?_, ?_, fun x y => ?_⟩
    · rw [sides]
      cases swap <;> cases across <;> cases down <;> rfl
    · rw [sides]
      cases swap <;> cases across <;> cases down <;> rfl
    · rw [sides, Grid.at?_laid]
      cases swap <;> cases across <;> cases down <;> rfl

/-- Every image can be stored under every code. -/
theorem exists_showsAs (code : Option Int) (shown : Grid α) : ∃ stored, ShowsAs code stored shown := by
  simp only [showsAs_iff, Grid.transformed_eq_laid]
  generalize (Transform.forCode code).swapsAxes = swap, (Transform.forCode code).mirrorsAcross = across,
    (Transform.forCode code).mirrorsDown = down
  -- undone from the last exchange to the first
  refine ⟨(shown.laid false across down).laid swap false false, Grid.ext_at? ?_ ?_ fun x y _ => ?_⟩
  · cases swap <;> simp
  · cases swap <;> simp
  · cases swap <;> cases across <;> cases down <;> simp [Grid.at?_laid]

end Darkroom
