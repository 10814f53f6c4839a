import Darkroom.Orientation
/-!
# Pixel grids

A rectangle of cells, row by row from the top. The turns and the mirror image are said cell by
cell: where each cell of the result comes from.
-/

namespace Darkroom

structure Grid (α : Type) where
  width : Nat
  height : Nat
  cells : Array α
  size_eq : cells.size = width * height
deriving DecidableEq

namespace Grid

variable {α β : Type}

/-- The cell in column `x` and row `y`. -/
def get (g : Grid α) (x : Fin g.width) (y : Fin g.height) : α :=
  have bound : y.val * g.width + x.val < g.cells.size := by
    rw [g.size_eq]
    calc y.val * g.width + x.val < y.val * g.width + g.width := by omega
      _ = (y.val + 1) * g.width := by rw [Nat.add_mul, Nat.one_mul]
      _ ≤ g.height * g.width := Nat.mul_le_mul_right _ y.isLt
      _ = g.width * g.height := Nat.mul_comm _ _
  g.cells[y.val * g.width + x.val]

/-- The cell at a place that may lie outside. -/
def at? (g : Grid α) (x y : Int) : Option α :=
  if h : (0 ≤ x ∧ x < g.width) ∧ (0 ≤ y ∧ y < g.height) then
    some (g.get ⟨x.toNat, by omega⟩ ⟨y.toNat, by omega⟩)
  else none

def ofFn (width height : Nat) (f : Fin width → Fin height → α) : Grid α where
  width := width
  height := height
  cells := Array.ofFn fun i : Fin (width * height) =>
    have positive : 0 < width := Nat.pos_of_mul_pos_right (Nat.zero_lt_of_lt i.isLt)
    f ⟨i.val % width, Nat.mod_lt _ positive⟩ ⟨i.val / width, Nat.div_lt_of_lt_mul i.isLt⟩
  size_eq := Array.size_ofFn

def map (f : α → β) (g : Grid α) : Grid β where
  width := g.width
  height := g.height
  cells := g.cells.map f
  size_eq := by simp [g.size_eq]

def fill (width height : Nat) (a : α) : Grid α where
  width := width
  height := height
  cells := Array.replicate (width * height) a
  size_eq := Array.size_replicate

/-- The cells of each row, from the top. -/
def rows (g : Grid α) : List (List α) :=
  (List.range g.height).map fun y =>
    (g.cells.extract (y * g.width) ((y + 1) * g.width)).toList

/-! ## Turning -/

/-- What can be done to a grid as a whole. These turns go counter-clockwise. -/
inductive Rearrangement
  | mirror
  | turn90
  | turn180
  | turn270
deriving DecidableEq, Repr

def rearranged (g : Grid α) : Rearrangement → Grid α
  | .mirror => ofFn g.width g.height fun x y => g.get x.rev y
  | .turn90 => ofFn g.height g.width fun x y => g.get y.rev x
  | .turn180 => ofFn g.width g.height fun x y => g.get x.rev y.rev
  | .turn270 => ofFn g.height g.width fun x y => g.get y x.rev

/-- The rearrangement that makes a clockwise turn. -/
def Rearrangement.ofTurn? : Turn → Option Rearrangement
  | .none => none
  | .quarter => some .turn270
  | .half => some .turn180
  | .threeQuarters => some .turn90

/-- Left and right are exchanged first, if they are, and the turn follows. -/
def transformed (g : Grid α) (t : Transform) : Grid α :=
  let g := if t.flip then g.rearranged .mirror else g
  match Rearrangement.ofTurn? t.turn with
  | some how => g.rearranged how
  | none => g

/-! ## Cutting -/

/-- A rectangle with its upper left corner anywhere; places outside the grid are blank. -/
def cut (g : Grid α) (left upper : Int) (width height : Nat) (blank : α) : Grid α :=
  ofFn width height fun x y => (g.at? (left + x.val) (upper + y.val)).getD blank

end Grid

end Darkroom
