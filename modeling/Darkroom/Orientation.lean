/-!
# Orientation

An orientation code from 1 to 8 says how stored pixels are turned to stand upright. A
`Transform` mirrors first and turns clockwise afterwards; `Transform.forCode` gives the one
for each code and `upright` the size that results.
-/

namespace Darkroom

/-- A clockwise turn by a multiple of a right angle. -/
inductive Turn
  | none
  | quarter
  | half
  | threeQuarters
deriving DecidableEq, Repr, Inhabited

namespace Turn

def degrees : Turn → Int
  | none => 0
  | quarter => 90
  | half => 180
  | threeQuarters => 270

def ofDegrees? (d : Int) : Option Turn :=
  [none, quarter, half, threeQuarters].find? (·.degrees == d)

def swapsAxes : Turn → Bool
  | quarter | threeQuarters => true
  | none | half => false

end Turn

/-- Mirror left to right if `flip`, then turn. -/
structure Transform where
  turn : Turn := .none
  flip : Bool := false
deriving DecidableEq, Repr, Inhabited

namespace Transform

def identity : Transform := {}

def isIdentity (t : Transform) : Bool := t == identity

def swapsAxes (t : Transform) : Bool := t.turn.swapsAxes

/-- A code that is missing or not one of the eight counts as upright. -/
def forCode : Option Int → Transform
  | some 2 => { flip := true }
  | some 3 => { turn := .half }
  | some 4 => { turn := .half, flip := true }
  | some 5 => { turn := .threeQuarters, flip := true }
  | some 6 => { turn := .quarter }
  | some 7 => { turn := .quarter, flip := true }
  | some 8 => { turn := .threeQuarters }
  | _ => identity

end Transform

/-- The code itself if it is one of the eight, otherwise the code of an upright image. -/
def orientationOrUpright : Option Int → Int
  | some c => if 1 ≤ c ∧ c ≤ 8 then c else 1
  | none => 1

end Darkroom
