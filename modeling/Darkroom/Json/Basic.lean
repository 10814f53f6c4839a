import Darkroom.Binary64.Text
/-!
# JSON values

Integers and reals are kept apart, and an object keeps the order in which its fields came.
-/

namespace Darkroom

inductive Json
  | null
  | bool (b : Bool)
  | int (n : Int)
  | real (x : Binary64)
  | string (s : String)
  | array (items : List Json)
  | object (fields : List (String × Json))
deriving Repr, Inhabited

namespace Json

/-- The value of the last field of that name. -/
def field? (key : String) : Json → Option Json
  | object fields => (fields.reverse.find? (·.1 == key)).map (·.2)
  | _ => none

def isNull : Json → Bool
  | null => true
  | _ => false

def string? : Json → Option String
  | string s => some s
  | _ => none

def int? : Json → Option Int
  | int n => some n
  | _ => none

def bool? : Json → Option Bool
  | bool b => some b
  | _ => none

def array? : Json → Option (List Json)
  | array xs => some xs
  | _ => none

def fields? : Json → Option (List (String × Json))
  | object fs => some fs
  | _ => none

end Json

/-- Named values in order, each name once. -/
abbrev Attributes := List (String × Json)

namespace Attributes

def get? (a : Attributes) (key : String) : Option Json :=
  a.lookup key

/-- A name that is present keeps its place; a new one goes to the end. -/
def set (a : Attributes) (key : String) (value : Json) : Attributes :=
  if a.any (·.1 == key) then a.map fun f => if f.1 == key then (key, value) else f
  else a ++ [(key, value)]

/-- Every value of `b` written over `a`, in `b`'s order. -/
def merge (a b : Attributes) : Attributes :=
  b.foldl (fun acc f => acc.set f.1 f.2) a

end Attributes

end Darkroom
