import Darkroom.Json.Basic
/-!
# Validation

Values from outside are checked field by field. A field that is wrong draws one complaint, and
the fields of a record are all checked, so that every complaint is told in one go.
-/

namespace Darkroom

namespace Validation

inductive Complaint
  | missing
  | notAnInteger
  | unreadableInteger
  | oversizedInteger
  | fraction
  | notFinite
  | notABoolean
  | unreadableBoolean
  | notAText
  /-- The value is none of those told. -/
  | notOneOf (choices : List String)
  | below (least : Int)
  | above (greatest : Int)
deriving DecidableEq, Repr, Inhabited

namespace Complaint

def label : Complaint → String
  | missing => "missing"
  | notAnInteger => "int_type"
  | unreadableInteger => "int_parsing"
  | oversizedInteger => "int_parsing_size"
  | fraction => "int_from_float"
  | notFinite => "finite_number"
  | notABoolean => "bool_type"
  | unreadableBoolean => "bool_parsing"
  | notAText => "string_type"
  | notOneOf _ => "literal_error"
  | below _ => "greater_than_equal"
  | above _ => "less_than_equal"

/-- Commas between choices, and a word before the last. -/
def listed : List String → String
  | [] => ""
  | [a] => a
  | [a, b] => a ++ " or " ++ b
  | a :: rest => a ++ ", " ++ listed rest

def message : Complaint → String
  | missing => "Field required"
  | notAnInteger => "Input should be a valid integer"
  | unreadableInteger => "Input should be a valid integer, unable to parse string as an integer"
  | oversizedInteger => "Unable to parse input string as an integer, exceeded maximum size"
  | fraction => "Input should be a valid integer, got a number with a fractional part"
  | notFinite => "Input should be a finite number"
  | notABoolean => "Input should be a valid boolean"
  | unreadableBoolean => "Input should be a valid boolean, unable to interpret input"
  | notAText => "Input should be a valid string"
  | notOneOf choices => "Input should be " ++ listed (choices.map fun c => "'" ++ c ++ "'")
  | below least => s!"Input should be greater than or equal to {least}"
  | above greatest => s!"Input should be less than or equal to {greatest}"

/-- The bound that was passed over, under its name. -/
def bound? : Complaint → Option (String × Int)
  | below least => some ("ge", least)
  | above greatest => some ("le", greatest)
  | _ => none

end Complaint

/-- A complaint about a field and the value it is about, if there was one. -/
structure Issue where
  field : String
  complaint : Complaint
  value : Option Json
deriving Repr, Inhabited

/-! ## Checking records -/

inductive Checked (α : Type)
  | ok (a : α)
  | issues (all : List Issue)
deriving Repr

namespace Checked

variable {α β : Type}

def map (f : α → β) : Checked α → Checked β
  | ok a => ok (f a)
  | issues all => issues all

/-- Both sides are checked whatever comes of the first. -/
def and : Checked (α → β) → Checked α → Checked β
  | ok f, ok a => ok (f a)
  | ok _, issues all => issues all
  | issues all, ok _ => issues all
  | issues before, issues all => issues (before ++ all)

instance : Applicative Checked where
  pure := ok
  seq f a := and f (a ())

end Checked

/-- What a value must be like, and what is made of it. -/
abbrev Rule (α : Type) := Json → Except Complaint α

/-- The field's value under a rule; a field that is missing has its default, if there is one. -/
def field {α : Type} (name : String) (rule : Rule α) (value : Option Json)
    (default : Option α := none) : Checked α :=
  match value, default with
  | none, some a => .ok a
  | none, none => .issues [⟨name, .missing, none⟩]
  | some v, _ =>
    match rule v with
    | .ok a => .ok a
    | .error c => .issues [⟨name, c, some v⟩]

end Validation

end Darkroom
