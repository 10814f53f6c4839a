import Darkroom.Json.Basic
import Mathlib.Tactic.Common
/-!
# Named values

What is found under a name once values have been set, taken away or written over.
-/

namespace Darkroom

/-- A name that gets a new value in front. -/
theorem lookup_replaced {α : Type} (all : List (String × α)) (name : String) (a : α) (other : String) :
    List.lookup other ((name, a) :: all.filter (·.1 != name)) = if other = name then some a else all.lookup other := by
  rw [List.lookup_cons]
  by_cases h : other = name
  · rw [beq_iff_eq.2 h, if_pos h]
  · rw [beq_eq_false_iff_ne.2 h, if_neg h]
    dsimp only
    induction all with
    | nil => rfl
    | cons f all ih =>
      rw [List.filter_cons, List.lookup_cons]
      by_cases here : f.1 = name
      · rw [if_neg (by simp [here]), ih, here, beq_eq_false_iff_ne.2 h]
      · rw [if_pos (by simp [here]), List.lookup_cons, ih]

namespace Attributes

theorem get?_nil (name : String) : get? [] name = none := rfl

theorem get?_cons (f : String × Json) (a : Attributes) (name : String) :
    get? (f :: a) name = if name = f.1 then some f.2 else get? a name := by
  rw [get?, List.lookup_cons, get?]
  by_cases h : name = f.1
  · rw [beq_iff_eq.2 h, if_pos h]
  · rw [beq_eq_false_iff_ne.2 h, if_neg h]

theorem get?_append (a b : Attributes) (name : String) : get? (a ++ b) name = (get? a name).or (get? b name) :=
  List.lookup_append

theorem any_eq_isSome_get? (a : Attributes) (key : String) : a.any (·.1 == key) = (a.get? key).isSome := by
  induction a with
  | nil => rfl
  | cons f a ih =>
    rw [List.any_cons, ih, get?_cons]
    by_cases h : f.1 = key
    · simp [h]
    · simp [h, Ne.symm h]

theorem get?_replaced (a : Attributes) (key : String) (value : Json) (name : String) :
    get? (a.map fun f => if f.1 == key then (key, value) else f) name =
      if name = key then (a.get? key).map fun _ => value else a.get? name := by
  induction a with
  | nil => simp [get?]
  | cons f a ih =>
    rw [List.map_cons, get?_cons, ih, get?_cons, get?_cons]
    by_cases here : f.1 = key
    · by_cases h : name = key <;> simp [here, h]
    · by_cases h : name = key
      · simp [here, h, Ne.symm here]
      · simp [here, h]

theorem get?_set (a : Attributes) (key : String) (value : Json) (name : String) :
    (a.set key value).get? name = if name = key then some value else a.get? name := by
  unfold set
  rw [any_eq_isSome_get?]
  split
  · next present =>
    obtain ⟨old, there⟩ := Option.isSome_iff_exists.1 present
    rw [get?_replaced, there, Option.map_some]
  · next absent =>
    rw [Bool.not_eq_true, Option.isSome_eq_false_iff, Option.isNone_iff_eq_none] at absent
    rw [get?_append, get?_cons]
    by_cases h : name = key
    · simp [h, absent]
    · simp [h, get?]

/-- Of what is written over, the last counts. -/
theorem get?_merge (a b : Attributes) (name : String) :
    (a.merge b).get? name = (get? b.reverse name).or (a.get? name) := by
  unfold merge
  induction b generalizing a with
  | nil => rfl
  | cons f b ih =>
    rw [List.foldl_cons, ih, get?_set, List.reverse_cons, get?_append, get?_cons, Option.or_assoc]
    by_cases h : name = f.1 <;> simp [h, get?]

/-- Without an entry. -/
def erase (a : Attributes) (key : String) : Attributes := a.filter (·.1 != key)

theorem get?_erase (a : Attributes) (key name : String) :
    (a.erase key).get? name = if name = key then none else a.get? name := by
  unfold erase
  induction a with
  | nil => simp [get?]
  | cons f a ih =>
    rw [List.filter_cons, get?_cons]
    by_cases here : f.1 = key
    · rw [if_neg (by simp [here]), ih]
      by_cases h : name = key <;> simp [here, h]
    · rw [if_pos (by simp [here]), get?_cons, ih]
      by_cases h : name = key
      · simp [h, Ne.symm here]
      · simp [h]

end Attributes

end Darkroom
