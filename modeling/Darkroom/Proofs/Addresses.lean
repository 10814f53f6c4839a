import Darkroom.Http.Message
import Darkroom.Proofs.Work
import Mathlib.Data.List.TakeDrop
import Mathlib.Tactic.SplitIfs
/-!
# Paths of addresses

An address that makes no sense is an invalid value (`path_error`). One that does leads to the path of the request itself
where nothing stands in the way of it (`addressedPath_of_plain`).
-/

namespace Darkroom

namespace Http

namespace Address

/-! ## Addresses without sense -/

theorem checkNumbers_error {cs : List Char} {f : Failure} (h : checkNumbers cs = .error f) : f.kind = .value := by
  unfold checkNumbers at h
  split_ifs at h <;> cases h <;> rfl

theorem checkBrackets_error {host : List Char} {f : Failure} (h : checkBrackets host = .error f) : f.kind = .value := by
  unfold checkBrackets at h
  split at h
  · cases h
  · exact checkNumbers_error h
  · cases h
    rfl

theorem checkHost_error {host : List Char} {f : Failure} (h : checkHost host = .error f) : f.kind = .value := by
  rcases bind_error h with brackets | ⟨-, -, h⟩
  · exact checkBrackets_error brackets
  · split_ifs at h <;> cases h
    rfl

theorem path_error {address : String} {f : Failure} (h : path address = .error f) : f.kind = .value := by
  rcases bind_error h with unchecked | ⟨-, -, h⟩
  · exact checkHost_error unchecked
  · cases h

/-! ## Plain addresses -/

/-- A host in which nothing is looked at: it has no brackets and no character that stands for others. -/
theorem checkHost_of_plain {host : List Char} (opening : '[' ∉ host) (closing : ']' ∉ host)
    (plain : ∀ c ∈ host, c ∉ equivocal) : checkHost host = .ok () := by
  have noOpening : host.contains '[' = false := by simpa using opening
  have noClosing : host.contains ']' = false := by simpa using closing
  have unequivocal : host.any (equivocal.contains ·) = false := by simpa using plain
  rw [checkHost, checkBrackets, noOpening, noClosing, unequivocal]
  rfl

end Address

namespace Request

/-- A host that ends with itself and in which nothing is looked at, and a path that begins at the root and has no end. -/
structure Plain (r : Request) : Prop where
  host : ∀ c ∈ r.host.toList, c ∉ ['[', ']', '/', '?', '#', '\t', '\n', '\r'] ∧ c ∉ Address.equivocal
  root : r.path.toList.head? = some '/'
  path : ∀ c ∈ r.path.toList, c ∉ ['?', '#', '\t', '\n', '\r']

open Address in
theorem addressedPath_of_plain {r : Request} (plain : r.Plain) : r.addressedPath = .ok r.path := by
  obtain ⟨others, root⟩ : ∃ others, r.path.toList = '/' :: others := List.head?_eq_some_iff.1 plain.root
  have hostKept : ∀ c ∈ r.host.toList, !isDropped c := fun c hc => by
    have := (plain.host c hc).1
    simp_all [isDropped]
  have hostOn : ∀ c ∈ r.host.toList, !endsHost c := fun c hc => by
    have := (plain.host c hc).1
    simp_all [endsHost, endsPath]
  have pathKept : ∀ c ∈ r.path.toList, !isDropped c := fun c hc => by
    have := plain.path c hc
    simp_all [isDropped]
  have pathOn : ∀ c ∈ r.path.toList, !endsPath c := fun c hc => by
    have := plain.path c hc
    simp_all [endsPath]
  -- a query ends the path, and so does nothing at all
  obtain ⟨query, kept, nothing⟩ : ∃ query, (r.location r.path).toList.filter (!isDropped ·) =
      r.host.toList ++ (r.path.toList ++ query) ∧ query.takeWhile (!endsPath ·) = [] := by
    refine ⟨(if r.query.isEmpty then "" else "?" ++ r.query).toList.filter (!isDropped ·), ?_, ?_⟩
    · rw [location, String.toList_append, String.toList_append, List.filter_append, List.filter_append,
        List.filter_eq_self.2 hostKept, List.filter_eq_self.2 pathKept, List.append_assoc]
    · split <;> simp [isDropped, endsPath]
  have host : (r.host.toList ++ (r.path.toList ++ query)).takeWhile (!endsHost ·) = r.host.toList := by
    rw [List.takeWhile_append_of_pos hostOn, root]
    simp [endsHost]
  have rest : (r.host.toList ++ (r.path.toList ++ query)).dropWhile (!endsHost ·) = r.path.toList ++ query := by
    rw [List.dropWhile_append_of_pos hostOn, root]
    simp [endsHost]
  have checked : checkHost r.host.toList = .ok () :=
    checkHost_of_plain (fun there => (plain.host _ there).1 (by decide)) (fun there => (plain.host _ there).1 (by decide))
      fun c hc => (plain.host c hc).2
  rw [addressedPath, Address.path, kept, List.span_eq_takeWhile_dropWhile, host, rest]
  simp only [checked, bind, Except.bind, List.takeWhile_append_of_pos pathOn, nothing, List.append_nil, String.ofList_toList]
  rfl

end Request

end Http

end Darkroom
