import Darkroom.Service.Upload
import Mathlib.Data.List.Basic
import Mathlib.Data.List.TakeWhile
import Mathlib.Data.Nat.Digits.Defs
/-!
# What reading an upload comes to

A declared length is a number, no number, or a text that passes for a number and cannot be read as one (`Told`). With
that, an upload is refused for its declared length, refused for its real length, or read as a whole (`Settled`).
`read_exact`: which of these happens can be read off the request.
-/

namespace Darkroom

namespace Upload

/-! ## Numbers in decimal digits -/

def digitValue (c : Char) : Nat := c.toNat - 48

theorem decimal_eq_ofDigits (digits : List Char) :
    Text.decimal digits = Nat.ofDigits 10 (digits.reverse.map digitValue) := by
  rw [Nat.ofDigits_eq_foldr, List.foldr_map, List.foldr_reverse]
  simp only [Nat.cast_id, Nat.add_comm (digitValue _)]
  rfl

/-- A text of decimal digits and nothing else, with the number it stands for. -/
structure Spells (text : String) (n : Nat) : Prop where
  nonempty : text.toList ≠ []
  digits : ∀ c ∈ text.toList, c.isDigit
  value : Nat.ofDigits 10 (text.toList.reverse.map digitValue) = n

theorem Spells.unique {text : String} {n n' : Nat} (h : Spells text n) (h' : Spells text n') : n = n' :=
  h.value.symm.trans h'.value

/-- A text that passes for a number and cannot be read as one: it has a superscript, or too many digits. -/
structure Garbled (text : String) : Prop where
  nonempty : text.toList ≠ []
  digits : ∀ c ∈ text.toList, isDigit c
  unreadable : (∃ c ∈ text.toList, ¬ c.isDigit) ∨ Text.digitLimit < text.toList.length

/-- How a declared length is told. -/
inductive Told (text : String) : Except Failure (Option Nat) → Prop
  | number {n} (spelled : Spells text n) (readable : ¬ Garbled text) : Told text (.ok (some n))
  | nothing (unspelled : ∀ n, ¬ Spells text n) (readable : ¬ Garbled text) : Told text (.ok none)
  | garbled {f} (h : Garbled text) (kind : f.kind = .value) : Told text (.error f)

theorem declaredLength_told (text : String) : Told text (declaredLength text) := by
  unfold declaredLength
  extract_lets cs leading
  have short : leading.length ≤ cs.length := (List.takeWhile_prefix _).length_le
  -- a text that passes for a number has a superscript where its leading digits end
  have whole : leading.length = cs.length ↔ ∀ c ∈ cs, c.isDigit := by
    rw [← List.takeWhile_eq_self_iff]
    exact ⟨(List.takeWhile_prefix _).eq_of_length, congrArg List.length⟩
  by_cases passes : cs.isEmpty ∨ !cs.all isDigit
  · rw [if_pos passes]
    have unlike : cs ≠ [] → ¬ ∀ c ∈ cs, isDigit c := by
      simpa [or_iff_not_imp_left] using passes
    refine .nothing (fun n spelled => unlike spelled.nonempty ?_) (fun h => unlike h.nonempty h.digits)
    intro c hc
    rw [isDigit, spelled.digits c hc, Bool.true_or]
  · rw [if_neg passes]
    obtain ⟨nonempty, digits⟩ : cs ≠ [] ∧ ∀ c ∈ cs, isDigit c := by simpa [not_or] using passes
    by_cases long : Text.digitLimit < leading.length
    · rw [if_pos long]
      exact .garbled ⟨nonempty, digits, .inr (long.trans_le short)⟩ rfl
    rw [if_neg long]
    by_cases cut : leading.length < cs.length
    · rw [if_pos cut]
      have superscript : ∃ c ∈ cs, ¬ c.isDigit := by simpa using mt whole.2 cut.ne
      exact .garbled ⟨nonempty, digits, .inl superscript⟩ rfl
    · rw [if_neg cut]
      have same := short.antisymm (Nat.not_lt.1 cut)
      refine .number ⟨nonempty, whole.1 same, (decimal_eq_ofDigits cs).symm⟩ ?_
      rintro ⟨-, -, ⟨c, hc, superscript⟩ | many⟩
      · exact superscript (whole.1 same c hc)
      · exact long (same ▸ many)

/-! ## Uploads -/

section
variable (limit : Int) (r : Http.Request)

/-- The declared length is a number above the limit. -/
def DeclaresOver : Prop := ∃ text n, r.header? "Content-Length" = some text ∧ Spells text n ∧ limit < n

/-- The declared length passes for a number and cannot be read as one. -/
def Unreadable : Prop := ∃ text, r.header? "Content-Length" = some text ∧ Garbled text

/-- How an upload can end. Nothing of it is read if its declared length is refused. -/
inductive Settled : Reading → Prop
  | unreadable {f} (h : Unreadable r) (kind : f.kind = .value) : Settled ⟨.error f, r.parts.length⟩
  | declaredOver {text n} (readable : ¬ Unreadable r) (declared : r.header? "Content-Length" = some text)
      (spelled : Spells text n) (above : limit < n) : Settled ⟨.error (overLimit n limit), r.parts.length⟩
  | tooLong (readable : ¬ Unreadable r) (undeclared : ¬ DeclaresOver limit r) (above : limit < r.parts.flatten.length) :
      Settled ⟨.error (overLimit r.parts.flatten.length limit), 0⟩
  | whole (readable : ¬ Unreadable r) (undeclared : ¬ DeclaresOver limit r) (within : r.parts.flatten.length ≤ limit) :
      Settled ⟨.ok r.parts.flatten, 0⟩

variable {limit r}

theorem readParts_settled (readable : ¬ Unreadable r) (undeclared : ¬ DeclaresOver limit r) :
    Settled limit r (readParts limit r) := by
  unfold readParts
  extract_lets data
  split
  · next above => exact .tooLong readable undeclared above
  · next within => exact .whole readable undeclared (Int.not_lt.1 within)

theorem Settled.invalid {reading : Reading} (settled : Settled limit r reading) (unreadable : Unreadable r) :
    ∃ f, reading.outcome = .error f ∧ f.kind = .value := by
  cases settled with
  | unreadable h kind => exact ⟨_, rfl, kind⟩
  | declaredOver readable | tooLong readable | whole readable => exact absurd unreadable readable

variable (limit r)

theorem read_settled : Settled limit r (read limit r) := by
  unfold read declared
  cases header : r.header? "Content-Length" with
  | none =>
    exact readParts_settled (fun ⟨text, declared, _⟩ => by simp [header] at declared)
      (fun ⟨text, n, declared, _⟩ => by simp [header] at declared)
  | some text =>
    have unreadable_iff : Unreadable r ↔ Garbled text := by simp [Unreadable, header]
    have over_iff : DeclaresOver limit r ↔ ∃ n, Spells text n ∧ limit < n := by simp [DeclaresOver, header]
    have told := declaredLength_told text
    dsimp only
    generalize declaredLength text = length at told ⊢
    cases told with
    | @number n spelled readable =>
      have declared : DeclaresOver limit r ↔ limit < n :=
        over_iff.trans ⟨fun ⟨n', spelled', above⟩ => spelled.unique spelled' ▸ above, fun above => ⟨n, spelled, above⟩⟩
      dsimp only
      split
      · next above => exact .declaredOver (mt unreadable_iff.1 readable) header spelled above
      · next within => exact readParts_settled (mt unreadable_iff.1 readable) (mt declared.1 within)
    | nothing unspelled readable =>
      exact readParts_settled (mt unreadable_iff.1 readable) (mt over_iff.1 fun ⟨n, spelled, _⟩ => unspelled n spelled)
    | garbled h kind => exact .unreadable (unreadable_iff.2 h) kind

/-- An upload is read as a whole if and only if its declared length can be read, is not a number above the limit, and
all of it is within the limit. Otherwise it is too big, unless its declared length cannot be read, which is the only
other failure. Nothing is read of an upload that is refused for its declared length. -/
theorem read_exact :
    (∀ data, (read limit r).outcome = .ok data ↔
      ¬ Unreadable r ∧ ¬ DeclaresOver limit r ∧ r.parts.flatten = data ∧ data.length ≤ limit) ∧
    ((∃ f, (read limit r).outcome = .error f ∧ f.kind = .tooBig) ↔
      ¬ Unreadable r ∧ (DeclaresOver limit r ∨ limit < r.parts.flatten.length)) ∧
    ((∃ f, (read limit r).outcome = .error f ∧ f.kind = .value) ↔ Unreadable r) ∧
    (Unreadable r ∨ DeclaresOver limit r → (read limit r).unread = r.parts.length) ∧
    (¬ Unreadable r → ¬ DeclaresOver limit r → (read limit r).unread = 0) := by
  have settled := read_settled limit r
  generalize read limit r = reading at settled ⊢
  cases settled with
  | unreadable h kind => simp [h, kind]
  | declaredOver readable declared spelled above =>
    have declares : DeclaresOver limit r := ⟨_, _, declared, spelled, above⟩
    simp [readable, declares, overLimit, Failure.tooBig]
  | tooLong readable undeclared above =>
    simp [readable, undeclared, overLimit, Failure.tooBig, above, -List.length_flatten]
  | whole readable undeclared within =>
    simp [readable, undeclared, within, -List.length_flatten]

end

/-- A superscript passes for a number, and a short upload is not read. -/
theorem superscript_not_read :
    let r : Http.Request := ⟨"POST", "/v1/info", "", [("Content-Length", "³")], [[1, 2, 3], [4, 5, 6]]⟩
    ¬ DeclaresOver 6 r ∧ r.parts.flatten.length ≤ (6 : Int) ∧ (read 6 r).outcome ≠ .ok r.parts.flatten ∧
      ∃ f, (read 6 r).outcome = .error f ∧ f.kind = .value := by
  intro r
  have header : r.header? "Content-Length" = some "³" := by decide +kernel
  have digits : ∀ c ∈ "³".toList, isDigit c := List.forall_mem_singleton.2 (by decide)
  have unreadable : Unreadable r := ⟨"³", header, by decide, digits, .inl ⟨'³', by decide, by decide⟩⟩
  obtain ⟨f, refused, kind⟩ := (read_settled 6 r).invalid unreadable
  refine ⟨?_, by decide, by rw [refused]; rintro ⟨⟩, f, refused, kind⟩
  rintro ⟨text, n, declared, spelled, -⟩
  obtain rfl := Option.some.inj (header.symm.trans declared)
  exact absurd (spelled.digits '³' (by decide)) (by decide)

end Upload

end Darkroom
