import Darkroom.Json.Reader
import Darkroom.Json.Writer
import Mathlib.Data.List.Basic
import Mathlib.Tactic.Common
/-!
# Written values are read back

Every character of a written text is read as the units that it was written in (`scanString_escapedChar`), and units join
to the characters that they came from (`joinUnits_units`), so no character of a text can end it. A value that holds no
reals is then read back from what is written of it, whatever comes after (`Whole.readsBack`).
-/

namespace Darkroom

namespace Json

/-! ## Texts -/

theorem hexValue?_hexDigit : ∀ n < 16, Bytes.hexValue? (Bytes.hexDigit n) = some n := by decide

theorem hexUnit?_hexDigit {n : Nat} (h : n < 0x10000) :
    hexUnit? (Bytes.hexDigit (n / 4096 % 16)) (Bytes.hexDigit (n / 256 % 16)) (Bytes.hexDigit (n / 16 % 16))
      (Bytes.hexDigit (n % 16)) = some n := by
  have digit : ∀ k, Bytes.hexValue? (Bytes.hexDigit (k % 16)) = some (k % 16) :=
    fun k => hexValue?_hexDigit _ (Nat.mod_lt k (by decide))
  have value : n / 4096 % 16 * 4096 + n / 256 % 16 * 256 + n / 16 % 16 * 16 + n % 16 = n := by omega
  simp [hexUnit?, digit, value]

theorem scanString_escapedUnit {n : Nat} (h : n < 0x10000) (units : List Nat) (more : List Char) :
    scanString units (escapedUnit n ++ more) = scanString (n :: units) more := by
  simp [escapedUnit, scanString, hexUnit?_hexDigit h]

theorem scanString_plain {c : Char} (quote : c ≠ '"') (backslash : c ≠ '\\') (printable : 0x20 ≤ c.toNat)
    (units : List Nat) (more : List Char) : scanString units (c :: more) = scanString (c.toNat :: units) more := by
  rw [scanString]
  · rw [if_neg (by omega)]
  all_goals grind

/-- The units that a character is written in, the last first. -/
def units (c : Char) : List Nat :=
  if c.toNat < 0x10000 then [c.toNat]
  else [0xDC00 + (c.toNat - 0x10000) % 0x400, 0xD800 + (c.toNat - 0x10000) / 0x400]

/-- No character is a surrogate. -/
theorem toNat_bounds (c : Char) : c.toNat < 0x110000 ∧ ¬ (0xD800 ≤ c.toNat ∧ c.toNat < 0xE000) := by
  have valid := c.valid
  simp only [UInt32.isValidChar, Nat.isValidChar] at valid
  show c.val.toNat < _ ∧ ¬ (_ ≤ c.val.toNat ∧ c.val.toNat < _)
  omega

theorem scanString_escapedChar (c : Char) (before : List Nat) (more : List Char) :
    scanString before (escapedChar c ++ more) = scanString (units c ++ before) more := by
  unfold escapedChar
  repeat' split
  -- the characters with short escapes
  all_goals try (subst c; rfl)
  · next quote backslash _ _ _ _ _ printable =>
    rw [units, if_pos (by omega)]
    exact scanString_plain quote backslash printable.1 before more
  · next basic =>
    rw [units, if_pos basic]
    exact scanString_escapedUnit basic before more
  · next beyond =>
    have inside := (toNat_bounds c).1
    rw [units, if_neg beyond, List.append_assoc, scanString_escapedUnit (by omega), scanString_escapedUnit (by omega)]
    rfl

theorem joinUnits_units (c : Char) (acc : List Char) (more : List Nat) :
    joinUnits acc (units c ++ more) = joinUnits (c :: acc) more := by
  obtain ⟨inside, whole⟩ := toNat_bounds c
  unfold units
  split
  -- whatever unit is next, one that is no surrogate is not joined with it
  · cases more with
    | nil => simp [joinUnits, whole, Char.ofNat_toNat]
    | cons high more =>
      rw [List.singleton_append, joinUnits, if_neg (by omega), if_neg whole, Char.ofNat_toNat]
  · next beyond =>
    have joined : 0x10000 + (0xD800 + (c.toNat - 0x10000) / 0x400 - 0xD800) * 0x400 +
        (0xDC00 + (c.toNat - 0x10000) % 0x400 - 0xDC00) = c.toNat := by omega
    rw [List.cons_append, List.singleton_append, joinUnits, if_pos (by omega), joined, Char.ofNat_toNat]

theorem scanString_written (cs : List Char) (before : List Nat) (rest : List Char) :
    scanString before (cs.flatMap escapedChar ++ '"' :: rest) = some (cs.reverse.flatMap units ++ before, rest) := by
  induction cs generalizing before with
  | nil => rfl
  | cons c cs ih =>
    rw [List.flatMap_cons, List.append_assoc, scanString_escapedChar, ih]
    simp

theorem joinUnits_written (cs acc : List Char) : joinUnits acc (cs.flatMap units) = cs.reverse ++ acc := by
  induction cs generalizing acc with
  | nil => rfl
  | cons c cs ih =>
    rw [List.flatMap_cons, joinUnits_units, ih]
    simp

theorem readString_written (s : String) (rest : List Char) :
    readString (s.toList.flatMap escapedChar ++ '"' :: rest) = some (s, rest) := by
  simp [readString, scanString_written, joinUnits_written]

/-! ## Numbers -/

/-- No number goes on here. -/
def Ended (rest : List Char) : Prop := ∀ c ∈ rest.head?, isNumberChar c = false

theorem ended_cons {c : Char} (h : isNumberChar c = false) (rest : List Char) : Ended (c :: rest) := by
  rintro _ ⟨⟩
  exact h

theorem isNumberChar_of_isDigit {c : Char} (h : c.isDigit) : isNumberChar c := by simp [isNumberChar, h]

theorem Ended.readNumber {rest : List Char} (ended : Ended rest) (n : Nat) :
    readNumber (Nat.toDigits 10 n ++ rest) = some (int n, rest) ∧
    readNumber ('-' :: (Nat.toDigits 10 n ++ rest)) = some (int (-n), rest) := by
  have digits : ∀ c ∈ Nat.toDigits 10 n, c.isDigit := fun c => Nat.isDigit_of_mem_toDigits (by decide) (by decide)
  have goesOn : ∀ c ∈ Nat.toDigits 10 n, isNumberChar c := fun c hc => isNumberChar_of_isDigit (digits c hc)
  have stops : rest.takeWhile isNumberChar = [] ∧ rest.dropWhile isNumberChar = rest := by
    cases rest with
    | nil => exact ⟨rfl, rfl⟩
    | cons c rest => simp [ended c rfl]
  have text : (Nat.toDigits 10 n ++ rest).takeWhile isNumberChar = Nat.toDigits 10 n := by
    rw [List.takeWhile_append_of_pos goesOn, stops.1, List.append_nil]
  have left : (Nat.toDigits 10 n ++ rest).dropWhile isNumberChar = rest := by
    rw [List.dropWhile_append_of_pos goesOn, stops.2]
  have unsigned : ∀ r, Nat.toDigits 10 n ++ rest ≠ '-' :: r := by
    intro r same
    obtain ⟨d, ds, split⟩ := List.exists_cons_of_ne_nil (Nat.toDigits_ne_nil (n := n) (b := 10))
    rw [split, List.cons_append, List.cons.injEq] at same
    have digit := digits '-' (by simp [split, same.1])
    exact absurd digit (by decide)
  -- `unsigned` decides between the two ways to begin a number
  have nonempty : (Nat.toDigits 10 n).isEmpty = false := by simp [Nat.toDigits_ne_nil]
  have all : (Nat.toDigits 10 n).all Char.isDigit := List.all_eq_true.2 digits
  constructor
  · simp [Json.readNumber, text, left, nonempty, all, Nat.ofDigitChars_ten_toDigits]
  · simp [Json.readNumber, text, left, nonempty, all, Nat.ofDigitChars_ten_toDigits]

/-- The digits of an integer, with a sign in front if it has one. -/
theorem toList_toString (n : Int) :
    (toString n).toList = if 0 ≤ n then Nat.toDigits 10 n.toNat else '-' :: Nat.toDigits 10 (-n).toNat := by
  rw [Int.toString_eq_repr, Int.repr_eq_if]
  split <;> simp [Nat.repr_eq_ofList_toDigits]

theorem exists_cons_toString (n : Int) : ∃ c cs, (toString n).toList = c :: cs ∧ isNumberChar c := by
  rw [toList_toString]
  split
  · obtain ⟨c, cs, split⟩ := List.exists_cons_of_ne_nil (Nat.toDigits_ne_nil (n := n.toNat) (b := 10))
    have digit : c.isDigit := Nat.isDigit_of_mem_toDigits (by decide) (by decide) (split ▸ List.mem_cons_self)
    exact ⟨c, cs, split, isNumberChar_of_isDigit digit⟩
  · exact ⟨'-', _, rfl, by decide⟩

theorem readNumber_toString (n : Int) {rest : List Char} (ended : Ended rest) :
    readNumber ((toString n).toList ++ rest) = some (int n, rest) := by
  rw [toList_toString]
  split
  · next natural =>
    rw [(ended.readNumber n.toNat).1, Int.toNat_of_nonneg natural]
  · next negative =>
    rw [List.cons_append, (ended.readNumber (-n).toNat).2, Int.toNat_of_nonneg (by omega), Int.neg_neg]

/-! ## Values -/

theorem readValue_blank (fuel : Nat) (cs : List Char) : readValue fuel (' ' :: cs) = readValue fuel cs := by
  cases fuel <;> rfl

theorem readItems_blank (fuel : Nat) (acc : List Json) (cs : List Char) :
    readItems fuel acc (' ' :: cs) = readItems fuel acc cs := by
  cases fuel with
  | zero => rfl
  | succ fuel => rw [readItems, readValue_blank, readItems]

theorem readFields_blank (fuel : Nat) (acc : List (String × Json)) (cs : List Char) :
    readFields fuel acc (' ' :: cs) = readFields fuel acc cs := by
  cases fuel <;> rfl

/-- What begins like a number is read as one. -/
theorem readValue_number {c : Char} (number : isNumberChar c) (fuel : Nat) (cs : List Char) :
    readValue (fuel + 1) (c :: cs) = readNumber (c :: cs) := by
  have other : ∀ d, isNumberChar d = false → c ≠ d := fun d h same => by simp [same ▸ number] at h
  have solid : skipBlanks (c :: cs) = c :: cs := by
    refine List.dropWhile_cons_of_neg ?_
    simp [other ' ' (by decide), other '\n' (by decide), other '\r' (by decide), other '\t' (by decide)]
  rw [readValue, solid]
  split
  case h_7 => rfl
  all_goals
    next heads =>
    injection heads with head
    exact absurd head (other _ (by decide))

section
variable (fuel : Nat) {cs rest : List Char}

/-- No value begins with a bracket that closes. -/
theorem readValue_closing (closing : skipBlanks cs = ']' :: rest) : readValue fuel cs = none := by
  cases fuel with
  | zero => rfl
  | succ fuel =>
    rw [readValue, closing]
    rfl

theorem readItems_closing (acc : List Json) (closing : skipBlanks cs = ']' :: rest) : readItems fuel acc cs = none := by
  cases fuel with
  | zero => rfl
  | succ fuel => rw [readItems, readValue_closing fuel closing]

theorem readFields_closing (acc : List (String × Json)) (closing : skipBlanks cs = '\x7d' :: rest) :
    readFields fuel acc cs = none := by
  cases fuel with
  | zero => rfl
  | succ fuel =>
    rw [readFields, closing]
    rfl

end

/-- What is written of a value is read back as that value, up to where it ends. -/
def ReadsBack (j : Json) : Prop := ∀ (fuel : Nat) (rest : List Char), 2 * j.chars.length ≤ fuel → Ended rest →
  readValue fuel (j.chars ++ rest) = some (j, rest)

/-- No reals anywhere in a value. -/
inductive Whole : Json → Prop
  | null : Whole null
  | bool (b : Bool) : Whole (bool b)
  | int (n : Int) : Whole (int n)
  | string (s : String) : Whole (string s)
  | array {items : List Json} (each : ∀ x ∈ items, Whole x) : Whole (array items)
  | object {fields : List (String × Json)} (each : ∀ f ∈ fields, Whole f.2) : Whole (object fields)

section
variable {fuel : Nat} {x : Json} {more rest : List Char}

theorem readItems_next (acc : List Json) (read : readValue fuel more = some (x, ',' :: rest)) :
    readItems (fuel + 1) acc more = readItems fuel (x :: acc) rest := by
  simp [readItems, skipBlanks, read]

theorem readItems_last (acc : List Json) (read : readValue fuel more = some (x, ']' :: rest)) :
    readItems (fuel + 1) acc more = some ((x :: acc).reverse, rest) := by
  simp [readItems, skipBlanks, read]

variable (name : String) (acc : List (String × Json))

theorem readFields_next (read : readValue fuel more = some (x, ',' :: rest)) :
    readFields (fuel + 1) acc (quoted name ++ ':' :: ' ' :: more) = readFields fuel ((name, x) :: acc) rest := by
  simp [quoted, readFields, skipBlanks, readString_written, readValue_blank, read]

theorem readFields_last (read : readValue fuel more = some (x, '\x7d' :: rest)) :
    readFields (fuel + 1) acc (quoted name ++ ':' :: ' ' :: more) = some (((name, x) :: acc).reverse, rest) := by
  simp [quoted, readFields, skipBlanks, readString_written, readValue_blank, read]

end

theorem readItems_written {items : List Json} (nonempty : items ≠ []) (each : ∀ x ∈ items, ReadsBack x) {fuel : Nat}
    (enough : 2 * (itemChars items).length + 1 ≤ fuel) (acc : List Json) (rest : List Char) :
    readItems fuel acc (itemChars items ++ ']' :: rest) = some (acc.reverse ++ items, rest) := by
  induction items generalizing fuel acc with
  | nil => exact absurd rfl nonempty
  | cons x items ih =>
    obtain ⟨first, others⟩ := List.forall_mem_cons.1 each
    obtain ⟨fuel, rfl⟩ := Nat.exists_eq_add_one_of_ne_zero (by omega : fuel ≠ 0)
    cases items with
    | nil =>
      rw [itemChars] at enough ⊢
      rw [readItems_last acc (first fuel (']' :: rest) (by omega) (ended_cons (by decide) rest)), List.reverse_cons]
    | cons y items =>
      simp only [itemChars, List.length_append, List.length_cons] at enough
      have read := first fuel (',' :: ' ' :: (itemChars (y :: items) ++ ']' :: rest)) (by omega)
        (ended_cons (by decide) _)
      have written : itemChars (x :: y :: items) ++ ']' :: rest =
          x.chars ++ ',' :: ' ' :: (itemChars (y :: items) ++ ']' :: rest) := by simp [itemChars]
      rw [written, readItems_next acc read, readItems_blank, ih (List.cons_ne_nil y items) others (by omega)]
      simp

theorem readFields_written {fields : List (String × Json)} (nonempty : fields ≠ []) (each : ∀ f ∈ fields, ReadsBack f.2)
    {fuel : Nat} (enough : 2 * (fieldChars fields).length + 1 ≤ fuel) (acc : List (String × Json)) (rest : List Char) :
    readFields fuel acc (fieldChars fields ++ '\x7d' :: rest) = some (acc.reverse ++ fields, rest) := by
  induction fields generalizing fuel acc with
  | nil => exact absurd rfl nonempty
  | cons f fields ih =>
    obtain ⟨name, x⟩ := f
    obtain ⟨(first : ReadsBack x), others⟩ := List.forall_mem_cons.1 each
    obtain ⟨fuel, rfl⟩ := Nat.exists_eq_add_one_of_ne_zero (by omega : fuel ≠ 0)
    cases fields with
    | nil =>
      simp only [fieldChars, List.length_append, List.length_cons] at enough
      have read := first fuel ('\x7d' :: rest) (by omega) (ended_cons (by decide) rest)
      rw [fieldChars, List.append_assoc, List.cons_append, List.cons_append, readFields_last name acc read,
        List.reverse_cons]
    | cons g fields =>
      simp only [fieldChars, List.length_append, List.length_cons] at enough
      have read := first fuel (',' :: ' ' :: (fieldChars (g :: fields) ++ '\x7d' :: rest)) (by omega)
        (ended_cons (by decide) _)
      have written : fieldChars ((name, x) :: g :: fields) ++ '\x7d' :: rest = quoted name ++ ':' :: ' ' ::
          (x.chars ++ ',' :: ' ' :: (fieldChars (g :: fields) ++ '\x7d' :: rest)) := by simp [fieldChars]
      rw [written, readFields_next name acc read, readFields_blank, ih (List.cons_ne_nil g fields) others (by omega)]
      simp

section
variable {fuel : Nat} {inner rest : List Char}

/-- Items that can be read do not begin where the array ends. -/
theorem readValue_array {items : List Json} (read : readItems fuel [] inner = some (items, rest)) :
    readValue (fuel + 1) ('[' :: inner) = some (array items, rest) := by
  have solid : skipBlanks ('[' :: inner) = '[' :: inner := rfl
  -- so the array is not taken for an empty one
  have inside : ∀ r, skipBlanks inner = ']' :: r → False := by
    intro r closing
    rw [readItems_closing fuel [] closing] at read
    cases read
  simp [readValue, solid, read]

theorem readValue_object {fields : List (String × Json)} (read : readFields fuel [] inner = some (fields, rest)) :
    readValue (fuel + 1) ('\x7b' :: inner) = some (object fields, rest) := by
  have solid : skipBlanks ('\x7b' :: inner) = '\x7b' :: inner := rfl
  have inside : ∀ r, skipBlanks inner = '\x7d' :: r → False := by
    intro r closing
    rw [readFields_closing fuel [] closing] at read
    cases read
  simp [readValue, solid, read]

end

theorem Whole.chars_pos {j : Json} (whole : Whole j) : 0 < j.chars.length := by
  cases whole with
  | null => decide
  | bool b => cases b <;> decide
  | int n =>
    obtain ⟨c, cs, split, -⟩ := exists_cons_toString n
    rw [chars, split]
    exact Nat.succ_pos _
  | string s => simp [chars, quoted]
  | array each => simp [chars]
  | object each => simp [chars]

/-- There is fuel for a value that is written in any characters. -/
theorem Whole.readsBack_of_succ {j : Json} (whole : Whole j)
    (read : ∀ {fuel : Nat} {rest : List Char}, 2 * j.chars.length ≤ fuel + 1 → Ended rest →
      readValue (fuel + 1) (j.chars ++ rest) = some (j, rest)) : ReadsBack j := by
  intro fuel rest enough ended
  have pos := whole.chars_pos
  obtain ⟨fuel, rfl⟩ := Nat.exists_eq_add_one_of_ne_zero (by omega : fuel ≠ 0)
  exact read enough ended

theorem Whole.readsBack {j : Json} (whole : Whole j) : ReadsBack j := by
  refine whole.readsBack_of_succ fun {fuel rest} enough ended => ?_
  induction whole generalizing fuel rest with
  | null => rfl
  | bool b => cases b <;> rfl
  | int n =>
    obtain ⟨c, cs, split, number⟩ := exists_cons_toString n
    have read := readNumber_toString n ended
    rw [split] at read
    rw [chars, split, List.cons_append, readValue_number number]
    exact read
  | string s =>
    have opened : chars (.string s) ++ rest = '"' :: (s.toList.flatMap escapedChar ++ '"' :: rest) := by
      simp [chars, quoted]
    rw [opened]
    show (readString _).map _ = _
    rw [readString_written]
    rfl
  | @array items each ih =>
    have readsBack : ∀ x ∈ items, ReadsBack x := fun x there => (each x there).readsBack_of_succ (ih x there)
    cases items with
    | nil => rfl
    | cons x items =>
      simp only [chars, List.length_append, List.length_cons] at enough
      have read := readItems_written (List.cons_ne_nil x items) readsBack (by omega : _ ≤ fuel) [] rest
      have opened : chars (.array (x :: items)) ++ rest = '[' :: (itemChars (x :: items) ++ ']' :: rest) := by
        simp [chars]
      rw [opened]
      exact readValue_array read
  | @object fields each ih =>
    have readsBack : ∀ f ∈ fields, ReadsBack f.2 := fun f there => (each f there).readsBack_of_succ (ih f there)
    cases fields with
    | nil => rfl
    | cons f fields =>
      simp only [chars, List.length_append, List.length_cons] at enough
      have read := readFields_written (List.cons_ne_nil f fields) readsBack (by omega : _ ≤ fuel) [] rest
      have opened : chars (.object (f :: fields)) ++ rest = '\x7b' :: (fieldChars (f :: fields) ++ '\x7d' :: rest) := by
        simp [chars]
      rw [opened]
      exact readValue_object read

/-- A value without reals is read back from its line. -/
theorem Whole.parse?_render {j : Json} (whole : Whole j) : parse? j.render = some j := by
  have read := whole.readsBack (2 * j.chars.length + 1) [] (by omega) (by simp [Ended])
  rw [List.append_nil] at read
  simp [parse?, render, read, skipBlanks]

/-! ## Characters -/

/-- A printable character of ASCII. -/
def Printable (c : Char) : Prop := ' ' ≤ c ∧ c ≤ '~'

instance (c : Char) : Decidable (Printable c) := inferInstanceAs (Decidable (_ ∧ _))

theorem printable_of_all {cs : List Char} (h : cs.all fun c => decide (Printable c)) : ∀ c ∈ cs, Printable c := by
  simpa using h

theorem printable_hexDigit : ∀ n < 16, Printable (Bytes.hexDigit n) := by decide

theorem printable_of_isDigit {c : Char} (h : c.isDigit) : Printable c := by
  simp only [Char.isDigit, ge_iff_le, Bool.and_eq_true, decide_eq_true_eq] at h
  have low : (' ' : Char) ≤ '0' := by decide
  have high : ('9' : Char) ≤ '~' := by decide
  exact ⟨Char.le_trans low h.1, Char.le_trans h.2 high⟩

theorem printable_escapedUnit (n : Nat) : ∀ c ∈ escapedUnit n, Printable c := by
  have digit : ∀ k, Printable (Bytes.hexDigit (k % 16)) := fun k => printable_hexDigit _ (Nat.mod_lt k (by decide))
  have sign : Printable '\\' ∧ Printable 'u' := by decide
  simp [escapedUnit, digit, sign]

theorem printable_escapedChar (c : Char) : ∀ d ∈ escapedChar c, Printable d := by
  unfold escapedChar
  repeat' split
  all_goals try exact printable_of_all (by decide)
  · next printable =>
    rintro _ (_ | ⟨_, ⟨⟩⟩)
    exact ⟨printable.1, printable.2⟩
  · exact printable_escapedUnit _
  · intro d there
    exact (List.mem_append.1 there).elim (printable_escapedUnit _ d) (printable_escapedUnit _ d)

theorem printable_quoted (s : String) : ∀ c ∈ quoted s, Printable c := by
  have quote : Printable '"' := by decide
  simp only [quoted, List.mem_append, List.mem_cons, List.mem_flatMap, List.not_mem_nil, or_false]
  rintro c ((rfl | ⟨d, -, there⟩) | rfl)
  · exact quote
  · exact printable_escapedChar d c there
  · exact quote

theorem printable_itemChars {items : List Json} (each : ∀ x ∈ items, ∀ c ∈ x.chars, Printable c) :
    ∀ c ∈ itemChars items, Printable c := by
  have apart : Printable ',' ∧ Printable ' ' := by decide
  induction items with
  | nil => exact fun _ there => absurd there List.not_mem_nil
  | cons x items ih =>
    obtain ⟨first, others⟩ := List.forall_mem_cons.1 each
    cases items with
    | nil => exact first
    | cons y items =>
      simp only [itemChars, List.forall_mem_append, List.forall_mem_cons]
      exact ⟨first, apart.1, apart.2, ih others⟩

theorem printable_fieldChars {fields : List (String × Json)} (each : ∀ f ∈ fields, ∀ c ∈ f.2.chars, Printable c) :
    ∀ c ∈ fieldChars fields, Printable c := by
  have apart : Printable ',' ∧ Printable ':' ∧ Printable ' ' := by decide
  induction fields with
  | nil => exact fun _ there => absurd there List.not_mem_nil
  | cons f fields ih =>
    obtain ⟨first, others⟩ := List.forall_mem_cons.1 each
    cases fields with
    | nil =>
      simp only [fieldChars, List.forall_mem_append, List.forall_mem_cons]
      exact ⟨printable_quoted f.1, apart.2.1, apart.2.2, first⟩
    | cons g fields =>
      simp only [fieldChars, List.forall_mem_append, List.forall_mem_cons]
      exact ⟨⟨printable_quoted f.1, apart.2.1, apart.2.2, first⟩, apart.1, apart.2.2, ih others⟩

theorem Whole.printable {j : Json} (whole : Whole j) : ∀ c ∈ j.chars, Printable c := by
  have brackets : Printable '[' ∧ Printable ']' ∧ Printable '\x7b' ∧ Printable '\x7d' := by decide
  obtain ⟨opens, closes, opensFields, closesFields⟩ := brackets
  induction whole with
  | null => exact printable_of_all (by decide)
  | bool b => cases b <;> exact printable_of_all (by decide)
  | int n =>
    have digit : ∀ m, ∀ c ∈ Nat.toDigits 10 m, Printable c := fun m c there =>
      printable_of_isDigit (Nat.isDigit_of_mem_toDigits (by decide) (by decide) there)
    rw [chars, toList_toString]
    split
    · exact digit _
    · exact List.forall_mem_cons.2 ⟨by decide, digit _⟩
  | string s => exact printable_quoted s
  | array each ih =>
    simp only [chars, List.forall_mem_append, List.forall_mem_cons]
    exact ⟨⟨opens, printable_itemChars ih⟩, closes, fun _ there => absurd there List.not_mem_nil⟩
  | object each ih =>
    simp only [chars, List.forall_mem_append, List.forall_mem_cons]
    exact ⟨⟨opensFields, printable_fieldChars ih⟩, closesFields, fun _ there => absurd there List.not_mem_nil⟩

end Json

end Darkroom
