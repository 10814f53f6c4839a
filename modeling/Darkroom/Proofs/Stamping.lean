import Darkroom.Log.Context
import Darkroom.Proofs.Attributes
/-!
# Stamps in callers' dictionaries

What happens at a desk is told by its history: fields are bound, records are logged, and the owners of dictionaries set
and remove entries. The stamp of a context goes by the bindings on the way from its root (`Desk.stamped`). It stays in the
dictionary that it was put into, where later calls meet it until the owner says something else of that entry
(`Desk.leaked`). `record_stamped` says what this makes of a record, and when it is what the owner and the context say.
-/

namespace Darkroom

namespace Log

/-! ## Contexts -/

namespace Context

def names : List String := ["request_id", "image_id", "operation"]

def field (c : Context) (name : String) : Json := (c.attributes.get? name).getD .null

/-- A value that says something. -/
def telling (v : Json) : Option Json := if v.isNull then none else some v

theorem field_eq (c : Context) (name : String) : c.field name =
    if name = "request_id" then c.requestId else if name = "image_id" then c.imageId
    else if name = "operation" then c.operation else .null := by
  simp only [field, attributes, Attributes.get?_cons]
  split
  · rfl
  · split
    · rfl
    · split <;> rfl

theorem set?_eq_some {c c' : Context} {name : String} {v : Json} (h : c.set? name v = some c') :
    name ∈ names ∧ ∀ n, c'.field n = if n = name then v else c.field n := by
  unfold set? at h
  split at h
  case h_4 => cases h
  all_goals
    cases h
    refine ⟨by simp [names], fun n => ?_⟩
    simp only [field_eq]
    grind

theorem set?_eq_none {c : Context} {name : String} {v : Json} (h : c.set? name v = none) : name ∉ names := by
  unfold set? at h
  split at h
  case h_4 request image operation =>
    simp only [names, List.mem_cons, List.not_mem_nil, or_false, not_or]
    exact ⟨request, image, operation⟩
  all_goals cases h

theorem get?_stamp (c : Context) (name : String) : Attributes.get? c.stamp.reverse name = telling (c.field name) := by
  rw [field_eq]
  simp only [stamp, attributes, List.filter_cons, List.filter_nil, telling]
  cases h : c.requestId.isNull <;> cases h' : c.imageId.isNull <;> cases h'' : c.operation.isNull <;>
    simp only [Bool.not_true, Bool.not_false, Bool.false_eq_true, if_true, if_false, List.reverse_cons, List.reverse_nil, List.nil_append, List.cons_append, Attributes.get?_cons, Attributes.get?_nil]
  all_goals grind [Json.isNull]

/-- Fields that are bound have what was said of them last. -/
theorem bind?_eq_some {c c' : Context} {updates : Attributes} (h : c.bind? updates = some c') :
    (∀ u ∈ updates, u.1 ∈ names) ∧ ∀ n, c'.field n = (Attributes.get? updates.reverse n).getD (c.field n) := by
  unfold bind? at h
  induction updates generalizing c with
  | nil =>
    cases h
    exact ⟨by simp, fun n => rfl⟩
  | cons u updates ih =>
    rw [List.foldlM_cons] at h
    obtain ⟨c₁, set, rest⟩ := Option.bind_eq_some_iff.1 h
    obtain ⟨known, first⟩ := set?_eq_some set
    obtain ⟨others, later⟩ := ih rest
    refine ⟨List.forall_mem_cons.2 ⟨known, others⟩, fun n => ?_⟩
    rw [later, first, List.reverse_cons, Attributes.get?_append, Attributes.get?_cons]
    cases Attributes.get? updates.reverse n with
    | some v => rfl
    | none => by_cases h : n = u.1 <;> simp [h, Attributes.get?]

theorem bind?_eq_none {c : Context} {updates : Attributes} (h : c.bind? updates = none) : ∃ u ∈ updates, u.1 ∉ names := by
  unfold bind? at h
  induction updates generalizing c with
  | nil => cases h
  | cons u updates ih =>
    rw [List.foldlM_cons] at h
    cases set : c.set? u.1 u.2 with
    | none => exact ⟨u, List.mem_cons_self, set?_eq_none set⟩
    | some c₁ =>
      obtain ⟨u', there, unknown⟩ := ih (c := c₁) (by simpa [set] using h)
      exact ⟨u', List.mem_cons_of_mem u there, unknown⟩

end Context

/-! ## Histories -/

namespace Desk

/-- What can happen at a desk. The owner of a dictionary sets an entry or takes it away. -/
inductive Event
  | step (s : Step)
  | put (dictionary key : String) (v : Json)
  | drop (dictionary key : String)

def own (d : Desk) (dictionary : String) (entries : Attributes) : Desk :=
  { d with dictionaries := (dictionary, entries) :: d.dictionaries }

def after (d : Desk) : Event → Desk
  | .step s => (d.perform s).2
  | .put dictionary key v => d.own dictionary ((d.dictionary dictionary).set key v)
  | .drop dictionary key => d.own dictionary ((d.dictionary dictionary).erase key)

/-- What a desk is after a history, which is told from its last event back. -/
def afterAll (d : Desk) : List Event → Desk
  | [] => d
  | e :: earlier => (d.afterAll earlier).after e

/-- The value that a field has in a context: what was bound to it last on the way from the root. Binding a field that
contexts do not have makes no context. -/
def bound (start : Desk) (field : String) : List Event → String → Json
  | [], name => (start.context name).field field
  | .step (.bind on as updates) :: earlier, name =>
    if name = as ∧ ∀ u ∈ updates, u.1 ∈ Context.names then
      (Attributes.get? updates.reverse field).getD (bound start field earlier on)
    else bound start field earlier name
  | _ :: earlier, name => bound start field earlier name

/-- What a context stamps on an entry. -/
def stamped (start : Desk) (history : List Event) (on key : String) : Option Json :=
  Context.telling (start.bound key history on)

/-- What the owner of a dictionary last said of an entry. -/
def owned (start : Desk) (dictionary key : String) : List Event → Option Json
  | [] => (start.dictionary dictionary).get? key
  | .put dictionary' key' v :: earlier =>
    if dictionary = dictionary' ∧ key = key' then some v else owned start dictionary key earlier
  | .drop dictionary' key' :: earlier =>
    if dictionary = dictionary' ∧ key = key' then none else owned start dictionary key earlier
  | .step _ :: earlier => owned start dictionary key earlier

/-- What records have left in an entry of a dictionary since its owner last said something of it. -/
def leaked (start : Desk) (dictionary key : String) : List Event → Option Json
  | [] => none
  | .put dictionary' key' _ :: earlier | .drop dictionary' key' :: earlier =>
    if dictionary = dictionary' ∧ key = key' then none else leaked start dictionary key earlier
  | .step (.log on _ _ owner) :: earlier =>
    if owner = some dictionary then (start.stamped earlier on key).or (leaked start dictionary key earlier)
    else leaked start dictionary key earlier
  | .step (.bind _ _ _) :: earlier => leaked start dictionary key earlier

section
variable (d : Desk)

theorem dictionary_own (dictionary : String) (entries : Attributes) (name : String) :
    (d.own dictionary entries).dictionary name = if name = dictionary then entries else d.dictionary name := by
  simp only [own, Desk.dictionary, List.lookup_cons]
  by_cases h : name = dictionary
  · rw [beq_iff_eq.2 h, if_pos h]
    rfl
  · rw [beq_eq_false_iff_ne.2 h, if_neg h]

theorem context_bind (on as : String) (updates : Attributes) (name : String) :
    (d.perform (.bind on as updates)).2.context name =
      if name = as then ((d.context on).bind? updates).getD (d.context name) else d.context name := by
  simp only [perform]
  cases (d.context on).bind? updates with
  | none => simp
  | some c =>
    show (List.lookup name ((as, c) :: d.contexts.filter (·.1 != as))).getD {} = _
    rw [lookup_replaced]
    split <;> rfl

theorem dictionary_bind (on as : String) (updates : Attributes) (name : String) :
    (d.perform (.bind on as updates)).2.dictionary name = d.dictionary name := by
  simp only [perform]
  cases (d.context on).bind? updates <;> rfl

/-- What is logged through a context, with the dictionary of an owner or without one. -/
def marked (on : String) (owner : Option String) : Attributes :=
  ((owner.map d.dictionary).getD []).merge (d.context on).stamp

theorem context_log (on : String) (level : Level) (message : Message) (owner : Option String) (name : String) :
    (d.perform (.log on level message owner)).2.context name = d.context name := by
  cases owner <;> rfl

theorem dictionary_log (on : String) (level : Level) (message : Message) (owner : Option String) (name : String) :
    (d.perform (.log on level message owner)).2.dictionary name =
      if owner = some name then d.marked on owner else d.dictionary name := by
  cases owner with
  | none => rfl
  | some dictionary =>
    show (List.lookup name ((dictionary, d.marked on (some dictionary)) ::
      d.dictionaries.filter (·.1 != dictionary))).getD [] = _
    rw [lookup_replaced]
    by_cases h : name = dictionary
    · rw [if_pos h, if_pos (congrArg some h.symm)]
      rfl
    · rw [if_neg h, if_neg fun same => h (Option.some.inj same).symm]
      rfl

end

/-! ## What a desk holds -/

section
variable (start : Desk) (history : List Event)

/-- Fields have the values that were bound to them last on the way from the root. -/
theorem field_afterAll (name field : String) :
    ((start.afterAll history).context name).field field = start.bound field history name := by
  induction history generalizing name with
  | nil => rfl
  | cons e earlier ih =>
    cases e with
    | put _ _ _ | drop _ _ => exact ih name
    | step s =>
      cases s with
      | log on level message owner => exact (congrArg (·.field field) (context_log ..)).trans (ih name)
      | bind on as updates =>
        show (((start.afterAll earlier).perform (.bind on as updates)).2.context name).field field = _
        rw [context_bind]
        cases binds : ((start.afterAll earlier).context on).bind? updates with
        | none =>
          obtain ⟨u, there, unknown⟩ := Context.bind?_eq_none binds
          have refused : ¬ (name = as ∧ ∀ u ∈ updates, u.1 ∈ Context.names) := fun h => unknown (h.2 u there)
          rw [bound, if_neg refused, Option.getD_none, ite_self, ih]
        | some c =>
          obtain ⟨known, fields⟩ := Context.bind?_eq_some binds
          rw [bound, Option.getD_some]
          by_cases h : name = as
          · rw [if_pos h, if_pos ⟨h, known⟩, fields, ih]
          · rw [if_neg h, if_neg fun both => h both.1, ih]

theorem get?_stamp_afterAll (on key : String) :
    Attributes.get? ((start.afterAll history).context on).stamp.reverse key = start.stamped history on key := by
  rw [Context.get?_stamp, field_afterAll]
  rfl

/-- Dictionaries say what records have left in them since, or else what their owners said. -/
theorem get?_dictionary_afterAll (dictionary key : String) :
    ((start.afterAll history).dictionary dictionary).get? key =
      (start.leaked dictionary key history).or (start.owned dictionary key history) := by
  induction history with
  | nil => rfl
  | cons e earlier ih =>
    cases e with
    | put dictionary' key' v =>
      rw [afterAll, after, dictionary_own, leaked, owned]
      by_cases h : dictionary = dictionary'
      · subst h
        by_cases hk : key = key' <;> simp [hk, Attributes.get?_set, ih]
      · simp [h, ih]
    | drop dictionary' key' =>
      rw [afterAll, after, dictionary_own, leaked, owned]
      by_cases h : dictionary = dictionary'
      · subst h
        by_cases hk : key = key' <;> simp [hk, Attributes.get?_erase, ih]
      · simp [h, ih]
    | step s =>
      cases s with
      | bind on as updates => rw [afterAll, after, dictionary_bind, ih, leaked, owned]
      | log on level message owner =>
        rw [afterAll, after, dictionary_log, leaked, owned]
        by_cases h : owner = some dictionary
        · subst h
          rw [if_pos rfl, if_pos rfl, marked, Attributes.get?_merge, get?_stamp_afterAll, Option.or_assoc, ← ih]
          rfl
        · rw [if_neg h, if_neg h, ih]

theorem threshold_afterAll : (start.afterAll history).threshold = start.threshold := by
  induction history with
  | nil => rfl
  | cons e earlier ih =>
    cases e with
    | put _ _ _ | drop _ _ => exact ih
    | step s =>
      cases s with
      | log _ _ _ owner => cases owner <;> exact ih
      | bind on as updates =>
        rw [← ih]
        simp only [afterAll, after, perform]
        cases ((start.afterAll earlier).context on).bind? updates <;> rfl

end

/-! ## What is logged -/

/-- What becomes of a message: no record below the threshold, no record that would lose what every record has of its own,
and else one with exactly the fields that go along. -/
inductive Drafted (threshold level : Level) (message : Message) (fields : Attributes) : Except Failure (Option Draft) → Prop
  | quiet (below : level.passes threshold = false) : Drafted threshold level message fields (.ok none)
  | refused {name : String} (passes : level.passes threshold) (reserved : name ∈ reservedNames)
      (there : (fields.get? name).isSome) :
      Drafted threshold level message fields (.error ⟨.key, s!"Attempt to overwrite {Text.quoted name} in LogRecord"⟩)
  | made (passes : level.passes threshold) (free : ∀ name ∈ reservedNames, fields.get? name = none) :
      Drafted threshold level message fields (.ok (some ⟨level, message, fields⟩))

theorem drafted_draft? (threshold level : Level) (message : Message) (fields : Attributes) :
    Drafted threshold level message fields (draft? threshold level message fields) := by
  unfold draft?
  cases passes : level.passes threshold with
  | false => exact .quiet passes
  | true =>
    rw [Bool.not_true, if_neg Bool.false_ne_true]
    split
    · next name v found =>
      have reserved := List.find?_some found
      have there := List.mem_of_find?_eq_some found
      refine .refused passes (List.contains_iff_mem.1 reserved) ?_
      rw [← Attributes.any_eq_isSome_get?, List.any_eq_true]
      exact ⟨_, there, beq_self_eq_true name⟩
    · next free =>
      refine .made passes fun name reserved => ?_
      rw [← Option.not_isSome_iff_eq_none, ← Attributes.any_eq_isSome_get?, List.any_eq_true]
      rintro ⟨f, there, same⟩
      refine List.find?_eq_none.1 free f there (List.contains_iff_mem.2 ?_)
      rwa [beq_iff_eq.1 same]

/-- A record shows, entry by entry, what its context stamps, and else what is in the dictionary that goes along: what
earlier records have left there, or what its owner said. The dictionary ends up with the same. So a record shows only what
its context and the owner say just where nothing else has been left in the dictionary, and the dictionary is as before
just where it said already what is stamped. Without a dictionary the stamp is all. -/
theorem record_stamped (start : Desk) (history : List Event) (on : String) (level : Level) (message : Message)
    (owner : Option String) :
    let d := start.afterAll history
    let run := d.perform (.log on level message owner)
    ∃ fields : Attributes,
      (∃ drafted, Drafted start.threshold level message fields drafted ∧
        run.1 = drafted.map fun record => .logged record (owner.map fun _ => fields)) ∧
      (∀ name, run.2.context name = d.context name) ∧
      (∀ name, run.2.dictionary name = if owner = some name then fields else d.dictionary name) ∧
      match owner with
      | none => ∀ key, fields.get? key = start.stamped history on key
      | some dictionary =>
        (∀ key, fields.get? key = (start.stamped history on key).or
          ((start.leaked dictionary key history).or (start.owned dictionary key history))) ∧
        ((∀ key, fields.get? key = (start.stamped history on key).or (start.owned dictionary key history)) ↔
          ∀ key v, start.stamped history on key = none → start.leaked dictionary key history = some v →
            start.owned dictionary key history = some v) ∧
        ((∀ key, fields.get? key = (d.dictionary dictionary).get? key) ↔
          ∀ key v, start.stamped history on key = some v → (d.dictionary dictionary).get? key = some v) := by
  intro d run
  have outcome : run.1 = (draft? start.threshold level message (d.marked on owner)).map
      fun record => .logged record (owner.map fun _ => d.marked on owner) := by
    rw [← threshold_afterAll start history]
    cases owner <;> rfl
  refine ⟨d.marked on owner, ⟨_, drafted_draft? .., outcome⟩, fun _ => context_log .., fun _ => dictionary_log .., ?_⟩
  cases owner with
  | none =>
    intro key
    rw [marked, Attributes.get?_merge, get?_stamp_afterAll]
    exact Option.or_none
  | some dictionary =>
    have shown : ∀ key, (d.marked on (some dictionary)).get? key =
        (start.stamped history on key).or ((d.dictionary dictionary).get? key) := by
      intro key
      rw [marked, Attributes.get?_merge, get?_stamp_afterAll]
      rfl
    have held := get?_dictionary_afterAll start history dictionary
    refine ⟨fun key => by rw [shown, held], ?_, ?_⟩
    · simp only [shown, d, held]
      refine forall_congr' fun key => ?_
      cases start.stamped history on key <;> cases start.leaked dictionary key history <;> simp [eq_comm]
    · simp only [shown]
      refine forall_congr' fun key => ?_
      cases start.stamped history on key <;> simp [eq_comm]

/-- One dictionary goes along with a record about an image and then with one that is about none: the second shows the
image as well, though its context does not know of it and the owner never said so. -/
theorem stamp_stays :
    let image : List (String × Json) := [("image_id", .string "i-1")]
    let start : Desk := { threshold := .info, contexts := [("root", { requestId := .string "r-1" })],
                          dictionaries := [("shared", [("k", .int 1)])] }
    let history : List Event := [.step (.log "image" .info ⟨"derived", []⟩ (some "shared")),
                                 .step (.bind "root" "image" image)]
    (start.afterAll history).dictionary "shared" =
      [("k", .int 1), ("request_id", .string "r-1"), ("image_id", .string "i-1")] ∧
    start.stamped history "root" "image_id" = none ∧ start.owned "shared" "image_id" history = none ∧
    ∃ draft after, ((start.afterAll history).perform (.log "root" .info ⟨"done", []⟩ (some "shared"))).1 =
      .ok (.logged (some draft) after) ∧ draft.attributes.get? "image_id" = some (.string "i-1") := by
  exact ⟨rfl, rfl, rfl, _, _, rfl, rfl⟩

end Desk

end Log

end Darkroom
