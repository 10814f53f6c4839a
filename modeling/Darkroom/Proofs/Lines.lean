import Darkroom.Log.Line
import Darkroom.Proofs.ReadingBack
/-!
# Lines for machines

What a record says goes into its line under names that no two things share (`nodup_fields`), and nothing else goes there
(`mem_fields_iff`). The line is read back as what went into it (`jsonLine_read`), so a text in a record cannot say more
than one thing of it. Only a number that is too long to be written leaves a record without a line.
-/

namespace Darkroom

namespace Log

namespace Record

/-- What is told of a record, and under which name. A context field that is null is not told. -/
inductive Tells (r : Record) (timestamp : String) : String → Json → Prop
  | timestamp : Tells r timestamp "timestamp" (.string timestamp)
  | level : Tells r timestamp "level" (.string r.level.name)
  | logger : Tells r timestamp "logger" (.string r.logger)
  | message : Tells r timestamp "message" (.string r.text)
  | module : Tells r timestamp "module" (.string r.module)
  | line : Tells r timestamp "line" (.int r.line)
  | context {name : String} {v : Json} (known : name ∈ contextFields.map (·.1)) (there : r.attributes.get? name = some v)
      (telling : v ≠ .null) : Tells r timestamp name v
  | metric {name : String} {v : Json} (known : name ∈ metricFields) (there : r.attributes.get? name = some v) :
      Tells r timestamp name v
  | exception {text : String} (there : r.exception = some text) : Tells r timestamp "exception" (.string text)

section
variable (r : Record) (timestamp : String)

theorem context_eq : r.context = contextFields.filterMap fun f =>
    ((r.attributes.get? f.1).filter (!·.isNull)).map fun v => (f.1, v) := by
  refine List.filterMap_congr fun ⟨name, label⟩ _ => ?_
  dsimp only
  rcases r.attributes.get? name with _ | _ | _ <;> rfl

theorem mem_context_iff (name : String) (v : Json) :
    (name, v) ∈ r.context ↔ name ∈ contextFields.map (·.1) ∧ r.attributes.get? name = some v ∧ v ≠ .null := by
  have telling : (!v.isNull) ↔ v ≠ .null := by cases v <;> simp [Json.isNull]
  rw [← telling, context_eq]
  simp only [List.mem_filterMap, List.mem_map, Option.map_eq_some_iff, Option.filter_eq_some_iff, Prod.mk.injEq]
  constructor
  · rintro ⟨f, known, _, there, rfl, rfl⟩
    exact ⟨⟨f, known, rfl⟩, there⟩
  · rintro ⟨⟨f, known, rfl⟩, there⟩
    exact ⟨f, known, v, there, rfl, rfl⟩

theorem mem_metrics_iff (name : String) (v : Json) :
    (name, v) ∈ r.metrics ↔ name ∈ metricFields ∧ r.attributes.get? name = some v := by
  simp [metrics, List.mem_filterMap]

theorem mem_fields_iff (name : String) (v : Json) : (name, v) ∈ r.fields timestamp ↔ r.Tells timestamp name v := by
  simp only [fields, List.mem_append, List.mem_cons, Prod.mk.injEq, List.not_mem_nil, or_false, mem_context_iff,
    mem_metrics_iff, Option.mem_toList, Option.map_eq_some_iff]
  constructor
  · rintro ((((⟨rfl, rfl⟩ | ⟨rfl, rfl⟩ | ⟨rfl, rfl⟩ | ⟨rfl, rfl⟩ | ⟨rfl, rfl⟩ | ⟨rfl, rfl⟩) |
      ⟨known, there, telling⟩) | ⟨known, there⟩) | ⟨text, there, rfl, rfl⟩)
    exacts [.timestamp, .level, .logger, .message, .module, .line, .context known there telling, .metric known there,
      .exception there]
  · intro tells
    cases tells with
    | context known there telling => exact .inl (.inl (.inr ⟨known, there, telling⟩))
    | metric known there => exact .inl (.inr ⟨known, there⟩)
    | exception there => exact .inr ⟨_, there, rfl, rfl⟩
    | _ => simp

/-- All names that can be in a line. -/
def fieldNames : List String :=
  ["timestamp", "level", "logger", "message", "module", "line"] ++ contextFields.map (·.1) ++ metricFields ++ ["exception"]

theorem names_sublist {α : Type} (all : List α) (name : α → String) (field : α → Option Json) :
    ((all.filterMap fun a => (field a).map fun v => (name a, v)).map (·.1)).Sublist (all.map name) := by
  induction all with
  | nil => exact .slnil
  | cons a all ih =>
    cases told : field a with
    | none => simpa [told] using ih.cons (name a)
    | some v => simpa [told] using ih

theorem nodup_fields : ((r.fields timestamp).map (·.1)).Nodup := by
  have context : (r.context.map (·.1)).Sublist (contextFields.map (·.1)) := by
    rw [context_eq]
    exact names_sublist contextFields (·.1) _
  have metrics : (r.metrics.map (·.1)).Sublist metricFields := by
    simpa [Record.metrics] using names_sublist metricFields id r.attributes.get?
  have exception : ((r.exception.map fun text => ("exception", Json.string text)).toList.map (·.1)).Sublist
      ["exception"] := by
    cases r.exception with
    | none => exact List.nil_sublist _
    | some text => exact List.Sublist.refl _
  have distinct : fieldNames.Nodup := by decide
  refine List.Sublist.nodup ?_ distinct
  rw [fields, List.map_append, List.map_append, List.map_append]
  exact (((List.Sublist.refl _).append context).append metrics).append exception

/-- The integers of an object are those of its fields. -/
theorem mem_fieldIntegers_iff (fields : Attributes) (n : Int) :
    n ∈ Json.fieldIntegers fields ↔ ∃ name v, (name, v) ∈ fields ∧ n ∈ v.integers := by
  induction fields with
  | nil => simp [Json.fieldIntegers]
  | cons f rest ih => simp [Json.fieldIntegers, ih, or_and_right, exists_or, Prod.ext_iff, and_assoc]

/-- All numbers that are told of a record can be written. -/
def Writable (limit : Text.DigitLimit) : Prop :=
  ∀ name v, r.Tells timestamp name v → ∀ n ∈ v.integers, limit.Allows n

theorem jsonLine?_of_writable {limit : Text.DigitLimit} (writable : r.Writable timestamp limit) :
    r.jsonLine? timestamp limit = .ok (r.jsonLine timestamp) := by
  have allowed : ∀ n ∈ (Json.object (r.fields timestamp)).integers, limit.Allows n := by
    intro n hn
    obtain ⟨name, v, there, hn⟩ := (mem_fieldIntegers_iff _ n).1 hn
    exact writable name v ((mem_fields_iff r timestamp name v).1 there) n hn
  rw [jsonLine?, Json.render?, if_pos allowed]
  rfl

theorem jsonLine?_of_not_writable {limit : Text.DigitLimit} (unwritable : ¬ r.Writable timestamp limit) :
    r.jsonLine? timestamp limit = .error (.value limit.complaint) := by
  have forbidden : ¬ ∀ n ∈ (Json.object (r.fields timestamp)).integers, limit.Allows n := by
    refine fun allowed => unwritable fun name v told n hn => allowed n ?_
    exact (mem_fieldIntegers_iff _ n).2 ⟨name, v, (mem_fields_iff r timestamp name v).2 told, hn⟩
  rw [jsonLine?, Json.render?, if_neg forbidden]

theorem jsonLine_printable_and_read
    (whole : ∀ name ∈ contextFields.map (·.1) ++ metricFields, ∀ v ∈ r.attributes.get? name, v.Whole) :
    (∀ c ∈ (r.jsonLine timestamp).toList, Json.Printable c) ∧
      Json.parse? (r.jsonLine timestamp) = some (.object (r.fields timestamp)) := by
  have each : ∀ f ∈ r.fields timestamp, f.2.Whole := by
    rintro ⟨name, v⟩ there
    cases (mem_fields_iff r timestamp name v).1 there with
    | line => exact .int _
    | context known there _ => exact whole name (List.mem_append_left _ known) v there
    | metric known there => exact whole name (List.mem_append_right _ known) v there
    | _ => exact .string _
  have object := Json.Whole.object each
  refine ⟨?_, object.parse?_render⟩
  rw [jsonLine, Json.render, String.toList_ofList]
  exact object.printable

/-- Without a limit to numbers every record has a line. The line is printable characters of ASCII, and it is read back as
what is told of the record and nothing else, each thing under its own name. Under a limit the record has this very line if
its numbers can be written, and a number that is too long is complained of otherwise. -/
theorem jsonLine_read
    (whole : ∀ name ∈ contextFields.map (·.1) ++ metricFields, ∀ v ∈ r.attributes.get? name, v.Whole) :
    ∃ line fields, r.jsonLine? timestamp none = .ok line ∧ (∀ c ∈ line.toList, Json.Printable c) ∧
      Json.parse? line = some (.object fields) ∧ (fields.map (·.1)).Nodup ∧
      (∀ name v, (name, v) ∈ fields ↔ r.Tells timestamp name v) ∧
      ∀ limit : Text.DigitLimit, (r.Writable timestamp limit → r.jsonLine? timestamp limit = .ok line) ∧
        (¬ r.Writable timestamp limit → r.jsonLine? timestamp limit = .error (.value limit.complaint)) := by
  obtain ⟨printable, read⟩ := r.jsonLine_printable_and_read timestamp whole
  have unlimited : r.Writable timestamp none := fun _ _ _ _ _ => Text.DigitLimit.allows_none _
  exact ⟨_, _, r.jsonLine?_of_writable timestamp unlimited, printable, read, nodup_fields r timestamp,
    mem_fields_iff r timestamp, fun limit => ⟨r.jsonLine?_of_writable timestamp, r.jsonLine?_of_not_writable timestamp⟩⟩

end

/-- A text that tries to end its line and begin another one, logged with a failure and the way it came. -/
theorem jsonLine_read_of_a_forging_text :
    let forging : Record :=
      { level := .info, logger := "imager", text := "done\"\x7d\n\x7b\"level\": \"ERROR"
        attributes := [("request_id", .string "\x00😀\\"), ("image_id", .null), ("output_bytes", .int (-5))]
        exception := some "Traceback (most recent call last):\nValueError: no\r\n", path := "/srv/app.py", line := 7 }
    (∀ name ∈ contextFields.map (·.1) ++ metricFields, ∀ v ∈ forging.attributes.get? name, v.Whole) ∧
    ∃ line fields, forging.jsonLine? "now" = .ok line ∧ (∀ c ∈ line.toList, Json.Printable c) ∧
      Json.parse? line = some (.object fields) ∧ (fields.map (·.1)).Nodup ∧
      ∀ name v, (name, v) ∈ fields ↔ forging.Tells "now" name v := by
  intro forging
  have whole : ∀ name ∈ contextFields.map (·.1) ++ metricFields, ∀ v ∈ forging.attributes.get? name, v.Whole := by
    simp only [forging, contextFields, metricFields, List.map_cons, List.map_nil, List.cons_append, List.nil_append,
      List.forall_mem_cons, Attributes.get?]
    refine ⟨?_, ?_, ?_, ?_, ?_, ?_, fun _ there => absurd there List.not_mem_nil⟩
    all_goals rintro v ⟨⟩ <;> constructor
  have writable : forging.Writable "now" .standard := by
    intro name v told n hn
    have there := (mem_fieldIntegers_iff _ n).2 ⟨name, v, (mem_fields_iff forging "now" name v).2 told, hn⟩
    have numbers : Json.fieldIntegers (forging.fields "now") = [7, -5] := by decide +kernel
    rw [numbers] at there
    have short : ∀ n ∈ [(7 : Int), -5], Text.DigitLimit.standard.Allows n := by decide
    exact short n there
  obtain ⟨line, fields, -, printable, read, nodup, told, limited⟩ := jsonLine_read forging "now" whole
  exact ⟨whole, line, fields, (limited .standard).1 writable, printable, read, nodup, told⟩

end Record

end Log

end Darkroom
