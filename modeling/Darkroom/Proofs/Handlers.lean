import Darkroom.Log.Hub
import Darkroom.Proofs.Attributes
/-!
# Setting up again

A call that knows its level puts one handler in place of whatever there was (`run_known`); one that does not stops before
it has changed anything (`run_unknown`). So after any series of calls things are as the last call that knew its level has
left them, and a record becomes one line or none, by the level that its logger goes by (`one_handler`).
-/

namespace Darkroom

namespace Log

namespace Hub

/-! ## Calls -/

/-- A call that sets things up. -/
structure Call where
  timestamp : String
  level : String
  style : Style

/-- What comes of a call, and what it leaves behind. -/
def Call.run (c : Call) (h : Hub) : Except Failure (List String) × Hub :=
  (setUpAndGreet c.timestamp c.level c.style).run.run h

/-- What a series of calls leaves behind, failing ones among them. -/
def afterAll (h : Hub) (calls : List Call) : Hub := calls.foldl (fun h c => (c.run h).2) h

/-- Levels of their own for some loggers. -/
def quieted (loggers : List String) (levels : List (String × Level)) : List (String × Level) :=
  loggers.foldl (fun levels logger => (logger, .warning) :: levels.filter (·.1 != logger)) levels

/-- What a call makes of a hub. -/
def ready (h : Hub) (l : Level) (style : Style) : Hub :=
  { root := l, handlers := [⟨l, some style⟩], levels := quieted quietLoggers h.levels }

theorem run_bind_ok {α β : Type} {x : Change α} {f : α → Change β} {h h' : Hub} {a : α}
    {outcome : Except Failure β × Hub} (first : x.run.run h = (.ok a, h')) (next : (f a).run.run h' = outcome) :
    (x >>= f).run.run h = outcome := by
  rw [ExceptT.run_bind, StateT.run_bind, first]
  exact next

section
variable (h : Hub)

/-- Handlers are taken away one by one, by a list that does not shrink with theirs. -/
theorem run_removeAll (handlers : List Handler) (all : h.handlers = handlers) :
    (handlers.forM removeHandler).run.run h = (.ok (), { h with handlers := [] }) := by
  induction handlers generalizing h with
  | nil =>
    cases h
    cases all
    rfl
  | cons handler rest ih =>
    have left : ({ h with handlers := h.handlers.erase handler } : Hub).handlers = rest := by simp [all]
    exact ih { h with handlers := h.handlers.erase handler } left

theorem run_known {c : Call} {l : Level} (known : Level.ofName? c.level = some l) :
    c.run h = (.ok ((h.ready l c.style).emit c.timestamp (greeting c.level c.style)), h.ready l c.style) := by
  have named : levelNamed c.level = pure l := by rw [levelNamed, known]
  have cleared := run_removeAll { h with root := l } h.handlers rfl
  simp only [Call.run, setUpAndGreet, setUp, setRootLevel, named, pure_bind, bind_assoc]
  have lifted : (modify fun h => { h with root := l } : Change Unit).run.run h = (.ok (), { h with root := l }) := rfl
  exact run_bind_ok lifted (run_bind_ok rfl (run_bind_ok cleared rfl))

theorem run_unknown {c : Call} (unknown : Level.ofName? c.level = none) :
    c.run h = (.error (.value s!"Unknown level: {Text.quoted c.level}"), h) := by
  have named : levelNamed c.level = throw (.value s!"Unknown level: {Text.quoted c.level}") := by
    rw [levelNamed, unknown]
  simp only [Call.run, setUpAndGreet, setUp, setRootLevel, named]
  rfl

theorem afterAll_unknown (calls : List Call) (unknown : ∀ c ∈ calls, Level.ofName? c.level = none) :
    h.afterAll calls = h := by
  induction calls with
  | nil => rfl
  | cons c calls ih =>
    obtain ⟨first, others⟩ := List.forall_mem_cons.1 unknown
    rw [afterAll, List.foldl_cons, run_unknown h first]
    exact ih others

end

/-! ## Levels of loggers -/

theorem lookup_quieted (loggers : List String) (levels : List (String × Level)) (name : String) :
    (quieted loggers levels).lookup name = if name ∈ loggers then some .warning else levels.lookup name := by
  unfold quieted
  induction loggers generalizing levels with
  | nil => rfl
  | cons logger loggers ih =>
    rw [List.foldl_cons, ih, lookup_replaced]
    by_cases later : name ∈ loggers <;> by_cases here : name = logger <;> simp [later, here]

/-- Calls leave loggers alone, but for those that say too much. -/
theorem lookup_afterAll (start : Hub) (calls : List Call) {name : String} (loud : name ∉ quietLoggers) :
    (start.afterAll calls).levels.lookup name = start.levels.lookup name := by
  unfold afterAll
  induction calls generalizing start with
  | nil => rfl
  | cons c calls ih =>
    rw [List.foldl_cons, ih]
    cases known : Level.ofName? c.level with
    | none => rw [run_unknown start known]
    | some l =>
      rw [run_known start known]
      exact (lookup_quieted ..).trans (if_neg loud)

section
variable (h : Hub)

/-- The level that a logger goes by when the root has been set to `l`. -/
def levelUnder (l : Level) (logger : String) : Level :=
  if logger = rootName then l
  else ((ancestry logger).findSome? fun name => if name ∈ quietLoggers then some .warning else h.ownLevel name).getD l

/-- No level at a logger or above it, below the root. -/
def Unranked (logger : String) : Prop :=
  logger = rootName ∨ ∀ name ∈ ancestry logger, name ∉ quietLoggers ∧ h.ownLevel name = none

theorem levelUnder_of_unranked {logger : String} (unranked : h.Unranked logger) (l : Level) :
    h.levelUnder l logger = l := by
  unfold levelUnder
  split
  · rfl
  · next below =>
    rw [List.findSome?_eq_none_iff.2, Option.getD_none]
    intro name there
    obtain ⟨loud, none⟩ := unranked.resolve_left below name there
    rw [if_neg loud, none]

theorem effectiveLevel_ready (start : Hub) (calls : List Call) (l : Level) (style : Style) (logger : String) :
    ((start.afterAll calls).ready l style).effectiveLevel logger =
      ((ancestry logger).findSome? fun name =>
        if name ∈ quietLoggers then some .warning else start.ownLevel name).getD l := by
  have own : ((start.afterAll calls).ready l style).ownLevel = fun name =>
      if name ∈ quietLoggers then some Level.warning else start.ownLevel name := by
    funext name
    unfold ownLevel ready
    rw [lookup_quieted]
    split
    · rfl
    · next loud => rw [lookup_afterAll start calls loud]
  rw [effectiveLevel, own]
  rfl

end

/-! ## Lines of records -/

theorem level_rooted (r : Record) : (rooted r).level = r.level := by
  unfold rooted
  split <;> rfl

theorem emit_single {h : Hub} {l : Level} {style : Style} (single : h.handlers = [⟨l, some style⟩])
    (timestamp : String) (r : Record) :
    h.emit timestamp r =
      if r.level.passes (if (rooted r).logger = rootName then h.root else h.effectiveLevel (rooted r).logger) ∧
        l.number ≤ r.level.number then [Style.line timestamp (rooted r) style] else [] := by
  simp only [emit, single, level_rooted]
  by_cases passes : r.level.passes (if (rooted r).logger = rootName then h.root
    else h.effectiveLevel (rooted r).logger) <;> by_cases reached : l.number ≤ r.level.number
  all_goals simp [passes, reached, Int.not_lt.2, Int.not_le.1]

theorem emit_ready (start : Hub) (calls : List Call) (l : Level) (style : Style) (timestamp : String) (r : Record) :
    ((start.afterAll calls).ready l style).emit timestamp r =
      if r.level.passes (start.levelUnder l (rooted r).logger) ∧ l.number ≤ r.level.number
      then [Style.line timestamp (rooted r) style] else [] := by
  rw [emit_single rfl, effectiveLevel_ready]
  rfl

theorem emit_ready_of_unranked {start : Hub} (calls : List Call) (l : Level) (style : Style) (timestamp : String)
    {r : Record} (unranked : start.Unranked (rooted r).logger) :
    ((start.afterAll calls).ready l style).emit timestamp r =
      if 0 < r.level.number ∧ l.number ≤ r.level.number then [Style.line timestamp (rooted r) style] else [] := by
  rw [emit_ready, levelUnder_of_unranked start unranked]
  refine if_congr ?_ rfl rfl
  simp [Level.passes]

/-- A call whose level is unknown fails and leaves things as they were. Any other puts its level at the root and its
handler in place of all others, says so if that much is told, and stands whatever calls fail after it. A record then
becomes one line if it passes at its logger and reaches the handler, and none otherwise. Where no logger has a level of
its own on the way to the root, it becomes one line from the level of the call on, but for records of no level. -/
theorem one_handler (start : Hub) (earlier : List Call) (c : Call) :
    let before := start.afterAll earlier
    match Level.ofName? c.level with
    | none => c.run before = (.error (.value s!"Unknown level: {Text.quoted c.level}"), before)
    | some l => ∃ hub,
      c.run before = (.ok (if l.number ≤ Level.info.number then
        [Style.line c.timestamp (greeting c.level c.style) c.style] else []), hub) ∧
      hub.root = l ∧ hub.handlers = [⟨l, some c.style⟩] ∧
      (∀ failing : List Call, (∀ f ∈ failing, Level.ofName? f.level = none) →
        start.afterAll (earlier ++ c :: failing) = hub) ∧
      (∀ timestamp r, hub.emit timestamp r =
        if r.level.passes (start.levelUnder l (rooted r).logger) ∧ l.number ≤ r.level.number
        then [Style.line timestamp (rooted r) c.style] else []) ∧
      (∀ timestamp r, start.Unranked (rooted r).logger → hub.emit timestamp r =
        if 0 < r.level.number ∧ l.number ≤ r.level.number
        then [Style.line timestamp (rooted r) c.style] else []) := by
  intro before
  split
  · next unknown => exact run_unknown before unknown
  · next l known =>
    have ran := run_known before known
    have greeted : (before.ready l c.style).emit c.timestamp (greeting c.level c.style) =
        if l.number ≤ Level.info.number then [Style.line c.timestamp (greeting c.level c.style) c.style] else [] := by
      have atRoot : start.Unranked (rooted (greeting c.level c.style)).logger := .inl rfl
      rw [emit_ready_of_unranked earlier l c.style c.timestamp atRoot]
      exact if_congr (and_iff_right (by decide : (0 : Int) < 20)) rfl rfl
    refine ⟨before.ready l c.style, greeted ▸ ran, rfl, rfl, fun failing unknown => ?_, emit_ready start earlier l c.style,
      fun timestamp r => emit_ready_of_unranked earlier l c.style timestamp⟩
    rw [afterAll, List.foldl_append, List.foldl_cons]
    exact (afterAll_unknown _ failing unknown).trans (congrArg Prod.snd ran)

/-- Setting up gives one logger a level, and the loggers below it go by that: a record that the root would let through is
not written. -/
theorem quiet_below :
    let hub : Hub := Hub.afterAll {} [⟨"now", "INFO", .console⟩]
    hub.root = .info ∧ hub.handlers = [⟨.info, some .console⟩] ∧ hub.ownLevel "PIL.Image" = none ∧
    hub.emit "now" { level := .info, logger := "PIL.Image", text := "opened" } = [] := by
  exact ⟨rfl, rfl, rfl, rfl⟩

end Hub

end Log

end Darkroom
