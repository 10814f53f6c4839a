import Darkroom.Proofs.Deriving
import Darkroom.Session
/-!
# Sessions, act by act

A block closes its handle by number, whatever its name stands for by then, and nothing else is special about it. So a
session is a series of acts on handles by number (`Act`), and `actsOf` are those of a step. `perform_acts`: performing a
step is doing its acts. `moments` are the session before and after each act, the acts inside blocks included, with the
calls made so far and whom each was made for.

`Moment.act_deed`: what an act can come to. What holds of every session is an induction over its acts with a case
analysis over `Deed`.
-/

namespace Darkroom

variable {ω σ : Type}

namespace Handle
variable {h : Handle}

theorem thumbnail_of_isClosed [Measured ω] (shut : h.isClosed) (bound : Dimensions) (fit : Bool) :
    h.thumbnail bound fit = (.fail .closedImage : Work ω ω) := by
  cases h <;> first | rfl | cases shut

theorem crop_of_isClosed [Measured ω] (shut : h.isClosed) (target : Dimensions) :
    h.crop target = (.fail .closedImage : Work ω ω) := by
  cases h <;> first | rfl | cases shut

theorem close_of_isClosed (shut : h.isClosed) : (h.close : Work ω Unit) = .done () := by
  cases h <;> first | rfl | cases shut

theorem afterClose_of_isClosed (shut : h.isClosed) : h.afterClose = h := by
  cases h <;> first | rfl | cases shut

end Handle

namespace Session

/-! ## Acts -/

inductive Act
  | openAs (name codec : String) (data : Bytes) (budget : Int) (config : Config)
  | validate (codec : String) (data : Bytes) (budget : Int) (config : Config)
  | thumbnail (handle : Option Nat) (bound : Dimensions) (fit : Bool)
  | crop (handle : Option Nat) (target : Dimensions)
  | close (handle : Option Nat)

section
variable [Measured ω] (c : Codec ω σ) (imageId : String)

mutual

/-- The acts a step comes to. A block is left at the first failure inside. -/
def actsOf (s : Session σ) : Step → List Act
  | .openAs name codec data budget config => [.openAs name codec data budget config]
  | .validate codec data budget config => [.validate codec data budget config]
  | .thumbnail name bound fit => [.thumbnail (s.names name) bound fit]
  | .crop name target => [.crop (s.names name) target]
  | .close name => [.close (s.names name)]
  | .isClosed _ | .facts _ | .describe _ => []
  | .within name steps _ => actsUntilFailure s steps ++ [.close (s.names name)]

def actsUntilFailure (s : Session σ) : List Step → List Act
  | [] => []
  | step :: rest =>
    let t := perform c imageId s step
    actsOf s step ++
      match t.outcome with
      | .error _ => []
      | .ok _ => actsUntilFailure t.session rest

end

/-- The acts of steps that follow each other whatever comes of them. -/
def actsOfAll (s : Session σ) : List Step → List Act
  | [] => []
  | step :: rest => actsOf c imageId s step ++ actsOfAll (perform c imageId s step).session rest

end

/-- Whom a call is made for: a handle by its number, or an image that is only validated. -/
structure Account where
  codec : String
  handle : Option Nat
  budget : Int
deriving DecidableEq

/-- A session with the budget of each handle, by number, and the calls made so far. -/
structure Moment (ω σ : Type) where
  session : Session σ
  budgets : List Int := []
  calls : List (Account × Call ω) := []

namespace Moment

/-- Nothing was opened yet. -/
def start (codecs : String → σ) : Moment ω σ := { session := { codecs } }

def budgetOf (m : Moment ω σ) (handle : Option Nat) : Int := (handle.bind (m.budgets[·]?)).getD 0

/-- The calls made on one codec. -/
def callsOn (m : Moment ω σ) (codec : String) : List (Call ω) := (m.calls.filter (·.1.codec = codec)).map (·.2)

def after {α : Type} (m : Moment ω σ) (handle : Option Nat) (budget : Int) (t : Turnout ω σ α) : Moment ω σ :=
  ⟨t.session, m.budgets, m.calls ++ t.calls.map fun (codec, call) => (⟨codec, handle, budget⟩, call)⟩

section
variable [Measured ω] (c : Codec ω σ) (imageId : String)

def act (m : Moment ω σ) : Act → Moment ω σ
  | .openAs name codec data budget config =>
    let t := work c m.session codec (openImage imageId data budget config)
    { m.after (some m.session.entries.length) budget t with
      session := t.session.addHandle name codec (.ofOutcome t.outcome)
      budgets := m.budgets ++ [budget] }
  | .validate codec data budget config =>
    m.after none budget (work c m.session codec (validateImage imageId data budget config))
  | .thumbnail handle bound fit =>
    let entry := m.session.entryAt handle
    m.after handle (m.budgetOf handle) (work c m.session entry.codec (entry.handle.thumbnail bound fit))
  | .crop handle target =>
    let entry := m.session.entryAt handle
    m.after handle (m.budgetOf handle) (work c m.session entry.codec (entry.handle.crop target))
  | .close handle => m.after handle (m.budgetOf handle) (closeHandle c m.session handle)

def acts (m : Moment ω σ) (as : List Act) : Moment ω σ := as.foldl (act c imageId) m

@[simp] theorem acts_nil (m : Moment ω σ) : m.acts c imageId [] = m := rfl

@[simp] theorem acts_cons (m : Moment ω σ) (a : Act) (as : List Act) :
    m.acts c imageId (a :: as) = (m.act c imageId a).acts c imageId as := rfl

/-- The moments before and after each of the acts. -/
def visits (m : Moment ω σ) : List Act → List (Moment ω σ)
  | [] => [m]
  | a :: as => m :: (m.act c imageId a).visits as

theorem getLast?_visits (m : Moment ω σ) (as : List Act) :
    (m.visits c imageId as).getLast? = some (m.acts c imageId as) := by
  induction as generalizing m with
  | nil => rfl
  | cons a as ih => rw [visits, List.getLast?_cons, ih, acts_cons]; rfl

/-- What every act keeps holds at every moment. -/
theorem visits_keep {P : Moment ω σ → Prop} (keep : ∀ m a, P m → P (m.act c imageId a)) {m : Moment ω σ} (h : P m)
    (as : List Act) : ∀ m' ∈ m.visits c imageId as, P m' := by
  induction as generalizing m with
  | nil => intro m' hm; rw [List.mem_singleton.1 hm]; exact h
  | cons a as ih =>
    intro m' hm
    rcases List.mem_cons.1 hm with rfl | hm
    · exact h
    · exact ih (keep m a h) m' hm

@[simp] theorem acts_append (m : Moment ω σ) (as more : List Act) :
    m.acts c imageId (as ++ more) = (m.acts c imageId as).acts c imageId more := List.foldl_append

end

/-- The calls so far, with the codec each was made on. -/
def trace (m : Moment ω σ) : List (String × Call ω) := m.calls.map fun (account, call) => (account.codec, call)

/-- `t` led from `m` to `m'`. -/
def Reached {α : Type} (m : Moment ω σ) (t : Turnout ω σ α) (m' : Moment ω σ) : Prop :=
  m'.session = t.session ∧ m'.trace = m.trace ++ t.calls

theorem reached_after {α : Type} (m : Moment ω σ) (handle : Option Nat) (budget : Int) (t : Turnout ω σ α) :
    m.Reached t (m.after handle budget t) := by
  refine ⟨rfl, ?_⟩
  rw [trace, after, List.map_append, List.map_map]
  exact congrArg _ (List.map_id _)

theorem Reached.map {α β : Type} {m m' : Moment ω σ} {t : Turnout ω σ α} (h : m.Reached t m') (f : α → β) :
    m.Reached (t.map f) m' := h

theorem Reached.andThen {α β : Type} {m m' m'' : Moment ω σ} {t : Turnout ω σ α}
    {next : Except Failure α → Session σ → Turnout ω σ β} (h : m.Reached t m')
    (hnext : m'.Reached (next t.outcome m'.session) m'') : m.Reached (t.andThen next) m'' := by
  obtain ⟨hs, ht⟩ := h
  obtain ⟨hs', ht'⟩ := hnext
  rw [hs] at hs' ht'
  exact ⟨hs', by rw [ht', ht, List.append_assoc]; rfl⟩

end Moment

section
variable [Measured ω] (c : Codec ω σ) (imageId : String)

/-- The session before and after each act of the steps. -/
def moments (codecs : String → σ) (steps : List Step) : List (Moment ω σ) :=
  (Moment.start codecs).visits c imageId (actsOfAll c imageId { codecs } steps)

open Moment in
mutual

/-- Performing a step is doing its acts. -/
theorem perform_acts (m : Moment ω σ) (step : Step) : m.Reached (perform c imageId m.session step)
    (m.acts c imageId (actsOf c imageId m.session step)) := by
  cases step with
  | openAs name codec data budget config =>
    unfold perform actsOf
    have opened := m.reached_after (some m.session.entries.length) budget
      (work c m.session codec (openImage imageId data budget config))
    exact opened.andThen ⟨rfl, (List.append_nil _).symm⟩
  | validate codec data budget config =>
    unfold perform actsOf
    exact (m.reached_after ..).map _
  | thumbnail name bound fit =>
    unfold perform actsOf
    exact (m.reached_after ..).map _
  | crop name target =>
    unfold perform actsOf
    exact (m.reached_after ..).map _
  | close name =>
    unfold perform actsOf
    exact (m.reached_after ..).map _
  | isClosed name => exact ⟨rfl, (List.append_nil _).symm⟩
  | facts name => exact ⟨rfl, (List.append_nil _).symm⟩
  | describe name => exact ⟨rfl, (List.append_nil _).symm⟩
  | within name steps failure =>
    unfold perform actsOf
    rw [acts_append]
    -- the handle to close was looked up before the steps inside, and may have lost its name to another
    refine (performUntilFailure_acts m steps).andThen ?_
    refine (reached_after ..).andThen ⟨rfl, (List.append_nil _).symm⟩

theorem performUntilFailure_acts (m : Moment ω σ) (steps : List Step) :
    m.Reached (performUntilFailure c imageId m.session steps)
      (m.acts c imageId (actsUntilFailure c imageId m.session steps)) := by
  cases steps with
  | nil =>
    unfold performUntilFailure actsUntilFailure
    exact ⟨rfl, (List.append_nil _).symm⟩
  | cons step rest =>
    have first := perform_acts m step
    unfold performUntilFailure actsUntilFailure
    rw [acts_append]
    refine first.andThen ?_
    obtain ⟨hs, -⟩ := first
    cases (perform c imageId m.session step).outcome with
    | error f => exact ⟨rfl, (List.append_nil _).symm⟩
    | ok a =>
      have next := performUntilFailure_acts (m.acts c imageId (actsOf c imageId m.session step)) rest
      dsimp only
      rw [← hs]
      exact next.map _

end

/-- The session the steps leave, one after another whatever comes of them, and the calls they make. -/
def performAll (s : Session σ) : List Step → Session σ × List (String × Call ω)
  | [] => (s, [])
  | step :: rest =>
    let t := perform c imageId s step
    let (s, calls) := performAll t.session rest
    (s, t.calls ++ calls)

theorem performAll_acts (m : Moment ω σ) (steps : List Step) :
    let last := m.acts c imageId (actsOfAll c imageId m.session steps)
    last.session = (performAll c imageId m.session steps).1 ∧
      last.trace = m.trace ++ (performAll c imageId m.session steps).2 := by
  induction steps generalizing m with
  | nil => exact ⟨rfl, (List.append_nil _).symm⟩
  | cons step rest ih =>
    obtain ⟨hs, ht⟩ := perform_acts c imageId m step
    have later := ih (m.acts c imageId (actsOf c imageId m.session step))
    rw [hs, ht] at later
    simp only [actsOfAll, performAll, Moment.acts_append]
    exact ⟨later.1, by rw [later.2, List.append_assoc]⟩

/-- The last moment is where performing the steps leads. -/
theorem exists_last_moment (codecs : String → σ) (steps : List Step) : ∃ m ∈ moments c imageId codecs steps,
    m.session = (performAll c imageId { codecs } steps).1 ∧ m.trace = (performAll c imageId { codecs } steps).2 :=
  ⟨_, List.mem_of_getLast? (Moment.getLast?_visits ..), performAll_acts c imageId (Moment.start codecs) steps⟩

end

/-! ## What an act can come to -/

/-- The handle an act is done on, for the acts that need one. -/
def Act.handle? : Act → Option (Option Nat)
  | .openAs .. | .validate .. => none
  | .thumbnail handle _ _ | .crop handle _ | .close handle => some handle

/-- What an act can come to at a moment: whom it makes calls for, these calls, and the handles and budgets it leaves. -/
inductive Deed (m : Moment ω σ) : Act → Account → List (Call ω) → List HandleEntry → List Int → Prop
  | opened {name codec data budget config calls o}
      (opening : Opening data ⟨budget, config.maxDimension⟩ config.outputPolicy calls o) :
      Deed m (.openAs name codec data budget config) ⟨codec, some m.session.entries.length, budget⟩ calls
        (m.session.entries ++ [⟨codec, .ofOutcome o⟩]) (m.budgets ++ [budget])
  | invalid {codec data budget config calls f}
      (opening : Opening data ⟨budget, config.maxDimension⟩ config.outputPolicy calls (.error f)) :
      Deed m (.validate codec data budget config) ⟨codec, none, budget⟩ calls m.session.entries m.budgets
  | valid {codec data budget config calls b facts} (reply : Except Failure Unit)
      (opening : Opening data ⟨budget, config.maxDimension⟩ config.outputPolicy calls (.ok (b, facts))) :
      Deed m (.validate codec data budget config) ⟨codec, none, budget⟩ (calls ++ [⟨.release b, reply⟩])
        m.session.entries m.budgets
  | thumbnail {n codec b facts bound fit calls o} (here : m.session.entries[n]? = some ⟨codec, .opened b facts⟩)
      (carried : Carried (thumbnailPlan facts bound fit) b facts.outputFormat calls o) :
      Deed m (.thumbnail (some n) bound fit) ⟨codec, some n, m.budgetOf (some n)⟩ calls m.session.entries m.budgets
  | crop {n codec b facts target calls o} (here : m.session.entries[n]? = some ⟨codec, .opened b facts⟩)
      (carried : Carried (cropPlan facts target) b facts.outputFormat calls o) :
      Deed m (.crop (some n) target) ⟨codec, some n, m.budgetOf (some n)⟩ calls m.session.entries m.budgets
  | closed {n codec b facts} (reply : Except Failure Unit)
      (here : m.session.entries[n]? = some ⟨codec, .opened b facts⟩) :
      Deed m (.close (some n)) ⟨codec, some n, m.budgetOf (some n)⟩ [⟨.release b, reply⟩]
        (m.session.entries.set n ⟨codec, .closed facts⟩) m.budgets
  | idle {a handle account} (on : a.handle? = some handle) (shut : (m.session.entryAt handle).handle.isClosed) :
      Deed m a account [] m.session.entries m.budgets

theorem entryAt_cases (s : Session σ) (handle : Option Nat) :
    (∃ n codec b facts, handle = some n ∧ s.entries[n]? = some ⟨codec, .opened b facts⟩ ∧
      s.entryAt handle = ⟨codec, .opened b facts⟩) ∨ (s.entryAt handle).handle.isClosed := by
  cases handle with
  | none => exact .inr rfl
  | some n =>
    have hentry : s.entryAt (some n) = s.entries[n]?.getD ⟨"", .uninitialized⟩ := rfl
    rw [hentry]
    rcases h : s.entries[n]? with _ | ⟨codec, _ | ⟨b, facts⟩ | facts⟩
    · exact .inr rfl
    · exact .inr rfl
    · exact .inl ⟨n, codec, b, facts, rfl, h, rfl⟩
    · exact .inr rfl

theorem setHandle_self (s : Session σ) (handle : Option Nat) : s.setHandle handle (s.entryAt handle).handle = s := by
  cases handle with
  | none => rfl
  | some n =>
    have hset : s.entries.set n (s.entries[n]?.getD ⟨"", .uninitialized⟩) = s.entries := by
      by_cases hn : n < s.entries.length
      · simp [List.getElem?_eq_getElem hn]
      · exact List.set_eq_of_length_le (Nat.not_lt.1 hn)
    show { s with entries := s.entries.set n (s.entries[n]?.getD ⟨"", .uninitialized⟩) } = s
    rw [hset]

theorem validateImage_opening (c : Codec ω σ) (s : σ) (imageId : String) (data : Bytes) (budget : Int) (config : Config) :
    let run := (validateImage imageId data budget config).run c s
    (∃ f, Opening data ⟨budget, config.maxDimension⟩ config.outputPolicy run.calls (.error f)) ∨
    ∃ calls b facts reply, run.calls = calls ++ [⟨.release b, reply⟩] ∧
      Opening data ⟨budget, config.maxDimension⟩ config.outputPolicy calls (.ok (b, facts)) := by
  have opening := openImage_opening c s imageId data budget config
  simp only [validateImage, withImage, Work.run_bind, Run.andThen]
  cases h : ((openImage imageId data budget config).run c s).outcome with
  | error f =>
    rw [h] at opening
    exact .inl ⟨f, by simpa using opening⟩
  | ok image =>
    rw [h] at opening
    exact .inr ⟨_, image.1, image.2, _, by simp; rfl, opening⟩

theorem Moment.act_deed [Measured ω] (c : Codec ω σ) (imageId : String) (m : Moment ω σ) (a : Act) :
    ∃ account calls, (m.act c imageId a).calls = m.calls ++ calls.map (account, ·) ∧
      Deed m a account calls (m.act c imageId a).session.entries (m.act c imageId a).budgets := by
  cases a with
  | openAs name codec data budget config =>
    exact ⟨_, _, congrArg _ (List.map_map ..), .opened (openImage_opening ..)⟩
  | validate codec data budget config =>
    refine ⟨_, _, congrArg _ (List.map_map ..), ?_⟩
    rcases validateImage_opening c (m.session.codecs codec) imageId data budget config with
      ⟨f, opening⟩ | ⟨calls, b, facts, reply, hcalls, opening⟩
    · exact .invalid opening
    · rw [hcalls]
      exact .valid reply opening
  | thumbnail handle bound fit =>
    rcases m.session.entryAt_cases handle with ⟨n, codec, b, facts, rfl, here, hentry⟩ | shut
    · refine ⟨_, _, congrArg _ (List.map_map ..), ?_⟩
      rw [hentry]
      exact .thumbnail here (thumbnail_carried ..)
    · refine ⟨⟨"", none, 0⟩, [], ?_, .idle rfl shut⟩
      simp [act, after, work, Handle.thumbnail_of_isClosed shut]
  | crop handle target =>
    rcases m.session.entryAt_cases handle with ⟨n, codec, b, facts, rfl, here, hentry⟩ | shut
    · refine ⟨_, _, congrArg _ (List.map_map ..), ?_⟩
      rw [hentry]
      exact .crop here (crop_carried ..)
    · refine ⟨⟨"", none, 0⟩, [], ?_, .idle rfl shut⟩
      simp [act, after, work, Handle.crop_of_isClosed shut]
  | close handle =>
    rcases m.session.entryAt_cases handle with ⟨n, codec, b, facts, rfl, here, hentry⟩ | shut
    · have hact : m.act c imageId (.close (some n)) = m.after (some n) (m.budgetOf (some n)) (work c
          { m.session with entries := m.session.entries.set n ⟨codec, .closed facts⟩ } codec
          (.request (.release b) : Work ω Unit)) := by
        simp only [act, closeHandle, setHandle, hentry]
        rfl
      rw [hact]
      exact ⟨_, [⟨.release b, _⟩], by simp [after, work]; rfl, .closed _ here⟩
    · have hsame : m.session.setHandle handle (m.session.entryAt handle).handle.afterClose = m.session := by
        rw [Handle.afterClose_of_isClosed shut, setHandle_self]
      have hact : m.act c imageId (.close handle) = m.after handle (m.budgetOf handle)
          (work c m.session (m.session.entryAt handle).codec (.done () : Work ω Unit)) := by
        simp only [act, closeHandle, hsame, Handle.close_of_isClosed shut]
      rw [hact]
      exact ⟨⟨"", none, 0⟩, [], by simp [after, work], .idle rfl shut⟩

/-! ## What the codecs see -/

theorem Moment.callsOn_append {m m' : Moment ω σ} {account : Account} {calls : List (Call ω)}
    (h : m'.calls = m.calls ++ calls.map (account, ·)) (codec : String) :
    m'.callsOn codec = m.callsOn codec ++ if account.codec = codec then calls else [] := by
  simp only [callsOn, h, List.filter_append, List.map_append, List.filter_map, List.map_map]
  congr 1
  split
  · next hc => simp [Function.comp_def, hc]
  · next hc => simp [Function.comp_def, hc]

/-- What was called on each codec is a series of requests to it, from its first state to the present one. -/
def Moment.Served (c : Codec ω σ) (codecs : String → σ) (m : Moment ω σ) : Prop :=
  ∀ codec, ∃ qs, c.serve (codecs codec) qs = (m.callsOn codec, m.session.codecs codec)

section
variable {c : Codec ω σ} {codecs : String → σ}

theorem Moment.served_work {α : Type} {m : Moment ω σ} (h : m.Served c codecs) (s : Session σ)
    (hs : s.codecs = m.session.codecs) (handle : Option Nat) (budget : Int) (codec : String) (w : Work ω α) :
    (m.after handle budget (work c s codec w)).Served c codecs := by
  intro name
  obtain ⟨qs, hqs⟩ := h name
  have hcalls : (m.after handle budget (work c s codec w)).calls =
      m.calls ++ (w.run c (s.codecs codec)).calls.map ((⟨codec, handle, budget⟩ : Account), ·) :=
    congrArg _ (List.map_map ..)
  rw [Moment.callsOn_append hcalls name]
  by_cases hname : codec = name
  · subst hname
    refine ⟨qs ++ (w.run c (s.codecs codec)).calls.map (·.request), ?_⟩
    have hrun := Work.run_serve c (s.codecs codec) w
    rw [hs] at hrun
    simp [Codec.serve_append, hqs, hrun, Moment.after, work, setCodec, hs]
  · refine ⟨qs, ?_⟩
    simp [hqs, hname, Ne.symm hname, Moment.after, work, setCodec, hs]

theorem Moment.Served.act [Measured ω] {m : Moment ω σ} (h : m.Served c codecs) (imageId : String) (a : Act) :
    (m.act c imageId a).Served c codecs := by
  cases a with
  | openAs name codec data budget config => exact Moment.served_work h _ rfl _ _ _ _
  | validate codec data budget config => exact Moment.served_work h _ rfl _ _ _ _
  | thumbnail handle bound fit => exact Moment.served_work h _ rfl _ _ _ _
  | crop handle target => exact Moment.served_work h _ rfl _ _ _ _
  | close handle =>
    refine Moment.served_work h _ ?_ _ _ _ _
    cases handle <;> rfl

theorem served_moments [Measured ω] (c : Codec ω σ) (imageId : String) (codecs : String → σ) (steps : List Step) :
    ∀ m ∈ moments c imageId codecs steps, m.Served c codecs :=
  Moment.visits_keep c imageId (fun _ a served => served.act imageId a) (m := Moment.start codecs)
    (fun _ => ⟨[], rfl⟩) _

end

end Session

end Darkroom
