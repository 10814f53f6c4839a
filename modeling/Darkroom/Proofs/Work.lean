import Darkroom.Handle
/-!
# Runs of work

How `Work.run` goes through the ways work is put together. After this module nobody unfolds `Work.bind`, `attempt` or
`ensure`: a run of a composed work is the run of its first part followed by what comes of it (`Run.andThen`).

`Work.run_serve`: a run is nothing but its requests, asked one after another, so what holds of every series of requests
holds of every run.
-/

namespace Darkroom

variable {ω σ α β : Type}

theorem bind_ok {ε : Type} {x : Except ε α} {f : α → Except ε β} {b : β} (h : x >>= f = .ok b) :
    ∃ a, x = .ok a ∧ f a = .ok b := by
  cases x with
  | error e => cases h
  | ok a => exact ⟨a, rfl, h⟩

theorem bind_error {ε : Type} {x : Except ε α} {f : α → Except ε β} {e : ε} (h : x >>= f = .error e) :
    x = .error e ∨ ∃ a, x = .ok a ∧ f a = .error e := by
  cases x with
  | error => cases h; exact .inl rfl
  | ok a => exact .inr ⟨a, rfl, h⟩

theorem mapError_ok {ε ε' : Type} {f : ε → ε'} {x : Except ε α} {a : α} (h : x.mapError f = .ok a) : x = .ok a := by
  cases x with
  | error => cases h
  | ok => cases h; rfl

/-- What follows goes on from the state left behind, after what was called and noted so far. -/
@[simp] def Run.andThen (r : Run ω σ α) (next : Except Failure α → σ → Run ω σ β) : Run ω σ β :=
  let later := next r.outcome r.state
  { later with calls := r.calls ++ later.calls, journal := r.journal ++ later.journal }

namespace Work
variable (c : Codec ω σ) (s : σ)

@[simp] theorem run_done (a : α) : (done a : Work ω α).run c s = ⟨.ok a, s, [], []⟩ := rfl

@[simp] theorem run_pure (a : α) : (pure a : Work ω α).run c s = ⟨.ok a, s, [], []⟩ := rfl

@[simp] theorem run_fail (f : Failure) : (fail f : Work ω α).run c s = ⟨.error f, s, [], []⟩ := rfl

@[simp] theorem run_ofExcept (o : Except Failure α) : (ofExcept o : Work ω α).run c s = ⟨o, s, [], []⟩ := by
  cases o <;> rfl

@[simp] theorem run_ask (q : Request) (next : Except Failure (q.Reply ω) → Work ω α) : (ask q next).run c s =
    (⟨(c.respond s q).1, (c.respond s q).2, [⟨q, (c.respond s q).1⟩], []⟩ : Run ω σ _).andThen fun reply s =>
      (next reply).run c s := rfl

@[simp] theorem request_eq_ask (q : Request) : (request q : Work ω _) = ask q ofExcept := rfl

@[simp] theorem run_noteAll (rs : List Log.Record) : (noteAll rs : Work ω Unit).run c s = ⟨.ok (), s, [], rs⟩ := by
  induction rs with
  | nil => rfl
  | cons r rs ih => simp only [noteAll, run, ih]

@[simp] theorem run_bind (w : Work ω α) (f : α → Work ω β) : (w >>= f).run c s = (w.run c s).andThen fun o s =>
    match o with
    | .ok a => (f a).run c s
    | .error e => ⟨.error e, s, [], []⟩ := by
  show (w.bind f).run c s = _
  induction w generalizing s with
  | done a => rfl
  | fail e => rfl
  | note r w ih => simp only [bind, run, ih, Run.andThen, List.cons_append]
  | ask q next ih => simp only [bind, run, ih, Run.andThen, List.cons_append]

@[simp] theorem run_attempt (w : Work ω α) :
    w.attempt.run c s = (w.run c s).andThen fun o s => ⟨.ok o, s, [], []⟩ := by
  induction w generalizing s with
  | done a => rfl
  | fail e => rfl
  | note r w ih => simp only [attempt, run, ih, Run.andThen, List.cons_append]
  | ask q next ih => simp only [attempt, run, ih, Run.andThen, List.cons_append]

/-- Cleaning up on the way out: a failure of the cleanup is what remains. -/
theorem run_cleanup (cleanup : Work ω Unit) (o : Except Failure α) : (do cleanup; ofExcept o).run c s =
    (cleanup.run c s).andThen fun cleaned s => ⟨cleaned.bind fun _ => o, s, [], []⟩ := by
  rw [run_bind]
  congr 1
  funext cleaned s
  cases cleaned with
  | ok => exact run_ofExcept c s o
  | error f => rfl

@[simp] theorem run_ensure (w : Work ω α) (cleanup : Work ω Unit) : (w.ensure cleanup).run c s =
    (w.run c s).andThen fun o s => (cleanup.run c s).andThen fun cleaned s =>
      ⟨cleaned.bind fun _ => o, s, [], []⟩ := by
  rw [ensure, run_bind, run_attempt]
  simp only [Run.andThen, List.append_nil, run_cleanup]

@[simp] theorem run_onFailure (w : Work ω α) (cleanup : Work ω Unit) : (w.onFailure cleanup).run c s =
    (w.run c s).andThen fun o s =>
      match o with
      | .ok a => ⟨.ok a, s, [], []⟩
      | .error e => (cleanup.run c s).andThen fun cleaned s => ⟨cleaned.bind fun _ => .error e, s, [], []⟩ := by
  rw [onFailure, run_bind, run_attempt]
  simp only [Run.andThen, List.append_nil]
  cases (w.run c s).outcome with
  | ok a => rfl
  | error e =>
    have := run_cleanup c (w.run c s).state cleanup (.error e : Except Failure α)
    simp only [ofExcept] at this
    simp only [this, Run.andThen, List.append_nil]

end Work

/-! ## Series of requests -/

/-- The calls that come of requests asked one after another, and the state they leave. -/
def Codec.serve (c : Codec ω σ) : σ → List Request → List (Call ω) × σ
  | s, [] => ([], s)
  | s, q :: rest =>
    let (reply, s) := c.respond s q
    let (calls, s) := c.serve s rest
    (⟨q, reply⟩ :: calls, s)

theorem Codec.serve_append (c : Codec ω σ) (s : σ) (qs rest : List Request) : c.serve s (qs ++ rest) =
    ((c.serve s qs).1 ++ (c.serve (c.serve s qs).2 rest).1, (c.serve (c.serve s qs).2 rest).2) := by
  induction qs generalizing s with
  | nil => rfl
  | cons q qs ih => simp only [List.cons_append, serve, ih]

@[simp] theorem Codec.length_serve (c : Codec ω σ) (s : σ) (qs : List Request) : (c.serve s qs).1.length = qs.length := by
  induction qs generalizing s with
  | nil => rfl
  | cons q qs ih => simp only [serve, List.length_cons, ih]

/-- What is served is what was asked. -/
@[simp] theorem Codec.map_request_serve (c : Codec ω σ) (s : σ) (qs : List Request) :
    (c.serve s qs).1.map (·.request) = qs := by
  induction qs generalizing s with
  | nil => rfl
  | cons q qs ih => simp only [serve, List.map_cons, ih]

/-- What was served altogether was served in part. -/
theorem Codec.serve_of_append {c : Codec ω σ} {s : σ} {calls more : List (Call ω)}
    (h : (c.serve s ((calls ++ more).map (·.request))).1 = calls ++ more) :
    (c.serve s (calls.map (·.request))).1 = calls ∧
      (c.serve (c.serve s (calls.map (·.request))).2 (more.map (·.request))).1 = more := by
  rw [List.map_append, Codec.serve_append] at h
  exact List.append_inj h (by simp)

theorem Work.run_serve (c : Codec ω σ) (s : σ) (w : Work ω α) :
    c.serve s ((w.run c s).calls.map (·.request)) = ((w.run c s).calls, (w.run c s).state) := by
  induction w generalizing s with
  | done a => rfl
  | fail e => rfl
  | note r w ih => exact ih s
  | ask q next ih => simp only [run, List.map_cons, Codec.serve, ih]

end Darkroom
