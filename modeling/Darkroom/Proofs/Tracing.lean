import Darkroom.Proofs.Addresses
import Darkroom.Proofs.Remarks
import Darkroom.Service.Site
/-!
# Requests that can be traced

Around an application, the layers of a site let no failure out, as long as the address of the request makes sense or
nothing is logged. What they answer and remark on follows from what the application comes to (`deliver_layers`): an answer
of its own, one for a failure of the library's own, or an apology for any other. In each case the answer tells the id of
the request, and with logging its start and its completion are told under this id, once each, and no failure. An address
that makes no sense fails the logging itself, and nothing is left to trace the request by (`deliver_unaddressed`,
`request_traced`).
-/

namespace Darkroom

variable {ω σ α : Type}

namespace Http

/-! ## What stands inside the layers -/

/-- An application that leaves the id of a request alone and does not speak for the layers. -/
structure Unobtrusive (app : Application ω) : Prop where
  keeps : ∀ r known, (app r known).requestId = known
  silent : ∀ r known, ∀ record ∈ (app r known).journal, record.logger ≠ "imager.transport.middleware"

/-- Each request is answered at once or left to another application. -/
theorem Unobtrusive.of_cases {app : Application ω}
    (h : ∀ r known, (∃ response, app r known = ⟨.ok response, known, []⟩) ∨
      ∃ other, Unobtrusive other ∧ app r known = other r known) : Unobtrusive app := by
  refine ⟨?_, ?_⟩ <;> intro r known <;>
    rcases h r known with ⟨response, answered⟩ | ⟨other, unobtrusive, answered⟩ <;> rw [answered]
  · exact unobtrusive.keeps r known
  · exact fun record hr => absurd hr List.not_mem_nil
  · exact unobtrusive.silent r known

theorem Route.dispatch_unobtrusive {routes : List (Route ω)} (h : ∀ route ∈ routes, Unobtrusive route.answer) :
    Unobtrusive (Route.dispatch routes) := by
  refine .of_cases fun r known => ?_
  unfold dispatch
  dsimp only
  split
  · next route found =>
    split
    · exact .inr ⟨route.answer, h route (List.mem_of_find?_eq_some found), rfl⟩
    · exact .inl ⟨_, rfl⟩
  · split <;> exact .inl ⟨_, rfl⟩

/-! ## What the layers make of it -/

/-- Where a request has got to is told in records of this kind. -/
def isProgress (record : Log.Record) : Bool :=
  record.logger == "imager.transport.middleware" && "Request ".toList.isPrefixOf record.text.toList

/-- The id a request brings, even if it is empty, or a fresh one. -/
def tracedId (c : Circumstances) (r : Request) : String := (r.header? "X-Request-ID").getD c.freshId

/-- What is answered in the end, but for the header with the id. -/
def settled (requestId : String) : Except Failure (Response ω) → Response ω
  | .ok response => response
  | .error f => if f.kind.isOwn then Service.problemResponse f else Layer.apology requestId

section
variable (c : Circumstances) (requestId subject : String) (status : Nat) (f : Failure)

theorem Layer.started_eq : Layer.started requestId subject =
    { level := .info
      logger := "imager.transport.middleware"
      text := s!"Request started: {subject}"
      attributes := [("request_id", .string requestId)] } := rfl

theorem Layer.completed_eq : Layer.completed c requestId subject status =
    { level := .info
      logger := "imager.transport.middleware"
      text := s!"Request completed: {subject} status={status} duration={c.duration}"
      attributes :=
        [("status_code", .int status), ("duration_ms", c.durationMetric), ("request_id", .string requestId)] } := rfl

theorem Layer.unhandled_eq : Layer.unhandled c requestId f =
    { level := .error
      logger := "imager.transport.middleware"
      text := s!"Unhandled exception: {f.kind.shortLabel}: {f.text}"
      attributes := [("request_id", .string requestId)]
      exception := some (c.account f) } := rfl

theorem isProgress_started : isProgress (Layer.started requestId subject) = true := by
  have announced : "Request ".toList <+: (toString "Request started: ").toList := by decide
  simp only [Layer.started_eq, isProgress, beq_self_eq_true, Bool.true_and, String.toList_append,
    List.isPrefixOf_iff_prefix]
  exact announced.trans (List.prefix_append ..)

theorem isProgress_completed : isProgress (Layer.completed c requestId subject status) = true := by
  have announced : "Request ".toList <+: (toString "Request completed: ").toList := by decide
  simp only [Layer.completed_eq, isProgress, beq_self_eq_true, Bool.true_and, String.toList_append, List.append_assoc,
    List.isPrefixOf_iff_prefix]
  exact announced.trans (List.prefix_append ..)

theorem isProgress_unhandled : isProgress (Layer.unhandled c requestId f) = false := by
  simp only [Layer.unhandled_eq, isProgress, beq_self_eq_true, Bool.true_and, String.toList_append, List.append_assoc]
  rfl

end

theorem isProgress_of_ne {record : Log.Record} (h : record.logger ≠ "imager.transport.middleware") :
    isProgress record = false := by
  simp [isProgress, h]

namespace Unobtrusive
variable {app : Application ω} (h : Unobtrusive app) (r : Request) (known : Option String)
include h

theorem filter_journal : (app r known).journal.filter isProgress = [] := by
  rw [List.filter_eq_nil_iff]
  intro record hr
  rw [isProgress_of_ne (h.silent r known record hr)]
  exact Bool.false_ne_true

/-- Right inside the logging, every failure has become an answer. -/
theorem guarded (c : Circumstances) : ∃ journal, Layer.guard c (Service.owningUp app) r known =
    ⟨.ok (settled (known.getD Layer.noId) (app r known).outcome), known, journal⟩ ∧ journal.filter isProgress = [] := by
  have keeps := h.keeps r known
  have before := h.filter_journal r known
  unfold Layer.guard Service.owningUp
  dsimp only
  rcases happ : app r known with ⟨f | response, id, journal⟩ <;> rw [happ] at keeps before <;> subst keeps
  · by_cases own : f.kind.isOwn
    · have turnedDown : isProgress (Service.turnedDown f) = false := by
        refine isProgress_of_ne ?_
        unfold Service.turnedDown
        split <;> exact (by decide : Service.logger ≠ "imager.transport.middleware")
      refine ⟨journal ++ [Service.turnedDown f], by simp [own, settled], ?_⟩
      rw [List.filter_append, before, List.filter_cons_of_neg (by simp [turnedDown])]
      rfl
    · refine ⟨journal ++ [Layer.unhandled c (id.getD Layer.noId) f], by simp [own, settled], ?_⟩
      rw [List.filter_append, before, List.filter_cons_of_neg (by simp [isProgress_unhandled])]
      rfl
  · exact ⟨journal, rfl, before⟩

end Unobtrusive

theorem toList_toLower (s : String) : s.toLower.toList = s.toList.map Char.toLower := String.toList_map

theorem identified_eq (c : Circumstances) (r : Request) :
    (r.header? Layer.idHeader).getD c.freshId = tracedId c r := by
  have same : Layer.idHeader.toLower = "X-Request-ID".toLower := by
    rw [← String.toList_inj, toList_toLower, toList_toLower]
    decide
  simp only [tracedId, Request.header?, header?, same]

section
variable (c : Circumstances) (logging : Bool) {app app' : Application ω} {r : Request}

/-- What comes in the end of a request whose path is known, at least if it is logged. -/
theorem deliver_layers (h : Unobtrusive app) {path : String} (addressed : logging → r.addressedPath = .ok path) :
    let d := deliver (Layer.wrapAll c (Service.layers logging) (Service.owningUp app)) r
    let answer := settled (tracedId c r) (app r (some (tracedId c r))).outcome
    d.response = answer.withHeader Layer.idHeader (tracedId c r) ∧ d.escaped = none ∧
      d.journal.filter isProgress = if logging then
        [Layer.started (tracedId c r) (Layer.subject r path),
          Layer.completed c (tracedId c r) (Layer.subject r path) answer.status]
      else [] := by
  obtain ⟨journal, guarded, silent⟩ := h.guarded r (some (tracedId c r)) c
  cases logging with
  | false =>
    have layered : Layer.wrapAll c (Service.layers false) (Service.owningUp app) =
      Layer.identify c (Layer.guard c (Service.owningUp app)) := rfl
    simp only [layered, deliver, Layer.identify, identified_eq, guarded, Except.map]
    exact ⟨rfl, trivial, silent⟩
  | true =>
    have layered : Layer.wrapAll c (Service.layers true) (Service.owningUp app) =
      Layer.identify c (Layer.log c (Layer.guard c (Service.owningUp app))) := rfl
    simp only [layered, deliver, Layer.identify, Layer.log, addressed rfl, identified_eq, guarded, Except.map]
    refine ⟨rfl, trivial, ?_⟩
    rw [List.cons_append, List.filter_cons_of_pos (isProgress_started ..), List.filter_append, silent,
      List.filter_cons_of_pos (isProgress_completed ..), if_pos trivial]
    rfl

/-- A request is lost in the logging if its address makes no sense, whatever there is to answer it. -/
theorem deliver_unaddressed {f : Failure} (unaddressed : r.addressedPath = .error f) :
    deliver (Layer.wrapAll c (Service.layers true) app) r = ⟨.ofText 500 "Internal Server Error", some f, []⟩ := by
  have layered : Layer.wrapAll c (Service.layers true) app = Layer.identify c (Layer.log c (Layer.guard c app)) := rfl
  simp only [layered, deliver, Layer.identify, Layer.log, unaddressed, Except.map]

/-- Nothing counts of an application but what it makes of the request under its id. -/
theorem deliver_congr (h : app r (some (tracedId c r)) = app' r (some (tracedId c r))) :
    deliver (Layer.wrapAll c (Service.layers logging) (Service.owningUp app)) r =
      deliver (Layer.wrapAll c (Service.layers logging) (Service.owningUp app')) r := by
  cases logging <;>
    simp only [Layer.wrapAll, Service.layers, List.foldl, Layer.wrap, deliver, Layer.identify, Layer.log, Layer.guard,
      Service.owningUp, identified_eq, h]

end

/-- The header takes the place of all others of its name. -/
theorem Response.filter_withHeader (response : Response ω) (name value : String) :
    (response.withHeader name value).headers.filter (·.1.toLower == name.toLower) = [(name, value)] := by
  have others : (response.headers.filter (·.1.toLower != name.toLower)).filter (·.1.toLower == name.toLower) = [] := by
    rw [List.filter_filter, List.filter_eq_nil_iff]
    simp
  show (response.headers.filter (·.1.toLower != name.toLower) ++ [(name, value)]).filter _ = _
  rw [List.filter_append, others, List.filter_cons_of_pos (by simp)]
  rfl

/-! ## Traces -/

/-- A request for a path of which an application made `outcome`, as it can be traced from what was delivered. -/
structure Traced (c : Circumstances) (logging : Bool) (r : Request) (path : String)
    (outcome : Except Failure (Response ω)) (d : Delivery ω) : Prop where
  absorbed : d.escaped = none
  tagged : d.response.headers.filter (·.1.toLower == "x-request-id") = [("x-request-id", tracedId c r)]
  apologized : ∀ f, outcome = .error f → f.kind.isOwn = false → d.response.status = 500 ∧
    d.response.body = .json (.object [("error", .string "Internal server error"),
      ("request_id", .string (tracedId c r))])
  progress : d.journal.filter isProgress = if logging then
      [ { level := .info
          logger := "imager.transport.middleware"
          text := s!"Request started: {r.method} {path}"
          attributes := [("request_id", .string (tracedId c r))] },
        { level := .info
          logger := "imager.transport.middleware"
          text := s!"Request completed: {r.method} {path} status={d.response.status} duration={c.duration}"
          attributes := [("status_code", .int d.response.status), ("duration_ms", c.durationMetric),
            ("request_id", .string (tracedId c r))] }]
    else []

theorem Unobtrusive.traced {app : Application ω} (h : Unobtrusive app) (c : Circumstances) {logging : Bool}
    {r : Request} {path : String} (addressed : logging → r.addressedPath = .ok path) :
    Traced c logging r path (app r (some (tracedId c r))).outcome
      (deliver (Layer.wrapAll c (Service.layers logging) (Service.owningUp app)) r) := by
  obtain ⟨response, escaped, progress⟩ := deliver_layers c logging h addressed
  refine ⟨escaped, ?_, ?_, ?_⟩
  · have small : Layer.idHeader.toLower = "x-request-id" := by
      rw [← String.toList_inj, toList_toLower]
      decide
    have once := Response.filter_withHeader (settled (tracedId c r) (app r (some (tracedId c r))).outcome)
      Layer.idHeader (tracedId c r)
    rwa [← response, small] at once
  · intro f hf other
    rw [response, hf, settled, if_neg (by simp [other])]
    exact ⟨rfl, rfl⟩
  · rw [progress, response]
    rfl

end Http

namespace Service
variable (s : Studio ω σ)

theorem Studio.handle_unobtrusive (operation : String) {work : Job → Work ω α}
    (hw : ∀ job, (work job).Remarks Log.Record.IsOfImage) (encode : α → Http.Response ω) :
    Http.Unobtrusive (s.handle operation work encode) := by
  have foreign : ∀ record : Log.Record, record.IsOfImage → record.logger ≠ "imager.transport.middleware" := by
    intro record hr same
    rw [Log.Record.IsOfImage, same] at hr
    exact absurd hr (by decide)
  refine ⟨?_, ?_⟩ <;> intro r known <;> unfold handle <;> split
  · rfl
  · rfl
  · exact fun record hr => absurd hr List.not_mem_nil
  · next data _ =>
    intro record hr
    dsimp only at hr
    unfold perform at hr
    split at hr
    · exact absurd hr List.not_mem_nil
    · exact foreign record ((hw _).journal s.codec _ record hr)

variable [Measured ω]

theorem Studio.thumbnail_unobtrusive : Http.Unobtrusive s.thumbnail := by
  refine .of_cases fun r known => ?_
  unfold thumbnail
  split
  · exact .inl ⟨_, rfl⟩
  · next bound fit _ =>
    have remarks : ∀ job : Job,
        (job.derive fun image => (image.thumbnail bound fit : Work ω ω)).Remarks Log.Record.IsOfImage :=
      fun job => job.derive_remarks fun b facts => Derivation.thumbnail_remarks b facts bound fit
    exact .inr ⟨_, s.handle_unobtrusive "thumbnail" remarks _, rfl⟩

theorem Studio.crop_unobtrusive : Http.Unobtrusive s.crop := by
  refine .of_cases fun r known => ?_
  unfold crop
  split
  · exact .inl ⟨_, rfl⟩
  · next target _ =>
    have remarks : ∀ job : Job,
        (job.derive fun image => (image.crop target : Work ω ω)).Remarks Log.Record.IsOfImage :=
      fun job => job.derive_remarks fun b facts => Derivation.crop_remarks b facts target
    exact .inr ⟨_, s.handle_unobtrusive "crop" remarks _, rfl⟩

theorem Studio.routes_unobtrusive : ∀ route ∈ s.routes, Http.Unobtrusive route.answer := by
  unfold routes
  simp only [List.forall_mem_cons]
  refine ⟨?_, ?_, s.thumbnail_unobtrusive, s.crop_unobtrusive, fun _ h => absurd h List.not_mem_nil⟩
  · exact .of_cases fun r known => .inl ⟨_, rfl⟩
  · exact s.handle_unobtrusive "info" Job.describe_remarks _

end Service

end Darkroom
