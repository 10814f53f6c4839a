import Darkroom.Proofs.ScriptedCodec
import Darkroom.Proofs.Tracing
import Darkroom.Proofs.Upload
import Mathlib
/-!
# What comes of a request for a derived image

A query asks for a thumbnail or a crop, or makes no sense (`Asks`). One without sense is refused whatever the service
works with. Any other is answered with what comes of reading the upload, opening the image and deriving from it: the
first failure on the way, or an image in the format it was encoded in. All this is so unless the request is lost in the
logging for an address that makes no sense (`derivation_answered`).
-/

namespace Darkroom

variable {ω σ α β γ : Type}

/-! ## Checks -/

namespace Validation

theorem Checked.map_eq_ok_iff {f : α → β} {a : Checked α} {x : β} : f <$> a = .ok x ↔ ∃ y, a = .ok y ∧ f y = x := by
  change (Checked.ok f).and a = .ok x ↔ _
  cases a <;> simp [Checked.and]

theorem Checked.seq_eq_ok_iff {f : Checked (α → β)} {a : Checked α} {x : β} :
    f <*> a = .ok x ↔ ∃ g y, f = .ok g ∧ a = .ok y ∧ g y = x := by
  change f.and a = .ok x ↔ _
  cases f <;> cases a <;> simp [Checked.and]

theorem Checked.both_eq_ok_iff {f : α → β → γ} {a : Checked α} {b : Checked β} {x : γ} :
    f <$> a <*> b = .ok x ↔ ∃ y z, a = .ok y ∧ b = .ok z ∧ f y z = x := by
  simp only [seq_eq_ok_iff, map_eq_ok_iff]
  constructor
  · rintro ⟨_, z, ⟨y, ha, rfl⟩, hb, hx⟩
    exact ⟨y, z, ha, hb, hx⟩
  · rintro ⟨y, z, ha, hb, hx⟩
    exact ⟨f y, z, ⟨y, ha, rfl⟩, hb, hx⟩

theorem field_some_eq_ok_iff {name : String} {rule : Rule α} {v : Json} {default : Option α} {a : α} :
    field name rule (some v) default = .ok a ↔ rule v = .ok a := by
  unfold field
  dsimp only
  cases rule v <;> simp

theorem field_eq_ok_iff {name : String} {rule : Rule α} {value : Option Json} {default : Option α} {a : α} :
    field name rule value default = .ok a ↔
      (∃ v, value = some v ∧ rule v = .ok a) ∨ value = none ∧ default = some a := by
  cases value with
  | none => cases default <;> simp [field]
  | some v => simp [field_some_eq_ok_iff]

theorem atLeast_eq_ok_iff {least : Int} {rule : Rule Int} {j : Json} {n : Int} :
    atLeast least rule j = .ok n ↔ rule j = .ok n ∧ least ≤ n := by
  unfold atLeast
  cases rule j with
  | error complaint => simp [bind, Except.bind]
  | ok m =>
    by_cases low : m < least
    · simp only [bind, Except.bind, if_pos low, reduceCtorEq, false_iff, Except.ok.injEq]
      omega
    · simp only [bind, Except.bind, if_neg low, Except.ok.injEq]
      omega

theorem atMost_eq_ok_iff {greatest : Int} {rule : Rule Int} {j : Json} {n : Int} :
    atMost greatest rule j = .ok n ↔ rule j = .ok n ∧ n ≤ greatest := by
  unfold atMost
  cases rule j with
  | error complaint => simp [bind, Except.bind]
  | ok m =>
    by_cases high : greatest < m
    · simp only [bind, Except.bind, if_pos high, reduceCtorEq, false_iff, Except.ok.injEq]
      omega
    · simp only [bind, Except.bind, if_neg high, Except.ok.injEq]
      omega

theorem between_eq_ok_iff {least greatest : Int} {rule : Rule Int} {j : Json} {n : Int} :
    atMost greatest (atLeast least rule) j = .ok n ↔ rule j = .ok n ∧ least ≤ n ∧ n ≤ greatest := by
  rw [atMost_eq_ok_iff, atLeast_eq_ok_iff, and_assoc]

end Validation

/-! ## Outputs -/

theorem Carried.encoded {plan : Except GeometryError (List Stage)} {source : BufferId} {format : Format}
    {calls : List (Call ω)} {output : ω} (h : Carried plan source format calls (.ok output)) :
    ∃ last, ⟨.encode last format, .ok output⟩ ∈ calls := by
  obtain ⟨_, _, _, last, _, _, _, rfl⟩ := h.of_ok
  exact ⟨last, by simp⟩

namespace Service

/-! ## What a query asks for -/

/-- The side of a box, from one to the greatest that can be asked for. -/
def GivesSide (r : Http.Request) (name : String) (n : Int) : Prop :=
  ∃ text, r.parameter? name = some text ∧ Validation.integerOfText text = .ok n ∧ 1 ≤ n ∧ n ≤ 16384

/-- Whether a thumbnail is to fit into its box, which it is if nothing is said. -/
def GivesFit (r : Http.Request) (fit : Bool) : Prop :=
  (∃ text, r.parameter? "fit" = some text ∧ Validation.booleanOfText text = .ok fit) ∨
    r.parameter? "fit" = none ∧ fit = true

/-- A derived image that can be asked for. -/
inductive Order
  | thumbnail (bound : Dimensions) (fit : Bool)
  | crop (target : Dimensions)

def Order.work [Measured ω] : Order → Handle → Work ω ω
  | .thumbnail bound fit, image => image.thumbnail bound fit
  | .crop target, image => image.crop target

/-- What a request asks for, if its query makes sense. -/
inductive Asks (r : Http.Request) : Order → Prop
  | thumbnail {w h fit} (path : r.path = "/thumbnail") (width : GivesSide r "width" w) (height : GivesSide r "height" h)
      (fits : GivesFit r fit) : Asks r (.thumbnail ⟨w, h⟩ fit)
  | crop {w h} (path : r.path = "/crop") (width : GivesSide r "width" w) (height : GivesSide r "height" h) :
      Asks r (.crop ⟨w, h⟩)

section
variable {r : Http.Request}

theorem side_eq_ok_iff {name : String} {n : Int} :
    Validation.field name Parameters.side ((r.parameter? name).map Json.string) = .ok n ↔ GivesSide r name n := by
  rw [Validation.field_eq_ok_iff]
  unfold GivesSide Parameters.side Parameters.greatestSide
  cases r.parameter? name with
  | none => simp
  | some text =>
    simp only [Option.map_some, Option.some.injEq, exists_eq_left', Validation.between_eq_ok_iff]
    simp [Validation.integer]

theorem fit_eq_ok_iff {fit : Bool} :
    Validation.field "fit" Validation.boolean ((r.parameter? "fit").map Json.string) (some true) = .ok fit ↔
      GivesFit r fit := by
  rw [Validation.field_eq_ok_iff]
  unfold GivesFit
  cases r.parameter? "fit" with
  | none => simp [eq_comm]
  | some text => simp [Validation.boolean]

theorem crop_eq_ok_iff {target : Dimensions} :
    Parameters.crop r = .ok target ↔ GivesSide r "width" target.width ∧ GivesSide r "height" target.height := by
  have parts : Parameters.crop r = Dimensions.mk <$>
    Validation.field "width" Parameters.side ((r.parameter? "width").map Json.string) <*>
    Validation.field "height" Parameters.side ((r.parameter? "height").map Json.string) := rfl
  rw [parts, Validation.Checked.both_eq_ok_iff]
  simp only [side_eq_ok_iff]
  constructor
  · rintro ⟨w, h, hw, hh, rfl⟩
    exact ⟨hw, hh⟩
  · rintro ⟨hw, hh⟩
    exact ⟨_, _, hw, hh, rfl⟩

theorem thumbnail_eq_ok_iff {bound : Dimensions} {fit : Bool} : Parameters.thumbnail r = .ok (bound, fit) ↔
    (GivesSide r "width" bound.width ∧ GivesSide r "height" bound.height) ∧ GivesFit r fit := by
  have parts : Parameters.thumbnail r = Prod.mk <$> Parameters.crop r <*>
    Validation.field "fit" Validation.boolean ((r.parameter? "fit").map Json.string) (some true) := rfl
  rw [parts, Validation.Checked.both_eq_ok_iff]
  simp only [crop_eq_ok_iff, fit_eq_ok_iff, Prod.mk.injEq]
  constructor
  · rintro ⟨_, _, sides, fits, rfl, rfl⟩
    exact ⟨sides, fits⟩
  · rintro ⟨sides, fits⟩
    exact ⟨_, _, sides, fits, rfl, rfl⟩

end

/-! ## What is done for it -/

section
variable (s : Studio ω σ) (received : Except Failure Bytes)

/-- The image that was received, with the codec it is open on. -/
def Studio.opening : Except Failure (σ × BufferId × Facts) := do
  let data ← received
  let state ← s.start s.settings.imageConfig
  let run := (openImage s.imageId data s.settings.maxBufferPixels s.settings.imageConfig : Work ω _).run s.codec state
  let (b, facts) ← run.outcome
  return (run.state, b, facts)

variable [Measured ω] (order : Order)

/-- What is derived of the image, with the format it is written in. -/
def Studio.derived : Except Failure (Format × ω) := do
  let (state, b, facts) ← s.opening received
  let output ← ((order.work (.opened b facts)).run s.codec state).outcome
  return (facts.outputFormat, output)

/-- What comes of closing the image behind it, if it was opened. -/
def Studio.closing : Except Failure Unit :=
  match s.opening received with
  | .error _ => .ok ()
  | .ok (state, b, facts) =>
    let run := (order.work (.opened b facts)).run s.codec state
    ((Handle.opened b facts).close.run s.codec run.state).outcome

end

section
variable (c : Codec ω σ) (state : σ)

/-- What the log is told before, and what is made of the result, changes nothing for the codec. -/
theorem run_noted (rs : List Log.Record) (w : Work ω α) (f : α → β) :
    let run := (do Work.noteAll rs; let a ← w; return f a : Work ω β).run c state
    run.outcome = (w.run c state).outcome.map f ∧ run.state = (w.run c state).state := by
  simp only [Work.run_bind, Work.run_noteAll, Work.run_pure, Run.andThen]
  cases (w.run c state).outcome <;> exact ⟨rfl, rfl⟩

theorem outcome_told (w : Work ω α) (rs : α → List Log.Record) (f : α → β) :
    ((do let a ← w; Work.noteAll (rs a); return f a : Work ω β).run c state).outcome =
      (w.run c state).outcome.map f := by
  simp only [Work.run_bind, Work.run_noteAll, Work.run_pure, Run.andThen]
  cases (w.run c state).outcome <;> rfl

/-- An image is opened, used and closed; a failure of closing is what remains. -/
theorem outcome_withImage (imageId : String) (data : Bytes) (budget : Int) (config : Config)
    (use : BufferId → Facts → Work ω α) :
    let opening := (openImage imageId data budget config).run c state
    ((withImage imageId data budget config use).run c state).outcome = opening.outcome.bind fun image =>
      let run := (use image.1 image.2).run c opening.state
      ((Handle.opened image.1 image.2).close.run c run.state).outcome.bind fun _ => run.outcome := by
  intro opening
  rw [withImage, Work.run_bind]
  show (Run.andThen opening _).outcome = _
  rw [Run.andThen]
  cases opening.outcome with
  | error f => rfl
  | ok image =>
    show (Work.run c (Work.ensure _ _) opening.state).outcome = _
    rw [Work.run_ensure]
    rfl

theorem Job.outcome_derive [Measured ω] (j : Job) (operation : Handle → Work ω ω) :
    let opening := (openImage j.imageId j.data j.settings.maxBufferPixels j.settings.imageConfig).run c state
    ((j.derive operation).run c state).outcome = opening.outcome.bind fun image =>
      let handle := Handle.opened image.1 image.2
      let run := (operation handle).run c opening.state
      (handle.close.run c run.state).outcome.bind fun _ =>
        run.outcome.map fun output => (image.2.outputFormat.mediaType, output) := by
  intro opening
  have told : ((j.derive operation).run c state).outcome = _ :=
    outcome_told c state _ _ fun image : ω × String => (image.2, image.1)
  rw [told, Job.opened, outcome_withImage]
  show (opening.outcome.bind _).map _ = _
  cases opening.outcome with
  | error f => rfl
  | ok image =>
    obtain ⟨output, kept⟩ := run_noted c opening.state
      [record j.imageContext (s!"Decoded {image.2.inputFormat.name} {image.2.dimensions.text}, " ++
        s!"orientation={image.2.orientation}, output={image.2.outputFormat.name}")]
      (operation (.opened image.1 image.2)) fun output => (output, image.2.outputFormat.mediaType)
    simp only [Except.bind]
    rw [output, kept]
    cases ((Handle.opened image.1 image.2).close.run c
      ((operation (.opened image.1 image.2)).run c opening.state).state).outcome with
    | error f => rfl
    | ok => cases ((operation (.opened image.1 image.2)).run c opening.state).outcome <;> rfl

end

section
variable [Measured ω] (s : Studio ω σ)

/-- What comes of closing the image and of deriving from it. -/
def Studio.settled (received : Except Failure Bytes) (order : Order) : Except Failure (Format × ω) :=
  (s.closing received order).bind fun _ => s.derived received order

/-- Nothing is derived of an image that does not open, and there is nothing to close. -/
theorem Studio.settled_of_unopened {received : Except Failure Bytes} {f : Failure} (order : Order)
    (h : s.opening received = .error f) : s.settled received order = .error f := by
  simp only [settled, closing, derived, h]
  rfl

variable (r : Http.Request) (known : Option String)

/-- The image is closed whatever was derived of it, and a failure of closing is what remains. -/
theorem Studio.outcome_handle (operation : String) (order : Order) :
    (s.handle operation (fun job => job.derive order.work) (fun image => .ofEncoded image.1 image.2) r known).outcome =
      (s.settled (Upload.read s.settings.maxUploadBytes r).outcome order).map fun image =>
        Http.Response.ofEncoded image.1.mediaType image.2 := by
  unfold handle
  cases (Upload.read s.settings.maxUploadBytes r).outcome with
  | error f => rw [s.settled_of_unopened order rfl]; rfl
  | ok data =>
    unfold perform
    dsimp only
    cases hs : s.start s.settings.imageConfig with
    | error f => rw [s.settled_of_unopened order (by simp only [opening, hs]; rfl)]; rfl
    | ok state =>
      simp only [Job.outcome_derive, job]
      rcases hopen : (openImage s.imageId data s.settings.maxBufferPixels s.settings.imageConfig : Work ω _).run s.codec
        state with ⟨f | ⟨b, facts⟩, later, calls, journal⟩
      · rw [s.settled_of_unopened order (f := f) (by simp only [opening, hs, bind, Except.bind, hopen])]
        rfl
      · have opened : s.opening (.ok data) = .ok (later, b, facts) := by
          simp only [opening, hs, bind, Except.bind, hopen]
          rfl
        simp only [settled, closing, derived, opened, Except.bind, bind]
        generalize (order.work (.opened b facts)).run s.codec later = run
        cases ((Handle.opened b facts).close.run s.codec run.state).outcome with
        | error f => rfl
        | ok => cases run.outcome <;> rfl

theorem Studio.outcome_thumbnail {bound : Dimensions} {fit : Bool} (h : Parameters.thumbnail r = .ok (bound, fit)) :
    (s.thumbnail r known).outcome =
      (s.settled (Upload.read s.settings.maxUploadBytes r).outcome (.thumbnail bound fit)).map fun image =>
        Http.Response.ofEncoded image.1.mediaType image.2 := by
  rw [← s.outcome_handle r known "thumbnail"]
  unfold thumbnail
  rw [h]
  rfl

theorem Studio.outcome_crop {target : Dimensions} (h : Parameters.crop r = .ok target) :
    (s.crop r known).outcome =
      (s.settled (Upload.read s.settings.maxUploadBytes r).outcome (.crop target)).map fun image =>
        Http.Response.ofEncoded image.1.mediaType image.2 := by
  rw [← s.outcome_handle r known "crop"]
  unfold crop
  rw [h]
  rfl

end

/-! ## What is answered -/

section
variable {r : Http.Request}

theorem dispatch_thumbnail [Measured ω] (s : Studio ω σ) (known : Option String) (post : r.method = "POST")
    (path : r.path = "/thumbnail") : Http.Route.dispatch s.routes r known = s.thumbnail r known := by
  simp [Http.Route.dispatch, Studio.routes, Http.Route.leadsTo, path, post]

theorem dispatch_crop [Measured ω] (s : Studio ω σ) (known : Option String) (post : r.method = "POST")
    (path : r.path = "/crop") : Http.Route.dispatch s.routes r known = s.crop r known := by
  simp [Http.Route.dispatch, Studio.routes, Http.Route.leadsTo, path, post]

/-- A request that asks for something gets what comes of it. -/
theorem dispatch_of_asks [Measured ω] (s : Studio ω σ) (known : Option String) {order : Order}
    (post : r.method = "POST") (asks : Asks r order) :
    (Http.Route.dispatch s.routes r known).outcome =
      (s.settled (Upload.read s.settings.maxUploadBytes r).outcome order).map fun image =>
        Http.Response.ofEncoded image.1.mediaType image.2 := by
  cases asks with
  | thumbnail path width height fits =>
    rw [dispatch_thumbnail s known post path]
    exact s.outcome_thumbnail r known (thumbnail_eq_ok_iff.2 ⟨⟨width, height⟩, fits⟩)
  | crop path width height =>
    rw [dispatch_crop s known post path]
    exact s.outcome_crop r known (crop_eq_ok_iff.2 ⟨width, height⟩)

/-- A request that asks for nothing is refused by its query alone. -/
theorem dispatch_of_senseless (known : Option String) (post : r.method = "POST")
    (path : r.path = "/thumbnail" ∨ r.path = "/crop") (senseless : ∀ order, ¬ Asks r order) :
    ∃ all, ∀ (ω σ : Type) [Measured ω] (s : Studio ω σ),
      Http.Route.dispatch s.routes r known = ⟨.ok (Parameters.refusal all), known, []⟩ := by
  rcases path with path | path
  · cases h : Parameters.thumbnail r with
    | ok image =>
      obtain ⟨⟨width, height⟩, fits⟩ := thumbnail_eq_ok_iff.1 h
      exact absurd (.thumbnail path width height fits) (senseless _)
    | issues all =>
      refine ⟨all, fun ω σ _ s => ?_⟩
      rw [dispatch_thumbnail s known post path, Studio.thumbnail, h]
  · cases h : Parameters.crop r with
    | ok target =>
      obtain ⟨width, height⟩ := crop_eq_ok_iff.1 h
      exact absurd (.crop path width height) (senseless _)
    | issues all =>
      refine ⟨all, fun ω σ _ s => ?_⟩
      rw [dispatch_crop s known post path, Studio.crop, h]

end

/-- How a response tells what came of deriving an image. -/
inductive Tells (requestId : String) : Except Failure (Format × ω) → Http.Response ω → Prop
  | image {format output headers} :
      Tells requestId (.ok (format, output)) ⟨200, some format.mediaType, headers, .encoded output⟩
  | problem {f : Failure} {headers} (own : f.kind.isOwn = true) :
      Tells requestId (.error f)
        ⟨f.kind.status, some "application/json", headers, .json (.object [("error", .string f.message)])⟩
  | crash {f : Failure} {headers} (foreign : f.kind.isOwn = false) :
      Tells requestId (.error f) ⟨500, some "application/json", headers,
        .json (.object [("error", .string "Internal server error"), ("request_id", .string requestId)])⟩

theorem tells_settled (requestId name value : String) (outcome : Except Failure (Format × ω)) :
    Tells requestId outcome
      ((Http.settled requestId (outcome.map fun image => .ofEncoded image.1.mediaType image.2)).withHeader
        name value) := by
  rcases outcome with f | ⟨format, output⟩
  · show Tells requestId (.error f) ((if f.kind.isOwn then problemResponse f else
      Http.Layer.apology requestId : Http.Response ω).withHeader name value)
    split
    · next own => exact .problem own
    · next foreign => exact .crash (Bool.eq_false_iff.2 foreign)
  · exact .image

/-! ## What is encoded -/

section
variable {s : Studio ω σ} {received : Except Failure Bytes}

theorem Studio.opening_eq_ok {state : σ} {b : BufferId} {facts : Facts}
    (h : s.opening received = .ok (state, b, facts)) :
    ∃ data state₀, received = .ok data ∧ s.start s.settings.imageConfig = .ok state₀ ∧
      let run := (openImage s.imageId data s.settings.maxBufferPixels s.settings.imageConfig : Work ω _).run s.codec
        state₀
      run.outcome = .ok (b, facts) ∧ state = run.state := by
  obtain ⟨data, whole, h⟩ := bind_ok h
  obtain ⟨state₀, started, h⟩ := bind_ok h
  obtain ⟨image, opened, h⟩ := bind_ok h
  cases h
  exact ⟨data, state₀, whole, started, opened, rfl⟩

/-- Nothing goes wrong with closing if the codec takes every release. -/
theorem Studio.closing_eq_ok [Measured ω] (order : Order)
    (takes : ∀ state, s.start s.settings.imageConfig = .ok state → s.codec.TakesReleases state) :
    s.closing received order = .ok () := by
  unfold closing
  cases h : s.opening received with
  | error f => rfl
  | ok image =>
    obtain ⟨state, b, facts⟩ := image
    obtain ⟨data, state₀, -, started, -, rfl⟩ := Studio.opening_eq_ok h
    let opening : Work ω _ := openImage s.imageId data s.settings.maxBufferPixels s.settings.imageConfig
    have taken := ((takes state₀ started).run opening).run (order.work (.opened b facts)) [] b
    simpa [Handle.close, Codec.serve, opening] using taken

end

section
variable [Measured ω] (c : Codec ω σ) (state : σ) (order : Order) (b : BufferId) (facts : Facts)

theorem Order.carried : ∃ plan, Carried plan b facts.outputFormat
    ((order.work (.opened b facts)).run c state).calls ((order.work (.opened b facts)).run c state).outcome := by
  cases order with
  | thumbnail bound fit => exact ⟨_, thumbnail_carried c state b facts bound fit⟩
  | crop target => exact ⟨_, crop_carried c state b facts target⟩

/-- What is derived was encoded in the format of the image. -/
theorem Order.encoded {output : ω} (made : ((order.work (.opened b facts)).run c state).outcome = .ok output) :
    ∃ last, ⟨.encode last facts.outputFormat, .ok output⟩ ∈ ((order.work (.opened b facts)).run c state).calls := by
  obtain ⟨plan, carried⟩ := order.carried c state b facts
  rw [made] at carried
  exact carried.encoded

end

end Service

end Darkroom
