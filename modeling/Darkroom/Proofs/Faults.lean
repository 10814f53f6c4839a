import Darkroom.Proofs.DerivedSize
/-!
# Faults

A fault is a request, other than a release, that a codec fails. Until then a run went the way it would have gone without
it (`Work.run_fault`), and from then on it goes the same way wherever it was: nothing is tried again, everything handed
out is given back, the last buffer first, and the failure is what the caller gets (`Surfaces`). Behind each call that
goes well there is one buffer more, or none, to be given back, so `Surfaces` is shown call by call from the last one on.

`fault_surfaces`: what this comes to for the steps of a session and for the handles they leave.
-/

namespace Darkroom

variable {ω σ σ' α : Type}

/-! ## Comparing calls -/

def Request.decideReply {ω : Type} [DecidableEq ω] : (q : Request) → DecidableEq (Except Failure (q.Reply ω))
  | sniff _ => inferInstanceAs (DecidableEq (Except Failure Format))
  | decodeHeader _ => inferInstanceAs (DecidableEq (Except Failure Header))
  | decodeFull _ | transform _ _ | resize _ _ _ | crop _ _ => inferInstanceAs (DecidableEq (Except Failure BufferId))
  | hasTransparency _ => inferInstanceAs (DecidableEq (Except Failure Bool))
  | encode _ _ => inferInstanceAs (DecidableEq (Except Failure ω))
  | release _ => inferInstanceAs (DecidableEq (Except Failure Unit))

instance {ω : Type} [DecidableEq ω] : DecidableEq (Call ω)
  | ⟨q, reply⟩, ⟨q', reply'⟩ =>
    if h : q = q' then
      have := q'.decideReply (h ▸ reply) reply'
      decidable_of_iff (h ▸ reply = reply') (by subst h; simp)
    else .isFalse fun same => h (Call.mk.inj same).1

/-! ## Where a run comes to a fault -/

/-- A run goes the way it went before for as long as it gets the same answers, and asks what it asked then. -/
theorem Work.run_fault {c : Codec ω σ} {c' : Codec ω σ'} {s : σ} {s' : σ'} (w : Work ω α)
    {before after : List (Call ω)} {call : Call ω} {e : Failure} (free : (w.run c s).calls = before ++ call :: after)
    (fails : (c'.serve s' (before.map (·.request) ++ [call.request])).1 = before ++ [⟨call.request, .error e⟩]) :
    ∃ rest, (w.run c' s').calls = before ++ ⟨call.request, .error e⟩ :: rest := by
  induction w generalizing s s' before with
  | done a => simp at free
  | fail f => simp at free
  | note r w ih => exact ih free fails
  | ask q next ih =>
    cases before with
    | nil =>
      obtain ⟨rfl, -⟩ := List.cons.inj free
      obtain ⟨answered, -⟩ := List.cons.inj fails
      exact ⟨_, congrArg (· :: _) answered⟩
    | cons first before =>
      obtain ⟨rfl, free'⟩ := List.cons.inj free
      obtain ⟨answered, fails'⟩ := List.cons.inj fails
      have reply : (c'.respond s' q).1 = (c.respond s q).1 := eq_of_heq (Call.mk.inj answered).2
      obtain ⟨rest, later⟩ := ih _ free' fails'
      refine ⟨rest, ?_⟩
      show ⟨q, (c'.respond s' q).1⟩ :: ((next (c'.respond s' q).1).run c' (c'.respond s' q).2).calls = _
      rw [reply, later]
      rfl

/-! ## What follows a fault -/

/-- The calls that give buffers back, all of them taken. -/
def givesBack (made : List BufferId) : List (Call ω) := made.map fun b => ⟨.release b, .ok ()⟩

/-- The first failure of a call that is no release is the outcome, and nothing but giving back what was handed out until
then follows it, the last buffer first, and then what was `held` before. -/
def Surfaces (held : List BufferId) (calls : List (Call ω)) (o : Except Failure α) : Prop :=
  ∀ before q e rest, calls = before ++ ⟨q, .error e⟩ :: rest → Faultless before → q.method ≠ .release →
    o = .error e ∧ rest = givesBack ((handedOut before).reverse ++ held)

section
variable {held : List BufferId} {calls : List (Call ω)} {o : Except Failure α}

theorem surfaces_releases (h : ∀ call ∈ calls, call.request.method = .release) : Surfaces held calls o := by
  rintro before q e rest rfl - asks
  exact absurd (h ⟨q, .error e⟩ (by simp)) asks

theorem surfaces_nil : Surfaces held ([] : List (Call ω)) o :=
  surfaces_releases fun _ hc => absurd hc List.not_mem_nil

theorem surfaces_error {q : Request} {e : Failure} {rest : List (Call ω)} (hrest : rest = givesBack held) :
    Surfaces held (⟨q, .error e⟩ :: rest) (.error e : Except Failure α) := by
  intro before q' e' rest' hsplit fine asks
  cases before with
  | nil =>
    obtain ⟨hcall, rfl⟩ := List.cons.inj hsplit
    obtain ⟨rfl, hreply⟩ := Call.mk.inj hcall
    cases hreply
    exact ⟨rfl, hrest⟩
  | cons first before =>
    obtain ⟨rfl, -⟩ := List.cons.inj hsplit
    obtain ⟨r, hr⟩ := fine _ List.mem_cons_self
    cases hr

/-- Behind a call that went well, what it handed out is the next to be given back. -/
theorem Surfaces.behind {call : Call ω} (h : Surfaces (call.made?.toList ++ held) calls o)
    (ok : ∃ r, call.reply = .ok r) : Surfaces held (call :: calls) o := by
  intro before q e rest hsplit fine asks
  cases before with
  | nil =>
    obtain ⟨rfl, -⟩ := List.cons.inj hsplit
    obtain ⟨r, hr⟩ := ok
    cases hr
  | cons first before =>
    obtain ⟨rfl, hsplit'⟩ := List.cons.inj hsplit
    obtain ⟨ho, hrest⟩ := h before q e rest hsplit' (fun call hc => fine call (List.mem_cons_of_mem _ hc)) asks
    refine ⟨ho, hrest.trans ?_⟩
    have out : handedOut (call :: before) = call.made?.toList ++ handedOut before := by
      unfold handedOut
      cases hmade : call.made? with
      | none => rw [List.filterMap_cons_none hmade]; rfl
      | some b => rw [List.filterMap_cons_some hmade]; rfl
    rw [out, List.reverse_append, List.append_assoc]
    cases call.made? <;> rfl

theorem Surfaces.of_error {β : Type} {f : Failure} (h : Surfaces held calls (.error f : Except Failure α)) :
    Surfaces held calls (.error f : Except Failure β) := by
  intro before q e rest hsplit fine asks
  obtain ⟨ho, hrest⟩ := h before q e rest hsplit fine asks
  cases ho
  exact ⟨rfl, hrest⟩

end

/-! ## Openings and derivations -/

/-- What goes well has four calls. -/
theorem Opening.calls_of_ok {data : Bytes} {limits : Limits} {policy : OutputPolicy} {calls : List (Call ω)}
    {image : BufferId × Facts} (h : Opening data limits policy calls (.ok image)) :
    ∃ (header : Header) (transparent : Bool), calls = [⟨.sniff data, .ok header.format⟩,
      ⟨.decodeHeader data, .ok header⟩, ⟨.decodeFull data, .ok image.1⟩, ⟨.hasTransparency image.1, .ok transparent⟩] := by
  obtain ⟨header, transparent, -, made, -⟩ := h.of_ok
  exact ⟨header, transparent, made⟩

theorem Opening.surfaces {data : Bytes} {limits : Limits} {policy : OutputPolicy} {calls : List (Call ω)}
    {o : Except Failure (BufferId × Facts)} (h : Opening data limits policy calls o) (taken : Untroubled calls) :
    Surfaces [] calls o := by
  cases h with
  | unsniffed => exact surfaces_error rfl
  | unread => exact (surfaces_error rfl).behind ⟨_, rfl⟩
  | mismatched => exact (surfaces_nil.behind ⟨_, rfl⟩).behind ⟨_, rfl⟩
  | rejected => exact (surfaces_nil.behind ⟨_, rfl⟩).behind ⟨_, rfl⟩
  | undecoded => exact ((surfaces_error rfl).behind ⟨_, rfl⟩).behind ⟨_, rfl⟩
  | @unjudged header b f admitted cleanup =>
    cases cleanup with
    | error f' => exact absurd (by simp) (taken b f')
    | ok => exact (((surfaces_error rfl).behind ⟨_, rfl⟩).behind ⟨_, rfl⟩).behind ⟨_, rfl⟩
  | opened => exact (((surfaces_nil.behind ⟨_, rfl⟩).behind ⟨_, rfl⟩).behind ⟨_, rfl⟩).behind ⟨_, rfl⟩

section
variable {stages : List Stage} {b source : BufferId} {made : List BufferId} {calls : List (Call ω)} {format : Format}

theorem Clearing.eq_givesBack {o : Except Failure Unit} (h : Clearing made calls o) (taken : Untroubled calls) :
    calls = givesBack made ∧ o = .ok () := by
  induction h with
  | cleared => exact ⟨rfl, rfl⟩
  | @stuck b rest f => exact absurd (List.mem_singleton_self _) (taken b f)
  | next down ih =>
    obtain ⟨rfl, rfl⟩ := ih fun b f hc => taken b f (List.mem_cons_of_mem _ hc)
    exact ⟨rfl, rfl⟩

/-- What holds of the end of a climb, with all its buffers held, holds of the whole. -/
theorem Climb.surfaces {o : Except Failure BufferId} (h : Climb stages b made calls o) {held : List BufferId}
    {top : List (Call ω)} {result : Except Failure α}
    (fell : ∀ f, o = .error f → top = givesBack (made ++ held) ∧ result = .error f)
    (arrived : ∀ last, o = .ok last → Surfaces (made ++ held) top result) : Surfaces held (calls ++ top) result := by
  induction h generalizing held with
  | arrived => exact arrived _ rfl
  | @fell st rest b f =>
    obtain ⟨rfl, rfl⟩ := fell f rfl
    cases st <;> exact surfaces_error rfl
  | @climbed st rest b b' made calls o up ih =>
    have later : Surfaces (b' :: held) (calls ++ top) result := by
      refine ih ?_ ?_
      · simpa using fell
      · simpa using arrived
    cases st <;> exact later.behind ⟨_, rfl⟩

theorem Deriving.surfaces {o : Except Failure ω} (h : Deriving stages source format calls o)
    (taken : Untroubled calls) : Surfaces [] calls o := by
  cases h with
  | fell climb clearing =>
    obtain ⟨rfl, rfl⟩ := clearing.eq_givesBack taken.of_append.2
    refine climb.surfaces ?_ ?_
    · rintro f' ⟨⟩
      exact ⟨by rw [List.append_nil], rfl⟩
    · rintro last ⟨⟩
  | @written made up down last reply cleared climb clearing =>
    obtain ⟨rfl, rfl⟩ := clearing.eq_givesBack fun b f hc => taken b f (by simp [hc])
    refine climb.surfaces ?_ ?_
    · rintro f' ⟨⟩
    · rintro last' -
      rw [List.append_nil]
      cases reply with
      | error e => exact surfaces_error rfl
      | ok output => exact (surfaces_releases (by simp [givesBack, Request.method])).behind ⟨_, rfl⟩

theorem Carried.surfaces {plan : Except GeometryError (List Stage)} {o : Except Failure ω}
    (h : Carried plan source format calls o) (taken : Untroubled calls) : Surfaces [] calls o := by
  cases h with
  | senseless => exact surfaces_nil
  | carried h derived => exact derived.surfaces taken

end

theorem validateImage_surfaces (c : Codec ω σ) (s : σ) (imageId : String) (data : Bytes) (budget : Int)
    (config : Config) (taken : Untroubled ((validateImage imageId data budget config).run c s).calls) :
    Surfaces [] ((validateImage imageId data budget config).run c s).calls
      ((validateImage imageId data budget config).run c s).outcome := by
  have opening := openImage_opening c s imageId data budget config
  simp only [validateImage, withImage, Work.run_bind, Run.andThen] at taken ⊢
  cases h : ((openImage imageId data budget config).run c s).outcome with
  | error f =>
    rw [h] at opening taken
    have surfaces := opening.surfaces taken.of_append.1
    simpa using surfaces.of_error
  | ok image =>
    rw [h] at opening taken
    obtain ⟨header, transparent, hcalls⟩ := opening.calls_of_ok
    rw [hcalls]
    refine (((Surfaces.behind ?_ ⟨_, rfl⟩).behind ⟨_, rfl⟩).behind ⟨_, rfl⟩).behind ⟨_, rfl⟩
    -- nothing but the release of the source is left
    exact surfaces_releases (by simp [Request.method])

section
variable [Measured ω] (c : Codec ω σ) (s : σ) (h : Handle)

theorem Handle.thumbnail_surfaces (bound : Dimensions) (fit : Bool)
    (taken : Untroubled ((h.thumbnail bound fit : Work ω ω).run c s).calls) :
    Surfaces [] ((h.thumbnail bound fit : Work ω ω).run c s).calls
      ((h.thumbnail bound fit : Work ω ω).run c s).outcome := by
  cases h with
  | opened b facts => exact (thumbnail_carried c s b facts bound fit).surfaces taken
  | _ => exact surfaces_nil

theorem Handle.crop_surfaces (target : Dimensions) (taken : Untroubled ((h.crop target : Work ω ω).run c s).calls) :
    Surfaces [] ((h.crop target : Work ω ω).run c s).calls ((h.crop target : Work ω ω).run c s).outcome := by
  cases h with
  | opened b facts => exact (crop_carried c s b facts target).surfaces taken
  | _ => exact surfaces_nil

end

/-! ## Sessions -/

/-- A codec that takes every release answers as before, and then fails a request. -/
structure Codec.FailsAt (c : Codec ω σ) (s : σ) (before : List (Call ω)) (q : Request) (e : Failure) : Prop where
  fails : (c.serve s (before.map (·.request) ++ [q])).1 = before ++ [⟨q, .error e⟩]
  takes : c.TakesReleases s

namespace Session

/-- The steps that make calls of their own, other than releases. -/
def Step.isOperation : Step → Bool
  | .openAs .. | .validate .. | .thumbnail .. | .crop .. => true
  | .close _ | .isClosed _ | .facts _ | .describe _ | .within .. => false

/-- What a failed step leaves: a handle that was to be opened is uninitialized, and all others are as they were. -/
def Step.leaves (s : Session σ) : Step → Session σ
  | .openAs name codec _ _ _ => s.addHandle name codec .uninitialized
  | _ => s

section
variable {c : Codec ω σ} {c' : Codec ω σ'} {before after : List (String × Call ω)} {codec : String} {call : Call ω}
  {e : Failure}

theorem work_fault {w : Work ω α} {s : Session σ} {s' : Session σ'} {on : String}
    (surfaces : ∀ s, Untroubled (w.run c' s).calls → Surfaces [] (w.run c' s).calls (w.run c' s).outcome)
    (free : (work c s on w).calls = before ++ (codec, call) :: after) (fine : Faultless (before.map (·.2)))
    (asks : call.request.method ≠ .release) (fails : c'.FailsAt (s'.codecs codec) (before.map (·.2)) call.request e) :
    (work c' s' on w).outcome = .error e ∧ (work c' s' on w).calls = before ++ (codec, ⟨call.request, .error e⟩) ::
      (givesBack (handedOut (before.map (·.2))).reverse).map (codec, ·) := by
  obtain ⟨calls, more, hcalls, rfl, hmore⟩ := List.map_eq_append_iff.1 free
  obtain ⟨call, rest, rfl, hcall, rfl⟩ := List.map_eq_cons_iff.1 hmore
  obtain ⟨rfl, rfl⟩ := Prod.mk.inj hcall
  have same : (calls.map (on, ·)).map (·.2) = calls := by simp
  rw [same] at fine fails ⊢
  obtain ⟨rest', faulted⟩ := w.run_fault hcalls fails.fails
  obtain ⟨ho, rfl⟩ := surfaces _ (fails.takes.untroubled_run w) calls call.request e rest' faulted fine asks
  refine ⟨ho, ?_⟩
  show (w.run c' (s'.codecs on)).calls.map (on, ·) = _
  rw [faulted, List.append_nil, List.map_append, List.map_cons]

end

variable [Measured ω] {c : Codec ω σ} {c' : Codec ω σ'} {before after : List (String × Call ω)} {codec : String}
  {call : Call ω} {e : Failure}

/-- A step that would make certain calls makes the same calls up to one that fails, and does not try again: the failure
is what the caller gets, all that was handed out until then is given back, the last buffer first, and every handle is
left as it was, but the one under construction, which is uninitialized. -/
theorem fault_surfaces (imageId : String) {s : Session σ} {s' : Session σ'} (entries : s'.entries = s.entries)
    (names : s'.names = s.names) {step : Step} (operation : step.isOperation)
    (free : (perform c imageId s step).calls = before ++ (codec, call) :: after) (fine : Faultless (before.map (·.2)))
    (asks : call.request.method ≠ .release) (fails : c'.FailsAt (s'.codecs codec) (before.map (·.2)) call.request e) :
    let t := perform c' imageId s' step
    t.outcome = .error e ∧
    t.calls = before ++ (codec, ⟨call.request, .error e⟩) ::
      (givesBack (handedOut (before.map (·.2))).reverse).map (codec, ·) ∧
    t.session = step.leaves { s' with codecs := t.session.codecs } := by
  have found : s'.entryAt = s.entryAt := by
    funext number
    rw [entryAt, entryAt, entries]
  cases step with
  | openAs name on data budget config =>
    unfold perform at free ⊢
    obtain ⟨ho, hcalls⟩ := work_fault (fun s => (openImage_opening c' s imageId data budget config).surfaces)
      ((List.append_nil _).symm.trans free) fine asks fails
    refine ⟨?_, (List.append_nil _).trans hcalls, ?_⟩
    · simp only [Turnout.andThen, ho, Except.bind]
    · simp only [Turnout.andThen, ho, Handle.ofOutcome]
      rfl
  | validate on data budget config =>
    unfold perform at free ⊢
    obtain ⟨ho, hcalls⟩ :=
      work_fault (fun s => validateImage_surfaces c' s imageId data budget config) free fine asks fails
    exact ⟨by simp only [Turnout.map, ho, Except.map], hcalls, rfl⟩
  | thumbnail name bound fit =>
    unfold perform at free ⊢
    rw [← found, ← names] at free
    obtain ⟨ho, hcalls⟩ := work_fault (fun s => Handle.thumbnail_surfaces c' s _ bound fit) free fine asks fails
    exact ⟨by simp only [Turnout.map, ho, Except.map], hcalls, rfl⟩
  | crop name target =>
    unfold perform at free ⊢
    rw [← found, ← names] at free
    obtain ⟨ho, hcalls⟩ := work_fault (fun s => Handle.crop_surfaces c' s _ target) free fine asks fails
    exact ⟨by simp only [Turnout.map, ho, Except.map], hcalls, rfl⟩
  | _ => cases operation

/-- The encoder fails on a thumbnail of an image stored on its side: both buffers made for it are given back, the turned
one first. -/
theorem fault_surfaces_of_turned_thumbnail :
    let script : Script := { header := ⟨⟨40, 30⟩, .jpeg, some 6⟩, sniffed := .jpeg }
    let session (faults : List ScriptedFault) : Session ScriptState :=
      { codecs := fun _ => { script := { script with faults }, sizes := [⟨40, 30⟩], live := [1] }
        entries := [⟨"codec", .opened 1 ⟨⟨30, 40⟩, { turn := .quarter }, 6, .jpeg, .jpeg⟩⟩]
        names := fun _ => some 0 }
    let t := perform scriptedCodec "image" (session [⟨.encode, 1, .encoding "no space"⟩]) (.thumbnail "a" ⟨10, 10⟩ true)
    t.outcome = .error (.encoding "no space") ∧
    t.calls = [("codec", ⟨.resize 1 10 8, .ok 2⟩), ("codec", ⟨.transform 2 { turn := .quarter }, .ok 3⟩),
      ("codec", ⟨.encode 3 .jpeg, .error (.encoding "no space")⟩),
      ("codec", ⟨.release 3, .ok ()⟩), ("codec", ⟨.release 2, .ok ()⟩)] ∧
    t.session.entries = (session []).entries := by
  intro script session t
  have free : (perform scriptedCodec "image" (session []) (.thumbnail "a" ⟨10, 10⟩ true)).calls =
      [("codec", ⟨.resize 1 10 8, .ok 2⟩), ("codec", ⟨.transform 2 { turn := .quarter }, .ok 3⟩)] ++
        ("codec", ⟨.encode 3 .jpeg, .ok "JPEG 8x10 b3"⟩) ::
          [("codec", ⟨.release 3, .ok ()⟩), ("codec", ⟨.release 2, .ok ()⟩)] := by
    decide +kernel
  have fails : scriptedCodec.FailsAt ((session [⟨.encode, 1, .encoding "no space"⟩]).codecs "codec")
      [⟨.resize 1 10 8, .ok 2⟩, ⟨.transform 2 { turn := .quarter }, .ok 3⟩] (.encode 3 .jpeg) (.encoding "no space") :=
    ⟨by decide +kernel, takesReleases_of_script _ (by simp [session])⟩
  obtain ⟨ho, hcalls, hsession⟩ := @fault_surfaces _ _ _ _ _ _ _ _ _ _ _ "image" (session [])
    (session [⟨.encode, 1, .encoding "no space"⟩]) rfl rfl _ rfl free (by simp [Faultless]) (by decide) fails
  exact ⟨ho, hcalls, (congrArg Session.entries hsession :)⟩

end Session

end Darkroom
