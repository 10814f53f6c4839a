import Darkroom.Proofs.Geometry
import Darkroom.Proofs.Work
import Darkroom.ScriptedCodec
import Mathlib.Tactic.SplitIfs
/-!
# What opening an image can come to

`Opening` has a constructor for every way an opening can end, with the calls made until then; `openImage_opening` says
that there is no other way. What holds of every opening is a case analysis over it.

`decode_gated`: the header alone decides whether pixels are decoded.
-/

namespace Darkroom

variable {ω σ : Type}

/-! ## Headers -/

/-- What is kept of an admitted image, once it is known how it is written again. -/
def Admission.facts (a : Admission) (output : Format) : Facts :=
  ⟨a.dimensions, a.transform, a.orientation, a.inputFormat, output⟩

/-- The size a header announces, once its image stands upright. -/
def Header.display (h : Header) : Dimensions := (upright h.raw h.orientation).1

/-- The format of a header is known and its display size within all limits. -/
structure Header.WithinLimits (h : Header) (limits : Limits) : Prop where
  known : h.format ≠ .unknown
  width_ge : leastExtent ≤ h.display.width
  height_ge : leastExtent ≤ h.display.height
  width_le : h.display.width ≤ limits.maxDimension
  height_le : h.display.height ≤ limits.maxDimension
  pixels_le : h.display.pixels ≤ limits.budget

/-- A header is admitted if it is within all limits and its display size can be written. -/
structure Header.Admissible (h : Header) (limits : Limits) (digits : Text.DigitLimit := .standard) : Prop
    extends h.WithinLimits limits where
  writable : h.display.Writable digits

/-- What an admitted header is admitted as. -/
def Header.admission (h : Header) : Admission :=
  ⟨h.display, Transform.forCode h.orientation, orientationOrUpright h.orientation, h.format⟩

/-- The numbers that the log is told of a judgement can be written. -/
def Header.Told (digits : Text.DigitLimit) (h : Header) : Except Rejection Admission → Prop
  | .error .unsupported | .error (.unwritable _) => True
  | .error (.degenerate _ size) => size.Writable digits
  | .error (.oversized size limit) => size.Writable digits ∧ digits.Allows limit
  | .error (.overBudget size budget) => size.Writable digits ∧ digits.Allows size.pixels ∧ digits.Allows budget
  | .ok a => a.dimensions.Writable digits ∧ h.raw.Writable digits

section
variable {h : Header} {limits : Limits} {digits : Text.DigitLimit}

theorem Dimensions.writable_after {t : Transform} {d : Dimensions} : (d.after t).Writable digits ↔ d.Writable digits := by
  unfold after
  split
  · exact And.comm
  · rfl

theorem Header.judge_eq (h : Header) (limits : Limits) : h.judge limits =
    if h.format = .unknown then .error .unsupported
    else if h.display.width < leastExtent ∨ h.display.height < leastExtent then .error (.degenerate h.format h.display)
    else if limits.maxDimension < h.display.width ∨ limits.maxDimension < h.display.height then
      .error (.oversized h.display limits.maxDimension)
    else if limits.budget < h.display.pixels then .error (.overBudget h.display limits.budget)
    else .ok h.admission := rfl

theorem Header.judge_eq_ok_iff {a : Admission} : h.judge limits = .ok a ↔ h.WithinLimits limits ∧ a = h.admission := by
  rw [judge_eq]
  constructor
  · intro ha
    split_ifs at ha with h1 h2 h3 h4
    cases ha
    simp only [not_or, Int.not_lt] at h2 h3 h4
    exact ⟨⟨h1, h2.1, h2.2, h3.1, h3.2, h4⟩, rfl⟩
  · rintro ⟨⟨h1, h2, h3, h4, h5, h6⟩, rfl⟩
    rw [if_neg h1, if_neg (by omega), if_neg (by omega), if_neg (by omega)]

theorem Header.remark?_eq_none_iff (judgement : Except Rejection Admission) :
    h.remark? digits judgement = none ↔ ¬ h.Told digits judgement := by
  rcases judgement with (_ | ⟨_, size⟩ | ⟨size, most⟩ | ⟨size, budget⟩ | _) | a
  all_goals
    simp only [remark?, Told, Dimensions.written?_eq, Text.number?, Text.grouped?, Text.written?]
    grind

theorem Header.assess_of_told (told : h.Told digits (h.judge limits)) : h.assess limits digits = h.judge limits := by
  cases hremark : h.remark? digits (h.judge limits) with
  | some => simp only [assess, hremark]
  | none => exact absurd told ((remark?_eq_none_iff _).1 hremark)

theorem Header.assess_of_untold (untold : ¬ h.Told digits (h.judge limits)) :
    h.assess limits digits = .error (.unwritable digits) := by
  simp only [assess, (remark?_eq_none_iff _).2 untold]

theorem Header.assess_eq_ok_iff {a : Admission} :
    h.assess limits digits = .ok a ↔ h.Admissible limits digits ∧ a = h.admission := by
  have raw : h.raw.Writable digits ↔ h.display.Writable digits := Dimensions.writable_after.symm
  by_cases told : h.Told digits (h.judge limits)
  · rw [assess_of_told told, judge_eq_ok_iff]
    constructor
    · rintro ⟨within, rfl⟩
      rw [judge_eq_ok_iff.2 ⟨within, rfl⟩] at told
      exact ⟨⟨within, told.1⟩, rfl⟩
    · rintro ⟨admissible, rfl⟩
      exact ⟨admissible.toWithinLimits, rfl⟩
  · rw [assess_of_untold told]
    refine iff_of_false (by simp) ?_
    rintro ⟨admissible, -⟩
    rw [judge_eq_ok_iff.2 ⟨admissible.toWithinLimits, rfl⟩] at told
    exact told ⟨admissible.writable, raw.2 admissible.writable⟩

theorem Header.assess_eq_error_iff : (∃ r, h.assess limits digits = .error r) ↔ ¬ h.Admissible limits digits := by
  constructor
  · rintro ⟨r, hr⟩ ha
    rw [Header.assess_eq_ok_iff.2 ⟨ha, rfl⟩] at hr
    cases hr
  · intro hn
    cases h' : h.assess limits digits with
    | error r => exact ⟨r, rfl⟩
    | ok a => exact absurd (Header.assess_eq_ok_iff.1 h').1 hn

end

/-! ## Openings -/

/-- How opening `data` can end, with the calls made. -/
inductive Opening (data : Bytes) (limits : Limits) (policy : OutputPolicy) :
    List (Call ω) → Except Failure (BufferId × Facts) → Prop
  | unsniffed {f} : Opening data limits policy [⟨.sniff data, .error f⟩] (.error f)
  | unread {tag f} :
      Opening data limits policy [⟨.sniff data, .ok tag⟩, ⟨.decodeHeader data, .error f⟩] (.error f)
  | mismatched {tag header f} (differ : header.format ≠ tag) (kind : f.kind = .unknownFormat) :
      Opening data limits policy [⟨.sniff data, .ok tag⟩, ⟨.decodeHeader data, .ok header⟩] (.error f)
  | rejected {header : Header} {r} (judged : header.assess limits = .error r) :
      Opening data limits policy [⟨.sniff data, .ok header.format⟩, ⟨.decodeHeader data, .ok header⟩]
        (.error r.failure)
  | undecoded {header : Header} {f} (admitted : header.Admissible limits) :
      Opening data limits policy [⟨.sniff data, .ok header.format⟩, ⟨.decodeHeader data, .ok header⟩,
        ⟨.decodeFull data, .error f⟩] (.error f)
  | unjudged {header : Header} {b f} (admitted : header.Admissible limits) (cleanup : Except Failure Unit) :
      Opening data limits policy [⟨.sniff data, .ok header.format⟩, ⟨.decodeHeader data, .ok header⟩,
        ⟨.decodeFull data, .ok b⟩, ⟨.hasTransparency b, .error f⟩, ⟨.release b, cleanup⟩]
        (cleanup.bind fun _ => .error f)
  | opened {header : Header} {b transparent} (admitted : header.Admissible limits) :
      Opening data limits policy [⟨.sniff data, .ok header.format⟩, ⟨.decodeHeader data, .ok header⟩,
        ⟨.decodeFull data, .ok b⟩, ⟨.hasTransparency b, .ok transparent⟩]
        (.ok (b, header.admission.facts (policy.choose header.format transparent)))

/-- There is no other way. -/
theorem openImage_opening (c : Codec ω σ) (s : σ) (imageId : String) (data : Bytes) (budget : Int) (config : Config) :
    Opening data ⟨budget, config.maxDimension⟩ config.outputPolicy
      ((openImage imageId data budget config).run c s).calls
      ((openImage imageId data budget config).run c s).outcome := by
  -- one request after another; each that fails is an ending of its own
  rcases h₁ : c.respond s (.sniff data) with ⟨f | tag, s₁⟩
  · simpa [openImage, h₁] using Opening.unsniffed
  rcases h₂ : c.respond s₁ (.decodeHeader data) with ⟨f | header, s₂⟩
  · simpa [openImage, h₁, h₂] using Opening.unread
  by_cases hf : header.format = tag
  · subst hf
    cases hj : header.assess ⟨budget, config.maxDimension⟩ with
    | error r => simpa [openImage, h₁, h₂, hj, Except.mapError] using Opening.rejected hj
    | ok a =>
      obtain ⟨admitted, rfl⟩ := Header.assess_eq_ok_iff.1 hj
      rcases h₃ : c.respond s₂ (.decodeFull data) with ⟨f | b, s₃⟩
      · simpa [openImage, h₁, h₂, hj, Except.mapError, h₃] using Opening.undecoded admitted
      rcases h₄ : c.respond s₃ (.hasTransparency b) with ⟨f | transparent, s₄⟩
      · -- the failure that remains is that of the cleanup, if it fails as well
        rcases h₅ : c.respond s₄ (.release b) with ⟨cleanup, s₅⟩
        have := @Opening.unjudged ω data _ config.outputPolicy header b f admitted cleanup
        cases cleanup with
        | error f' => simpa [openImage, h₁, h₂, hj, Except.mapError, Except.bind, h₃, h₄, h₅] using this
        | ok => simpa [openImage, h₁, h₂, hj, Except.mapError, Except.bind, h₃, h₄, h₅] using this
      · have := @Opening.opened ω data _ config.outputPolicy header b transparent admitted
        simpa [openImage, h₁, h₂, hj, Except.mapError, h₃, h₄, Admission.facts, Header.admission] using this
  · simpa [openImage, h₁, h₂, hf] using Opening.mismatched hf rfl

/-- An image that opens was admitted, and what is known of it follows from its header and from whether something shows
through it. -/
theorem Opening.of_ok {data : Bytes} {limits : Limits} {policy : OutputPolicy} {calls : List (Call ω)} {b : BufferId}
    {facts : Facts} (h : Opening data limits policy calls (.ok (b, facts))) :
    ∃ (header : Header) (transparent : Bool), header.Admissible limits ∧
      calls = [⟨.sniff data, .ok header.format⟩, ⟨.decodeHeader data, .ok header⟩, ⟨.decodeFull data, .ok b⟩,
        ⟨.hasTransparency b, .ok transparent⟩] ∧
      facts = header.admission.facts (policy.choose header.format transparent) := by
  generalize ho : (Except.ok (b, facts) : Except Failure (BufferId × Facts)) = o at h
  cases h with
  | opened admitted => cases ho; exact ⟨_, _, admitted, rfl, rfl⟩
  | unjudged admitted cleanup => cases cleanup <;> cases ho
  | _ => cases ho

/-! ## The gate before the pixels -/

/-- Whoever asks for this gets a buffer. -/
def Request.makesBuffer : Request → Bool
  | decodeFull _ | transform _ _ | resize _ _ _ | crop _ _ => true
  | sniff _ | decodeHeader _ | hasTransparency _ | encode _ _ | release _ => false

/-- The pixels of `data` are decoded at most once, and only right behind a signature and a header that agree and are
admitted. -/
structure Gated (data : Bytes) (limits : Limits) (calls : List (Call ω)) : Prop where
  at_most_once : calls.countP (·.request.method = .decodeFull) ≤ 1
  behind : ∀ before call after, calls = before ++ call :: after → call.request.method = .decodeFull →
    call.request = .decodeFull data ∧ ∃ (header : Header) (a : Admission), header.assess limits = .ok a ∧
      before = [⟨.sniff data, .ok header.format⟩, ⟨.decodeHeader data, .ok header⟩]
  decoded_iff : (∃ call ∈ calls, call.request = .decodeFull data) ↔
    ∃ (header : Header) (a : Admission), header.assess limits = .ok a ∧
      ⟨.sniff data, .ok header.format⟩ ∈ calls ∧ ⟨.decodeHeader data, .ok header⟩ ∈ calls
  shut : (∀ (tag : Format) (header : Header), ⟨.sniff data, .ok tag⟩ ∈ calls → ⟨.decodeHeader data, .ok header⟩ ∈ calls →
      header.format ≠ tag ∨ limits.budget < header.display.pixels ∨
      limits.maxDimension < header.display.width ∨ limits.maxDimension < header.display.height ∨
      header.display.width < 2 ∨ header.display.height < 2) →
    ∀ call ∈ calls, call.request.makesBuffer = false

/-- The two forms that the calls of an opening take: no buffer is made for want of a good header, or the pixels are
decoded third and no other buffer is made. -/
inductive Gate (data : Bytes) (limits : Limits) : List (Call ω) → Prop
  | stays {calls} (unmade : ∀ call ∈ calls, call.request.makesBuffer = false)
      (unfit : ∀ (tag : Format) (header : Header), ⟨.sniff data, .ok tag⟩ ∈ calls →
        ⟨.decodeHeader data, .ok header⟩ ∈ calls → header.format = tag → ¬ header.Admissible limits) :
      Gate data limits calls
  | opens {header : Header} {reply rest} (admitted : header.Admissible limits)
      (unmade : ∀ call ∈ rest, call.request.makesBuffer = false) :
      Gate data limits (⟨.sniff data, .ok header.format⟩ :: ⟨.decodeHeader data, .ok header⟩ ::
        ⟨.decodeFull data, reply⟩ :: rest)

section Gate
variable {data : Bytes} {limits : Limits} {policy : OutputPolicy} {calls more : List (Call ω)}

theorem Opening.gate {o : Except Failure (BufferId × Facts)} (h : Opening data limits policy calls o) :
    Gate data limits calls := by
  cases h with
  | unsniffed => exact .stays (by simp [Request.makesBuffer]) (by simp)
  | unread => exact .stays (by simp [Request.makesBuffer]) (by simp)
  | mismatched differ => exact .stays (by simp [Request.makesBuffer]) (by simp_all)
  | rejected judged =>
    have unfit := Header.assess_eq_error_iff.1 ⟨_, judged⟩
    exact .stays (by simp [Request.makesBuffer]) (by simp_all)
  | undecoded admitted => exact .opens admitted (by simp)
  | unjudged admitted => exact .opens admitted (by simp [Request.makesBuffer])
  | opened admitted => exact .opens admitted (by simp [Request.makesBuffer])

/-- Releases can follow. -/
theorem Gate.append (h : Gate data limits calls) (hmore : ∀ call ∈ more, call.request.method = .release) :
    Gate data limits (calls ++ more) := by
  have quiet : ∀ call ∈ more, call.request.makesBuffer = false := by
    rintro ⟨q, reply⟩ hc
    have := hmore _ hc
    cases q <;> first | rfl | cases this
  cases h with
  | stays unmade unfit =>
    refine .stays (fun call hc => (List.mem_append.1 hc).elim (unmade call) (quiet call)) ?_
    intro tag header ht hh
    have old : ∀ {q reply}, q.method ≠ .release → (⟨q, reply⟩ : Call ω) ∈ calls ++ more → ⟨q, reply⟩ ∈ calls :=
      fun hq hc => (List.mem_append.1 hc).resolve_right fun hc => hq (hmore _ hc)
    exact unfit tag header (old (by simp [Request.method]) ht) (old (by simp [Request.method]) hh)
  | opens admitted unmade =>
    exact .opens admitted fun call hc => (List.mem_append.1 hc).elim (unmade call) (quiet call)

theorem Gate.gated (h : Gate data limits calls) : Gated data limits calls := by
  have makes : ∀ {call : Call ω}, call.request.makesBuffer = false → call.request.method ≠ .decodeFull := by
    rintro ⟨q, reply⟩ hc hm
    cases q <;> cases hm
    cases hc
  cases h with
  | stays unmade unfit =>
    refine ⟨?_, ?_, ⟨?_, ?_⟩, fun _ => unmade⟩
    · rw [List.countP_eq_zero.2 fun call hc => by simpa using makes (unmade call hc)]
      exact Nat.zero_le 1
    · rintro before call after rfl hm
      exact absurd hm (makes (unmade call (by simp)))
    · rintro ⟨call, hc, hq⟩
      exact absurd (by rw [hq]; rfl) (makes (unmade call hc))
    · rintro ⟨header, a, ha, ht, hh⟩
      exact absurd (Header.assess_eq_ok_iff.1 ha).1 (unfit _ header ht hh rfl)
  | @opens header reply rest admitted unmade =>
    have ha := Header.assess_eq_ok_iff.2 ⟨admitted, rfl⟩
    refine ⟨?_, ?_, ⟨fun _ => ⟨header, _, ha, by simp, by simp⟩, fun _ => ⟨⟨.decodeFull data, reply⟩, by simp, rfl⟩⟩, ?_⟩
    · have none : rest.countP (·.request.method = .decodeFull) = 0 :=
        List.countP_eq_zero.2 fun call hc => by simpa using makes (unmade call hc)
      simp only [List.countP_cons, none]
      exact Nat.le_refl 1
    · -- the call stands at one of the first three places or in `rest`; only the third is a decoding
      intro before call after hsplit hm
      rcases before with _ | ⟨_, _ | ⟨_, _ | ⟨_, before⟩⟩⟩ <;>
        simp only [List.nil_append, List.cons_append, List.cons.injEq] at hsplit
      · obtain ⟨rfl, -⟩ := hsplit; cases hm
      · obtain ⟨-, rfl, -⟩ := hsplit; cases hm
      · obtain ⟨rfl, rfl, rfl, -⟩ := hsplit
        exact ⟨rfl, header, _, ha, rfl⟩
      · obtain ⟨-, -, -, rfl⟩ := hsplit
        exact absurd hm (makes (unmade call (by simp)))
    · intro bad
      obtain ⟨-, h1, h2, h3, h4, h5⟩ := admitted.toWithinLimits
      simp only [leastExtent] at h1 h2
      rcases bad header.format header (by simp) (by simp) with h | h | h | h | h | h
      · exact absurd rfl h
      all_goals omega
end Gate

theorem validateImage_calls (c : Codec ω σ) (s : σ) (imageId : String) (data : Bytes) (budget : Int) (config : Config) :
    ∃ more, ((validateImage imageId data budget config).run c s).calls =
        ((openImage imageId data budget config).run c s).calls ++ more ∧
      ∀ call ∈ more, call.request.method = .release := by
  simp only [validateImage, withImage, Work.run_bind, Run.andThen]
  cases ((openImage imageId data budget config).run c s).outcome with
  | error f => exact ⟨[], by simp⟩
  | ok image => exact ⟨_, rfl, by simp [Request.method]⟩

/-- Whatever the codec answers, opening and validating an image decode its pixels at most once, and only for an image
whose signature and header came first, agree and are admitted. -/
theorem decode_gated (c : Codec ω σ) (s : σ) (imageId : String) (data : Bytes) (budget : Int) (config : Config) :
    Gated data ⟨budget, config.maxDimension⟩ ((openImage imageId data budget config).run c s).calls ∧
    Gated data ⟨budget, config.maxDimension⟩ ((validateImage imageId data budget config).run c s).calls := by
  have gate := (openImage_opening c s imageId data budget config).gate
  obtain ⟨more, hcalls, hmore⟩ := validateImage_calls c s imageId data budget config
  rw [hcalls]
  exact ⟨gate.gated, (gate.append hmore).gated⟩

end Darkroom
