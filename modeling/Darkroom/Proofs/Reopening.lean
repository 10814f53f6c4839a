import Darkroom.Proofs.Independence
/-!
# What is derived can be opened again

A codec that reads what it writes (`measuring`) opens every derived image of at least two pixels on both axes, at the
size that geometry gave it, upright, and in the format it was written in; the source was admitted under the same limits,
and what is derived of it is no larger. Making the same thumbnail of a thumbnail then asks for nothing but to be written
(`derived_reopens`).
-/

namespace Darkroom

variable {σ : Type}

/-! ## Codecs that read what they write -/

/-- Whatever is asked first, the codec reads an upright image of this format and size. -/
def Codec.Recognizes (c : Codec Bytes σ) (s : σ) (data : Bytes) (format : Format) (d : Dimensions) : Prop :=
  ∀ qs, let s' := (c.serve s qs).2
    (c.respond s' (.sniff data)).1 = .ok format ∧ (c.respond s' (.decodeHeader data)).1 = .ok ⟨d, format, none⟩ ∧
      ∃ b, (c.respond s' (.decodeFull data)).1 = .ok b

namespace Codec.Recognizes
variable {c : Codec Bytes σ} {s : σ} {data : Bytes} {format : Format} {d : Dimensions}
  (h : c.Recognizes s data format d)
include h

theorem now : (c.respond s (.sniff data)).1 = .ok format ∧
    (c.respond s (.decodeHeader data)).1 = .ok ⟨d, format, none⟩ ∧ ∃ b, (c.respond s (.decodeFull data)).1 = .ok b :=
  h []

theorem respond (q : Request) : c.Recognizes (c.respond s q).2 data format d := fun qs => h (q :: qs)

theorem serve (qs : List Request) : c.Recognizes (c.serve s qs).2 data format d := by
  intro more
  have later := h (qs ++ more)
  rwa [Codec.serve_append] at later

end Codec.Recognizes

/-- A state that one of the codecs comes to. -/
def Codec.ComesTo (c : Codec Bytes σ) (codecs : String → σ) (s : σ) : Prop :=
  ∃ codec qs, s = (c.serve (codecs codec) qs).2

namespace Codec.ComesTo
variable {c : Codec Bytes σ} {codecs : String → σ} {s : σ} (h : c.ComesTo codecs s)
include h

theorem serve (qs : List Request) : c.ComesTo codecs (c.serve s qs).2 := by
  obtain ⟨codec, before, rfl⟩ := h
  exact ⟨codec, before ++ qs, by rw [Codec.serve_append]⟩

theorem run {α : Type} (w : Work Bytes α) : c.ComesTo codecs (w.run c s).state := by
  have later := h.serve ((w.run c s).calls.map (·.request))
  rwa [Work.run_serve] at later

end Codec.ComesTo

/-- Buffers by their sizes. What is written tells of the size and the format that it is read with. -/
def measuring (c : Codec Bytes σ) (codecs : String → σ) (holds : σ → BufferId → Option Dimensions) :
    View Bytes σ Dimensions where
  holds := holds
  shows header d := d = header.raw
  make := Stage.extent
  tells data format d := ∀ codec, c.Recognizes (codecs codec) data format d

/-! ## Opening what is recognized -/

section
variable {c : Codec Bytes σ} {codecs : String → σ} {holds : σ → BufferId → Option Dimensions} {s : σ} {data : Bytes}
  {format : Format} {d : Dimensions}

/-- The header decides, and nothing fails behind it. -/
theorem openImage_recognized (faithful : c.Faithful (measuring c codecs holds) s)
    (recognized : c.Recognizes s data format d) (imageId : String) (budget : Int) (config : Config) :
    let run := (openImage imageId data budget config).run c s
    match Header.assess ⟨d, format, none⟩ ⟨budget, config.maxDimension⟩ with
    | .error r => run.outcome = .error r.failure
    | .ok a => ∃ b transparent, run.outcome = .ok (b, a.facts (config.outputPolicy.choose a.inputFormat transparent)) ∧
      holds run.state b = some d := by
  -- nothing but the header decides: each request is granted
  have faithful₁ := faithful.respond (.sniff data)
  have recognized₁ := recognized.respond (.sniff data)
  have sniffed := recognized.now.1
  rcases h₁ : c.respond s (.sniff data) with ⟨o₁, s₁⟩
  rw [h₁] at faithful₁ recognized₁ sniffed
  obtain rfl : o₁ = .ok format := sniffed
  have faithful₂ := faithful₁.respond (.decodeHeader data)
  have recognized₂ := recognized₁.respond (.decodeHeader data)
  have read := recognized₁.now.2.1
  rcases h₂ : c.respond s₁ (.decodeHeader data) with ⟨o₂, s₂⟩
  rw [h₂] at faithful₂ recognized₂ read
  obtain rfl : o₂ = .ok ⟨d, format, none⟩ := read
  cases hj : Header.assess ⟨d, format, none⟩ ⟨budget, config.maxDimension⟩ with
  | error r => simp [openImage, h₁, h₂, hj, Except.mapError]
  | ok a =>
    have faithful₃ := faithful₂.respond (.decodeFull data)
    obtain ⟨b, decoded⟩ := recognized₂.now.2.2
    rcases h₃ : c.respond s₂ (.decodeFull data) with ⟨o₃, s₃⟩
    rw [h₃] at faithful₃ decoded
    obtain rfl : o₃ = .ok b := decoded
    obtain ⟨v, hv, out⟩ := faithful₁.now.decodes data _ s₂ _ s₃ h₂ h₃
    change v = d at hv
    subst hv
    obtain ⟨transparent, s₄, h₄, kept⟩ := faithful₃.now.judges b _ out.held
    have held : holds s₄ b = some v := kept b List.not_mem_nil _ out.held
    refine ⟨b, transparent, ?_⟩
    simp [openImage, h₁, h₂, hj, Except.mapError, h₃, h₄, held, Admission.facts]

/-- Bytes that a codec recognizes are opened under limits that their size is within. -/
theorem openImage_admitted (faithful : c.Faithful (measuring c codecs holds) s)
    (recognized : c.Recognizes s data format d) (imageId : String) (budget : Int) (config : Config)
    (admissible : Header.Admissible ⟨d, format, none⟩ ⟨budget, config.maxDimension⟩) :
    let run := (openImage imageId data budget config).run c s
    ∃ b transparent, run.outcome = .ok (b, ⟨d, .identity, 1, format, config.outputPolicy.choose format transparent⟩) ∧
      holds run.state b = some d := by
  have opening := openImage_recognized faithful recognized imageId budget config
  rw [Header.assess_eq_ok_iff.2 ⟨admissible, rfl⟩] at opening
  exact opening

/-- Bytes that a codec recognizes are refused if they have no visual content, and the log can be told of their size. -/
theorem openImage_degenerate (faithful : c.Faithful (measuring c codecs holds) s)
    (recognized : c.Recognizes s data format d) (imageId : String) (budget : Int) (config : Config)
    (known : format ≠ .unknown) (small : d.width < leastExtent ∨ d.height < leastExtent)
    (short : d.Writable .standard) :
    ∃ f, ((openImage imageId data budget config).run c s).outcome = .error f ∧ f.kind = .unknownFormat := by
  have opening := openImage_recognized faithful recognized imageId budget config
  have judged : Header.judge ⟨d, format, none⟩ ⟨budget, config.maxDimension⟩ = .error (.degenerate format d) := by
    rw [Header.judge_eq, if_neg known]
    exact if_pos small
  have told : Header.Told .standard ⟨d, format, none⟩ (.error (.degenerate format d)) := short
  rw [Header.assess_of_told (judged ▸ told), judged] at opening
  exact ⟨_, opening, rfl⟩

end

/-! ## Open images -/

/-- An open image on a codec of a session: an admitted header showed what its buffer holds. -/
structure Standing (c : Codec Bytes σ) (codecs : String → σ) (holds : σ → BufferId → Option Dimensions) (limits : Limits)
    (s : σ) (b : BufferId) (facts : Facts) : Prop where
  served : c.ComesTo codecs s
  image : ∃ (header : Header) (output : Format), header.Admissible limits ∧ output ≠ .unknown ∧
    facts = header.admission.facts output ∧ holds s b = some header.raw

theorem OutputPolicy.choose_ne_unknown (policy : OutputPolicy) (format : Format) (transparent : Bool) :
    policy.choose format transparent ≠ .unknown := by
  unfold choose
  split
  · decide
  · decide
  · split <;> decide
  · decide

/-- What is no larger than an admitted image is admitted, if there is enough of it. -/
theorem Header.Admissible.of_within {header : Header} {limits : Limits} (h : header.Admissible limits) {d : Dimensions}
    {format : Format} (within : d.Within header.display) (known : format ≠ .unknown) (hw : leastExtent ≤ d.width)
    (hh : leastExtent ≤ d.height) : Header.Admissible ⟨d, format, none⟩ limits :=
  ⟨⟨known, hw, hh, within.width_le.trans h.width_le, within.height_le.trans h.height_le,
    within.pixels_le.trans h.pixels_le⟩, within.writable h.writable⟩

theorem View.Tells.exists_ok {ω ν : Type} {view : View ω σ ν} {o : Except Failure ω} {format : Format} {v : ν}
    (h : view.Tells o (.ok (format, v))) : ∃ output, o = .ok output ∧ view.tells output format v := by
  cases o with
  | error f => cases h
  | ok output => exact ⟨output, rfl, h⟩

/-- Without stages, a source is only written out. -/
theorem Deriving.requests {ω : Type} {source : BufferId} {format : Format} {calls : List (Call ω)} {o : Except Failure ω}
    (h : Deriving [] source format calls o) : calls.map (·.request) = [.encode source format] := by
  cases h with
  | fell climb => cases climb
  | written climb clearing =>
    cases climb
    cases clearing
    rfl

section
variable {c : Codec Bytes σ} {codecs : String → σ} {holds : σ → BufferId → Option Dimensions} {s : σ} {limits : Limits}
  {b : BufferId} {facts : Facts}

theorem Standing.positive (standing : Standing c codecs holds limits s b facts) : facts.dimensions.Positive := by
  obtain ⟨-, header, output, admitted, -, rfl, -⟩ := standing
  exact admitted.positive

theorem Standing.writable (standing : Standing c codecs holds limits s b facts) : facts.dimensions.Writable .standard := by
  obtain ⟨-, header, output, admitted, -, rfl, -⟩ := standing
  exact admitted.writable

variable [Measured Bytes] (faithful : ∀ codec, c.Faithful (measuring c codecs holds) (codecs codec))
include faithful

theorem Standing.thumbnail (standing : Standing c codecs holds limits s b facts) {bound : Dimensions}
    {fit : Bool} (hw : 0 ≤ bound.width) (hh : 0 ≤ bound.height)
    (short : bound.HasRoom facts.dimensions fit ∨ bound.Writable .standard) :
    ∃ size output, thumbnailSize facts.dimensions bound fit = .ok size ∧
      ((Derivation.thumbnail b facts bound fit).run c s).outcome = .ok output ∧
      ∀ codec, c.Recognizes (codecs codec) output facts.outputFormat size := by
  obtain ⟨size, hsize⟩ := exists_thumbnailSize_told standing.positive standing.writable ⟨hw, hh⟩ short
  obtain ⟨⟨codec, qs, rfl⟩, header, output, -, -, hfacts, held⟩ := standing
  have upright : header.raw.after facts.transform = facts.dimensions := by rw [hfacts]; rfl
  have told := (Derivation.thumbnail_faithful ((faithful codec).serve qs) facts bound fit held).1
  rw [thumbnailPlan, hsize] at told
  obtain ⟨out, hout, recognized⟩ := View.Tells.exists_ok told
  refine ⟨size, out, hsize, hout, ?_⟩
  have reached : (thumbnailStages facts size).foldl Stage.extent header.raw = size := foldl_thumbnailStages upright size
  rwa [← reached]

theorem Standing.crop (standing : Standing c codecs holds limits s b facts) {target : Dimensions}
    (ht : target.Positive) (short : facts.dimensions.HasRoom target true ∨ target.Writable .standard) :
    ∃ box output, cropBox facts.dimensions target = .ok box ∧
      ((Derivation.crop b facts target).run c s).outcome = .ok output ∧
      ∀ codec, c.Recognizes (codecs codec) output facts.outputFormat box.size := by
  obtain ⟨box, hbox⟩ := exists_cropBox_told standing.positive standing.writable ht short
  obtain ⟨⟨codec, qs, rfl⟩, header, output, -, -, -, held⟩ := standing
  have told := (Derivation.crop_faithful ((faithful codec).serve qs) facts target held).1
  rw [cropPlan, hbox] at told
  obtain ⟨out, hout, recognized⟩ := View.Tells.exists_ok told
  refine ⟨box, out, hbox, hout, ?_⟩
  have reached : (cropStages facts box).foldl Stage.extent header.raw = box.size := foldl_cropStages box
  rwa [← reached]

end

/-! ## Opening again -/

/-- The bytes of an image of this format and size are opened as such, upright; without visual content they are an unknown
format. -/
structure Reopens (c : Codec Bytes σ) (s : σ) (imageId : String) (budget : Int) (config : Config) (data : Bytes)
    (format : Format) (size : Dimensions) : Prop where
  opened : 2 ≤ size.width → 2 ≤ size.height →
    ∃ b facts, ((openImage imageId data budget config).run c s).outcome = .ok (b, facts) ∧
      facts.dimensions = size ∧ facts.orientation = 1 ∧ facts.inputFormat = format
  refused : size.width = 1 ∨ size.height = 1 →
    ∃ f, ((openImage imageId data budget config).run c s).outcome = .error f ∧ f.kind = .unknownFormat

section
variable {c : Codec Bytes σ} {codecs : String → σ} {holds : σ → BufferId → Option Dimensions} {s : σ} {b : BufferId}
  {facts : Facts} {budget : Int} {config : Config} {data : Bytes} {size : Dimensions}
  (faithful : ∀ codec, c.Faithful (measuring c codecs holds) (codecs codec))
include faithful

/-- What the codecs recognize as derived of an open image is opened again under its limits, and stands for itself. -/
theorem Standing.reopens (standing : Standing c codecs holds ⟨budget, config.maxDimension⟩ s b facts)
    (recognized : ∀ codec, c.Recognizes (codecs codec) data facts.outputFormat size)
    (within : size.Within facts.dimensions) (imageId : String) {t : σ} (served : c.ComesTo codecs t) :
    Reopens c t imageId budget config data facts.outputFormat size ∧
      ∀ b' facts', ((openImage imageId data budget config).run c t).outcome = .ok (b', facts') →
        facts'.dimensions = size ∧ facts'.transform = .identity ∧
          Standing c codecs holds ⟨budget, config.maxDimension⟩ ((openImage imageId data budget config).run c t).state
            b' facts' := by
  have later := served.run (openImage imageId data budget config)
  obtain ⟨-, header, output, admitted, known, rfl, -⟩ := standing
  obtain ⟨codec, qs, rfl⟩ := served
  have faithful := (faithful codec).serve qs
  have recognized := (recognized codec).serve qs
  by_cases large : leastExtent ≤ size.width ∧ leastExtent ≤ size.height
  · have admissible : Header.Admissible ⟨size, output, none⟩ ⟨budget, config.maxDimension⟩ :=
      admitted.of_within within known large.1 large.2
    obtain ⟨b₁, transparent, opened, held⟩ := openImage_admitted faithful recognized imageId budget config admissible
    refine ⟨⟨fun _ _ => ⟨b₁, _, opened, rfl, rfl, rfl⟩, ?_⟩, ?_⟩
    · intro small
      unfold leastExtent at large
      omega
    · intro b' facts' again
      cases opened.symm.trans again
      exact ⟨rfl, rfl, later, _, _, admissible, config.outputPolicy.choose_ne_unknown _ _, rfl, held⟩
  · have small : size.width < leastExtent ∨ size.height < leastExtent := by omega
    obtain ⟨f, refused, kind⟩ := openImage_degenerate faithful recognized imageId budget config known small
      (within.writable admitted.writable)
    refine ⟨⟨?_, fun _ => ⟨f, refused, kind⟩⟩, ?_⟩
    · intro hw hh
      exact absurd ⟨hw, hh⟩ large
    · intro b' facts' again
      cases refused.symm.trans again

end

/-! ## Handles of a session -/

open Session

section
variable [Measured Bytes] {c : Codec Bytes σ} {codecs : String → σ} {holds : σ → BufferId → Option Dimensions}
  (faithful : ∀ codec, c.Faithful (measuring c codecs holds) (codecs codec))
include faithful

/-- A handle that is open some time after its opening stands for its image. -/
theorem standing_of_moments (imageId : String) (steps : List Step) {i : Nat} {m : Moment Bytes σ} {name codec : String}
    {data : Bytes} {budget : Int} {config : Config} (hm : (moments c imageId codecs steps)[i]? = some m)
    (opening : (actsOfAll c imageId { codecs } steps)[i]? = some (.openAs name codec data budget config))
    {m' : Moment Bytes σ} (later : m' ∈ (moments c imageId codecs steps).drop (i + 1)) {b : BufferId} {facts : Facts}
    (here : m'.session.entries[m.session.entries.length]? = some ⟨codec, .opened b facts⟩) :
    Standing c codecs holds ⟨budget, config.maxDimension⟩ (m'.session.codecs codec) b facts := by
  have stocked : Stocked c (measuring c codecs holds) m.session :=
    Moment.visits_keep c imageId (P := fun m => Stocked c _ m.session) (fun _ a stocked => (stocked.act imageId a).1)
      (stocked_start faithful) _ m (List.mem_of_getElem? hm)
  -- the likeness the handle got when it was opened, and may have lost since by being closed
  obtain ⟨l, depicts, admitted⟩ := stocked.exists_openAs imageId name codec data budget config
  have kept := Moment.visits_keep c imageId (m := m.act c imageId (.openAs name codec data budget config))
    (P := fun m' => Stocked c (measuring c codecs holds) m'.session ∧
      ∃ closes, Depicts (measuring c codecs holds) m'.session m.session.entries.length (l.after closes))
    (fun m₁ a ⟨stocked, closes, depicts⟩ => by
      obtain ⟨next, one⟩ := stocked.act imageId a
      have := one _ _ depicts
      rw [Likeness.after_after] at this
      exact ⟨next, _, this⟩)
    ⟨(stocked.act imageId _).1, false, by rw [Likeness.after_false]; exact depicts⟩
  have visited : m' ∈ (m.act c imageId (.openAs name codec data budget config)).visits c imageId
      ((actsOfAll c imageId { codecs } steps).drop (i + 1)) := by
    have from_ := Moment.drop_visits c imageId hm
    obtain ⟨hi, hact⟩ := List.getElem?_eq_some_iff.1 opening
    rw [List.drop_eq_getElem_cons hi, hact, Moment.visits] at from_
    rw [← List.drop_drop, moments, from_] at later
    exact later
  obtain ⟨-, closes, depicts'⟩ := kept _ m' visited
  obtain ⟨v, hl, held⟩ := depicts'.opened here
  obtain ⟨header, transparent, admissible, hfacts, rfl⟩ := admitted v facts (Likeness.eq_opened_of_after hl)
  have all : m' ∈ moments c imageId codecs steps := List.mem_of_mem_drop later
  obtain ⟨qs, hqs⟩ := served_moments c imageId codecs steps m' all codec
  exact ⟨⟨codec, qs, by rw [hqs]⟩, header, _, admissible, config.outputPolicy.choose_ne_unknown _ _, hfacts, held⟩

end

/-- On codecs that read what they write, take a handle that is open some time after it was opened under a budget and a
config. What is derived of it, on a request that need not be told or can be, can be opened again under both, unless it is a single pixel wide or high; and the same
thumbnail of the thumbnail is of the same size, for which nothing is asked but to write it. -/
theorem derived_reopens [Measured Bytes] (c : Codec Bytes σ) (codecs : String → σ)
    (holds : σ → BufferId → Option Dimensions)
    (faithful : ∀ codec, c.Faithful (measuring c codecs holds) (codecs codec)) (imageId : String) (steps : List Step) :
    ∀ i m name codec data budget config, (moments c imageId codecs steps)[i]? = some m →
    (actsOfAll c imageId { codecs } steps)[i]? = some (.openAs name codec data budget config) →
    ∀ m' ∈ (moments c imageId codecs steps).drop (i + 1), ∀ b facts,
    m'.session.entries[m.session.entries.length]? = some ⟨codec, .opened b facts⟩ →
      (∀ bound fit, 0 ≤ bound.width → 0 ≤ bound.height →
        bound.HasRoom facts.dimensions fit ∨ bound.Writable .standard →
        let run := ((Handle.opened b facts).thumbnail bound fit).run c (m'.session.codecs codec)
        ∃ size output, thumbnailSize facts.dimensions bound fit = .ok size ∧ run.outcome = .ok output ∧
          ∀ qs, let s := (c.serve run.state qs).2
            Reopens c s imageId budget config output facts.outputFormat size ∧
            ∀ b' facts', ((openImage imageId output budget config).run c s).outcome = .ok (b', facts') →
              let s' := ((openImage imageId output budget config).run c s).state
              let again := ((Handle.opened b' facts').thumbnail bound fit).run c s'
              ∃ output', again.outcome = .ok output' ∧ again.calls.map (·.request) = [.encode b' facts'.outputFormat] ∧
                Reopens c again.state imageId budget config output' facts'.outputFormat size) ∧
      (∀ target, 1 ≤ target.width → 1 ≤ target.height →
        facts.dimensions.HasRoom target true ∨ target.Writable .standard →
        let run := ((Handle.opened b facts).crop target).run c (m'.session.codecs codec)
        ∃ box output, cropBox facts.dimensions target = .ok box ∧ run.outcome = .ok output ∧
          ∀ qs, Reopens c (c.serve run.state qs).2 imageId budget config output facts.outputFormat box.size) := by
  intro i m name codec data budget config hm opening m' later b facts here
  have standing := standing_of_moments faithful imageId steps hm opening later here
  refine ⟨?_, ?_⟩
  · intro bound fit hw hh short run
    obtain ⟨size, output, hsize, houtput, recognized⟩ := standing.thumbnail faithful hw hh short
    refine ⟨size, output, hsize, houtput, ?_⟩
    intro qs s
    have served : c.ComesTo codecs s := (standing.served.run ((Handle.opened b facts).thumbnail bound fit)).serve qs
    obtain ⟨reopens, opened⟩ := standing.reopens faithful recognized (thumbnailSize_within hsize) imageId served
    refine ⟨reopens, ?_⟩
    intro b' facts' h s' again
    obtain ⟨hdim, upright, stands⟩ := opened b' facts' h
    have short' : bound.HasRoom facts'.dimensions fit ∨ bound.Writable .standard := by
      rw [hdim]
      exact short.imp_left fun room => eq_source_of_hasRoom room hsize ▸ room
    obtain ⟨size', output', hsize', houtput', recognized'⟩ := stands.thumbnail faithful hw hh short'
    obtain rfl : size = size' := by
      rw [hdim, thumbnailSize_again hsize] at hsize'
      exact Except.ok.inj hsize'
    have last := stands.served.run ((Handle.opened b' facts').thumbnail bound fit)
    refine ⟨output', houtput', ?_, (stands.reopens faithful recognized' (thumbnailSize_within hsize') imageId last).1⟩
    have plan : thumbnailPlan facts' bound fit = .ok [] := by
      rw [thumbnailPlan, hsize']
      simp [Except.map, thumbnailStages, hdim, upright, turnStages, Transform.isIdentity]
    exact ((thumbnail_carried c s' b' facts' bound fit).deriving plan).requests
  · intro target hw hh short run
    obtain ⟨box, output, hbox, houtput, recognized⟩ := standing.crop faithful ⟨hw, hh⟩ short
    refine ⟨box, output, hbox, houtput, fun qs => ?_⟩
    have served := (standing.served.run ((Handle.opened b facts).crop target)).serve qs
    exact (standing.reopens faithful recognized (cropBox_inside hbox).within imageId served).1

/-! ## A codec of tally marks -/

namespace Tally

def formats : List Format := [.jpeg, .png, .gif, .unknown]

/-- A file of nothing but its header, each part of it as often as it says. -/
def write (h : Header) : Bytes :=
  List.replicate (formats.idxOf h.format) 0 ++ List.replicate h.raw.width.toNat 1 ++
    List.replicate (-h.raw.width).toNat 2 ++ List.replicate h.raw.height.toNat 3 ++
    List.replicate (-h.raw.height).toNat 4 ++ List.replicate (h.orientation.getD 0).toNat 5

def read (data : Bytes) : Header where
  raw := ⟨data.count 1 - data.count 2, data.count 3 - data.count 4⟩
  format := formats.getD (data.count 0) .unknown
  orientation := if data.count 5 = 0 then none else some (data.count 5)

theorem read_write (d : Dimensions) (format : Format) : read (write ⟨d, format, none⟩) = ⟨d, format, none⟩ := by
  have known : formats[formats.idxOf format]?.getD .unknown = format := by cases format <;> rfl
  have width : max d.width 0 - max (-d.width) 0 = d.width := by omega
  have height : max d.height 0 - max (-d.height) 0 = d.height := by omega
  simp [read, write, List.count_append, List.count_replicate, known, width, height]

/-- Buffers are sizes, by number from zero. -/
def answer (s : List Dimensions) : (q : Request) → q.Reply Bytes × List Dimensions
  | .sniff data => ((read data).format, s)
  | .decodeHeader data => (read data, s)
  | .decodeFull data => (s.length, s ++ [(read data).raw])
  | .hasTransparency _ => (false, s)
  | .transform b t => (s.length, s ++ [(s.getD b ⟨0, 0⟩).after t])
  | .resize _ w h => (s.length, s ++ [⟨w, h⟩])
  | .crop _ box => (s.length, s ++ [box.size])
  | .encode b format => (write ⟨s.getD b ⟨0, 0⟩, format, none⟩, s)
  | .release _ => ((), s)

def codec : Codec Bytes (List Dimensions) where
  respond s q := (.ok (answer s q).1, (answer s q).2)

theorem recognizes (s : List Dimensions) (format : Format) (d : Dimensions) :
    codec.Recognizes s (write ⟨d, format, none⟩) format d := by
  intro qs
  refine ⟨?_, ?_, _, rfl⟩
  · show Except.ok (read _).format = _
    rw [read_write]
  · show Except.ok (read _) = _
    rw [read_write]

theorem faithful (s : List Dimensions) :
    codec.Faithful (measuring codec (fun _ => s) fun s b => s[b]?) s := by
  intro qs
  generalize (codec.serve s qs).2 = t
  -- nothing is forgotten, and the next number is that of a buffer that is made
  have made : ∀ d, (measuring codec (fun _ => s) fun s b => s[b]?).HandsOut t (t ++ [d]) t.length d := by
    intro d
    refine ⟨List.getElem?_eq_none le_rfl, List.getElem?_concat_length, ?_⟩
    intro b _ v hv
    obtain ⟨hb, -⟩ := List.getElem?_eq_some_iff.1 hv
    exact (List.getElem?_append_left hb).trans hv
  have size : ∀ b v, t[b]? = some v → t.getD b ⟨0, 0⟩ = v := by
    intro b v hv
    rw [List.getD_eq_getElem?_getD, hv]
    rfl
  refine ⟨fun _ => .refl [] t, fun _ => .refl [] t, ?_, fun b v hb => ⟨false, t, rfl, .refl [] t⟩, ?_, ?_,
    fun b v hb => ⟨t, rfl, .refl [b] t⟩⟩
  · rintro data header s' o s'' ⟨⟩ ⟨⟩
    exact ⟨_, rfl, made _⟩
  · rintro b v (d | turn | box) hb
    · exact ⟨_, _, rfl, made d⟩
    · obtain rfl := size b v hb
      exact ⟨_, _, rfl, made _⟩
    · exact ⟨_, _, rfl, made box.size⟩
  · intro b v format hb
    obtain rfl := size b v hb
    exact ⟨_, t, rfl, fun _ => recognizes s format _, .refl [] t⟩

end Tally

instance : Measured Bytes := ⟨fun data => .int data.length⟩

open Session in
/-- An image on its side: its thumbnail opens at eight by ten pixels and is left as it is, and a strip of it does not
open. -/
theorem derived_reopens_on_its_side :
    let file := Tally.write ⟨⟨40, 30⟩, .jpeg, some 6⟩
    let steps : List Step := [.openAs "a" "codec" file 2000 {}]
    let facts : Facts := ⟨⟨30, 40⟩, { turn := .quarter }, 6, .jpeg, .jpeg⟩
    Tally.codec.Faithful (measuring Tally.codec (fun _ => []) fun s b => s[b]?) [] ∧
    ∃ m' ∈ (moments Tally.codec "image" (fun _ => []) steps).drop 1,
      m'.session.entries[0]? = some ⟨"codec", .opened 0 facts⟩ ∧
      (∃ output b' facts' s', Reopens Tally.codec s' "image" 2000 {} output .jpeg ⟨8, 10⟩ ∧
        ((openImage "image" output 2000 {}).run Tally.codec s').outcome = .ok (b', facts') ∧
        facts'.dimensions = ⟨8, 10⟩ ∧
        (((Handle.opened b' facts').thumbnail ⟨10, 10⟩ true).run Tally.codec
          ((openImage "image" output 2000 {}).run Tally.codec s').state).calls.map (·.request) =
            [.encode b' facts'.outputFormat]) ∧
      ∃ output s' f, ((openImage "image" output 2000 {}).run Tally.codec s').outcome = .error f ∧
        f.kind = .unknownFormat := by
  intro file steps facts
  have faithful := Tally.faithful []
  obtain ⟨m', later, here⟩ : ∃ m' ∈ (moments Tally.codec "image" (fun _ => []) steps).drop 1,
    m'.session.entries[0]? = some ⟨"codec", .opened 0 facts⟩ := by decide +kernel
  obtain ⟨thumbnails, crops⟩ := derived_reopens Tally.codec (fun _ => []) (fun s b => s[b]?) (fun _ => faithful) "image"
    steps 0 _ "a" "codec" file 2000 {} rfl rfl m' later 0 facts here
  obtain ⟨size, output, hsize, -, reopened⟩ := thumbnails ⟨10, 10⟩ true (by decide) (by decide) (.inr (by decide))
  obtain rfl : size = ⟨8, 10⟩ := Except.ok.inj (hsize.symm.trans (by decide +kernel))
  obtain ⟨box, strip, hbox, -, refused⟩ := crops ⟨1, 10⟩ (by decide) (by decide) (.inr (by decide))
  obtain rfl : box = ⟨1, 10, 14, 15⟩ := Except.ok.inj (hbox.symm.trans (by decide +kernel))
  obtain ⟨b', facts', opened, dim, -⟩ := (reopened []).1.opened (by decide) (by decide)
  obtain ⟨-, -, again, -⟩ := (reopened []).2 b' facts' opened
  obtain ⟨f, hf, kind⟩ := (refused []).refused (.inl rfl)
  exact ⟨faithful, m', later, here, ⟨output, b', facts', _, (reopened []).1, opened, dim, again⟩, strip, _, f, hf, kind⟩

end Darkroom
