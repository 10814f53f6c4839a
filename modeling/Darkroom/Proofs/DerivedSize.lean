import Darkroom.Proofs.ScriptedCodec
import Darkroom.Proofs.Sizes
/-!
# What thumbnails and crops come to

On a codec that never fails, a derivation goes through all stages of its plan, in order, and writes the last buffer out
(`Deriving.written_out`). So a thumbnail and a crop of an open handle have exactly the size that geometry gives them,
whatever turn their image needs (`derived_sizes`).
-/

namespace Darkroom

variable {ω σ : Type}

namespace Call

/-- The stage a call asks for. -/
def stage? : Call ω → Option Stage
  | ⟨.resize _ w h, _⟩ => some (.resize ⟨w, h⟩)
  | ⟨.transform _ t, _⟩ => some (.turn t)
  | ⟨.crop _ box, _⟩ => some (.cut box)
  | _ => none

/-- The buffer a call writes out, and the format. -/
def encoded? : Call ω → Option (BufferId × Format)
  | ⟨.encode b format, _⟩ => some (b, format)
  | _ => none

end Call

/-- No call failed. -/
def Faultless (calls : List (Call ω)) : Prop := ∀ call ∈ calls, ∃ r, call.reply = .ok r

/-- Whatever was asked before, nothing fails. -/
def Codec.FaultFree (c : Codec ω σ) (s : σ) : Prop :=
  ∀ (qs : List Request) (q : Request), ∃ r, (c.respond (c.serve s qs).2 q).1 = .ok r

theorem Codec.FaultFree.faultless {c : Codec ω σ} {s : σ} (h : c.FaultFree s) (qs : List Request) :
    Faultless (c.serve s qs).1 := by
  induction qs using List.reverseRecOn with
  | nil => exact fun call hc => absurd hc List.not_mem_nil
  | append_singleton qs q ih =>
    intro call hc
    rw [serve_concat] at hc
    rcases List.mem_append.1 hc with hc | hc
    · exact ih call hc
    · rw [List.mem_singleton.1 hc]
      exact h qs q

theorem Codec.FaultFree.serve {c : Codec ω σ} {s : σ} (h : c.FaultFree s) (qs : List Request) :
    c.FaultFree (c.serve s qs).2 := by
  intro more q
  have free := h (qs ++ more) q
  rwa [Codec.serve_append] at free

theorem Codec.FaultFree.faultless_run {α : Type} {c : Codec ω σ} {s : σ} (h : c.FaultFree s) (w : Work ω α) :
    Faultless (w.run c s).calls := by
  have quiet := h.faultless ((w.run c s).calls.map (·.request))
  rwa [Work.run_serve] at quiet

theorem scriptedCodec_faultFree (script : Script) (h : script.faults = []) : scriptedCodec.FaultFree { script } := by
  intro qs q
  refine respond_eq_ok _ ?_
  rw [script_serve, h]
  exact fun f hf => absurd hf List.not_mem_nil

/-! ## Nothing left out -/

section
variable {stages : List Stage} {b source : BufferId} {made : List BufferId} {calls : List (Call ω)} {format : Format}

theorem Climb.faulty {o : Except Failure BufferId} (h : Climb stages b made calls o) {f : Failure} (ho : o = .error f) :
    ¬ Faultless calls := by
  induction h with
  | arrived => cases ho
  | @fell st rest b f' =>
    intro quiet
    obtain ⟨r, hr⟩ := quiet _ (List.mem_singleton_self _)
    cases st <;> cases hr
  | climbed up ih => exact fun quiet => ih ho fun call hc => quiet call (List.mem_cons_of_mem _ hc)

theorem Clearing.cleared_of_faultless {o : Except Failure Unit} (h : Clearing made calls o) (quiet : Faultless calls) :
    o = .ok () := by
  induction h with
  | cleared => rfl
  | stuck =>
    obtain ⟨r, hr⟩ := quiet _ (List.mem_singleton_self _)
    cases hr
  | next down ih => exact ih fun call hc => quiet call (List.mem_cons_of_mem _ hc)

/-- Without a fault a derivation goes all the way up, writes out and gives everything back. -/
theorem Deriving.of_faultless {o : Except Failure ω} (h : Deriving stages source format calls o)
    (quiet : Faultless calls) : ∃ made up down last output, Climb stages source made up (.ok last) ∧
      Clearing made down (.ok ()) ∧ calls = up ++ ⟨.encode last format, .ok output⟩ :: down ∧ o = .ok output := by
  cases h with
  | fell climb clearing => exact absurd (fun call hc => quiet call (List.mem_append_left _ hc)) (climb.faulty rfl)
  | @written made up down last reply cleared climb clearing =>
    obtain ⟨output, rfl⟩ : ∃ output, reply = .ok output := quiet ⟨.encode last format, reply⟩ (by simp)
    obtain rfl := clearing.cleared_of_faultless fun call hc => quiet call (by simp [hc])
    exact ⟨made, up, down, last, output, climb, clearing, rfl, rfl⟩

/-- Going up asks for the stages in order, and writes nothing out. -/
theorem Climb.asked {last : BufferId} {o : Except Failure BufferId} (h : Climb stages b made calls o)
    (ho : o = .ok last) : calls.filterMap Call.stage? = stages ∧ calls.filterMap Call.encoded? = [] := by
  induction h with
  | arrived => exact ⟨rfl, rfl⟩
  | fell => cases ho
  | @climbed st rest b b' made calls o up ih =>
    have here : (st.call b (.ok b') : Call ω).stage? = some st := by cases st <;> rfl
    have unwritten : (st.call b (.ok b') : Call ω).encoded? = none := by cases st <;> rfl
    rw [List.filterMap_cons_some here, List.filterMap_cons_none unwritten, (ih ho).1]
    exact ⟨rfl, (ih ho).2⟩

theorem Clearing.asked {o : Except Failure Unit} (h : Clearing made calls o) :
    calls.filterMap Call.stage? = [] ∧ calls.filterMap Call.encoded? = [] := by
  induction h with
  | cleared => exact ⟨rfl, rfl⟩
  | stuck => exact ⟨rfl, rfl⟩
  | next down ih => exact ih

/-- Every stage is asked for on a buffer of the size that the stages before it lead to. -/
theorem Climb.asked_on {size : BufferId → Dimensions} {o : Except Failure BufferId} (h : Climb stages b made calls o)
    (follow : SizesFollow size calls) : ∀ call ∈ calls, ∃ before st after b' reply, stages = before ++ st :: after ∧
      call = st.call b' reply ∧ size b' = before.foldl Stage.extent (size b) := by
  induction h with
  | arrived => exact fun call hc => absurd hc List.not_mem_nil
  | @fell st rest b f =>
    intro call hc
    exact ⟨[], st, rest, b, .error f, rfl, List.mem_singleton.1 hc, rfl⟩
  | @climbed st rest b b' made calls o up ih =>
    intro call hc
    rcases List.mem_cons.1 hc with rfl | hc
    · exact ⟨[], st, rest, b, .ok b', rfl, rfl, rfl⟩
    · obtain ⟨before, st', after, b'', reply, rfl, hcall, hsize⟩ :=
        ih (follow.restrict (List.suffix_cons ..).isInfix) call hc
      refine ⟨st :: before, st', after, b'', reply, rfl, hcall, ?_⟩
      rw [hsize, List.foldl_cons, Stage.size_made follow (List.mem_cons_self ..)]

/-- A derivation without a fault: all stages, one buffer written out of the size they lead to, and its output. -/
structure WrittenOut (stages : List Stage) (source : BufferId) (format : Format) (size : BufferId → Dimensions)
    (output : ω) (calls : List (Call ω)) : Prop where
  staged : calls.filterMap Call.stage? = stages
  written : ∃ last, calls.filterMap Call.encoded? = [(last, format)] ∧ ⟨.encode last format, .ok output⟩ ∈ calls ∧
    size last = stages.foldl Stage.extent (size source)
  asked_on : ∀ b box reply, ⟨.crop b box, reply⟩ ∈ calls → ∃ before after, stages = before ++ .cut box :: after ∧
    size b = before.foldl Stage.extent (size source)

theorem Deriving.written_out {size : BufferId → Dimensions} {o : Except Failure ω}
    (h : Deriving stages source format calls o) (quiet : Faultless calls) (follow : SizesFollow size calls) :
    ∃ output, o = .ok output ∧ WrittenOut stages source format size output calls := by
  obtain ⟨made, up, down, last, output, climb, clearing, rfl, rfl⟩ := h.of_faultless quiet
  have hup := climb.asked rfl
  have hdown := clearing.asked
  have follow' := follow.restrict (List.prefix_append up _).isInfix
  refine ⟨output, rfl, ?_, ⟨last, ?_, by simp, ?_⟩, ?_⟩
  · rw [List.filterMap_append, hup.1, List.filterMap_cons_none rfl, hdown.1, List.append_nil]
  · have here : (⟨.encode last format, .ok output⟩ : Call ω).encoded? = some (last, format) := rfl
    rw [List.filterMap_append, hup.2, List.filterMap_cons_some here, hdown.2]
    rfl
  · exact (climb.sizes follow').2 last rfl
  · -- a cut is asked for on the way up only
    intro b box reply hc
    have hup' : (⟨.crop b box, reply⟩ : Call ω) ∈ up := by
      rcases List.mem_append.1 hc with hc | hc
      · exact hc
      · have := List.filterMap_eq_nil_iff.1 hdown.1 ⟨.crop b box, reply⟩
        rcases List.mem_cons.1 hc with hc | hc
        · cases hc
        · cases this hc
    obtain ⟨before, st, after, b', reply', hstages, hcall, hsize⟩ := climb.asked_on follow' _ hup'
    cases st with
    | cut box' => cases hcall; exact ⟨before, after, hstages, hsize⟩
    | _ => cases hcall

end

/-! ## Thumbnails and crops -/

theorem turnStages_eq (t : Transform) : turnStages t = if t = .identity then [] else [.turn t] := by
  simp only [turnStages, Transform.isIdentity_iff]

/-- Nothing is cut before the cut. -/
theorem cut_of_cropStages {facts : Facts} {box box' : CropBox} {before after : List Stage}
    (h : cropStages facts box = before ++ .cut box' :: after) : before = turnStages facts.transform ∧ box' = box := by
  unfold cropStages at h
  rw [turnStages_eq] at h ⊢
  split at h
  · rcases before with _ | ⟨st, before⟩ <;> simp_all
  · rcases before with _ | ⟨st, _ | ⟨st', before⟩⟩ <;> simp_all

section
variable (facts : Facts) (size : BufferId → Dimensions) (output : ω) (calls : List (Call ω))

/-- One buffer is written out, in the output format and at this size, and gives the output. -/
def Writes (target : Dimensions) : Prop :=
  ∃ b, calls.filterMap Call.encoded? = [(b, facts.outputFormat)] ∧ ⟨.encode b facts.outputFormat, .ok output⟩ ∈ calls ∧
    size b = target

/-- A thumbnail is resized if it differs from what the image shows, and turned afterwards if the image needs it. -/
structure Thumbnailed (target : Dimensions) : Prop where
  writes : Writes facts size output calls target
  stages : calls.filterMap Call.stage? =
    (if target = facts.dimensions then [] else [.resize (target.after facts.transform)]) ++
    (if facts.transform = .identity then [] else [.turn facts.transform])

/-- A crop is turned if the image needs it, and cut afterwards from inside what was turned. -/
structure Cropped (box : CropBox) : Prop where
  writes : Writes facts size output calls box.size
  stages : calls.filterMap Call.stage? =
    (if facts.transform = .identity then [] else [.turn facts.transform]) ++ [.cut box]
  inside : ∀ b box' reply, ⟨.crop b box', reply⟩ ∈ calls → box'.Inside (size b)

variable {facts size output calls} {source : BufferId} (upright : (size source).after facts.transform = facts.dimensions)
include upright

theorem WrittenOut.thumbnailed {target : Dimensions}
    (h : WrittenOut (thumbnailStages facts target) source facts.outputFormat size output calls) :
    Thumbnailed facts size output calls target := by
  obtain ⟨last, hlast, hmem, hsize⟩ := h.written
  refine ⟨⟨last, hlast, hmem, ?_⟩, ?_⟩
  · rw [hsize, foldl_thumbnailStages upright]
  · rw [h.staged, thumbnailStages, turnStages_eq]

theorem WrittenOut.cropped {box : CropBox} (hbox : box.Inside facts.dimensions)
    (h : WrittenOut (cropStages facts box) source facts.outputFormat size output calls) :
    Cropped facts size output calls box := by
  obtain ⟨last, hlast, hmem, hsize⟩ := h.written
  refine ⟨⟨last, hlast, hmem, ?_⟩, ?_, ?_⟩
  · rw [hsize, foldl_cropStages]
  · rw [h.staged, cropStages, turnStages_eq]
  · intro b box' reply hc
    obtain ⟨before, after, hstages, hb⟩ := h.asked_on b box' reply hc
    obtain ⟨rfl, rfl⟩ := cut_of_cropStages hstages
    rw [hb, Stage.foldl_turnStages, upright]
    exact hbox

end

open Session in
/-- Whatever an open handle went through, on a codec without faults every sensible request for a thumbnail or a crop
succeeds, and what is written out has exactly the size that geometry gives for the display size. A request that cannot be
granted as it stands is told, so it has to be short enough for that. -/
theorem derived_sizes [Measured ω] {c : Codec ω σ} {codecs : String → σ} (free : ∀ codec, c.FaultFree (codecs codec))
    (imageId : String) (steps : List Step) : ∀ m ∈ moments c imageId codecs steps, ∀ n codec b facts,
    m.session.entries[n]? = some ⟨codec, .opened b facts⟩ → ∀ size : BufferId → Dimensions,
      Vouched (m.callsOn codec) (m.budgetOf (some n)) b facts ∧
      (∀ bound fit, 0 ≤ bound.width → 0 ≤ bound.height →
        bound.HasRoom facts.dimensions fit ∨ bound.Writable .standard →
        let run := ((Handle.opened b facts).thumbnail bound fit).run c (m.session.codecs codec)
        SizesFollow size (m.callsOn codec ++ run.calls) →
        ∃ target output, thumbnailSize facts.dimensions bound fit = .ok target ∧ run.outcome = .ok output ∧
          Thumbnailed facts size output run.calls target) ∧
      (∀ target, 1 ≤ target.width → 1 ≤ target.height →
        facts.dimensions.HasRoom target true ∨ target.Writable .standard →
        let run := ((Handle.opened b facts).crop target).run c (m.session.codecs codec)
        SizesFollow size (m.callsOn codec ++ run.calls) →
        ∃ box output, cropBox facts.dimensions target = .ok box ∧ run.outcome = .ok output ∧
          Cropped facts size output run.calls box) := by
  intro m hm n codec b facts here size
  have vouched := vouched_moments c imageId codecs steps m hm |>.opened n codec b facts here
  -- all that was asked of the codec so far, with the run after it, is one series of requests
  have faultless : ∀ w : Work ω ω, Faultless (w.run c (m.session.codecs codec)).calls := by
    intro w call hc
    obtain ⟨qs, hqs⟩ := served_moments c imageId codecs steps m hm codec
    have hrun := Work.run_serve c (m.session.codecs codec) w
    have quiet := (free codec).faultless (qs ++ (w.run c (m.session.codecs codec)).calls.map (·.request))
    rw [Codec.serve_append, hqs, hrun] at quiet
    exact quiet call (List.mem_append_right _ hc)
  refine ⟨vouched, ?_, ?_⟩
  · intro bound fit hw hh short run follow
    obtain ⟨upright, positive, -⟩ := vouched.display (follow.restrict (List.prefix_append ..).isInfix)
    have ours := follow.restrict (List.suffix_append ..).isInfix
    obtain ⟨target, htarget⟩ := exists_thumbnailSize_told positive vouched.writable ⟨hw, hh⟩ short
    have plan : thumbnailPlan facts bound fit = .ok (thumbnailStages facts target) := by rw [thumbnailPlan, htarget]; rfl
    obtain ⟨output, houtput, written⟩ :=
      ((thumbnail_carried c (m.session.codecs codec) b facts bound fit).deriving plan).written_out (faultless _) ours
    exact ⟨target, output, htarget, houtput, written.thumbnailed upright⟩
  · intro target hw hh short run follow
    obtain ⟨upright, positive, -⟩ := vouched.display (follow.restrict (List.prefix_append ..).isInfix)
    have ours := follow.restrict (List.suffix_append ..).isInfix
    obtain ⟨box, hbox⟩ := exists_cropBox_told positive vouched.writable ⟨hw, hh⟩ short
    have plan : cropPlan facts target = .ok (cropStages facts box) := by rw [cropPlan, hbox]; rfl
    obtain ⟨output, houtput, written⟩ :=
      ((crop_carried c (m.session.codecs codec) b facts target).deriving plan).written_out (faultless _) ours
    exact ⟨box, output, hbox, houtput, written.cropped upright (cropBox_inside hbox)⟩

open Session in
/-- An image stored on its side: both derivations turn it, and come out at the size asked for. -/
theorem derived_sizes_on_its_side :
    let script : Script := { header := ⟨⟨40, 30⟩, .jpeg, some 6⟩, sniffed := .jpeg }
    let facts : Facts := ⟨⟨30, 40⟩, { turn := .quarter }, 6, .jpeg, .jpeg⟩
    scriptedCodec.FaultFree { script } ∧
    ∃ m ∈ moments scriptedCodec "image" (fun _ => { script }) [.openAs "a" "codec" [] 2000 {}],
      m.session.entries[0]? = some ⟨"codec", .opened 1 facts⟩ ∧
      (∃ size output, Thumbnailed facts size output
        (((Handle.opened 1 facts).thumbnail ⟨10, 10⟩ true).run scriptedCodec (m.session.codecs "codec")).calls ⟨8, 10⟩) ∧
      ∃ size output, Cropped facts size output
        (((Handle.opened 1 facts).crop ⟨5, 7⟩).run scriptedCodec (m.session.codecs "codec")).calls ⟨5, 7, 12, 16⟩ := by
  intro script facts
  have free : scriptedCodec.FaultFree { script } := scriptedCodec_faultFree script rfl
  let resized : BufferId → Dimensions := fun b => [⟨0, 0⟩, ⟨40, 30⟩, ⟨10, 8⟩, ⟨8, 10⟩].getD b ⟨0, 0⟩
  let cut : BufferId → Dimensions := fun b => [⟨0, 0⟩, ⟨40, 30⟩, ⟨30, 40⟩, ⟨5, 7⟩].getD b ⟨0, 0⟩
  obtain ⟨m, hm, hentry, hresized, hcut⟩ :
      ∃ m ∈ moments scriptedCodec "image" (fun _ => { script }) [.openAs "a" "codec" [] 2000 {}],
        m.session.entries[0]? = some ⟨"codec", .opened 1 facts⟩ ∧
        SizesFollow resized (m.callsOn "codec" ++
          (((Handle.opened 1 facts).thumbnail ⟨10, 10⟩ true).run scriptedCodec (m.session.codecs "codec")).calls) ∧
        SizesFollow cut (m.callsOn "codec" ++
          (((Handle.opened 1 facts).crop ⟨5, 7⟩).run scriptedCodec (m.session.codecs "codec")).calls) := by
    decide +kernel
  have law := derived_sizes (fun _ => free) "image" _ m hm 0 "codec" 1 facts hentry
  obtain ⟨target, output, htarget, -, thumbnailed⟩ := (law resized).2.1 ⟨10, 10⟩ true (by decide) (by decide) (.inr (by decide)) hresized
  obtain ⟨box, output', hbox, -, cropped⟩ := (law cut).2.2 ⟨5, 7⟩ (by decide) (by decide) (.inr (by decide)) hcut
  have htarget' : thumbnailSize facts.dimensions ⟨10, 10⟩ true = .ok ⟨8, 10⟩ := by decide +kernel
  have hbox' : cropBox facts.dimensions ⟨5, 7⟩ = .ok ⟨5, 7, 12, 16⟩ := by decide +kernel
  obtain rfl := Except.ok.inj (htarget.symm.trans htarget')
  obtain rfl := Except.ok.inj (hbox.symm.trans hbox')
  exact ⟨free, m, hm, hentry, ⟨resized, output, thumbnailed⟩, cut, output', cropped⟩

open Session in
/-- A crop that differs from what its image shows, and nothing is resized. -/
theorem crop_without_resizing :
    let script : Script := { header := ⟨⟨10, 10⟩, .jpeg, none⟩, sniffed := .jpeg }
    let facts : Facts := ⟨⟨10, 10⟩, .identity, 1, .jpeg, .jpeg⟩
    let box : CropBox := ⟨5, 5, 2, 2⟩
    scriptedCodec.FaultFree { script } ∧ cropBox facts.dimensions ⟨5, 5⟩ = .ok box ∧
    ∃ m ∈ moments scriptedCodec "image" (fun _ => { script }) [.openAs "a" "codec" [] 100 {}],
      m.session.entries[0]? = some ⟨"codec", .opened 1 facts⟩ ∧
      ¬ ((∃ call ∈ (((Handle.opened 1 facts).crop ⟨5, 5⟩).run scriptedCodec (m.session.codecs "codec")).calls,
          call.request.method = .resize) ↔ box.size ≠ facts.dimensions) := by
  intro script facts box
  exact ⟨scriptedCodec_faultFree script rfl, by decide +kernel, by decide +kernel⟩

end Darkroom
