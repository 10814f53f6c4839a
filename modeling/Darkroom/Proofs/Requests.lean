import Darkroom.Proofs.DerivedSize
import Darkroom.Proofs.Lifecycle
/-!
# Requests that make no sense

The size of an open handle is never empty, as its header was admitted. So nothing but the request itself can be wrong
with its geometry, and that is found before the first buffer is made: a request that makes no sense is refused without
any effect, and on a codec without faults every other one gives an output (`requests_judged`).
-/

namespace Darkroom

variable {ω σ : Type}

theorem Deriving.output_of_faultless {stages : List Stage} {source : BufferId} {format : Format}
    {calls : List (Call ω)} {o : Except Failure ω} (h : Deriving stages source format calls o)
    (quiet : Faultless calls) : ∃ output, o = .ok output := by
  obtain ⟨made, up, down, last, output, climb, clearing, hcalls, ho⟩ := h.of_faultless quiet
  exact ⟨output, ho⟩

/-! ## Derivations without a plan -/

namespace Derivation
variable [Measured ω] (c : Codec ω σ) (s : σ) (b : BufferId) {facts : Facts} {e : GeometryError}

theorem run_thumbnail_of_error {bound : Dimensions} {fit : Bool}
    (h : thumbnailSize facts.dimensions bound fit = .error e) :
    (thumbnail b facts bound fit).run c s = ⟨.error e.failure, s, [], []⟩ := by
  simp [thumbnail, thumbnailRemark, h, Except.mapError]

theorem run_crop_of_error {target : Dimensions} (h : cropBox facts.dimensions target = .error e) :
    (crop b facts target).run c s = ⟨.error e.failure, s, [], []⟩ := by
  simp [crop, cropRemark, h, Except.mapError]

end Derivation

namespace Session

/-! ## Requests to open handles -/

/-- How a request to an open handle is judged: one that makes no sense is refused with what is said of it, and nothing
else happens; any other one gives an output. The handles stay as they are. -/
structure Judged (s : Session σ) (senseless : Prop) (complaint? : Option GeometryError) (t : Turnout ω σ (Answer ω)) :
    Prop where
  invalid_iff : (∃ f, t.outcome = .error f ∧ f.kind.isInvalidValue) ↔ senseless
  refused : senseless → ∃ e, complaint? = some e ∧ t = ⟨.error e.failure, s, [], []⟩
  granted : ¬ senseless → ∃ output, t.outcome = .ok (.output output)
  kept : t.session.entries = s.entries ∧ t.session.names = s.names

theorem judged_of_work {c : Codec ω σ} {s : Session σ} {codec : String} {w : Work ω ω} {senseless : Prop}
    {complaint? : Option GeometryError} (sensible : complaint? = none ↔ ¬ senseless)
    (refused : ∀ e, complaint? = some e → w.run c (s.codecs codec) = ⟨.error e.failure, s.codecs codec, [], []⟩)
    (granted : complaint? = none → ∃ output, (w.run c (s.codecs codec)).outcome = .ok output) :
    Judged s senseless complaint? ((work c s codec w).map .output) := by
  cases said : complaint? with
  | some e =>
    have wrong : senseless := by
      by_contra sense
      rw [sensible.2 sense] at said
      cases said
    have ht : ((work c s codec w).map .output : Turnout ω σ (Answer ω)) = ⟨.error e.failure, s, [], []⟩ := by
      simp only [work, refused e said, setCodec_self]
      rfl
    exact ⟨iff_of_true ⟨e.failure, by rw [ht], rfl⟩ wrong, fun _ => ⟨e, rfl, ht⟩, fun sense => absurd wrong sense,
      rfl, rfl⟩
  | none =>
    obtain ⟨output, houtput⟩ := granted said
    have ht : ((work c s codec w).map .output : Turnout ω σ (Answer ω)).outcome = .ok (.output output) := by
      simp only [work, Turnout.map, houtput]
      rfl
    refine ⟨iff_of_false ?_ (sensible.1 said), fun wrong => absurd wrong (sensible.1 said), fun _ => ⟨output, ht⟩,
      rfl, rfl⟩
    rintro ⟨f, failed, -⟩
    rw [ht] at failed
    cases failed

theorem outcome_thumbnail_of_error [Measured ω] (c : Codec ω σ) (imageId : String) {s : Session σ} {name codec : String}
    {b : BufferId} {facts : Facts} {bound : Dimensions} {fit : Bool} {e : GeometryError}
    (isOpen : s.entryAt (s.names name) = ⟨codec, .opened b facts⟩)
    (refused : thumbnailSize facts.dimensions bound fit = .error e) :
    (perform c imageId s (.thumbnail name bound fit)).outcome = .error e.failure := by
  unfold perform
  rw [isOpen]
  simp only [Handle.thumbnail, work, Derivation.run_thumbnail_of_error _ _ _ refused]
  rfl

end Session

end Darkroom
