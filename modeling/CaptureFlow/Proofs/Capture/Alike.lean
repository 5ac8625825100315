import CaptureFlow.Proofs.Capture.Pieces
import CaptureFlow.Proofs.Capture.Reading

/-!
# Sources that are alike

Two states of sources are alike if nothing that is read from them tells them apart. It is
enough to have a relation of states that every step keeps: where one of two related states
hands out a frame, ends or fails, so does the other one, with the same frame or error, and
leads to related states again.
-/

namespace CaptureFlow

variable {σ τ β : Type}

/-- Two steps that cannot be told apart and lead to related states. -/
inductive Advance.Corresponds (related : σ → τ → Prop) : Advance σ → Advance τ → Prop where
  /-- Both hand out the same frame. -/
  | frame (frame : Frame) {refused taken : σ} {refused' taken' : τ}
      (hrefused : related refused refused') (htaken : related taken taken') :
      Corresponds related (.frame frame refused taken) (.frame frame refused' taken')
  /-- Both are over. -/
  | finished {state : σ} {other : τ} (h : related state other) :
      Corresponds related (.finished state) (.finished other)
  /-- Both fail with the same error. -/
  | failed (error : Error) {state : σ} {other : τ} (h : related state other) :
      Corresponds related (.failed error state) (.failed error other)

/-- What becomes of the states of two steps that correspond, corresponds if it is related. -/
theorem Advance.Corresponds.map {σ' τ' : Type} {related : σ → τ → Prop}
    {related' : σ' → τ' → Prop} {f : σ → σ'} {g : τ → τ'}
    (hrelated : ∀ state other, related state other → related' (f state) (g other))
    {step : Advance σ} {step' : Advance τ} (h : step.Corresponds related step') :
    (step.map f).Corresponds related' (step'.map g) := by
  cases h with
  | frame frame hrefused htaken =>
    exact .frame frame (hrelated _ _ hrefused) (hrelated _ _ htaken)
  | finished h => exact .finished (hrelated _ _ h)
  | failed error h => exact .failed error (hrelated _ _ h)

namespace CaptureSource

variable [CaptureSource σ] [CaptureSource τ]

/-- A relation of states that every step keeps. -/
def StepsAlike (related : σ → τ → Prop) : Prop :=
  ∀ {state : σ} {other : τ}, related state other →
    (advance state).Corresponds related (advance other)

/-- Nothing that is read from two states tells them apart: all calls come to the same, and
so does what is asked between them. -/
def ReadsAlike (state : σ) (other : τ) : Prop :=
  ∀ calls : List Call,
    (session calls state).1 = (session calls other).1 ∧
      linkType (session calls state).2 = linkType (session calls other).2 ∧
      metadata (session calls state).2 = metadata (session calls other).2 ∧
      stats (session calls state).2 = stats (session calls other).2

/-- The frames of a batch are those that the source hands out. -/
theorem handouts_batch {max : Nat} {state next : σ} {frames : List Frame}
    (h : Reads max state frames next) : (call state (.batch max)).1.handouts = taken frames := by
  have hbatch : batch max state = ⟨frames.foldl Array.push #[], next, .ok frames.length⟩ :=
    process_of_reads Array.push h #[]
  have hframes : (frames.foldl Array.push #[]).toList = frames := by
    rw [List.foldl_push_eq_append', Array.toList_append]
    rfl
  rw [call, hbatch]
  dsimp only
  rw [hframes]

/-- What cannot be told apart from one state cannot be told apart from each other. -/
theorem ReadsAlike.of_common {υ : Type} [CaptureSource υ] {common : υ} {state : σ} {other : τ}
    (h : ReadsAlike common state) (hother : ReadsAlike common other) :
    ReadsAlike state other := by
  intro calls
  obtain ⟨houtcomes, hlinkType, hmetadata, hstats⟩ := h calls
  rw [← houtcomes, ← hlinkType, ← hmetadata, ← hstats]
  exact hother calls

/-- What cannot be told apart hands out the same frames. -/
theorem ReadsAlike.frames_eq {max : Nat} {state next : σ} {other next' : τ}
    {frames frames' : List Frame} (h : ReadsAlike state other)
    (hreads : Reads max state frames next) (hreads' : Reads max other frames' next') :
    frames = frames' := by
  have houtcome : (call state (.batch max)).1 = (call other (.batch max)).1 :=
    List.head_eq_of_cons_eq (h [.batch max]).1
  have htaken := congrArg CallOutcome.handouts houtcome
  rw [handouts_batch hreads, handouts_batch hreads'] at htaken
  have hframes := congrArg (List.map Handout.frame) htaken
  simp only [taken, List.map_map, Function.comp_def, List.map_id'] at hframes
  exact hframes

variable {related : σ → τ → Prop} (hsteps : StepsAlike related)

include hsteps

/-- Runs over related states come to the same, and lead to related states. -/
theorem StepsAlike.processFrom (receive : Receiver β) (max count : Nat) (value : β) {state : σ}
    {other : τ} (h : related state other) :
    (CaptureSource.processFrom receive max count value state).value =
        (CaptureSource.processFrom receive max count value other).value ∧
      (CaptureSource.processFrom receive max count value state).result =
        (CaptureSource.processFrom receive max count value other).result ∧
      related (CaptureSource.processFrom receive max count value state).state
        (CaptureSource.processFrom receive max count value other).state := by
  induction max generalizing count value state other with
  | zero => exact ⟨rfl, rfl, h⟩
  | succ max ih =>
    have hstep := hsteps h
    rw [CaptureSource.processFrom, CaptureSource.processFrom]
    generalize advance state = step at hstep
    generalize advance other = step' at hstep
    cases hstep with
    | finished hnext => exact ⟨rfl, rfl, hnext⟩
    | failed error hnext => exact ⟨rfl, rfl, hnext⟩
    | frame frame hrefused htaken =>
      dsimp only
      cases receive value frame with
      | mk made refusal =>
        cases refusal with
        | none => exact ih (count + 1) made htaken
        | some error => exact ⟨rfl, rfl, hrefused⟩

/-- A call to related states comes to the same, and leads to related states. -/
theorem StepsAlike.call {state : σ} {other : τ} (h : related state other) (request : Call) :
    (CaptureSource.call state request).1 = (CaptureSource.call other request).1 ∧
      related (CaptureSource.call state request).2 (CaptureSource.call other request).2 := by
  obtain ⟨β, receive, max, value, hcall⟩ := exists_call_eq_logged request
  obtain ⟨hvalue, hresult, hnext⟩ :=
    hsteps.processFrom (logging receive) max 0 ([], value) h
  rw [hcall state, hcall other]
  refine ⟨?_, hnext⟩
  simp only [logged, process, hvalue, hresult]

/-- A session with related states comes to the same, and leads to related states. -/
theorem StepsAlike.session {state : σ} {other : τ} (h : related state other)
    (calls : List Call) :
    (CaptureSource.session calls state).1 = (CaptureSource.session calls other).1 ∧
      related (CaptureSource.session calls state).2 (CaptureSource.session calls other).2 := by
  induction calls generalizing state other with
  | nil => exact ⟨rfl, h⟩
  | cons first calls ih =>
    obtain ⟨houtcome, hbetween⟩ := hsteps.call h first
    obtain ⟨houtcomes, hnext⟩ := ih hbetween
    exact ⟨congrArg₂ List.cons houtcome houtcomes, hnext⟩

/-- Related states read alike if they answer alike. -/
theorem StepsAlike.readsAlike
    (hanswers : ∀ {state : σ} {other : τ}, related state other →
      linkType state = linkType other ∧ metadata state = metadata other ∧
        stats state = stats other)
    {state : σ} {other : τ} (h : related state other) : ReadsAlike state other := by
  intro calls
  obtain ⟨houtcomes, hnext⟩ := hsteps.session h calls
  exact ⟨houtcomes, hanswers hnext⟩

end CaptureSource

end CaptureFlow
