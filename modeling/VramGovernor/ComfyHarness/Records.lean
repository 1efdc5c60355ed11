import VramGovernor.ComfyHarness.Cells

/-!
# The shape of an execution

`Shape` collects what the fields of an execution have to do with each other. Every section keeps it,
of the record that it writes and of the one that it falls back to, and so do a round trip through
the file and `load`. `Follows` says when a new record is no further than the one before.
-/

namespace VramGovernor.ComfyHarness

open GoString Execution

namespace Execution

/-- The execution waits at a boundary to be resumed. -/
def AtBoundary (e : Execution) : Prop := e.state = .yielded ∨ e.state = .checkpointed

/-- The execution may go on, or has come to its end by going on. -/
def Live (e : Execution) : Prop := e.state = .running ∨ e.AtBoundary ∨ e.state = .completed

theorem historyCount_eq (e : Execution) : e.historyCount = (e.histories.getD ∅).entries.length := by
  unfold historyCount
  cases e.histories <;> rfl

theorem encoded_histories (e : Execution) : e.encoded.histories.getD ∅ = e.histories.getD ∅ := by
  show (if e.historyCount = 0 then none else e.histories).getD ∅ = _
  split_ifs with hcount
  · rw [historyCount_eq, List.length_eq_zero_iff] at hcount
    exact AList.ext (by simp [hcount])
  · rfl

end Execution

/-- What belongs to a boundary. -/
structure Boundary (e : Execution) : Prop where
  reference : validCheckpointRef e.checkpointRef = true
  chunk : e.checkpointChunk = e.nextChunk
  epoch : e.checkpointEpoch = e.epoch
  histories : e.histories.getD ∅ ≠ ∅
  positive : 1 ≤ e.epoch.toNat
  early : e.epoch.toNat ≤ e.nextChunk

/-- **The shape of an execution.** -/
structure Shape (e : Execution) : Prop where
  named : e.id ≠ [] ∧ e.idempotencyKey ≠ []
  chunks : ChunksValid e.chunks
  hash : hashChunks e.chunks = e.payloadHash
  progress : e.nextChunk ≤ e.chunks.length
  prompts : [] ∉ e.histories.getD ∅
  submitted : e.submission ≠ .unset → e.chunks[e.nextChunk]?.map (·.id) = some e.submittingChunk
  unsubmitted : e.submission = .unset → e.submittingChunk = [] ∧ e.currentPrompt = []
  submitting : e.submission = .submitting → e.currentPrompt = []
  settled : atRest e.state = true → e.submission = .unset
  completed : e.state = .completed → e.nextChunk = e.chunks.length
  boundary : e.AtBoundary → Boundary e
  between : ¬e.AtBoundary → e.checkpointRef = [] ∧ e.checkpointChunk = 0 ∧ e.checkpointEpoch = 0
  cancelling : e.state = .cancelling → e.requested = .cancel
  running : e.state = .running → 1 ≤ e.epoch.toNat ∧ e.epoch.toNat ≤ e.nextChunk + 1

namespace Shape

variable {e : Execution}

theorem not_boundary (hstate : atRest e.state = false) : ¬e.AtBoundary := by
  rintro (h | h) <;> simp [h, atRest] at hstate

theorem nextChunk_lt (hs : Shape e) (hsub : e.submission ≠ .unset) :
    e.nextChunk < e.chunks.length := by
  have hchunk := hs.submitted hsub
  by_contra hle
  rw [List.getElem?_eq_none (by omega)] at hchunk
  cases hchunk

/-- The histories count only by what is in them. -/
theorem withHistories (hs : Shape e) {histories : Option (GoMap GoString)}
    (hsame : histories.getD ∅ = e.histories.getD ∅) : Shape { e with histories := histories } :=
  { hs with
    prompts := show [] ∉ histories.getD ∅ from hsame ▸ hs.prompts
    boundary := fun hb =>
      { hs.boundary hb with
        histories := show histories.getD ∅ ≠ ∅ from hsame ▸ (hs.boundary hb).histories } }

theorem encoded (hs : Shape e) : Shape e.encoded := hs.withHistories e.encoded_histories

variable {state : ExecutionState} {requested : Requested} {epoch : UInt64} {error : GoString}

section

variable (hs : Shape e)
include hs

/-- The execution in a state in which it neither runs nor rests. -/
theorem withState (hb : ¬e.AtBoundary)
    (hstate : state = .uncertain ∨ state = .cancelling ∧ requested = .cancel) :
    Shape { e with state := state, requested := requested, epoch := epoch, error := error } :=
  { hs with
    settled := fun h => by rcases hstate with rfl | ⟨rfl, -⟩ <;> simp [atRest] at h
    completed := fun h => by rcases hstate with rfl | ⟨rfl, -⟩ <;> simp at h
    boundary := fun h => by
      rcases hstate with rfl | ⟨rfl, -⟩ <;> simp [Execution.AtBoundary] at h
    between := fun _ => hs.between hb
    cancelling := fun h => by
      rcases hstate with rfl | ⟨rfl, hrequested⟩
      · simp at h
      · exact hrequested
    running := fun h => by rcases hstate with rfl | ⟨rfl, -⟩ <;> simp at h }

theorem uncertain (hb : ¬e.AtBoundary) (error : GoString) :
    Shape (e.uncertain error) := hs.withState hb (.inl rfl)

theorem withSubmission (hsub : e.submission ≠ .unset) {submission : Submission} {prompt : GoString}
    (hset : submission ≠ .unset) (hsubmitting : submission = .submitting → prompt = []) :
    Shape { e with submission := submission, currentPrompt := prompt, error := error } :=
  { hs with
    submitted := fun _ => hs.submitted hsub
    unsubmitted := fun h => absurd h hset
    submitting := hsubmitting
    settled := fun h => absurd (hs.settled h) hsub
    boundary := fun hb => { hs.boundary hb with } }

section

variable (hstate : e.state = .running)
include hstate

theorem withChunk {c : Chunk}
    (hc : e.chunks[e.nextChunk]? = some c) (hunset : e.submission = .unset) :
    Shape { e with submittingChunk := c.id, submission := .submitting } :=
  { hs with
    submitted := fun _ => by simp [hc]
    unsubmitted := fun h => by simp at h
    submitting := fun _ => (hs.unsubmitted hunset).2
    settled := fun h => by simp [hstate, atRest] at h
    boundary := fun h => by simp [Execution.AtBoundary, hstate] at h }

omit hstate in
theorem withEnd (hb : ¬e.AtBoundary) (hstate : state = .failed ∨ state = .cancelled) :
    Shape
      { e with
        state := state
        requested := requested
        epoch := epoch
        error := error
        submission := .unset
        submittingChunk := []
        currentPrompt := [] } :=
  { hs with
    submitted := fun h => absurd rfl h
    unsubmitted := fun _ => ⟨rfl, rfl⟩
    submitting := fun h => by simp at h
    settled := fun _ => rfl
    completed := fun h => by rcases hstate with rfl | rfl <;> simp at h
    boundary := fun h => by rcases hstate with rfl | rfl <;> simp [Execution.AtBoundary] at h
    between := fun _ => hs.between hb
    cancelling := fun h => by rcases hstate with rfl | rfl <;> simp at h
    running := fun h => by rcases hstate with rfl | rfl <;> simp at h }

theorem withCompleted
    (hdone : e.chunks[e.nextChunk]? = none) : Shape { e with state := .completed } :=
  { hs with
    settled := fun _ => by
      by_contra hsub
      have hchunk := hs.submitted hsub
      rw [hdone] at hchunk
      cases hchunk
    completed := fun _ => by
      have hprogress := hs.progress
      have hle : e.chunks.length ≤ e.nextChunk := List.getElem?_eq_none_iff.1 hdone
      show e.nextChunk = e.chunks.length
      omega
    boundary := fun h => by simp [Execution.AtBoundary] at h
    between := fun _ => hs.between (by simp [Execution.AtBoundary, hstate])
    cancelling := fun h => by simp at h
    running := fun h => by simp at h }

theorem withRequest (requested : Requested) : Shape { e with requested := requested } :=
  { hs with
    boundary := fun h => by simp [Execution.AtBoundary, hstate] at h
    cancelling := fun h => by simp [hstate] at h }

variable {histories : GoMap GoString}

section

variable (hsub : e.submission ≠ .unset) (hhistories : e.histories = some histories)
include hsub hhistories

theorem finishChunk {promptID history : GoString} (hprompt : promptID ≠ []) :
    Shape (e.finishChunk histories promptID history) :=
  { hs with
    progress := hs.nextChunk_lt hsub
    prompts := by
      have hold := hs.prompts
      rw [hhistories] at hold
      show [] ∉ histories.insert promptID history
      rw [AList.mem_insert]
      rintro (h | h)
      · exact hprompt h.symm
      · exact hold h
    submitted := fun h => absurd rfl h
    unsubmitted := fun _ => ⟨rfl, rfl⟩
    submitting := fun h => by simp [Execution.finishChunk] at h
    settled := fun _ => rfl
    completed := fun h => by simp [Execution.finishChunk, hstate] at h
    boundary := fun h => by simp [Execution.AtBoundary, Execution.finishChunk, hstate] at h
    running := fun _ => by
      have hepoch := hs.running hstate
      show 1 ≤ e.epoch.toNat ∧ e.epoch.toNat ≤ e.nextChunk + 1 + 1
      omega }

theorem reachBoundary
    {promptID history : GoString} (hprompt : promptID ≠ []) (ref : CheckpointRef) :
    Shape (e.reachBoundary histories promptID history ref).record := by
  have hfinished : Shape (e.finishChunk histories promptID history) :=
    hs.finishChunk hstate hsub hhistories hprompt
  have hat : (e.reachBoundary histories promptID history ref).record.AtBoundary := by
    by_cases hrequested : e.requested = .checkpoint <;>
      simp [Execution.AtBoundary, Execution.reachBoundary, hrequested]
  have hepoch := hs.running hstate
  exact
    { hfinished with
      settled := fun _ => rfl
      completed := fun h => by rcases hat with h' | h' <;> rw [h'] at h <;> cases h
      boundary := fun _ =>
        { reference := ref.2
          chunk := rfl
          epoch := rfl
          histories := fun hnone => by
            have hmem : promptID ∈ histories.insert promptID history := by simp
            rw [show histories.insert promptID history = ∅ from hnone] at hmem
            exact AList.notMem_empty promptID hmem
          positive := hepoch.1
          early := hepoch.2 }
      between := fun h => absurd hat h
      cancelling := fun h => by rcases hat with h' | h' <;> rw [h'] at h <;> cases h
      running := fun h => by rcases hat with h' | h' <;> rw [h'] at h <;> cases h }

end

end

/-- An execution goes on from its boundary; its epoch is bounded by the chunks that are done. -/
theorem resume (hb : e.AtBoundary) : Shape e.resume.record := by
  obtain ⟨-, -, -, -, hpositive, hearly⟩ := hs.boundary hb
  have hsub : e.submission = .unset := by
    refine hs.settled ?_
    rcases hb with h | h <;> simp [h, atRest]
  exact
    { hs with
      submitted := fun h => absurd rfl h
      unsubmitted := fun _ => ⟨rfl, (hs.unsubmitted hsub).2⟩
      submitting := fun h => by simp [Execution.resume] at h
      settled := fun _ => rfl
      completed := fun h => by simp [Execution.resume] at h
      boundary := fun h => by simp [Execution.AtBoundary, Execution.resume] at h
      between := fun _ => ⟨rfl, rfl, rfl⟩
      cancelling := fun h => by simp [Execution.resume] at h
      running := fun _ => by
        have hprogress := hs.progress
        have hfits := hs.chunks.fits
        have hnext : (e.epoch + 1).toNat = e.epoch.toNat + 1 := by
          rw [UInt64.toNat_add, show (1 : UInt64).toNat = 1 from rfl]
          omega
        show 1 ≤ (e.epoch + 1).toNat ∧ (e.epoch + 1).toNat ≤ e.nextChunk + 1
        omega }

omit hs in
theorem new {r : StartRequest} {chunks : List Chunk} {id : GoString} (hid : id ≠ [])
    (hkey : r.idempotencyKey ≠ []) (hchunks : ChunksValid chunks) :
    Shape (newExecution r chunks id) where
  named := ⟨hid, hkey⟩
  chunks := hchunks
  hash := rfl
  progress := Nat.zero_le _
  prompts := AList.notMem_empty _
  submitted h := absurd rfl h
  unsubmitted _ := ⟨rfl, rfl⟩
  submitting h := by simp [newExecution] at h
  settled h := by simp [newExecution, atRest] at h
  completed h := by simp [newExecution] at h
  boundary h := by simp [newExecution, Execution.AtBoundary] at h
  between _ := ⟨rfl, rfl, rfl⟩
  cancelling h := by simp [newExecution] at h
  running _ := ⟨le_refl 1, le_refl 1⟩

theorem recovered_of_atRest (hrest : atRest e.state = true) : e.recovered = e := by
  have hsub := hs.settled hrest
  have hprompt := (hs.unsubmitted hsub).2
  have hidle : e.requiresRestartRecovery = false := by
    cases hstate : e.state <;> simp_all [requiresRestartRecovery, atRest]
  rw [recovered, hidle]
  rfl

theorem recovered : Shape e.recovered := by
  by_cases hb : e.AtBoundary
  · have hrest : atRest e.state = true := by rcases hb with h | h <;> simp [h, atRest]
    rw [hs.recovered_of_atRest hrest]
    exact hs
  · unfold Execution.recovered
    split
    · exact hs.withState hb (.inl rfl)
    · exact hs

theorem loaded_eq : e.loaded = { e.recovered with histories := some (e.histories.getD ∅) } := by
  unfold loaded
  rw [hs.hash]

theorem loaded : Shape e.loaded := by
  rw [hs.loaded_eq]
  refine hs.recovered.withHistories ?_
  unfold Execution.recovered
  split <;> rfl

end

end Shape

/-! ## What sections write -/

/-- The record is no further than the one before. -/
structure Follows (e e' : Execution) : Prop where
  chunks : e'.chunks = e.chunks
  boundary : e'.AtBoundary → e.AtBoundary
  live : e'.Live → e.Live ∧ e'.nextChunk = e.nextChunk ∧
    (e'.submission = .unset → e.submission = .unset)

namespace Follows

variable {e e' : Execution}

theorem of_same (hchunks : e'.chunks = e.chunks) (hstate : e'.state = e.state)
    (hnext : e'.nextChunk = e.nextChunk)
    (hunset : e'.submission = .unset → e.submission = .unset) : Follows e e' where
  chunks := hchunks
  boundary := by
    unfold Execution.AtBoundary
    rw [hstate]
    exact id
  live := by
    unfold Execution.Live Execution.AtBoundary
    rw [hstate]
    exact fun h => ⟨h, hnext, hunset⟩

theorem of_not_live (hchunks : e'.chunks = e.chunks) (hlive : ¬e'.Live) : Follows e e' where
  chunks := hchunks
  boundary h := absurd (.inr (.inl h)) hlive
  live h := absurd h hlive

theorem encoded (e : Execution) : Follows e e.encoded := of_same rfl rfl rfl id

theorem uncertain (e : Execution) (error : GoString) : Follows e (e.uncertain error) :=
  of_not_live rfl (by simp [Execution.Live, Execution.AtBoundary, Execution.uncertain])

theorem trans {e'' : Execution} (h : Follows e e') (h' : Follows e' e'') : Follows e e'' where
  chunks := h'.chunks.trans h.chunks
  boundary hb := h.boundary (h'.boundary hb)
  live hl := by
    obtain ⟨hl', hnext', hunset'⟩ := h'.live hl
    obtain ⟨hl, hnext, hunset⟩ := h.live hl'
    exact ⟨hl, hnext'.trans hnext, fun hu => hunset (hunset' hu)⟩

end Follows

/-- What a commit writes and falls back to is well shaped, and the fallback is no further. -/
structure CommitShape (e : Execution) (k : Commit) : Prop where
  record : Shape k.record
  fallback : Shape k.fallback
  follows : Follows e k.fallback

section Sections

variable {e : Execution} {k : Commit}

theorem Shape.resume_commit (hs : Shape e) (hb : e.AtBoundary) : CommitShape e e.resume where
  record := hs.resume hb
  fallback := hs.encoded
  follows := .encoded e

theorem Follows.resume (hb : e.AtBoundary) (hs : Shape e) : Follows e e.resume.record where
  chunks := rfl
  boundary _ := hb
  live _ := by
    refine ⟨.inr (.inl hb), rfl, fun _ => hs.settled ?_⟩
    rcases hb with h | h <;> simp [h, atRest]

/-- The prompt that a stage has, if it has one, is not empty. -/
def ChunkStage.Prompted : ChunkStage → Prop
  | .accepting promptID | .polling promptID | .returned (.finished promptID _) => promptID ≠ []
  | _ => True

def RunPlace.Finished (place : RunPlace) : Prop :=
  ∃ c promptID history, place = .chunk c (.returned (.finished promptID history))

/-- **The sections of a run.** In a chunk, a running execution is submitting one. -/
theorem RunSection.shape {place written unwritten : RunPlace}
    (hsection : RunSection e place k written unwritten) (hs : Shape e)
    (hcustody : ∀ c stage, place = .chunk c stage → c.id ≠ [] ∧ stage.Prompted ∧
      (e.state = .running → e.submission ≠ .unset)) : CommitShape e k := by
  have hencoded (error : GoString) : Follows e (e.encoded.uncertain error) :=
    (Follows.encoded e).trans (.uncertain _ error)
  have hrunning (hstate : e.state = .running) : ¬e.AtBoundary := by
    simp [Execution.AtBoundary, hstate]
  have hset (hsubmitting : e.submission = .submitting) : e.submission ≠ .unset := by
    simp [hsubmitting]
  have hfree (hsub : e.submission ≠ .unset) : ¬e.AtBoundary := by
    intro hb
    refine hsub (hs.settled ?_)
    rcases hb with h | h <;> simp [h, atRest]
  cases hsection with
  | complete hstate hdone =>
    exact ⟨hs.withCompleted hstate hdone, hs.encoded.uncertain (hrunning hstate) _, hencoded _⟩
  | refuse hstate =>
    exact ⟨hs.uncertain (hrunning hstate) _, hs.uncertain (hrunning hstate) _, .uncertain e _⟩
  | submit hstate hc hunset =>
    exact ⟨hs.withChunk hstate hc hunset, hs.encoded.uncertain (hrunning hstate) _, hencoded _⟩
  | accept _ hsubmitting =>
    have hsub := hset hsubmitting
    refine ⟨hs.withSubmission hsub (by simp) (by simp), ?_, ?_⟩
    · exact (hs.encoded.uncertain (hfree hsub) _).withSubmission hsub (by simp) (by simp)
    · exact .of_not_live rfl (by simp [Execution.Live, Execution.AtBoundary, Execution.accept,
        uncertain])
  | @acceptLate c promptID _ hchunk =>
    have hsub : e.submission ≠ .unset := by
      intro hunset
      exact (hcustody _ _ rfl).1 (hchunk ▸ (hs.unsubmitted hunset).1)
    have hlate : Shape (e.acceptLate promptID).record := hs.withSubmission hsub (by simp) (by simp)
    exact ⟨hlate, hlate, .of_same rfl rfl rfl (by simp [Execution.acceptLate])⟩
  | unknown hsubmitting =>
    have hsub := hset hsubmitting
    exact ⟨(hs.uncertain (hfree hsub) _).withSubmission hsub (by simp) (by simp),
      hs.encoded.uncertain (hfree hsub) _, hencoded _⟩
  | failed hstate =>
    have hsub := (hcustody _ _ rfl).2.2 hstate
    refine ⟨hs.withEnd (hrunning hstate) (.inl rfl), ?_, ?_⟩
    · exact (hs.encoded.uncertain (hrunning hstate) _).withSubmission hsub (by simp) (by simp)
    · exact .of_not_live rfl (by simp [Execution.Live, Execution.AtBoundary,
        chunkFailed, uncertain])
  | unresolved hstate =>
    have hsub := (hcustody _ _ rfl).2.2 hstate
    exact ⟨(hs.uncertain (hrunning hstate) _).withSubmission hsub (by simp) (by simp),
      hs.encoded.uncertain (hrunning hstate) _, hencoded _⟩
  | missReference hstate =>
    have hmissed := hs.encoded.uncertain (hrunning hstate)
      "safe boundary observed but a fresh checkpoint reference could not be generated"
    exact ⟨hmissed, hmissed, hencoded _⟩
  | boundary hstate hhistories =>
    obtain ⟨-, hprompt, hsub⟩ := hcustody _ _ rfl
    exact ⟨hs.reachBoundary hstate (hsub hstate) hhistories hprompt _,
      hs.encoded.uncertain (hrunning hstate) _, hencoded _⟩
  | advance hstate hhistories =>
    obtain ⟨-, hprompt, hsub⟩ := hcustody _ _ rfl
    exact ⟨hs.finishChunk hstate (hsub hstate) hhistories hprompt,
      hs.encoded.uncertain (hrunning hstate) _, hencoded _⟩

/-- Only a finished chunk takes an execution further. -/
theorem RunSection.follows {place written unwritten : RunPlace}
    (hsection : RunSection e place k written unwritten) :
    Follows e k.record ∨ place.Finished ∧ e.state = .running ∧
      k.record.nextChunk = e.nextChunk + 1 ∧ k.record.chunks = e.chunks := by
  cases hsection with
  | complete hstate hdone =>
    refine .inl ⟨rfl, fun h => ?_, fun _ => ⟨.inl hstate, rfl, id⟩⟩
    simp [Execution.AtBoundary, Execution.complete] at h
  | refuse => exact .inl (.uncertain e _)
  | submit => exact .inl (.of_same rfl rfl rfl (by simp [Execution.submit]))
  | accept => exact .inl (.of_same rfl rfl rfl (by simp [Execution.accept]))
  | acceptLate => exact .inl (.of_same rfl rfl rfl (by simp [Execution.acceptLate]))
  | unknown =>
    exact .inl (.of_not_live rfl (by simp [Execution.Live, Execution.AtBoundary,
      submissionUnknown, uncertain]))
  | failed =>
    exact .inl (.of_not_live rfl (by simp [Execution.Live, Execution.AtBoundary,
      chunkFailed]))
  | unresolved =>
    exact .inl (.of_not_live rfl (by simp [Execution.Live, Execution.AtBoundary,
      chunkUncertain, uncertain]))
  | missReference => exact .inl ((Follows.encoded e).trans (.uncertain _ _))
  | boundary hstate | advance hstate => exact .inr ⟨⟨_, _, _, rfl⟩, hstate, rfl, rfl⟩

theorem ControlSection.shape {op : Operation} {idle : Prop} {notice : ControlNotice}
    {place written : ControlPlace} (hsection : ControlSection op idle e place k notice written)
    (hs : Shape e) (hqueued : ∀ epoch b, place = .queued epoch b → ¬e.AtBoundary) :
    CommitShape e k ∧ Follows e k.record := by
  have hended {e' : Execution} (hchunks : e'.chunks = e.chunks)
      (hstate : e'.state = .cancelled ∨ e'.state = .uncertain ∨ e'.state = .cancelling) :
      Follows e e' := by
    refine .of_not_live hchunks ?_
    rcases hstate with h | h | h <;> simp [Execution.Live, Execution.AtBoundary, h]
  have hgiveUp (hb : ¬e.AtBoundary) : CommitShape e e.cancelUncertain ∧
      Follows e e.cancelUncertain.record :=
    ⟨⟨hs.withState hb (.inl rfl), hs.withState hb (.inl rfl), hended rfl (.inr (.inl rfl))⟩,
      hended rfl (.inr (.inl rfl))⟩
  have hcancelling (hstate : e.state = .cancelling) : ¬e.AtBoundary := by
    simp [Execution.AtBoundary, hstate]
  cases hsection with
  | cancelUnsubmitted _ hrest hunset hprompt =>
    have hb := Shape.not_boundary hrest
    have hcancelled : Shape e.cancelUnsubmitted.record := by
      have hend := @Shape.withEnd e .cancelled .unset (e.epoch + 1) [] hs hb (.inr rfl)
      simpa [Execution.cancelUnsubmitted, hunset, hprompt, (hs.unsubmitted hunset).1] using hend
    exact ⟨⟨hcancelled, hs.withState hb (.inl rfl), hended rfl (.inr (.inl rfl))⟩,
      hended rfl (.inl rfl)⟩
  | giveUp _ hrest => exact hgiveUp (Shape.not_boundary hrest)
  | giveUpQueued => exact hgiveUp (hqueued _ _ rfl)
  | cancelProven =>
    exact ⟨⟨hs.withEnd (hqueued _ _ rfl) (.inr rfl), hs.encoded, .encoded e⟩, hended rfl (.inl rfl)⟩
  | cancelIntent _ hrest =>
    exact ⟨⟨hs.withState (Shape.not_boundary hrest) (.inr ⟨rfl, rfl⟩), hs.encoded, .encoded e⟩,
      hended rfl (.inr (.inr rfl))⟩
  | stopFailed _ hstate =>
    exact ⟨⟨hs.uncertain (hcancelling hstate) _, hs.uncertain (hcancelling hstate) _,
      .uncertain e _⟩, .uncertain e _⟩
  | stopConfirmed _ hstate =>
    exact ⟨⟨hs.withEnd (hcancelling hstate) (.inr rfl), hs.encoded, .encoded e⟩,
      hended rfl (.inl rfl)⟩
  | request _ _ hstate =>
    exact ⟨⟨hs.withRequest hstate _, hs.encoded, .encoded e⟩, .of_same rfl rfl rfl id⟩

end Sections

end VramGovernor.ComfyHarness
