import Mathlib.Data.List.Sort
import VramGovernor.Foundations.GoError
import VramGovernor.Foundations.GoMap
import VramGovernor.Foundations.Sha256

/-!
# Executions of the Comfy harness

The record of an execution, its chunks, what it looks like after a round trip through the state file
(`Execution.encoded`), the changes that the handlers make to it together with what they put in its
place if the file cannot be written (`Commit`), and the checks of `load`.
-/

namespace VramGovernor.ComfyHarness

open GoString GoMap

/-! ## Chunks -/

/-- A chunk. The prompt is the compact form of its JSON text. -/
structure Chunk where
  (id prompt : GoString)
  deriving DecidableEq

/-- The payload of a start request. Its chunks are a slice, so there are fewer than `2 ^ 63`. -/
structure Envelope where
  /-- The prompt, unless it is missing or null. -/
  prompt : Option GoString := none
  managedChunks : List Chunk := []
  fits : managedChunks.length < 2 ^ 63 := by decide

inductive ChunkError
  | missing
  | duplicate (id : GoString)
  | emptyPrompt (id : GoString)
  deriving DecidableEq

/-- A JSON text that stands for an object with at least one member. -/
def nonEmptyObject (text : GoString) : Bool :=
  (ofString "\x7b").isPrefixOf text && text ≠ ofString "\x7b\x7d"

/-- `fmt.Sprintf("chunk-%04d", index+1)`. -/
def chunkName (index : ℕ) : GoString :=
  let digits := sprint (index + 1)
  ofString "chunk-" ++ List.replicate (4 - digits.length) 0x30 ++ digits

/-- The loop of `parseChunks` from an index on, with the ids it has seen. -/
def checkChunks (seen : List GoString) (index : ℕ) : List Chunk → Except ChunkError (List Chunk)
  | [] => .ok []
  | c :: cs =>
    let id := if c.id = [] then chunkName index else c.id
    if id ∈ seen then .error (.duplicate id)
    else if !nonEmptyObject c.prompt then .error (.emptyPrompt id)
    else (checkChunks (id :: seen) (index + 1) cs).map (⟨id, c.prompt⟩ :: ·)

/-- `parseChunks` on a payload that has only managed chunks, as `load` calls it. -/
def parseManagedChunks (chunks : List Chunk) : Except ChunkError (List Chunk) :=
  if chunks = [] then .error .missing else checkChunks [] 0 chunks

def parseChunks (payload : Envelope) : Except ChunkError (List Chunk) :=
  match payload.managedChunks, payload.prompt with
  | [], some prompt => parseManagedChunks [⟨"chunk-0001", prompt⟩]
  | chunks, _ => parseManagedChunks chunks

def marshalChunks (chunks : List Chunk) : GoString :=
  let texts := chunks.map fun c =>
    ofString "\x7b\"id\":" ++ jsonQuote c.id ++ ",\"prompt\":" ++ c.prompt ++ "\x7d"
  "[" ++ [(0x2c : UInt8)].intercalate texts ++ "]"

def hashChunks (chunks : List Chunk) : GoString := hexString (Sha256.sum256 (marshalChunks chunks))

/-- Chunks that `parseChunks` leaves as they are. -/
structure ChunksValid (chunks : List Chunk) : Prop where
  nonempty : chunks ≠ []
  fits : chunks.length < 2 ^ 63
  nodup : (chunks.map (·.id)).Nodup
  named : ∀ c ∈ chunks, c.id ≠ []
  prompts : ∀ c ∈ chunks, nonEmptyObject c.prompt = true

theorem chunkName_ne_nil (index : ℕ) : chunkName index ≠ [] := by
  unfold chunkName
  intro h
  have hlength := congrArg List.length h
  simp [show (ofString "chunk-").length = 6 from rfl] at hlength

variable {chunks : List Chunk}

/-- What the loop returns has new ids, none of them empty. -/
theorem checkChunks_ok {seen : List GoString} {index : ℕ} {chunks' : List Chunk}
    (h : checkChunks seen index chunks = .ok chunks') :
    chunks'.length = chunks.length ∧ (chunks'.map (·.id)).Nodup ∧
      ∀ c ∈ chunks', c.id ≠ [] ∧ c.id ∉ seen ∧ nonEmptyObject c.prompt = true := by
  induction chunks generalizing seen index chunks' with
  | nil =>
    obtain rfl : chunks' = [] := by simpa [checkChunks] using h.symm
    simp
  | cons c cs ih =>
    simp only [checkChunks] at h
    generalize hid : (if c.id = [] then chunkName index else c.id) = id at h
    split_ifs at h with hseen hprompt
    cases hrest : checkChunks (id :: seen) (index + 1) cs with
    | error e => simp [hrest, Except.map] at h
    | ok rest =>
      obtain rfl : ⟨id, c.prompt⟩ :: rest = chunks' := by simpa [hrest, Except.map] using h
      obtain ⟨hlength, hnodup, hall⟩ := ih hrest
      have hne : id ≠ [] := by
        rw [← hid]
        split_ifs with hc
        · exact chunkName_ne_nil index
        · exact hc
      refine ⟨by simp [hlength], ?_, ?_⟩
      · rw [List.map_cons, List.nodup_cons]
        refine ⟨fun hmem => ?_, hnodup⟩
        obtain ⟨c', hc', hcid⟩ := List.mem_map.1 hmem
        exact (hall c' hc').2.1 (hcid ▸ List.mem_cons_self)
      · intro c' hc'
        rcases List.mem_cons.1 hc' with rfl | hc'
        · exact ⟨hne, hseen, by simpa using hprompt⟩
        · obtain ⟨hne', hseen', hprompt'⟩ := hall c' hc'
          exact ⟨hne', fun hmem => hseen' (List.mem_cons_of_mem _ hmem), hprompt'⟩

theorem parseManagedChunks_valid {chunks' : List Chunk} (hfits : chunks.length < 2 ^ 63)
    (h : parseManagedChunks chunks = .ok chunks') : ChunksValid chunks' := by
  unfold parseManagedChunks at h
  split_ifs at h with hne
  obtain ⟨hlength, hnodup, hall⟩ := checkChunks_ok h
  refine ⟨fun hnil => hne ?_, hlength ▸ hfits, hnodup, fun c hc => (hall c hc).1,
    fun c hc => (hall c hc).2.2⟩
  rwa [hnil, List.length_nil, eq_comm, List.length_eq_zero_iff] at hlength

theorem parseChunks_valid {payload : Envelope} (h : parseChunks payload = .ok chunks) :
    ChunksValid chunks := by
  unfold parseChunks at h
  split at h
  · exact parseManagedChunks_valid (by simp) h
  · exact parseManagedChunks_valid payload.fits h

/-! ## Records -/

inductive ExecutionState
  | running
  | cancelling
  | uncertain
  | cancelled
  | completed
  | failed
  | yielded
  | checkpointed
  deriving DecidableEq

/-- Where the submission of a chunk is; `unset` is the empty string. -/
inductive Submission
  | unset
  | submitting
  | accepted
  | unknown
  deriving DecidableEq

/-- What was requested of a running execution; `unset` is the empty string. -/
inductive Requested
  | unset
  | yield
  | checkpoint
  | cancel
  deriving DecidableEq

/-- An execution without its times and artifacts. A map that is nil differs from one that is
empty. -/
structure Execution where
  (id workloadID idempotencyKey : GoString)
  planHash : GoString := []
  payloadHash : GoString
  chunks : List Chunk
  nextChunk : ℕ := 0
  (currentPrompt submittingChunk : GoString := [])
  submission : Submission := .unset
  epoch : UInt64
  state : ExecutionState
  requested : Requested := .unset
  checkpointRef : GoString := []
  checkpointChunk : ℕ := 0
  checkpointEpoch : UInt64 := 0
  histories : Option (GoMap GoString) := none
  error : GoString := []
  deriving DecidableEq

def validCheckpointRef (reference : GoString) : Bool :=
  (ofString "checkpoint://").isPrefixOf reference &&
    (let token := reference.drop 13
     token.length = 64 && token.all fun b =>
       (0x30 ≤ b && b ≤ 0x39) || (0x41 ≤ b && b ≤ 0x46) || (0x61 ≤ b && b ≤ 0x66))

/-- A reference that `newCheckpointRef` may draw. -/
abbrev CheckpointRef := { reference : GoString // validCheckpointRef reference = true }

/-- A change to be written: the new record, what replaces it in memory if the write fails, and
whether that is written then. -/
structure Commit where
  (record fallback : Execution)
  retry : Bool := false

def restartRecoveryError : GoString := "restart custody unknown; reconcile before retry"

namespace Execution

variable (e : Execution)

/-- The number of histories, which is that of an empty map if there is none. -/
def historyCount : ℕ := (e.histories.map (·.entries.length)).getD 0

/-- **A round trip through JSON**: an empty map is omitted and comes back as nil. -/
def encoded : Execution := { e with histories := if e.historyCount = 0 then none else e.histories }

def requiresRestartRecovery : Bool :=
  e.state = .running || e.state = .cancelling || e.submission ≠ .unset || e.currentPrompt ≠ []

/-- What a restart makes of an execution that was not at rest. -/
def recovered : Execution :=
  if e.requiresRestartRecovery then { e with state := .uncertain, error := restartRecoveryError }
  else e

theorem recovered_id : e.recovered.id = e.id := by
  unfold recovered
  split_ifs <;> rfl

/-- The record of a refused write: the copy made before, now uncertain. -/
def uncertain (error : GoString) : Execution := { e with state := .uncertain, error := error }

/-! ### What `handleStart` writes -/

def resume : Commit where
  record :=
    { e with
      state := .running
      requested := .unset
      error := []
      submission := .unset
      submittingChunk := []
      checkpointRef := []
      checkpointChunk := 0
      checkpointEpoch := 0
      epoch := e.epoch + 1 }
  fallback := e.encoded

/-! ### What `run` writes -/

def complete : Commit where
  record := { e with state := .completed }
  fallback := e.encoded.uncertain "completion was observed but could not be durably committed"
  retry := true

def refuseResubmission : Commit :=
  let record := e.uncertain
    "an earlier Comfy submission has unresolved custody; refusing to resubmit"
  ⟨record, record, false⟩

def submit (chunkID : GoString) : Commit where
  record := { e with submittingChunk := chunkID, submission := .submitting }
  fallback := e.encoded.uncertain
    "could not durably record submission intent; no Comfy request was sent"
  retry := true

def chunkFailed (message : GoString) : Commit where
  record :=
    { e with
      state := .failed
      error := message
      submission := .unset
      submittingChunk := []
      currentPrompt := [] }
  fallback :=
    { e.encoded.uncertain (message ++ "; durable state update failed") with submission := .unknown }

def chunkUncertain (message : GoString) : Commit where
  record := { e.uncertain message with submission := .unknown }
  fallback := e.encoded.uncertain (message ++ "; durable state update failed")

/-- A finished chunk; the histories are those of a map that is not nil. -/
def finishChunk (histories : GoMap GoString) (promptID history : GoString) : Execution :=
  { e with
    histories := some (histories.insert promptID history)
    nextChunk := e.nextChunk + 1
    currentPrompt := []
    submittingChunk := []
    submission := .unset }

def advance (histories : GoMap GoString) (promptID history : GoString) : Commit where
  record := e.finishChunk histories promptID history
  fallback := e.encoded.uncertain "chunk output was observed but could not be durably committed"
  retry := true

/-- The boundary at which a requested yield or checkpoint is taken. -/
def reachBoundary (histories : GoMap GoString) (promptID history : GoString)
    (ref : CheckpointRef) : Commit where
  record :=
    let finished := e.finishChunk histories promptID history
    { finished with
      checkpointRef := ref.1
      checkpointChunk := finished.nextChunk
      checkpointEpoch := e.epoch
      state := if e.requested = .checkpoint then .checkpointed else .yielded
      requested := .unset }
  fallback := e.encoded.uncertain
    "chunk output was observed but checkpoint boundary could not be durably committed"
  retry := true

def missReference : Commit :=
  let record := e.encoded.uncertain
    "safe boundary observed but a fresh checkpoint reference could not be generated"
  ⟨record, record, false⟩

/-! ### What `executeChunk` writes -/

def accept (promptID : GoString) : Commit where
  record := { e with currentPrompt := promptID, submission := .accepted }
  fallback :=
    { e.encoded.uncertain
        "Comfy accepted prompt but exact prompt identity could not be durably recorded" with
      currentPrompt := promptID
      submission := .unknown }
  retry := true

def acceptLate (promptID : GoString) : Commit :=
  let record :=
    { e with
      currentPrompt := promptID
      submission := .unknown
      error :=
        "late Comfy acceptance recorded after operation fence; manual reconciliation required" }
  ⟨record, record, false⟩

def submissionUnknown (cause : GoString) : Commit where
  record := { e.uncertain cause with submission := .unknown }
  fallback := e.encoded.uncertain (cause ++ "; durable ambiguity journal failed")

/-! ### What `handleControl` writes -/

def cancelUnsubmitted : Commit :=
  let record :=
    { e with
      state := .cancelled
      requested := .unset
      error := []
      epoch := e.epoch + 1 }
  ⟨record, record.uncertain
    "could not durably commit cancellation before the next submission", false⟩

def cancelProven : Commit where
  record :=
    { e with
      state := .cancelled
      requested := .unset
      error := []
      submission := .unset
      submittingChunk := []
      currentPrompt := []
      epoch := e.epoch + 1 }
  fallback := e.encoded

def cancelUncertain : Commit :=
  let record :=
    { e.uncertain "submission may have reached Comfy; exact prompt identity is unavailable" with
      epoch := e.epoch + 1 }
  ⟨record, record.uncertain
    "submission may have reached Comfy; cancellation state could not be durably recorded", false⟩

def cancelIntent : Commit where
  record := { e with state := .cancelling, requested := .cancel, epoch := e.epoch + 1 }
  fallback := e.encoded

def stopFailed (message : GoString) : Commit where
  record := e.uncertain message
  fallback := e.uncertain (message ++ "; cancellation outcome also could not be journaled")

def stopConfirmed : Commit where
  record :=
    { e with
      state := .cancelled
      requested := .unset
      currentPrompt := []
      submission := .unset
      submittingChunk := []
      error := [] }
  fallback := e.encoded

def request (operation : Requested) : Commit where
  record := { e with requested := operation }
  fallback := e.encoded

end Execution

/-! ## Tables -/

/-- A table of executions, each under its id. -/
structure ExecutionTable where
  entries : GoMap Execution
  keyed : ∀ id e, entries.lookup id = some e → e.id = id

namespace ExecutionTable

def empty : ExecutionTable := ⟨∅, fun _ _ h => nomatch h⟩

variable (t : ExecutionTable)

def get (id : GoString) : Option Execution := t.entries.lookup id

def put (e : Execution) : ExecutionTable where
  entries := t.entries.insert e.id e
  keyed id e' h := by
    rw [lookup_insert_of] at h
    split_ifs at h with hid
    · obtain rfl := Option.some.inj h
      exact hid.symm
    · exact t.keyed id e' h

def erase (id : GoString) : ExecutionTable where
  entries := t.entries.erase id
  keyed id' e h := by
    rw [lookup_erase_of] at h
    split_ifs at h
    exact t.keyed id' e h

/-- The table with every execution changed, its id apart. -/
def map (f : Execution → Execution) (hf : ∀ e, (f e).id = e.id) : ExecutionTable where
  entries := mapValues f t.entries
  keyed id e h := by
    rw [lookup_mapValues, Option.map_eq_some_iff] at h
    obtain ⟨e', he', rfl⟩ := h
    rw [hf]
    exact t.keyed id e' he'

/-- The executions in the order of their ids, as they are written. -/
def rows : List Execution := (t.entries.entries.map (·.2)).insertionSort fun e e' => e.id ≤ e'.id

/-- What the state file has of the table. -/
def encoded : ExecutionTable := t.map Execution.encoded fun _ => rfl

/-- The rows for which a write leaves room: those that a restart would write. -/
def recovered : ExecutionTable := t.map Execution.recovered Execution.recovered_id

section Lookup

variable (t : ExecutionTable) (id : GoString)

@[simp] theorem get_empty : empty.get id = none := rfl

theorem get_put (e : Execution) : (t.put e).get id = if id = e.id then some e else t.get id := by
  exact lookup_insert_of ..

theorem get_erase (id' : GoString) :
    (t.erase id').get id = if id = id' then none else t.get id := by
  exact lookup_erase_of ..

@[simp] theorem get_encoded : t.encoded.get id = (t.get id).map Execution.encoded :=
  lookup_mapValues ..

theorem id_of_get {t : ExecutionTable} {id : GoString} {e : Execution} (h : t.get id = some e) :
    e.id = id := t.keyed id e h

theorem mem_rows {e : Execution} : e ∈ t.rows ↔ t.get e.id = some e := by
  rw [rows, (List.perm_insertionSort _ _).mem_iff, List.mem_map]
  constructor
  · rintro ⟨⟨id, e⟩, he, rfl⟩
    have hl : t.get id = some e := AList.mem_lookup_iff.2 he
    rwa [id_of_get hl]
  · exact fun h => ⟨⟨e.id, e⟩, AList.mem_lookup_iff.1 h, rfl⟩

theorem nodup_rows : (t.rows.map (·.id)).Nodup := by
  have hkeys : (t.entries.entries.map (·.2)).map (·.id) = t.entries.keys := by
    rw [List.map_map]
    refine List.map_congr_left fun entry hentry => ?_
    exact t.keyed entry.1 entry.2 (AList.mem_lookup_iff.2 hentry)
  have hperm : (t.rows.map (·.id)).Perm t.entries.keys :=
    hkeys ▸ (List.perm_insertionSort _ _).map _
  exact hperm.nodup_iff.2 t.entries.nodupKeys

end Lookup

end ExecutionTable

/-! ## Loading -/

def loadError (text : String) : GoError := ⟨text, none⟩

/-- The executions and keys that `load` has read. -/
structure Loaded where
  executions : ExecutionTable := .empty
  idempotency : GoMap GoString := ∅
  recovered : Bool := false

/-- The state is one in which a legacy execution stays. -/
def legacyTerminalState (state : ExecutionState) : Bool :=
  state = .completed || state = .failed || state = .cancelled

/-- The checks of `load` on one execution. The texts of states and submissions are known, and a
decoded history is valid JSON. -/
def durableErrors (s : Loaded) (e : Execution) : List (Bool × GoError) :=
  let hasReference := e.state = .checkpointed || e.state = .yielded
  [(e.id = [] || e.idempotencyKey = [], loadError "invalid durable execution"),
   ((s.executions.get e.id).isSome, loadError "duplicate durable execution id"),
   ((s.idempotency.lookup e.idempotencyKey).getD [] ≠ [],
      loadError "duplicate durable idempotency key"),
   (e.chunks.length < e.nextChunk || e.historyCount ≠ e.nextChunk,
      loadError "invalid durable chunk progress"),
   (!(parseManagedChunks e.chunks).isOk, loadError "invalid durable chunks"),
   (parseManagedChunks e.chunks ≠ .ok e.chunks, loadError "durable chunk identity changed"),
   ((e.histories.getD ∅).keys.contains [], loadError "invalid durable output history"),
   (hashChunks e.chunks ≠ e.payloadHash &&
        !(e.payloadHash = [] && legacyTerminalState e.state),
      loadError "durable payload identity mismatch"),
   (e.submission ≠ .unset &&
        (e.chunks[e.nextChunk]?.map (·.id)) ≠ some e.submittingChunk,
      loadError "invalid durable submission chunk"),
   (e.currentPrompt ≠ [] && e.submission ≠ .accepted && e.submission ≠ .unknown,
      loadError "durable prompt lacks submission custody"),
   (e.state = .completed && e.nextChunk ≠ e.chunks.length,
      loadError "completed execution has uncommitted chunks"),
   (e.checkpointRef ≠ [] && (!hasReference || !validCheckpointRef e.checkpointRef ||
        e.checkpointChunk ≠ e.nextChunk || e.checkpointEpoch = 0 || e.checkpointEpoch ≠ e.epoch),
      loadError "invalid durable checkpoint reference or epoch"),
   (e.checkpointRef = [] && (e.checkpointChunk ≠ 0 || e.checkpointEpoch ≠ 0),
      loadError "durable checkpoint metadata lacks reference"),
   (hasReference && e.checkpointRef = [],
      loadError "durable checkpoint or yield lacks a fresh resume reference"),
   (e.state = .cancelling && e.requested ≠ .cancel,
      loadError "cancelling execution lacks durable cancel intent"),
   ((s.idempotency.lookup e.idempotencyKey).isSome, loadError "duplicate durable idempotency key")]

/-- An execution as `load` puts it into memory. -/
def Execution.loaded (e : Execution) : Execution :=
  { { e with payloadHash := hashChunks e.chunks }.recovered with
    histories := some (e.histories.getD ∅) }

def loadExecution (s : Loaded) (e : Execution) : Except GoError Loaded :=
  (firstError (durableErrors s e) (.ok ())).map fun _ =>
    { executions := s.executions.put e.loaded
      idempotency := s.idempotency.insert e.idempotencyKey e.id
      recovered := s.recovered || e.payloadHash = [] || e.requiresRestartRecovery }

/-- `load` on the executions of the file, up to the write that follows a recovery. -/
def loadExecutions (rows : List Execution) : Except GoError Loaded := rows.foldlM loadExecution {}

theorem loadExecution_eq_ok {s l : Loaded} {e : Execution} (h : loadExecution s e = .ok l) :
    l = { executions := s.executions.put e.loaded
          idempotency := s.idempotency.insert e.idempotencyKey e.id
          recovered := s.recovered || e.payloadHash = [] || e.requiresRestartRecovery } := by
  unfold loadExecution at h
  cases hchecks : firstError (durableErrors s e) (.ok ()) with
  | error err => simp [hchecks, Except.map] at h
  | ok u => simpa [hchecks, Except.map] using h.symm

theorem Execution.loaded_id (e : Execution) : e.loaded.id = e.id :=
  recovered_id { e with payloadHash := hashChunks e.chunks }

theorem foldlM_loadExecution_get {rows : List Execution} {s l : Loaded}
    (hnodup : (rows.map (·.id)).Nodup) (h : rows.foldlM loadExecution s = .ok l) :
    (∀ e ∈ rows, l.executions.get e.id = some e.loaded) ∧
      ∀ id, (∀ e ∈ rows, e.id ≠ id) → l.executions.get id = s.executions.get id := by
  induction rows generalizing s with
  | nil =>
    obtain rfl : s = l := by simpa [pure, Except.pure] using h
    simp
  | cons e es ih =>
    rw [List.map_cons, List.nodup_cons] at hnodup
    rw [List.foldlM_cons] at h
    cases hfirst : loadExecution s e with
    | error err =>
      rw [hfirst] at h
      cases h
    | ok s' =>
      rw [hfirst] at h
      obtain ⟨hrows, hothers⟩ := ih hnodup.2 h
      rw [loadExecution_eq_ok hfirst] at hothers
      have hput (id : GoString) : (s.executions.put e.loaded).get id =
          if id = e.id then some e.loaded else s.executions.get id := by
        rw [ExecutionTable.get_put, e.loaded_id]
      refine ⟨fun e' he' => ?_, fun id hid => ?_⟩
      · rcases List.mem_cons.1 he' with rfl | he'
        · rw [hothers e'.id fun e'' he'' heq => hnodup.1 (heq ▸ List.mem_map_of_mem he''), hput,
            if_pos rfl]
        · exact hrows e' he'
      · rw [hothers id fun e' he' => hid e' (by simp [he']), hput,
          if_neg fun heq => hid e (by simp) heq.symm]

/-- **Every execution of the file is in memory after `load`**, and no other. -/
theorem loadExecutions_get {t : ExecutionTable} {l : Loaded} (h : loadExecutions t.rows = .ok l)
    (id : GoString) : l.executions.get id = (t.get id).map Execution.loaded := by
  obtain ⟨hrows, hothers⟩ := foldlM_loadExecution_get t.nodup_rows h
  cases hget : t.get id with
  | some e =>
    obtain rfl := ExecutionTable.id_of_get hget
    exact hrows e (t.mem_rows.2 hget)
  | none =>
    refine hothers id fun e he heq => ?_
    rw [t.mem_rows, heq, hget] at he
    cases he

end VramGovernor.ComfyHarness
