import Mathlib.Data.List.Basic
import VramGovernor.Foundations.GoError

/-!
# Event streams

The adapter forwards the event stream of a backend block by block. A block ends at a blank line or
with the stream, and the first block with a terminal marker ends the forwarding: a last event of the
Responses API goes out as it came, the `[DONE]` of any other API in one fixed form. A stream that
resumes a checkpoint drops what its base has delivered; one without a base keeps every block
(`consumeSSEStream_blocks`).
-/

namespace VramGovernor.Workloads

open GoString

structure StreamSSEState where
  done : Bool := false
  rawPrefix : GoString := []
  rawPrefixOffset : ℕ := 0
  rawPrefixMatching : Bool := false
  assistantRemaining : GoString := []

-- The type of the event that a payload encodes, `none` if it is no JSON of an event. How
-- `encoding/json` reads it is left open.
variable (eventType : GoString → Option GoString)

/-- The payload of a `data:` line. -/
def ssePayload (line : GoString) : Option GoString :=
  let trimmed := trimSpace line
  if (ofString "data:").isPrefixOf trimmed then some (trimSpace (trimmed.drop 5)) else none

def ssePayloads (block : GoString) : List GoString := (block.splitOn 0x0A).filterMap ssePayload

def sseBlockEndsResponse (block : GoString) : Bool :=
  (ssePayloads block).any fun payload => (eventType payload).any
    (· ∈ [ofString "response.completed", ofString "response.failed",
      ofString "response.incomplete"])

def sseBlockHasDone (block : GoString) : Bool := ofString "[DONE]" ∈ ssePayloads block

/-- What is left of a block after the durable raw prefix, `none` if that covers all of it. -/
def StreamSSEState.matchPrefix (s : StreamSSEState) (block : GoString) :
    StreamSSEState × Option GoString :=
  let expected := s.rawPrefix.drop s.rawPrefixOffset
  if !s.rawPrefixMatching then (s, some block)
  else if expected = [] then ({ s with rawPrefixMatching := false }, some block)
  else if block.isPrefixOf expected then
    ({ s with rawPrefixOffset := s.rawPrefixOffset + block.length }, none)
  else if expected.isPrefixOf block then
    ({ s with rawPrefixMatching := false, rawPrefixOffset := s.rawPrefix.length },
      some (block.drop expected.length))
  else ({ s with rawPrefixMatching := false }, some block)

variable (stripAssistantPrefix : StreamSSEState → GoString → StreamSSEState × GoString)

def doneEvent : GoString := "data: [DONE]\n\n"

/-- The state after a block, what goes out for it, and whether it is the last. -/
def StreamSSEState.process (s : StreamSSEState) (block : GoString) :
    StreamSSEState × GoString × Bool :=
  if s.done then (s, [], true)
  else if sseBlockEndsResponse eventType block then ({ s with done := true }, block, true)
  else if sseBlockHasDone block then ({ s with done := true }, doneEvent, true)
  else
    match s.matchPrefix block with
    | (s, none) => (s, [], false)
    | (s, some block) =>
      if s.assistantRemaining = [] then (s, block, false)
      else
        let (s, block) := stripAssistantPrefix s block
        (s, block, false)

/-! ## Reading -/

/-- What one read of the body yields. -/
abbrev Chunk := { c : GoString // c ≠ [] }

/-- A text cut after its first newline. -/
def cutLine (s : GoString) : GoString × GoString :=
  (s.take (s.idxOf 0x0A + 1), s.drop (s.idxOf 0x0A + 1))

/-- `ReadBytes('\n')`: a line, and what is left after it unless the body has ended. -/
def readBytes (buffer : GoString) (chunks : List Chunk) :
    GoString × Option (GoString × List Chunk) :=
  if 0x0A ∈ buffer then ((cutLine buffer).1, some ((cutLine buffer).2, chunks))
  else
    match chunks with
    | [] => (buffer, none)
    | c :: chunks => readBytes (buffer ++ c.1) chunks
termination_by structural chunks

def unread (buffer : GoString) (chunks : List Chunk) : GoString := buffer ++ chunks.flatMap (·.1)

theorem cutLine_append {s : GoString} (h : 0x0A ∈ s) (rest : GoString) :
    cutLine (s ++ rest) = ((cutLine s).1, (cutLine s).2 ++ rest) := by
  have hle : s.idxOf 0x0A + 1 ≤ s.length := List.idxOf_lt_length_of_mem h
  rw [cutLine, List.idxOf_append_of_mem h, List.take_append_of_le_length hle,
    List.drop_append_of_le_length hle]
  rfl

theorem length_cutLine {s : GoString} (h : 0x0A ∈ s) : (cutLine s).2.length < s.length := by
  have := List.length_pos_of_mem h
  simp only [cutLine, List.length_drop]
  omega

/-- A line is that of the unread text, whatever the chunks are that the text comes in. -/
theorem readBytes_eq (buffer : GoString) (chunks : List Chunk) :
    (0x0A ∉ unread buffer chunks ∧ readBytes buffer chunks = (unread buffer chunks, none)) ∨
    0x0A ∈ unread buffer chunks ∧ ∃ buffer' chunks',
      readBytes buffer chunks = ((cutLine (unread buffer chunks)).1, some (buffer', chunks')) ∧
      unread buffer' chunks' = (cutLine (unread buffer chunks)).2 := by
  fun_induction readBytes buffer chunks with
  | case1 buffer chunks hb =>
    exact .inr ⟨List.mem_append_left _ hb, _, _, by rw [unread, cutLine_append hb], by
      rw [unread, unread, cutLine_append hb]⟩
  | case2 buffer hb => exact .inl (by simpa [unread] using hb)
  | case3 buffer hb c chunks ih => simpa [unread] using ih

/-! ## Forwarding -/

/-- The loop's variables, with the blocks that `emit` has taken. -/
structure Forwarding where
  state : StreamSSEState := {}
  block : GoString := []
  emitted : List GoString := []

-- The argument of `emit` is all it has been given, the new block last.
open Forwarding

variable (emit : List GoString → Option GoError)

/-- The end of a block; the flag says that it was the last. -/
def Forwarding.flush (f : Forwarding) : Forwarding × Except GoError Bool :=
  if f.block = [] then (f, .ok false)
  else
    let (state, out, terminal) := f.state.process eventType stripAssistantPrefix f.block
    if out = [] then ({ f with state, block := [] }, .ok terminal)
    else
      match emit (f.emitted ++ [out]) with
      | some e => ({ f with state, block := [] }, .error e)
      | none => (⟨state, [], f.emitted ++ [out]⟩, .ok terminal)

def Forwarding.addLine (f : Forwarding) (line : GoString) : Forwarding × Except GoError Bool :=
  if line ≠ [] ∧ isBlank line then
    { f with block := f.block ++ line }.flush eventType stripAssistantPrefix emit
  else ({ f with block := f.block ++ line }, .ok false)

-- The error that ends the body, `none` at its end of file.
variable (readErr : Option GoError)

/-- What `emit` has taken, and the result: whether a terminal marker was found, or an error. -/
abbrev Delivery := List GoString × Except GoError Bool

/-- The loop returns at an error and at a terminal marker. -/
def Forwarding.proceed (r : Forwarding × Except GoError Bool) (next : Forwarding → Delivery) :
    Delivery :=
  match r with
  | (f, .ok false) => next f
  | (f, result) => (f.emitted, result)

def Forwarding.finish (f : Forwarding) : Delivery :=
  proceed (f.flush eventType stripAssistantPrefix emit) fun f =>
    (f.emitted, match readErr with
      | some e => .error e
      | none =>
        if f.state.done then .ok true
        else .error ⟨"stream ended before terminal data: [DONE]", none⟩)

theorem length_unread {buffer buffer' line : GoString} {chunks chunks' : List Chunk}
    (h : readBytes buffer chunks = (line, some (buffer', chunks'))) :
    (unread buffer' chunks').length < (unread buffer chunks).length := by
  obtain ⟨-, hread⟩ | ⟨hmem, _, _, hread, hrest⟩ := readBytes_eq buffer chunks
  · cases hread.symm.trans h
  · cases hread.symm.trans h
    rw [hrest]
    exact length_cutLine hmem

def consumeSSEStream (f : Forwarding) (buffer : GoString) (chunks : List Chunk) : Delivery :=
  match _h : readBytes buffer chunks with
  | (line, some (buffer, chunks)) =>
    Forwarding.proceed (f.addLine eventType stripAssistantPrefix emit line) fun f =>
      consumeSSEStream f buffer chunks
  | (line, none) =>
    Forwarding.proceed (f.addLine eventType stripAssistantPrefix emit line)
      (Forwarding.finish eventType stripAssistantPrefix emit readErr)
termination_by (unread buffer chunks).length
decreasing_by exact length_unread _h

/-- **Only the bytes of a stream count,** not the reads they come in, whatever a resumed stream has
to skip, whatever `emit` answers and however the body ends. -/
theorem consumeSSEStream_rechunk (f : Forwarding) (buffer : GoString) (chunks : List Chunk) :
    consumeSSEStream eventType stripAssistantPrefix emit readErr f buffer chunks =
      consumeSSEStream eventType stripAssistantPrefix emit readErr f (unread buffer chunks) [] := by
  induction hn : (unread buffer chunks).length using Nat.strong_induction_on
    generalizing f buffer chunks with
  | _ n ih =>
    rw [consumeSSEStream]
    conv_rhs => rw [consumeSSEStream]
    -- both loops read the same line, and leave the same text unread
    obtain ⟨hmem, hread⟩ | ⟨hmem, buffer', chunks', hread, hrest⟩ := readBytes_eq buffer chunks
    · have hwhole : readBytes (unread buffer chunks) [] = (unread buffer chunks, none) := by
        rw [readBytes, if_neg hmem]
      split <;> split <;> simp_all
    · have hwhole : readBytes (unread buffer chunks) [] = ((cutLine (unread buffer chunks)).1,
          some ((cutLine (unread buffer chunks)).2, [])) := by
        rw [readBytes, if_pos hmem]
      have hnext (f : Forwarding) := ih _ (hn ▸ length_unread hread) f buffer' chunks' rfl
      simp only [hrest] at hnext
      split <;> split <;> simp_all

/-! ## Blocks -/

def lines (s : GoString) : List GoString :=
  if 0x0A ∈ s then (cutLine s).1 :: lines (cutLine s).2 else if s = [] then [] else [s]
termination_by s.length
decreasing_by exact length_cutLine ‹_›

/-- The lines in blocks, each up to a blank line; `block` holds the lines of the first so far. -/
def blocks (block : GoString) : List GoString → List GoString
  | [] => if block = [] then [] else [block]
  | line :: rest =>
    if isBlank line then (block ++ line) :: blocks [] rest else blocks (block ++ line) rest

def isTerminal (block : GoString) : Bool :=
  sseBlockEndsResponse eventType block || sseBlockHasDone block

def terminalEvent (block : GoString) : GoString :=
  if sseBlockEndsResponse eventType block then block else doneEvent

variable {eventType stripAssistantPrefix} (emitted : List GoString) {block : GoString}
  (bs : List GoString)

/-- **The terminal blocks**: one of the lines is `data:` with `[DONE]` or a last event of the
Responses API, blanks around them apart. -/
theorem isTerminal_iff : isTerminal eventType block = true ↔
    ∃ line ∈ block.splitOn 0x0A, ∃ rest, trimSpace line = ofString "data:" ++ rest ∧
      (trimSpace rest = ofString "[DONE]" ∨ ∃ type, eventType (trimSpace rest) = some type ∧
        type ∈ [ofString "response.completed", ofString "response.failed",
          ofString "response.incomplete"]) := by
  have hpayload (line payload : GoString) : ssePayload line = some payload ↔
      ∃ rest, trimSpace line = ofString "data:" ++ rest ∧ trimSpace rest = payload := by
    rw [ssePayload]
    split_ifs with hdata
    · obtain ⟨rest, hrest⟩ := List.isPrefixOf_iff_prefix.1 hdata
      have hdrop : (ofString "data:" ++ rest).drop 5 = rest := List.drop_left' (by decide +kernel)
      simp [← hrest, hdrop]
    · simp only [false_iff, not_exists, not_and]
      rintro rest hrest -
      exact hdata (List.isPrefixOf_iff_prefix.2 ⟨rest, hrest.symm⟩)
  rw [isTerminal, Bool.or_eq_true, sseBlockEndsResponse, sseBlockHasDone, decide_eq_true_eq]
  simp only [ssePayloads, List.any_eq_true, List.mem_filterMap, hpayload, Option.any_eq_true,
    decide_eq_true_eq]
  constructor
  · rintro (⟨_, ⟨line, hline, rest, hrest, rfl⟩, htype⟩ | ⟨line, hline, rest, hrest, hdone⟩)
    · exact ⟨line, hline, rest, hrest, .inr htype⟩
    · exact ⟨line, hline, rest, hrest, .inl hdone⟩
  · rintro ⟨line, hline, rest, hrest, hdone | htype⟩
    · exact .inr ⟨line, hline, rest, hrest, hdone⟩
    · exact .inl ⟨_, ⟨line, hline, rest, hrest, rfl⟩, htype⟩

variable (eventType) in
/-- The delivery of a loop that has the blocks `bs` before it. -/
def outcome : Delivery :=
  (emitted ++ bs.takeWhile (!isTerminal eventType ·) ++
      (bs.find? (isTerminal eventType)).toList.map (terminalEvent eventType),
    if bs.any (isTerminal eventType) then .ok true
    else .error ⟨"stream ended before terminal data: [DONE]", none⟩)

/-- The end of a block, before the blocks `bs`. -/
theorem proceed_flush {next : Forwarding → Delivery} (h : block ≠ [])
    (hnext : ∀ emitted, next ⟨{}, [], emitted⟩ = outcome eventType emitted bs) :
    proceed (flush eventType stripAssistantPrefix (fun _ => none)
      ⟨{}, block, emitted⟩) next = outcome eventType emitted (block :: bs) := by
  have hdone : doneEvent ≠ [] := by decide +kernel
  cases h₁ : sseBlockEndsResponse eventType block <;> cases h₂ : sseBlockHasDone block <;>
    simp [flush, proceed, StreamSSEState.process, StreamSSEState.matchPrefix,
      outcome, isTerminal, terminalEvent, h, h₁, h₂, hdone, hnext]

theorem finish_fresh : finish eventType stripAssistantPrefix (fun _ => none) none
    ⟨{}, block, emitted⟩ = outcome eventType emitted (blocks block []) := by
  by_cases h : block = []
  · simp [finish, flush, proceed, blocks, outcome, h]
  · rw [finish, blocks, if_neg h]
    exact proceed_flush _ _ h fun _ => by simp [outcome]

/-- A line of the loop, before the lines `rest`. -/
theorem proceed_addLine {next : Forwarding → Delivery} {line : GoString} {rest : List GoString}
    (h : line ≠ [])
    (hnext : ∀ block emitted,
      next ⟨{}, block, emitted⟩ = outcome eventType emitted (blocks block rest)) :
    proceed (addLine eventType stripAssistantPrefix (fun _ => none)
      ⟨{}, block, emitted⟩ line) next =
        outcome eventType emitted (blocks block (line :: rest)) := by
  rw [addLine, blocks]
  by_cases hblank : isBlank line
  · rw [if_pos ⟨h, hblank⟩, if_pos hblank]
    exact proceed_flush _ _ (by simp [h]) (hnext [])
  · rw [if_neg fun h => hblank h.2, if_neg hblank]
    exact hnext _ _

theorem cutLine_ne_nil {s : GoString} (h : 0x0A ∈ s) : (cutLine s).1 ≠ [] := by
  rw [cutLine, ne_eq, List.take_eq_nil_iff]
  rintro (h0 | rfl)
  · cases h0
  · cases h

theorem consumeSSEStream_eq (buffer : GoString) (chunks : List Chunk) :
    consumeSSEStream eventType stripAssistantPrefix (fun _ => none) none ⟨{}, block, emitted⟩
      buffer chunks = outcome eventType emitted (blocks block (lines (unread buffer chunks))) := by
  induction hn : (unread buffer chunks).length using Nat.strong_induction_on
    generalizing buffer chunks block emitted with
  | _ n ih =>
    rw [consumeSSEStream, lines]
    obtain ⟨hmem, hread⟩ | ⟨hmem, buffer', chunks', hread, hrest⟩ := readBytes_eq buffer chunks
    · rw [if_neg hmem]
      split
      · next h => cases hread.symm.trans h
      · next h =>
        cases hread.symm.trans h
        split_ifs with hs
        · simp [addLine, proceed, hs, finish_fresh]
        · exact proceed_addLine _ hs fun _ _ => finish_fresh _
    · rw [if_pos hmem]
      split
      · next h =>
        cases hread.symm.trans h
        rw [← hrest]
        exact proceed_addLine _ (cutLine_ne_nil hmem) fun _ _ =>
          ih _ (hn ▸ length_unread h) _ _ _ rfl
      · next h => cases hread.symm.trans h

variable (eventType stripAssistantPrefix) in
/-- **A stream without a base** goes out block by block up to its first terminal marker, which goes
out as one event. The loop fails exactly if there is no such block. -/
theorem consumeSSEStream_blocks (chunks : List Chunk) :
    let bs := blocks [] (lines (chunks.flatMap (·.1)))
    let d := consumeSSEStream eventType stripAssistantPrefix (fun _ => none) none {} [] chunks
    d.1 = bs.takeWhile (!isTerminal eventType ·) ++
        (bs.find? (isTerminal eventType)).toList.map (terminalEvent eventType) ∧
      ((∃ e, d.2 = .error e) ↔ ∀ b ∈ bs, ¬isTerminal eventType b) := by
  intro bs d
  have hd : d = outcome eventType [] bs := consumeSSEStream_eq [] [] chunks
  rw [hd]
  refine ⟨rfl, ?_⟩
  rw [outcome]
  split <;> simp_all

-- The marker comes in two reads, and what follows it is not forwarded.
example : (consumeSSEStream (fun _ => none) Prod.mk (fun _ => none) none {} []
    [⟨"data: a\n\ndata:[DO", by decide +kernel⟩, ⟨"NE]\n\ndata: b\n\n", by decide +kernel⟩]).1 =
      [ofString "data: a\n\n", doneEvent] := by
  rw [consumeSSEStream_eq]
  decide +kernel

end VramGovernor.Workloads
