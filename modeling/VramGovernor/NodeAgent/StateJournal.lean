import VramGovernor.Foundations.Run
import VramGovernor.NodeAgent.State

/-!
# The journal of the command state

Beside its state file the node keeps a journal that is only appended to. A save appends a record
that names the new state by its digest, puts the state file in place and appends the record once
more as committed. A load accepts a state only if the last record of a well-formed journal names it,
and commits a record that was only prepared.

The journal is a list of lines. An append that is cut can leave a fragment, or a record without its
newline; what is appended after either ends up on the same line. What the digests are is left open.
-/

namespace VramGovernor.NodeAgent

open GoString

/-! ## Records -/

inductive JournalPhase
  | prepared | committed
  deriving DecidableEq, Repr

structure JournalRecord where
  sequence : UInt64
  (prevHash stateHash : GoString)
  phase : JournalPhase
  deriving DecidableEq, Repr

/-- A line of the journal: a record with its code, or a text that is no record. -/
inductive JournalLine
  | record (r : JournalRecord) (hmac : GoString)
  | malformed
  deriving DecidableEq, Repr

/-- The nonblank lines of the file, and whether the last one ends in a newline. -/
structure Journal where
  lines : List JournalLine := []
  terminated : Bool := true
  deriving DecidableEq, Repr

/-- The state that is written, and its place in the journal. -/
structure AnchoredPayload (ρ : Type*) where
  state : CommandStatePayload
  rest : ρ
  journalSequence : UInt64
  journalPrevHash : GoString

structure StateEnvelope (ρ : Type*) where
  checksum : GoString
  state : AnchoredPayload ρ

/-- The digests of states and records, in lower case, and the code of a record. -/
structure Digests (ρ : Type*) where
  state : AnchoredPayload ρ → GoString
  (record mac : JournalRecord → GoString)
  toLower_state : ∀ payload, toLower (state payload) = state payload

/-! ## Appending -/

/-- How much of a line reached the journal: the file was not opened; it exists; a fragment, or all
but the newline; the whole line. -/
inductive Written
  | unopened | opened | fragment | unterminated | whole
  deriving DecidableEq, Repr

namespace Journal

/-- A line goes to the end of the last one if that has no newline. -/
def append (j : Journal) (line : JournalLine) (terminated : Bool) : Journal :=
  if j.terminated then ⟨j.lines ++ [line], terminated⟩
  else ⟨j.lines.dropLast ++ [.malformed], terminated⟩

/-- What an append leaves of the file. -/
def write (file : Option Journal) (line : JournalLine) : Written → Option Journal
  | .unopened => file
  | .opened => some (file.getD {})
  | .fragment => some ((file.getD {}).append .malformed false)
  | .unterminated => some ((file.getD {}).append line false)
  | .whole => some ((file.getD {}).append line true)

end Journal

namespace Digests

variable {ρ : Type*} (D : Digests ρ)

def line (r : JournalRecord) : JournalLine := .record r (D.mac r)

/-! ## Reading -/

/-- What the records so far leave: the digest the next one names, the prepared record, and the last
committed one. -/
structure JournalScan where
  expectedPrev : GoString := []
  (prepared committed : Option JournalRecord := none)

def scanLine (s : JournalScan) : JournalLine → Except GoError JournalScan
  | .malformed => .error ⟨"state journal authentication failed", none⟩
  | .record r hmac =>
    if r.sequence = 0 || r.stateHash = [] || hmac = [] || hmac ≠ D.mac r then
      .error ⟨"state journal authentication failed", none⟩
    else
      match r.phase with
      | .prepared =>
        if r.prevHash ≠ s.expectedPrev then .error ⟨"state journal chain is invalid", none⟩
        else .ok { s with prepared := some r }
      | .committed =>
        if r.prevHash ≠ s.expectedPrev || !s.prepared.any
            fun p => p.sequence = r.sequence && p.stateHash = r.stateHash then
          .error ⟨"state journal commit is invalid", none⟩
        else .ok { expectedPrev := D.record r, prepared := none, committed := some r }

def scan (lines : List JournalLine) : Except GoError JournalScan := lines.foldlM D.scanLine {}

/-- The record names the state: its place in the journal and its digest. -/
def names (r : JournalRecord) (state : AnchoredPayload ρ) (stateHash : GoString) : Bool :=
  r.sequence = state.journalSequence && r.stateHash = stateHash &&
    state.journalPrevHash = r.prevHash

/-- How the append of a load ends. -/
inductive AppendEnd
  | fails (written : Written)
  | succeeds
  deriving DecidableEq, Repr

def AppendEnd.written : AppendEnd → Written
  | fails written => written
  | succeeds => .whole

/-- Whether a journal anchors a state, and the journal afterwards: a record prepared for the state
is committed, as `finalize` says. -/
def validateJournal (state : AnchoredPayload ρ) (stateHash : GoString) (journal : Journal)
    (finalize : AppendEnd) : Except GoError Unit × Option Journal :=
  match D.scan journal.lines with
  | .error e => (.error e, journal)
  | .ok s =>
    match s.prepared with
    | some r =>
      if names r state stateHash then
        (if finalize = .succeeds then .ok ()
          else .error ⟨"prepared state journal could not be finalized", none⟩,
          Journal.write journal (D.line { r with phase := .committed }) finalize.written)
      else (.error ⟨"state journal has an unresolved prepared record", none⟩, journal)
    | none =>
      if s.committed.any (names · state stateHash) then (.ok (), journal)
      else (.error ⟨"state journal does not anchor the primary", none⟩, journal)

/-- The digest of the last committed record. -/
def latestJournalHash (lines : List JournalLine) : Option GoString :=
  if .malformed ∈ lines then none
  else
    (lines.filterMap fun
      | .record r _ => if r.phase = .committed then some (D.record r) else none
      | .malformed => none).getLast?

end Digests

/-! ## Loading -/

/-- The processor with its place in the journal; `rest` is what else a state has. -/
structure JournaledProcessor (ρ : Type*) where
  proc : Processor := {}
  rest : Option ρ := none
  journalSequence : UInt64 := 0
  (journalPrevHash journalHash : GoString := [])

structure JournaledDisk (ρ : Type*) where
  primary : Option (StateEnvelope ρ) := none
  journal : Option Journal := none

/-- The recovery marker, whether the journal can be read, and how the append of a commit ends. -/
structure JournalCircumstances extends LoadCircumstances where
  marker : Option BlockReason := none
  journalReadable : Bool := true
  finalize : Digests.AppendEnd := .succeeds

namespace JournaledDisk

variable {ρ : Type*} (D : Digests ρ) (d : JournaledDisk ρ)

/-- Whether the journal agrees with the primary file, and the journal afterwards. A state without a
place in it is older than every journal. -/
def checkJournal (e : StateEnvelope ρ) (l : JournalCircumstances) : Bool × Option Journal :=
  if e.state.journalSequence = 0 then
    (d.journal.all fun j => l.journalReadable && j.lines.isEmpty, d.journal)
  else
    match d.journal.filter fun _ => l.journalReadable with
    | none => (false, d.journal)
    | some j =>
      let checked := D.validateJournal e.state e.checksum j l.finalize
      (checked.1.isOk, checked.2)

/-- The disk as the processor's own load sees it. -/
def disk (marker : Option BlockReason) : Disk where
  primary := d.primary.map (·.state.state)
  journal := d.journal.isSome
  marker := marker

/-- The circumstances of the processor's own load. -/
def circumstances (e : StateEnvelope ρ) (l : JournalCircumstances) : LoadCircumstances :=
  { l.toLoadCircumstances with
    parses := l.parses && toLower e.checksum = toLower (D.state e.state)
    anchored := (d.checkJournal D e l).1 }

/-- The load got to the journal. -/
def reachesJournal (e : StateEnvelope ρ) (l : JournalCircumstances) : Bool :=
  (l.marker.isNone || l.markerBound) && l.readable &&
    (l.parses && toLower e.checksum = toLower (D.state e.state))

/-- The processor with the place in the journal that the state has. -/
def takePlace (e : StateEnvelope ρ) (proc : Processor) (journal : Option Journal) :
    JournaledProcessor ρ where
  proc := proc
  rest := e.state.rest
  journalSequence := e.state.journalSequence
  journalPrevHash := if e.state.journalSequence = 0 then [] else e.state.journalPrevHash
  journalHash :=
    if e.state.journalSequence = 0 then []
    else (journal.bind fun j => D.latestJournalHash j.lines).getD []

/-- A load. The journal is looked at once the state file was parsed. -/
def load (l : JournalCircumstances) : JournaledProcessor ρ × JournaledDisk ρ :=
  match d.primary with
  | none =>
    let loaded := (d.disk l.marker).load l.toLoadCircumstances
    ({ proc := if d.journal.isSome && !l.journalReadable then loaded.1.block .read else loaded.1 },
      d)
  | some e =>
    let loaded := (d.disk l.marker).load (d.circumstances D e l)
    -- the primary file is moved aside by a quarantine
    let primary := loaded.2.primary.bind fun _ => d.primary
    if reachesJournal D e l then
      (takePlace D e loaded.1 (d.checkJournal D e l).2, ⟨primary, (d.checkJournal D e l).2⟩)
    else ({ proc := loaded.1 }, ⟨primary, d.journal⟩)

end JournaledDisk

/-! ## Saving -/

/-- How far a save got: in the append of the prepared record; the state file is in place; in that of
the committed record. No step between changes a file that a load reads. -/
inductive SaveCut
  | prepare (written : Written)
  | renamed
  | commit (written : Written)
  deriving DecidableEq, Repr

/-- How a save ends. A failed one leaves the processor running, and blocked. -/
inductive SaveEnd
  | crashes (cut : SaveCut)
  | fails (cut : SaveCut)
  | completes
  deriving DecidableEq, Repr

def SaveEnd.cut : SaveEnd → SaveCut
  | crashes cut | fails cut => cut
  | completes => .commit .whole

section Saving

variable {ρ : Type*} (D : Digests ρ)

def AnchoredPayload.record (payload : AnchoredPayload ρ)
    (phase : JournalPhase) : JournalRecord where
  sequence := payload.journalSequence
  prevHash := payload.journalPrevHash
  stateHash := D.state payload
  phase := phase

def AnchoredPayload.envelope (payload : AnchoredPayload ρ) : StateEnvelope ρ :=
  ⟨D.state payload, payload⟩

/-- The files after the first operations of a save. -/
def JournaledDisk.reach (d : JournaledDisk ρ) (payload : AnchoredPayload ρ) :
    SaveCut → JournaledDisk ρ
  | .prepare written =>
    { d with journal := Journal.write d.journal (D.line (payload.record D .prepared)) written }
  | .renamed =>
    { primary := some (payload.envelope D)
      journal := Journal.write d.journal (D.line (payload.record D .prepared)) .whole }
  | .commit written =>
    { primary := some (payload.envelope D)
      journal := Journal.write
        (Journal.write d.journal (D.line (payload.record D .prepared)) .whole)
        (D.line (payload.record D .committed)) written }

/-- The payload of the next save, for the state and the rest that the processor has by then. -/
def JournaledProcessor.nextPayload (p : JournaledProcessor ρ) (state : CommandStatePayload)
    (rest : ρ) : AnchoredPayload ρ where
  state := state
  rest := rest
  journalSequence := p.journalSequence + 1
  journalPrevHash := p.journalHash

/-- The processor after a save of the payload. -/
def JournaledProcessor.afterSave (p : JournaledProcessor ρ) (payload : AnchoredPayload ρ) :
    SaveEnd → Option (JournaledProcessor ρ)
  | .crashes _ => none
  | .fails _ =>
    some { p with
      proc := p.proc.block .durability
      journalSequence := payload.journalSequence
      journalPrevHash := payload.journalPrevHash }
  | .completes =>
    some { p with
      journalSequence := payload.journalSequence
      journalPrevHash := payload.journalPrevHash
      journalHash := D.record (payload.record D .committed) }

/-! ## Runs -/

/-- A node over its lifetime: its files, its processor while it runs, the payloads it saved or tried
to save, the copies of the state file, and the payload of the last record that a save brought into
the journal. -/
structure JournaledNode (ρ : Type*) where
  disk : JournaledDisk ρ := {}
  running : Option (JournaledProcessor ρ) := none
  saved : List (AnchoredPayload ρ) := []
  copies : List (StateEnvelope ρ) := []
  latest : Option (AnchoredPayload ρ) := none

inductive JournalEvent (ρ : Type*)
  /-- The node is started again; it may crash in its load. -/
  | restart (l : JournalCircumstances) (crashes : Bool)
  /-- The processor saves what it has by then. -/
  | save (state : CommandStatePayload) (rest : ρ) (ending : SaveEnd)
  /-- An earlier copy of the state file is put back. -/
  | putBack (e : StateEnvelope ρ)

/-- A record got into the journal. -/
def SaveCut.recorded : SaveCut → Bool
  | .prepare .unopened | .prepare .opened | .prepare .fragment => false
  | .prepare .unterminated | .prepare .whole | .renamed | .commit _ => true

/-- The state file was put in place. -/
def SaveCut.placed : SaveCut → Bool
  | .prepare _ => false
  | .renamed | .commit _ => true

def JournaledNode.save (n : JournaledNode ρ) (p : JournaledProcessor ρ)
    (payload : AnchoredPayload ρ) (ending : SaveEnd) : JournaledNode ρ where
  disk := n.disk.reach D payload ending.cut
  running := p.afterSave D payload ending
  saved := n.saved ++ [payload]
  copies := if ending.cut.placed then n.copies ++ [payload.envelope D] else n.copies
  latest := if ending.cut.recorded then some payload else n.latest

inductive JournalStep : JournaledNode ρ → JournalEvent ρ → JournaledNode ρ → Prop
  | restart {n : JournaledNode ρ} (l : JournalCircumstances) (crashes : Bool) :
      JournalStep n (.restart l crashes)
        { n with
          disk := (n.disk.load D l).2
          running := if crashes then none else some (n.disk.load D l).1 }
  | save {n : JournaledNode ρ} {p : JournaledProcessor ρ} (state : CommandStatePayload) (rest : ρ)
      (ending : SaveEnd) (hp : n.running = some p) :
      JournalStep n (.save state rest ending) (n.save D p (p.nextPayload state rest) ending)
  | putBack {n : JournaledNode ρ} {e : StateEnvelope ρ} (he : e ∈ n.copies) :
      JournalStep n (.putBack e) { n with disk := { n.disk with primary := some e } }

end Saving

end VramGovernor.NodeAgent
