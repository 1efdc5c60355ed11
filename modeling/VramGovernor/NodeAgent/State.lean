import VramGovernor.Foundations.GoMap
import VramGovernor.NodeAgent.Commands

/-!
# The state of the command processor

The processor keeps the fences, the pending intents, the transitions in flight and the reason for
which it is blocked, and writes them to its state file. A save goes through stages and may complete,
fail or be cut by a crash; a failed one blocks the processor and tries to leave a recovery marker.
A load takes over the fences of the primary and blocks the processor for everything it finds wrong.
A reason of a higher rank is never replaced by one of a lower.

The state file is modelled decoded: its strings come out of JSON messages.
-/

namespace VramGovernor.NodeAgent

open GoString

/-! ## State -/

inductive BlockReason
  | warmTransient | corrupt | read | quarantine | durability
  deriving DecidableEq, Repr

def BlockReason.text : BlockReason → GoString
  | warmTransient => "warm_reconciliation"
  | corrupt => "corrupt_state"
  | read => "state_read"
  | quarantine => "quarantine_failure"
  | durability => "durability_failure"

/-- The rank of a reason; the empty reason has the rank of an unknown one. -/
def blockReasonRank : Option BlockReason → ℕ
  | some .quarantine | some .durability => 4
  | some .corrupt | some .read => 3
  | some .warmTransient => 1
  | none => 2

structure Processor where
  fences : GoMap ℤ := ∅
  pending : GoMap PendingCommand := ∅
  inflight : GoMap Bool := ∅
  stateBlocked : Bool := false
  stateBlockReason : Option BlockReason := none

/-- The state as it is written to the primary file. -/
structure CommandStatePayload where
  fences : GoMap ℤ
  pending : GoMap PendingCommand
  blockReason : Option BlockReason

/-- What is durable: the primary file, whether a journal exists and ends with a record prepared for
another primary, and the marker. -/
structure Disk where
  primary : Option CommandStatePayload := none
  (journal unresolved : Bool := false)
  marker : Option BlockReason := none

namespace Processor

variable (p : Processor)

def block (reason : BlockReason) : Processor :=
  { p with
    stateBlocked := true
    stateBlockReason :=
      if !p.stateBlocked || blockReasonRank p.stateBlockReason < blockReasonRank (some reason) then
        some reason
      else p.stateBlockReason }

/-- The end of a transient block, once nothing is pending. -/
def clearWarmBlock : Processor :=
  if p.stateBlockReason = some .warmTransient && p.pending.entries.isEmpty then
    { p with stateBlocked := false, stateBlockReason := none }
  else p

def commandStatePayload : CommandStatePayload := ⟨p.fences, p.pending, p.stateBlockReason⟩

end Processor

/-! ## Saving -/

/-- How far a save got. -/
inductive SaveStage
  | unprepared | prepared | renamed
  deriving DecidableEq, Repr

/-- How a save ends. A failed one tries to leave a recovery marker. -/
inductive SaveOutcome
  | completes
  | fails (reached : SaveStage) (marked : Bool)
  | crashes (reached : SaveStage)
  deriving DecidableEq, Repr

/-- The disk after the first stages of a save. -/
def Disk.reach (d : Disk) (payload : CommandStatePayload) : SaveStage → Disk
  | .unprepared => d
  | .prepared => { d with journal := true, unresolved := true }
  | .renamed => { d with primary := some payload, journal := true, unresolved := false }

/-- A save: the disk a crash leaves, or the processor and the disk with whether it succeeded. -/
def Processor.save (p : Processor) (d : Disk) : SaveOutcome → Except Disk (Processor × Disk × Bool)
  | .completes => .ok (p, d.reach p.commandStatePayload .renamed, true)
  | .fails reached marked =>
    let written := d.reach p.commandStatePayload reached
    .ok (p.block .durability,
      if marked then { written with marker := some .durability } else written, false)
  | .crashes reached => .error (d.reach p.commandStatePayload reached)

/-! ## Loading -/

/-- The quarantine of a corrupt primary: its first marker could not be written; the file was moved
aside, or could not be. The flags say whether the directory was synced and the last marker written.
-/
inductive Quarantine
  | unmarked
  | moved (synced marked : Bool)
  | stuck (marked : Bool)
  deriving DecidableEq, Repr

def Processor.quarantineState (p : Processor) (d : Disk) : Quarantine → Processor × Disk
  | .unmarked => (p.block .quarantine, d)
  | .moved synced marked =>
    let p := p.block .corrupt
    let p := if synced then p else p.block .quarantine
    let marker := if marked then p.stateBlockReason else some .corrupt
    (if marked then p else p.block .quarantine, { d with primary := none, marker := marker })
  | .stuck marked =>
    let p := p.block .quarantine
    (p, { d with marker := if marked then p.stateBlockReason else some .corrupt })

/-- What a load finds: whether the marker is bound to the files, the primary is read and parses, the
journal anchors it, its contents are valid, and it has warm manifests to restore. -/
structure LoadCircumstances where
  (markerBound readable parses anchored valid : Bool := true)
  warmManifests : Bool := false
  quarantine : Quarantine := .moved true true
  deriving DecidableEq, Repr

/-- The pending intents of a saved state, with the block they ask for. -/
def Processor.loadPending (p : Processor) (payload : CommandStatePayload) : Processor :=
  if payload.pending.entries.isEmpty then p
  else { p with pending := payload.pending }.block .warmTransient

/-- The fences are taken over before the primary is checked, with the block it was saved under and
the one for a journal that does not anchor it. -/
def Processor.takeOver (p : Processor) (d : Disk) (payload : CommandStatePayload)
    (l : LoadCircumstances) : Processor :=
  let p := { p with fences := payload.fences }
  let p := if d.unresolved || !l.anchored then p.block .durability else p
  match payload.blockReason with
  | some reason => p.block reason
  | none => p

/-- A primary that parses. -/
def Processor.loadPayload (p : Processor) (d : Disk) (payload : CommandStatePayload)
    (l : LoadCircumstances) : Processor × Disk :=
  let p := p.takeOver d payload l
  if l.valid then (p.loadPending payload, d) else p.quarantineState d l.quarantine

/-- The primary file, after the recovery marker was read. -/
def Processor.loadPrimary (p : Processor) (d : Disk) (l : LoadCircumstances) : Processor × Disk :=
  match d.primary with
  | none => (if d.marker.isSome || d.journal then p.block .durability else p, d)
  | some payload =>
    if !l.readable then (p.block .read, d)
    else if !l.parses then p.quarantineState d l.quarantine else p.loadPayload d payload l

def Disk.load (d : Disk) (l : LoadCircumstances) : Processor × Disk :=
  match d.marker with
  | none => ({} : Processor).loadPrimary d l
  | some reason =>
    if !l.markerBound then (({} : Processor).block .quarantine, d)
    else (({} : Processor).block reason).loadPrimary d l

/-- A processor as it is started: loaded, then blocked while warm manifests await their runtime. -/
def Disk.start (d : Disk) (l : LoadCircumstances) : Processor × Disk :=
  let loaded := d.load l
  (if l.warmManifests then loaded.1.block .warmTransient else loaded.1, loaded.2)

end VramGovernor.NodeAgent
