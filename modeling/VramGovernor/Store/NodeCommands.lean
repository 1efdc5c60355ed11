import VramGovernor.Domain
import VramGovernor.Foundations.GoMap
import VramGovernor.NodeAgent.Commands

/-!
# The rows of node commands

A row is created once for its idempotency key and never deleted. After that it changes by a swap
that compares the revision, the attempts, the status and the uncertainty of the row
(`compareAndSwap…_cases`), by the promotion to uncertain, which refuses only a row settled by an
authoritative observation, and by the recording of a recovery, which touches uncertain rows only.
-/

namespace VramGovernor.Store

open GoString
open NodeAgent (CommandName NumberArg)

inductive NodeCommandStatus
  | queued | sent | succeeded | failed | expired
  deriving DecidableEq, Repr

/-- A value in the arguments of a command or in the result of a node. -/
inductive WireValue
  | text (s : GoString)
  /-- A number, and the digits that JSON writes for it. -/
  | number (n : NumberArg) (digits : GoString)
  | other (json : GoString)
  deriving DecidableEq

/-- The kind of a value and what JSON writes for it. -/
def WireValue.json : WireValue → ℕ × GoString
  | text s => (0, s)
  | number _ digits => (1, digits)
  | other json => (2, json)

/-- A JSON object, decoded. -/
abbrev WireObject := GoMap WireValue

namespace WireObject

def value (o : WireObject) (key : GoString) : Option WireValue := o.lookup key

def put (o : WireObject) (key : GoString) (v : WireValue) : WireObject := o.insert key v

/-- The text at the key; empty if there is none. -/
def text (o : WireObject) (key : GoString) : GoString :=
  match o.value key with
  | some (.text s) => s
  | _ => []

end WireObject

/-- The evidence of a row that an authoritative query settled. -/
def authoritativeObservation : GoString := "authoritative_observation"

structure NodeCommandRow where
  id : GoString
  revision : UInt64 := 0
  (idempotencyKey nodeID : GoString)
  command : CommandName
  /-- The arguments; `none` is the nil map, which JSON writes as `null`. -/
  args : Option WireObject := none
  (issuedBy signature : GoString := [])
  status : NodeCommandStatus := .queued
  (createdAt expiresAt : GoTime := {})
  (sentAt completedAt : Option GoTime := none)
  attempts : ℤ := 0
  lastSentAt : Option GoTime := none
  /-- The result as it was reported; `none` is an empty message. -/
  result : Option WireObject := none
  error : GoString := []
  uncertain : Bool := false
  (evidenceKind reconcilesCommandID : GoString := [])
  recoveryAttempts : ℤ := 0
  recoveryNextAt : Option GoTime := none
  updatedAt : GoTime := {}

namespace NodeCommandRow

variable (c : NodeCommandRow)

/-- A command that changes where a model resides. -/
def isResidencyMutation : Bool := c.command.isResidencyCommand && c.command ≠ .queryModelState

def isSettled : Bool :=
  !c.uncertain && (c.status = .succeeded || c.status = .failed) &&
    c.evidenceKind = authoritativeObservation

def arg (key : GoString) : Option WireValue := WireObject.value (c.args.getD ∅) key

/-- The argument of that name, if it is a text; otherwise empty. -/
def textArg (key : GoString) : GoString := WireObject.text (c.args.getD ∅) key

end NodeCommandRow

structure NodeCommandTable where
  nodeCommands : GoMap NodeCommandRow := ∅
  nodeCommandKeys : GoMap GoString := ∅

def errNodeCommandConflict : GoError := .sentinel "store: node command idempotency conflict"

/-- The two argument maps have the same text in JSON, which sorts the keys. -/
def sameArgs : Option WireObject → Option WireObject → Bool
  | none, none => true
  | some a, some b =>
    (a.entries.map fun e => (e.1, e.2.json)).Perm (b.entries.map fun e => (e.1, e.2.json))
  | _, _ => false

def verifyNodeCommandReplay (existing : Option NodeCommandRow) (requested : NodeCommandRow) :
    Except GoError Unit :=
  match existing with
  | none => .error (errNodeCommandConflict.wrapf "missing command")
  | some existing => firstError
      [(existing.nodeID ≠ requested.nodeID || existing.idempotencyKey ≠ requested.idempotencyKey ||
          existing.command ≠ requested.command,
        errNodeCommandConflict.wrapf "node, idempotency key, or command differs"),
       (!sameArgs existing.args requested.args,
        errNodeCommandConflict.wrapf "canonical args differ")]
      (.ok ())

def verifyNodeCommandDelivery (existing requested : NodeCommandRow) : Except GoError Unit :=
  match verifyNodeCommandReplay (some existing) requested with
  | .error e => .error e
  | .ok () => firstError
      [(existing.signature ≠ requested.signature,
        errNodeCommandConflict.wrapf "signed command differs")]
      (.ok ())

theorem verifyNodeCommandReplay_command {existing requested : NodeCommandRow}
    (h : verifyNodeCommandReplay (some existing) requested = .ok ()) :
    existing.command = requested.command := by
  have hsame := (firstError_eq_ok.1 h).1
  simp only [List.mem_cons, forall_eq_or_imp, Bool.or_eq_false_iff] at hsame
  simpa using hsame.1.2

theorem verifyNodeCommandDelivery_command {existing requested : NodeCommandRow}
    (h : verifyNodeCommandDelivery existing requested = .ok ()) :
    existing.command = requested.command := by
  unfold verifyNodeCommandDelivery at h
  cases hr : verifyNodeCommandReplay (some existing) requested with
  | error e => simp [hr] at h
  | ok u => exact verifyNodeCommandReplay_command hr

namespace NodeCommandTable

variable (m : NodeCommandTable)

/-- The key under which the row of a command is found again. -/
def replayKey (command : NodeCommandRow) : GoString :=
  command.nodeID ++ [0] ++ command.idempotencyKey

/-- The answer to a command that has a row already. -/
def replayed (existing : Option NodeCommandRow) (command : NodeCommandRow) :
    Except GoError (NodeCommandRow × Bool) :=
  match verifyNodeCommandReplay existing command, existing with
  | .ok (), some existing => .ok (existing, false)
  | .ok (), none => .error (errNodeCommandConflict.wrapf "missing command")
  | .error e, _ => .error e

def firstStored (command : NodeCommandRow) : NodeCommandRow :=
  { command with revision := if command.revision = 0 then 1 else command.revision }

/-- The row of the command, and whether it was created now. -/
def createNodeCommand (command : NodeCommandRow) :
    NodeCommandTable × Except GoError (NodeCommandRow × Bool) :=
  let id := (m.nodeCommandKeys.lookup (replayKey command)).getD []
  if id ≠ [] then (m, replayed (m.nodeCommands.lookup id) command)
  else
    match m.nodeCommands.lookup command.id with
    | some existing => (m, replayed (some existing) command)
    | none =>
      ({ nodeCommands := m.nodeCommands.insert command.id (firstStored command)
         nodeCommandKeys := m.nodeCommandKeys.insert (replayKey command) command.id },
        .ok (firstStored command, true))

def compareAndSwapNodeCommandRevision (command : NodeCommandRow) (expectedRevision : UInt64)
    (expectedAttempts : ℤ) (expectedUncertain : Bool) (expected : List NodeCommandStatus) :
    NodeCommandTable × Except GoError NodeCommandRow :=
  match m.nodeCommands.lookup command.id with
  | none => (m, .error errNotFound)
  | some current =>
    if current.status ∉ expected || current.revision ≠ expectedRevision ||
        current.attempts ≠ expectedAttempts || current.uncertain ≠ expectedUncertain then
      (m, .error errNodeCommandConflict)
    else
      match verifyNodeCommandDelivery current command with
      | .error e => (m, .error e)
      | .ok () =>
        let stored := { command with revision := current.revision + 1 }
        ({ m with nodeCommands := m.nodeCommands.insert command.id stored }, .ok stored)

/-- In nanoseconds: 100 ms, doubled for every attempt from the second to the ninth, and at most 5 s.
-/
def nodeCommandRecoveryBackoff (attempt : ℤ) : ℤ :=
  min (100 * 10 ^ 6 * 2 ^ ((max 1 (min attempt 9)).toNat - 1)) (5 * 10 ^ 9)

def advanceNodeCommandRecovery (id : GoString) (now : GoTime) :
    NodeCommandTable × Except GoError NodeCommandRow :=
  match m.nodeCommands.lookup id with
  | none => (m, .error errNotFound)
  | some current =>
    if !current.uncertain || current.evidenceKind = authoritativeObservation then (m, .ok current)
    else
      let attempts := current.recoveryAttempts + 1
      let updated := { current with
        recoveryAttempts := attempts
        recoveryNextAt := some (now.utc.add (nodeCommandRecoveryBackoff attempts))
        updatedAt := now.utc
        revision := current.revision + 1 }
      ({ m with nodeCommands := m.nodeCommands.insert id updated }, .ok updated)

def promoteNodeCommandUncertain (id nodeID : GoString) (result : Option WireObject)
    (commandError : GoString) (now : GoTime) : NodeCommandTable × Except GoError NodeCommandRow :=
  match m.nodeCommands.lookup id with
  | none => (m, .error errNotFound)
  | some current =>
    if current.nodeID ≠ nodeID then (m, .error errNotFound)
    else if current.isSettled then (m, .error errNodeCommandConflict)
    else
      let updated := { current with
        status := .sent
        uncertain := true
        result := result
        error := commandError
        updatedAt := now.utc
        revision := current.revision + 1 }
      ({ m with nodeCommands := m.nodeCommands.insert id updated }, .ok updated)

/-! ## What the calls can do -/

variable {m}

theorem replayed_ok {existing : Option NodeCommandRow} {command stored : NodeCommandRow}
    {created : Bool} (h : replayed existing command = .ok (stored, created)) :
    existing = some stored ∧ stored.command = command.command := by
  unfold replayed at h
  cases hv : verifyNodeCommandReplay existing command with
  | error e => simp [hv] at h
  | ok u =>
    cases existing with
    | none => simp [hv] at h
    | some e =>
      simp only [hv, Except.ok.injEq, Prod.mk.injEq] at h
      obtain ⟨rfl, -⟩ := h
      exact ⟨rfl, verifyNodeCommandReplay_command hv⟩

/-- The row that a creation returns is in the table, and is one of that command. -/
theorem createNodeCommand_ok {command stored : NodeCommandRow} {created : Bool}
    (h : (m.createNodeCommand command).2 = .ok (stored, created)) :
    (∃ id, (m.createNodeCommand command).1.nodeCommands.lookup id = some stored) ∧
      stored.command = command.command := by
  revert h
  fun_cases createNodeCommand m command with
  | case1 =>
    intro h
    obtain ⟨hl, hc⟩ := replayed_ok h
    exact ⟨⟨_, hl⟩, hc⟩
  | case2 _ _ existing hl =>
    intro h
    obtain ⟨he, hc⟩ := replayed_ok h
    exact ⟨⟨command.id, hl.trans he⟩, hc⟩
  | case3 =>
    rintro ⟨⟩
    exact ⟨⟨command.id, AList.lookup_insert _⟩, rfl⟩

/-- **A swap** changes nothing, or it found the row as expected and stored the new one. -/
theorem compareAndSwapNodeCommandRevision_cases (command : NodeCommandRow) (revision : UInt64)
    (attempts : ℤ) (uncertain : Bool) (expected : List NodeCommandStatus) :
    (m.compareAndSwapNodeCommandRevision command revision attempts uncertain expected).1 = m ∨
      ∃ current, m.nodeCommands.lookup command.id = some current ∧ current.status ∈ expected ∧
        current.attempts = attempts ∧ current.uncertain = uncertain ∧
        current.command = command.command ∧
        (m.compareAndSwapNodeCommandRevision command revision attempts uncertain
            expected).1.nodeCommands =
          m.nodeCommands.insert command.id { command with revision := current.revision + 1 } := by
  fun_cases compareAndSwapNodeCommandRevision m command revision attempts uncertain expected with
  | case1 | case2 | case3 => exact .inl rfl
  | case4 current hl hmatch hv =>
    simp only [Bool.or_eq_true, decide_eq_true_eq, not_or, not_not, ne_eq] at hmatch
    obtain ⟨⟨⟨hstatus, -⟩, hattempts⟩, huncertain⟩ := hmatch
    exact .inr ⟨current, hl, hstatus, hattempts, huncertain,
      verifyNodeCommandDelivery_command hv, rfl⟩

end NodeCommandTable

end VramGovernor.Store
