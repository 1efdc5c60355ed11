import VramGovernor.Store.ResidencyFences
import VramGovernor.Workloads.ResidencySuccess

/-!
# The fences of node commands

Before it sends a command to a node, the residency adapter makes or finds its durable transition,
and raises the counter of the runtime and model in memory to the token of that row. The command
carries the counter, which an earlier command may have moved further.

So a command carries the token of its row exactly if it is sent in the order of the tokens: a fresh
one above all that the process has sent for the runtime and model, a retried one not below them, and
a rollback above them or as the latest of them again (`commands_carry_tokens_iff`). A retry after a
failed rollback is sent with its fence (`retry_carries_rollback_fence`).
-/

namespace VramGovernor.Workloads

open GoString GoMap Store

/-! ## Rows and commands -/

/-- The fields of a target that its commands name. -/
structure CommandTarget where
  id : GoString
  (acceleratorID adapter runtimeProtocol capabilityVersion capabilityRevision : GoString := [])
  modelFingerprint : GoString := []

/-- The identity that `canonicalResidencyIdentity` joins. -/
def CommandTarget.identity (t : CommandTarget) : GoString :=
  t.id ++ "|" ++ t.adapter ++ "|" ++ t.runtimeProtocol ++ "|" ++ t.capabilityVersion ++ "|" ++
    t.modelFingerprint

def stableResidencyKey (identity model tier : GoString) : GoString :=
  hexString (Sha256.sum256 (identity ++ 0 :: (model ++ 0 :: tier)))

def durableRequestKey (requested : GoString) : GoString :=
  if requested = [] then []
  else "controller-residency-request-" ++ hexString (Sha256.sum256 requested)

/-- `uint64(maxInt64(token))`. -/
def tokenWord (token : Int64) : UInt64 := if token < 0 then 0 else token.toUInt64

/-- The command for a tier; there is none for the others. -/
def tierCommand : ResidencyTier → GoString
  | .hotVRAM => "load_model"
  | .coldDisk => "unload_model"
  | .warmRAM => "offload_model"
  | _ => []

def rollbackCommand (fromTier toTier : ResidencyTier) : GoString :=
  match fromTier with
  | .hotVRAM => "load_model"
  | .coldDisk => if toTier = .warmRAM then "cleanup_warm_model" else "unload_model"
  | .warmRAM => "offload_model"
  | _ => []

/-- A job makes the transition of a request, or rolls back one that was sent with a fence. -/
inductive CommandPhase
  | transition
  | rollback (priorFence : UInt64)
  deriving DecidableEq

/-- The arguments of `transitionWithFrom` or `rollback`; the key is that of the request, or of the
command to roll back. -/
structure CommandJob where
  target : CommandTarget
  model : GoString
  (fromTier tier : ResidencyTier)
  key : GoString
  phase : CommandPhase := .transition

namespace CommandJob

variable (j : CommandJob)

def fenceKey : GoString := j.target.identity ++ 0 :: j.model

/-- What the durable keys of the job's rows start with. -/
def keyStem : GoString :=
  match j.phase with
  | .transition =>
    "controller-residency-" ++ stableResidencyKey j.target.identity j.model [] ++ "-g"
  | .rollback _ =>
    "controller-residency-rollback-" ++ stableResidencyKey (j.target.identity ++ 0 :: j.key) j.model
      (tierText j.fromTier ++ "->" ++ tierText j.tier) ++ "-g"

def command : GoString :=
  match j.phase with
  | .transition => tierCommand j.tier
  | .rollback _ => rollbackCommand j.fromTier j.tier

def request (generation : UInt64) (now : GoTime) : ResidencyTransition :=
  let row : ResidencyTransition :=
    { targetID := j.target.id
      acceleratorID := j.target.acceleratorID
      model := j.model
      capabilityVersion := j.target.capabilityVersion
      capabilityRevision := j.target.capabilityRevision
      status := .planned
      fencingToken := generation.toInt64
      createdAt := now }
  match j.phase with
  | .transition =>
    { row with
      id := "rtr-" ++ stableResidencyKey j.target.identity j.model (tierText j.tier) ++ "-g" ++
        sprint generation.toNat
      idempotencyKey :=
        if j.key = [] then j.keyStem ++ sprint generation.toNat else durableRequestKey j.key
      fromTier := j.fromTier
      toTier := j.tier
      reason := "controller-adapter runtime=" ++ j.target.identity ++ " request=" ++ j.key }
  | .rollback _ =>
    { row with
      id := "rtr-rollback-" ++ stableResidencyKey (j.target.identity ++ 0 :: j.key) j.model
        (tierText j.fromTier ++ "->" ++ tierText j.tier) ++ "-g" ++ sprint generation.toNat
      idempotencyKey := j.keyStem ++ sprint generation.toNat
      fromTier := j.tier
      toTier := j.fromTier
      reason := "controller-adapter rollback runtime=" ++ j.target.identity ++
        " request=" ++ j.key }

/-- The row of the requested key belongs to the same canonical arguments. -/
def agrees (row : ResidencyTransition) : Bool :=
  row.targetID = j.target.id && row.model = j.model && row.acceleratorID = j.target.acceleratorID &&
    row.fromTier = j.fromTier && row.toTier = j.tier &&
    decide ((ofString "runtime=" ++ j.target.identity) <:+: row.reason)

end CommandJob

/-- How a command comes to be sent. -/
inductive CommandIssue
  | fresh
  | retry
  | rollback (priorFence : UInt64)
  /-- The read-only question about a command without an outcome. -/
  | query
  deriving DecidableEq

/-- A command to a node, with the row it belongs to. -/
structure NodeCommand where
  (fenceKey transitionID action idempotencyKey : GoString)
  issue : CommandIssue
  fence : UInt64
  deriving DecidableEq

/-- The counter after the locked section of a command whose row has the token. -/
def nextFence (issue : CommandIssue) (counter token : UInt64) : UInt64 :=
  match issue with
  | .fresh => if counter < token then token else counter + 1
  | .retry => if counter < token then token else counter
  | .rollback priorFence =>
    if counter < token then token else if counter ≤ priorFence then priorFence + 1 else counter
  | .query => counter

/-! ## The adapter -/

/-- The store, and the memory of the process. Which commands it has sent is recorded for the
statements. -/
structure AdapterState where
  store : TransitionStore
  (fences pending : GoMap UInt64 := ∅)
  issued : List NodeCommand := []

/-- The rows of `ListActiveResidencyTransitions`, in some order. -/
def activeTransitions (order : List (Entry ResidencyTransition)) (targetID model : GoString) :
    List ResidencyTransition :=
  (order.map (·.2)).filter fun row => row.targetID = targetID && row.model = model &&
    (row.status = .planned || row.status = .running ||
      (row.status = .succeeded && row.projectionRepairPending))

def getResidencyTransitionByIdempotency (m : TransitionStore) (key : GoString) :
    Option ResidencyTransition :=
  if key = [] || m.keyed key = [] then none else m.transitions.lookup (m.keyed key)

/-- Where a job is. -/
inductive CommandPlace
  | entered
  /-- The mark of the target and model is read. -/
  | marked (generation : UInt64)
  /-- No row answers the requested key. -/
  | unkeyed (generation : UInt64)
  | allocating (generation : UInt64)
  /-- The row is made and to be set to running. -/
  | starting (attempt : ℕ) (key : GoString) (generation : UInt64) (row : ResidencyTransition)
  | prepared (key : GoString) (generation : UInt64) (row : ResidencyTransition) (created : Bool)
  /-- The command is sent. -/
  | calling (commandKey : GoString) (fence : UInt64) (row : ResidencyTransition)
  | queried (commandKey : GoString)
  | returned

structure CommandRoutine where
  job : CommandJob
  place : CommandPlace

open CommandRoutine

inductive CommandReply
  /-- The call ends, and its command may stay pending. -/
  | ended (keepPending : Bool)
  | unresolved
  /-- The node reports another tier than the requested one. -/
  | invalidTier

/-- What a step finds: whether a check or a read fails, the order of the rows, the time, whether
another writer comes between a read and its swap, and what becomes of a command. -/
structure CommandAnswer where
  refused : Bool := false
  order : List (Entry ResidencyTransition) := []
  now : GoTime := {}
  interrupted : Bool := false
  reply : CommandReply := .ended true

namespace CommandRoutine

/-- The pending row of the adapter that blocks the others of its target and model. -/
def pendingRow (rows : List ResidencyTransition) : Option ResidencyTransition :=
  rows.reverse.find? fun row =>
    row.status ≠ .succeeded && (ofString "controller-adapter runtime=").isPrefixOf row.reason

/-- One attempt of `casTransition` to set a row to running. -/
def start (m : TransitionStore) (attempt : ℕ) (row : ResidencyTransition) (a : CommandAnswer) :
    TransitionStore × Option (ResidencyTransition ⊕ ℕ) :=
  if attempt < 3 then
    match m.transitions.lookup row.id with
    | none => (m, none)
    | some current =>
      if authoritative current row then (m, some (.inl current))
      else if a.interrupted then (m, some (.inr (attempt + 1)))
      else
        match compareAndSwapResidencyTransition m
          { current with startedAt := some a.now, status := .running } current.revision
          current.status current.fencingToken with
        | (m', .ok updated) => (m', some (.inl updated))
        | (m', .error e) =>
          if e.is errResidencyTransitionConflict then (m', some (.inr (attempt + 1)))
          else (m', none)
  else (m, none)

/-- The end of a call. After a rollback, `clearPending` forgets the command that it is for, however
the rollback has ended. -/
def leave (s : AdapterState) (j : CommandJob) : AdapterState × CommandRoutine :=
  (if j.phase = .transition then s else { s with pending := s.pending.erase j.key }, ⟨j, .returned⟩)

/-- The locked section sends the command of a row. -/
def send (s : AdapterState) (j : CommandJob) (issue : CommandIssue) (commandKey : GoString)
    (idempotencyKey : GoString) (token : UInt64) (row : ResidencyTransition) :
    AdapterState × CommandRoutine :=
  let fence := nextFence issue (GoMap.get s.fences j.fenceKey) token
  ({ s with
      fences := s.fences.insert j.fenceKey fence
      pending := if j.phase = .transition then s.pending.insert commandKey fence else s.pending
      issued := s.issued ++ [⟨j.fenceKey, row.id, j.command, idempotencyKey, issue, fence⟩] },
    ⟨j, .calling commandKey fence row⟩)

/-- What `transitionWithFrom` and `rollback` do with a prepared row. -/
def issue (s : AdapterState) (j : CommandJob) (key : GoString) (generation : UInt64)
    (row : ResidencyTransition) (created : Bool) : AdapterState × CommandRoutine :=
  match j.phase with
  | .transition =>
    let commandKey := if j.key = [] then key else j.key
    let inFlight := row.status = .planned || row.status = .running
    let reconcile := !created && inFlight &&
      (j.key = [] || row.idempotencyKey = durableRequestKey j.key)
    let busy := (ofString "controller-adapter runtime=").isPrefixOf row.reason && !reconcile
    if !created && (row.status = .succeeded || row.status = .failed || (inFlight && busy)) then
      (s, ⟨j, .returned⟩)
    else if (s.pending.lookup commandKey).isSome && !reconcile then (s, ⟨j, .returned⟩)
    else
      send s j (if reconcile then .retry else .fresh) commandKey commandKey
        (if reconcile then tokenWord row.fencingToken else generation) row
  | .rollback priorFence =>
    if row.status = .succeeded then leave s j
    else send s j (.rollback priorFence) j.key key generation row

/-- What follows the reply to a command. -/
def settle (s : AdapterState) (j : CommandJob) (commandKey : GoString) (fence : UInt64)
    (row : ResidencyTransition) (reply : CommandReply) : AdapterState × CommandRoutine :=
  match reply, j.phase with
  | _, .rollback _ | .ended true, .transition => leave s j
  | .ended false, .transition => ({ s with pending := s.pending.erase commandKey }, ⟨j, .returned⟩)
  | .unresolved, .transition =>
    ({ s with issued := s.issued ++
        [⟨j.fenceKey, row.id, "query_model_state", "controller-residency-query:" ++ commandKey,
          .query, fence⟩] },
      ⟨j, .queried commandKey⟩)
  | .invalidTier, .transition =>
    (s, ⟨{ j with phase := .rollback fence, key := commandKey }, .entered⟩)

/-- One access of a job to the store or to the memory of the adapter. -/
def exec (s : AdapterState) (g : CommandRoutine) (a : CommandAnswer) :
    AdapterState × CommandRoutine :=
  let j := g.job
  let moveTo (place : CommandPlace) : AdapterState × CommandRoutine := (s, ⟨j, place⟩)
  if a.refused then leave s j
  else
    match g.place with
    | .entered =>
      if j.command = [] then leave s j
      else moveTo (.marked (tokenWord (highwater s.store.transitions.entries j.target.id j.model)))
    | .marked generation =>
      match j.phase with
      | .transition =>
        match getResidencyTransitionByIdempotency s.store (durableRequestKey j.key) with
        | none => moveTo (.unkeyed generation)
        | some row =>
          if !j.agrees row || row.status = .failed then moveTo .returned
          else if row.status = .manualReconciliation then moveTo (.unkeyed generation)
          else moveTo (.prepared j.key (tokenWord row.fencingToken) row false)
      | .rollback _ =>
        if a.order.Perm s.store.transitions.entries then
          match (activeTransitions a.order j.target.id j.model).find? fun row =>
            j.keyStem.isPrefixOf row.idempotencyKey with
          | some row => moveTo (.prepared row.idempotencyKey (tokenWord row.fencingToken) row false)
          | none => moveTo (.allocating (generation + 1))
        else (s, g)
    | .unkeyed generation =>
      if a.order.Perm s.store.transitions.entries then
        match pendingRow (activeTransitions a.order j.target.id j.model) with
        | some row =>
          if j.key = [] || durableRequestKey j.key = row.idempotencyKey then
            moveTo (.prepared row.idempotencyKey (tokenWord row.fencingToken) row false)
          else moveTo .returned
        | none => moveTo (.allocating (generation + 1))
      else (s, g)
    | .allocating generation =>
      let request := j.request generation a.now
      match allocateResidencyTransition s.store request s.store.transitions.entries with
      | (store, .error _) => leave { s with store := store } j
      | (store, .ok (row, created)) =>
        ({ s with store := store },
          ⟨j, if created then .starting 0 request.idempotencyKey (tokenWord row.fencingToken) row
            else .prepared row.idempotencyKey (tokenWord row.fencingToken) row false⟩)
    | .starting attempt key generation row =>
      match start s.store attempt row a with
      | (store, none) => leave { s with store := store } j
      | (store, some (.inr attempt)) =>
        ({ s with store := store }, ⟨j, .starting attempt key generation row⟩)
      | (store, some (.inl row)) =>
        ({ s with store := store }, ⟨j, .prepared key generation row true⟩)
    | .prepared key generation row created => issue s j key generation row created
    | .calling commandKey fence row => settle s j commandKey fence row a.reply
    | .queried commandKey =>
      match a.reply with
      | .ended false => ({ s with pending := s.pending.erase commandKey }, ⟨j, .returned⟩)
      | _ => moveTo .returned
    | .returned => (s, g)

end CommandRoutine

/-- What follows the last occurrence of the separator. -/
def afterLast (separator : GoString) : GoString → Option GoString
  | [] => none
  | c :: rest =>
    (afterLast separator rest).or
      (if separator.isPrefixOf (c :: rest) then some ((c :: rest).drop separator.length) else none)

/-- The calls of the adapter. -/
inductive CommandCall
  | transitionWithFrom (target : CommandTarget) (model : GoString) (fromTier tier : ResidencyTier)
      (requestedKey : GoString)
  | reconcileRollbackTransition (target : CommandTarget) (transition : ResidencyTransition)

def CommandCall.job : CommandCall → CommandJob
  | transitionWithFrom target model fromTier tier requestedKey =>
    ⟨target, model, fromTier, tier, requestedKey, .transition⟩
  | reconcileRollbackTransition target transition =>
    ⟨target, transition.model, transition.toTier, transition.fromTier,
      (afterLast " request=" transition.reason).getD [],
      .rollback (tokenWord (transition.fencingToken - 1))⟩

instance (m : TransitionStore) (c : TransitionCall) : Decidable (c.Visits m) :=
  match c with
  | .allocate _ order => inferInstanceAs (Decidable (order.Perm m.transitions.entries))
  | .allocateWithLease _ _ _ order => inferInstanceAs (Decidable (order.Perm m.transitions.entries))
  | .create _ | .swap _ _ _ _ | .update _ | .other _ => inferInstanceAs (Decidable True)

/-- **The residency adapter**: any number of calls, over a store that others write too and restarts
leave. -/
def residencyAdapter :
    Program AdapterState CommandRoutine CommandCall CommandAnswer TransitionCall where
  enter c := ⟨c.job, .entered⟩
  exec s g a := g.exec s a
  env s c := if c.fenced ∧ c.Visits s.store then { s with store := (c.run s.store).1 } else s
  restart s := { store := s.store }

/-! ## Rows that back a job -/

/-- Every row is stored under its id and has a positive token, as those that are allocated have. -/
structure SoundRows (m : TransitionStore) : Prop where
  keyed : ∀ id row, m.transitions.lookup id = some row → row.id = id
  positive : ∀ id row, m.transitions.lookup id = some row → 0 < row.fencingToken.toInt

/-- The store has the row, with its token. -/
def Backed (m : TransitionStore) (id : GoString) (token : Int64) : Prop :=
  ∃ stored, m.transitions.lookup id = some stored ∧ stored.fencingToken = token

variable {created : Bool}

section Rows

variable {m m' : TransitionStore} {id : GoString} {token : Int64} {row t : ResidencyTransition}

theorem Backed.mono (h : Backed m id token) (hrows : KeepsRows m m') : Backed m' id token := by
  obtain ⟨stored, hl, htoken⟩ := h
  obtain ⟨stored', hl', hsame⟩ := hrows id stored hl
  exact ⟨stored', hl', hsame.token.symm.trans htoken⟩

theorem Backed.unique {token' : Int64} (h : Backed m id token) (h' : Backed m id token') :
    token = token' := by
  obtain ⟨stored, hl, rfl⟩ := h
  obtain ⟨stored', hl', rfl⟩ := h'
  rw [Option.mem_unique hl hl']

section

variable (h : SoundRows m)
include h

theorem SoundRows.backed (hl : m.transitions.lookup id = some row) :
    Backed m row.id row.fencingToken := by
  rw [h.keyed id row hl]
  exact ⟨row, hl, rfl⟩

theorem SoundRows.insert (hm : m'.transitions = m.transitions.insert id row)
    (hid : row.id = id) (hpos : 0 < row.fencingToken.toInt) : SoundRows m' := by
  constructor
  · intro id' row' hl
    rcases of_lookup_insert (hm ▸ hl) with ⟨rfl, rfl⟩ | ⟨-, hl⟩
    · exact hid
    · exact h.keyed id' row' hl
  · intro id' row' hl
    rcases of_lookup_insert (hm ▸ hl) with ⟨rfl, rfl⟩ | ⟨-, hl⟩
    · exact hpos
    · exact h.positive id' row' hl

omit h in
theorem neededToken_pos (m : TransitionStore) (t : ResidencyTransition) : 0 < neededToken m t := by
  have hnonneg := (TransitionStore.fence_le_iff.1 (le_refl (m.fence t.targetID t.model))).1
  unfold neededToken
  omega

theorem SoundRows.step {c : TransitionCall} (hstep : TransitionStep m c m')
    (hc : c.fenced = true) : SoundRows m' := by
  have hchange := hstep.change
  generalize (c.run m).2 = r at hchange
  cases hchange with
  | refused | replayed | other => exact ⟨h.keyed, h.positive⟩
  | created t hcall | updated current row hcall =>
    subst hcall
    cases hc
  | allocated t row hcall hfresh hneeded hrow =>
    exact h.insert rfl rfl (hrow.token ▸ neededToken_pos m t)
  | swapped current row revision status fence hcall hl hchecks =>
    have htoken := (sameIdentity_of_swapChecks hchecks).token
    exact h.insert rfl rfl (htoken ▸ h.positive _ _ hl)

/-- The row of a reply is stored with its token. -/
theorem SoundRows.answered {c : TransitionCall} (hstep : TransitionStep m c m')
    (hreply : (c.run m).2 = .ok (some row, created)) : Backed m' row.id row.fencingToken := by
  have hchange := hstep.change
  rw [hreply] at hchange
  cases hchange with
  | replayed hl => exact h.backed hl
  | created | allocated | swapped | updated => exact ⟨_, AList.lookup_insert _, rfl⟩

theorem mem_activeTransitions {order : List (Entry ResidencyTransition)}
    {targetID model : GoString} (horder : order.Perm m.transitions.entries)
    (hrow : row ∈ activeTransitions order targetID model) : Backed m row.id row.fencingToken := by
  obtain ⟨⟨id, row⟩, he, rfl⟩ := List.mem_map.1 (List.mem_of_mem_filter hrow)
  exact h.backed ((RangeOrder.mem_iff horder).1 he)

/-- **An attempt to start a row** writes it at most, and returns it with its token. -/
theorem start_spec (hrow : Backed m row.id row.fencingToken) (attempt : ℕ) (a : CommandAnswer) :
    KeepsRows m (start m attempt row a).1 ∧
      SoundRows (start m attempt row a).1 ∧
      ∀ row', (start m attempt row a).2 = some (.inl row') →
        Backed (start m attempt row a).1 row'.id row'.fencingToken ∧
          row'.fencingToken = row.fencingToken := by
  have hrefl : KeepsRows m m := fun id => advances_refl SameIdentity.refl id _
  obtain ⟨current, hl, htoken⟩ := hrow
  unfold start
  by_cases hattempt : attempt < 3
  swap
  · rw [if_neg hattempt]
    exact ⟨hrefl, h, fun row' heq => by simp at heq⟩
  rw [if_pos hattempt, hl]
  dsimp only
  by_cases hauth : authoritative current row = true
  · rw [if_pos hauth]
    refine ⟨hrefl, h, fun row' heq => ?_⟩
    obtain rfl : current = row' := by simpa using heq
    exact ⟨h.backed hl, htoken⟩
  rw [if_neg hauth]
  by_cases hinterrupted : a.interrupted = true
  · rw [if_pos hinterrupted]
    exact ⟨hrefl, h, fun row' heq => by simp at heq⟩
  rw [if_neg hinterrupted]
  fun_cases compareAndSwapResidencyTransition m
    { current with startedAt := some a.now, status := .running } current.revision current.status
    current.fencingToken with
  | case1 | case2 =>
    dsimp only
    split_ifs
    all_goals exact ⟨hrefl, h, fun row' heq => by simp at heq⟩
  | case3 stored hstored _ hchecks =>
    have hsame := sameIdentity_of_swapChecks hchecks
    refine ⟨fun id => advances_insert SameIdentity.refl hstored
      ⟨hsame.idempotencyKey, hsame.targetID, hsame.model, hsame.token⟩,
      h.insert rfl rfl (hsame.token ▸ h.positive _ _ hstored), fun row' heq' => ?_⟩
    obtain rfl := Sum.inl.inj (Option.some.inj heq')
    exact ⟨⟨_, AList.lookup_insert _, rfl⟩, htoken⟩

end

end Rows

/-! ## What a step does -/

/-- The row of a job is in the store with its token, its generation, and the fence of its command
was sent for it. -/
def CommandRoutine.Ready (s : AdapterState) (g : CommandRoutine) : Prop :=
  match g.place with
  | .starting _ _ generation row | .prepared _ generation row _ =>
    Backed s.store row.id row.fencingToken ∧ generation = tokenWord row.fencingToken
  | .calling _ fence row =>
    ∃ c ∈ s.issued, c.fenceKey = g.job.fenceKey ∧ c.transitionID = row.id ∧ c.fence = fence
  | _ => True

/-- What a step can do to the state. -/
inductive CommandChange (s s' : AdapterState) : Prop
  | quiet (hrows : KeepsRows s.store s'.store) (hsound : SoundRows s'.store)
      (hfences : s'.fences = s.fences) (hissued : s'.issued = s.issued)
  /-- The command of a row is sent with the next fence. -/
  | sent (c : NodeCommand) (token : Int64) (hstore : s'.store = s.store)
      (hbacked : Backed s.store c.transitionID token)
      (hfences : s'.fences = s.fences.insert c.fenceKey c.fence)
      (hissued : s'.issued = s.issued ++ [c]) (hissue : c.issue ≠ .query)
      (hfence : c.fence = nextFence c.issue (GoMap.get s.fences c.fenceKey) (tokenWord token))
  /-- A question repeats the row and fence of the command that it is about. -/
  | queried (c about : NodeCommand) (habout : about ∈ s.issued) (hstore : s'.store = s.store)
      (hfences : s'.fences = s.fences) (hissued : s'.issued = s.issued ++ [c])
      (hissue : c.issue = .query) (hkey : about.fenceKey = c.fenceKey)
      (hid : about.transitionID = c.transitionID) (hfence : about.fence = c.fence)

variable {issue : CommandIssue} {fence : UInt64}

section Change

variable {s s' : AdapterState} {g : CommandRoutine} {j : CommandJob} {row : ResidencyTransition}

theorem CommandChange.refl (h : SoundRows s.store) : CommandChange s s :=
  .quiet (fun id => advances_refl SameIdentity.refl id _) h rfl rfl

theorem CommandChange.of_eq (h : SoundRows s.store) (hstore : s'.store = s.store)
    (hfences : s'.fences = s.fences) (hissued : s'.issued = s.issued) : CommandChange s s' :=
  .quiet (fun id => by rw [hstore]; exact advances_refl SameIdentity.refl id _)
    (hstore ▸ h) hfences hissued

theorem CommandChange.keepsRows (h : CommandChange s s') : KeepsRows s.store s'.store := by
  cases h with
  | quiet hrows => exact hrows
  | sent c token hstore | queried c about habout hstore =>
    rw [hstore]
    exact fun id => advances_refl SameIdentity.refl id _

theorem CommandChange.soundRows (h : CommandChange s s') (hsound : SoundRows s.store) :
    SoundRows s'.store := by
  cases h with
  | quiet _ hsound' => exact hsound'
  | sent c token hstore | queried c about habout hstore => rwa [hstore]

theorem CommandChange.mem_issued (h : CommandChange s s') {c : NodeCommand} (hc : c ∈ s.issued) :
    c ∈ s'.issued := by
  cases h with
  | quiet _ _ _ hissued => rwa [hissued]
  | sent c' token _ _ _ hissued | queried c' about _ _ _ hissued => simp [hissued, hc]

/-- The steps of others leave what a job relies on. -/
theorem CommandRoutine.Ready.mono (h : g.Ready s) (hchange : CommandChange s s') : g.Ready s' := by
  unfold CommandRoutine.Ready at h ⊢
  split
  · next hplace =>
    rw [hplace] at h
    exact ⟨h.1.mono hchange.keepsRows, h.2⟩
  · next hplace =>
    rw [hplace] at h
    exact ⟨h.1.mono hchange.keepsRows, h.2⟩
  · next hplace =>
    rw [hplace] at h
    obtain ⟨c, hc, hrest⟩ := h
    exact ⟨c, hchange.mem_issued hc, hrest⟩
  · trivial

/-- The result of a step: the state has changed in one of these ways and the job is ready. -/
def Proceeds (s : AdapterState) (r : AdapterState × CommandRoutine) : Prop :=
  CommandChange s r.1 ∧ r.2.Ready r.1

theorem Proceeds.ite {p : Prop} [Decidable p] {r r' : AdapterState × CommandRoutine}
    (h : Proceeds s r) (h' : Proceeds s r') : Proceeds s (if p then r else r') := by
  split
  · exact h
  · exact h'

theorem send_spec {commandKey idempotencyKey : GoString} {token : UInt64}
    (hissue : issue ≠ .query) (hbacked : Backed s.store row.id row.fencingToken)
    (htoken : token = tokenWord row.fencingToken) :
    Proceeds s (send s j issue commandKey idempotencyKey token row) := by
  subst htoken
  refine ⟨.sent ⟨j.fenceKey, row.id, j.command, idempotencyKey, issue, _⟩ row.fencingToken rfl
    hbacked rfl rfl hissue rfl, ⟨_, List.mem_concat_self, ?_⟩⟩
  exact ⟨rfl, rfl, rfl⟩

section

variable (hsound : SoundRows s.store)
include hsound

theorem Proceeds.left {s₀ : AdapterState} (hrows : KeepsRows s₀.store s.store)
    (hfences : s.fences = s₀.fences) (hissued : s.issued = s₀.issued) :
    Proceeds s₀ (leave s j) := by
  unfold leave
  split
  · exact ⟨.quiet hrows hsound hfences hissued, trivial⟩
  · exact ⟨.quiet hrows hsound hfences hissued, trivial⟩

theorem leave_spec : Proceeds s (leave s j) :=
  .left hsound (fun id => advances_refl SameIdentity.refl id _) rfl rfl

theorem issue_spec {key : GoString} {generation : UInt64}
    (hbacked : Backed s.store row.id row.fencingToken)
    (hgeneration : generation = tokenWord row.fencingToken) :
    Proceeds s (CommandRoutine.issue s j key generation row created) := by
  unfold issue
  split
  · refine Proceeds.ite ⟨.refl hsound, trivial⟩ (Proceeds.ite ⟨.refl hsound, trivial⟩ ?_)
    -- A retry and a fresh command name the same token in two ways.
    refine send_spec ?_ hbacked ?_
    · split <;> simp
    · split
      · rfl
      · exact hgeneration
  · exact Proceeds.ite (leave_spec hsound) (send_spec (by simp) hbacked hgeneration)

theorem settle_spec {commandKey : GoString} {reply : CommandReply}
    (hready : CommandRoutine.Ready s ⟨j, .calling commandKey fence row⟩) :
    Proceeds s (settle s j commandKey fence row reply) := by
  obtain ⟨about, habout, hkey, hid, hfence⟩ := hready
  unfold settle
  split
  · exact leave_spec hsound
  · exact leave_spec hsound
  · exact ⟨.of_eq hsound rfl rfl rfl, trivial⟩
  · exact ⟨.queried _ about habout rfl rfl rfl rfl hkey hid hfence, trivial⟩
  · exact ⟨.refl hsound, trivial⟩

theorem Proceeds.moved {place : CommandPlace}
    (hready : CommandRoutine.Ready s ⟨j, place⟩) : Proceeds s (s, ⟨j, place⟩) :=
  ⟨.refl hsound, hready⟩

theorem exec_spec (hready : g.Ready s) (a : CommandAnswer) : Proceeds s (g.exec s a) := by
  unfold Ready at hready
  fun_cases exec s g a with
  | case7 j moveTo _ generation _ _ row hrow =>
    refine .moved hsound ⟨?_, rfl⟩
    unfold getResidencyTransitionByIdempotency at hrow
    split at hrow
    · cases hrow
    · exact hsound.backed hrow
  | case8 j moveTo _ generation _ priorFence _ horder row hrow =>
    exact .moved hsound ⟨mem_activeTransitions hsound horder (List.mem_of_find?_eq_some hrow), rfl⟩
  | case11 j moveTo _ generation _ horder row hrow =>
    have hmem := List.mem_reverse.1 (List.mem_of_find?_eq_some hrow)
    exact .moved hsound ⟨mem_activeTransitions hsound horder hmem, rfl⟩
  | case15 j _ generation _ request store e heq =>
    have hstep : TransitionStep s.store (.allocate request s.store.transitions.entries) store :=
      ⟨rangeOrder_entries _, (congrArg Prod.fst heq).symm⟩
    exact .left (hsound.step hstep rfl) (hstep.keepsRows rfl) rfl rfl
  | case16 j _ generation _ request store row created heq =>
    have hstep : TransitionStep s.store (.allocate request s.store.transitions.entries) store :=
      ⟨rangeOrder_entries _, (congrArg Prod.fst heq).symm⟩
    have hbacked := hsound.answered hstep (show _ = _ by simp only [TransitionCall.run, heq]; rfl)
    refine ⟨.quiet (hstep.keepsRows rfl) (hsound.step hstep rfl) rfl rfl, ?_⟩
    cases created with
    | true | false => exact ⟨hbacked, rfl⟩
  | case17 j _ attempt key generation row hplace store heq =>
    rw [hplace] at hready
    obtain ⟨hrows, hsound', -⟩ := heq ▸ start_spec hsound hready.1 attempt a
    exact .left hsound' hrows rfl rfl
  | case18 j _ attempt key generation row hplace store attempt' heq =>
    rw [hplace] at hready
    obtain ⟨hrows, hsound', -⟩ := heq ▸ start_spec hsound hready.1 attempt a
    exact ⟨.quiet hrows hsound' rfl rfl, hready.1.mono hrows, hready.2⟩
  | case19 j _ attempt key generation row hplace store row' heq =>
    rw [hplace] at hready
    obtain ⟨hrows, hsound', hrow'⟩ := heq ▸ start_spec hsound hready.1 attempt a
    obtain ⟨hbacked', htoken⟩ := hrow' row' rfl
    exact ⟨.quiet hrows hsound' rfl rfl, hbacked', by rw [htoken]; exact hready.2⟩
  | case20 j _ key generation row created hplace =>
    rw [hplace] at hready
    exact issue_spec hsound hready.1 hready.2
  | case21 j _ commandKey fence row hplace =>
    rw [hplace] at hready
    exact settle_spec hsound hready
  | case22 => exact ⟨.of_eq hsound rfl rfl rfl, trivial⟩
  | case1 | case2 => exact leave_spec hsound
  | case10 | case14 | case24 => exact .moved hsound hready
  | _ => exact .moved hsound trivial

end

end Change

/-! ## Fences and tokens -/

/-- The fence of the command is the token that its row has in the store. -/
def NodeCommand.Carries (m : TransitionStore) (c : NodeCommand) : Prop :=
  ∃ token, Backed m c.transitionID token ∧ (c.fence.toNat : ℤ) = token.toInt

/-- Every command of the runtime and model was sent with a fence in the set. -/
def FencesIn (earlier : List NodeCommand) (fenceKey : GoString) (p : UInt64 → Prop) : Prop :=
  ∀ c ∈ earlier, c.fenceKey = fenceKey → p c.fence

/-- The command of a row is sent in the order of the tokens: a fresh one above all that were sent
for its runtime and model, a retried one not below them, and a rollback above them or, if it was the
latest and is above the command that it undoes, again. -/
def NodeCommand.InOrder (earlier : List NodeCommand) (c : NodeCommand) (token : Int64) : Prop :=
  match c.issue with
  | .fresh => FencesIn earlier c.fenceKey (· < tokenWord token)
  | .retry => FencesIn earlier c.fenceKey (· ≤ tokenWord token)
  | .rollback priorFence =>
    FencesIn earlier c.fenceKey (· < tokenWord token) ∨
      (priorFence < tokenWord token ∧ FencesIn earlier c.fenceKey (· ≤ tokenWord token) ∧
        ∃ c' ∈ earlier, c'.fenceKey = c.fenceKey ∧ c'.fence = tokenWord token)
  | .query => True

theorem tokenWord_toNat {token : Int64} (h : 0 ≤ token.toInt) :
    ((tokenWord token).toNat : ℤ) = token.toInt := by
  unfold tokenWord
  rw [if_neg (by rw [Int64.lt_iff_toInt_lt]; simpa using h)]
  have hint : token.toInt = token.toUInt64.toBitVec.toInt := rfl
  have hnat : token.toUInt64.toNat = token.toUInt64.toBitVec.toNat := rfl
  rw [hint, BitVec.toInt_eq_toNat_cond] at h ⊢
  split_ifs at h ⊢ <;> omega

/-- A fence is the token exactly if it is the word of it. -/
theorem fence_eq_token_iff {token : Int64} (h : 0 < token.toInt) :
    (fence.toNat : ℤ) = token.toInt ↔ fence = tokenWord token := by
  rw [← tokenWord_toNat h.le, Nat.cast_inj, UInt64.toNat_inj]

/-- A counter from which the command is sent with the token of its row. -/
def CommandIssue.Admits (issue : CommandIssue) (counter token : UInt64) : Prop :=
  match issue with
  | .fresh => counter < token
  | .retry => counter ≤ token
  | .rollback priorFence => counter < token ∨ (priorFence < token ∧ counter = token)
  | .query => True

theorem nextFence_eq_iff {counter w : UInt64} (hw : 0 < w)
    (hissue : issue ≠ .query) : nextFence issue counter w = w ↔ issue.Admits counter w := by
  -- A successor is not the token of a row that the counter has reached, even if it wraps.
  have hsucc : ∀ x : UInt64, w ≤ x → x + 1 ≠ w := by
    intro x hle heq
    rw [UInt64.le_iff_toNat_le] at hle
    rw [UInt64.lt_iff_toNat_lt] at hw
    have hnat := congrArg UInt64.toNat heq
    have hlt := UInt64.toNat_lt x
    rw [UInt64.toNat_add] at hnat
    simp only [UInt64.reduceToNat] at hnat hw
    omega
  cases issue with
  | fresh =>
    simp only [nextFence]
    split_ifs with hlt
    · exact iff_of_true rfl hlt
    · exact iff_of_false (hsucc counter (UInt64.not_lt.1 hlt)) hlt
  | retry =>
    simp only [nextFence, CommandIssue.Admits]
    grind
  | rollback priorFence =>
    simp only [nextFence]
    split_ifs with hlt hle
    · exact iff_of_true rfl (.inl hlt)
    · have hprior := UInt64.le_trans (UInt64.not_lt.1 hlt) hle
      refine iff_of_false (hsucc priorFence hprior) ?_
      unfold CommandIssue.Admits
      grind
    · unfold CommandIssue.Admits
      grind
  | query => exact absurd rfl hissue

/-- Such a counter is not above the token. -/
theorem CommandIssue.Admits.le {counter w : UInt64}
    (h : issue.Admits counter w) (hissue : issue ≠ .query) : counter ≤ w := by
  cases issue with
  | fresh => exact UInt64.le_of_lt h
  | retry => exact h
  | rollback priorFence =>
    rcases h with h | h
    · exact UInt64.le_of_lt h
    · exact h.2 ▸ UInt64.le_refl _
  | query => exact absurd rfl hissue

/-- The counters are the highest fences that the process has sent, which are tokens of their rows.
-/
structure Counted (s : AdapterState) : Prop where
  carried : ∀ c ∈ s.issued, c.Carries s.store
  bound : ∀ k, FencesIn s.issued k (· ≤ GoMap.get s.fences k)
  attained : ∀ k, GoMap.get s.fences k = 0 ∨
    ∃ c ∈ s.issued, c.fenceKey = k ∧ c.fence = GoMap.get s.fences k

theorem counted_started (store : TransitionStore) : Counted { store := store } where
  carried _ hc := nomatch hc
  bound _ _ hc := nomatch hc
  attained _ := .inl rfl

section Counted

variable {s s' : AdapterState} {k : GoString} {w : UInt64} {token : Int64} {c : NodeCommand}

section

variable (h : Counted s)
include h

theorem Counted.le_iff : GoMap.get s.fences k ≤ w ↔ FencesIn s.issued k (· ≤ w) := by
  constructor
  · exact fun hle c hc hk => UInt64.le_trans (h.bound k c hc hk) hle
  · intro hall
    rcases h.attained k with hzero | ⟨c, hc, hk, hfence⟩
    · rw [hzero]
      exact UInt64.zero_le
    · rw [← hfence]
      exact hall c hc hk

theorem Counted.lt_iff (hw : 0 < w) : GoMap.get s.fences k < w ↔ FencesIn s.issued k (· < w) := by
  constructor
  · exact fun hlt c hc hk => UInt64.lt_of_le_of_lt (h.bound k c hc hk) hlt
  · intro hall
    rcases h.attained k with hzero | ⟨c, hc, hk, hfence⟩
    · rwa [hzero]
    · rw [← hfence]
      exact hall c hc hk

theorem Counted.eq_iff (hw : 0 < w) : GoMap.get s.fences k = w ↔
      FencesIn s.issued k (· ≤ w) ∧ ∃ c ∈ s.issued, c.fenceKey = k ∧ c.fence = w := by
  rw [← h.le_iff]
  constructor
  · rintro rfl
    refine ⟨UInt64.le_refl _, (h.attained k).resolve_left fun hzero => ?_⟩
    rw [hzero] at hw
    exact UInt64.lt_irrefl _ hw
  · rintro ⟨hle, c, hc, hk, rfl⟩
    exact UInt64.le_antisymm hle (h.bound k c hc hk)

omit h in
theorem tokenWord_pos (h : 0 < token.toInt) : 0 < tokenWord token := by
  have htoken := tokenWord_toNat h.le
  rw [UInt64.lt_iff_toNat_lt]
  simp only [UInt64.reduceToNat]
  omega

/-- The counter admits the token exactly if the command is in order. -/
theorem Counted.admits_iff (c : NodeCommand) (hpos : 0 < token.toInt) :
    c.issue.Admits (GoMap.get s.fences c.fenceKey) (tokenWord token) ↔
      c.InOrder s.issued token := by
  have hw := tokenWord_pos hpos
  unfold CommandIssue.Admits NodeCommand.InOrder
  cases c.issue with
  | fresh => exact h.lt_iff hw
  | retry => exact h.le_iff
  | rollback priorFence =>
    rw [h.lt_iff hw, h.eq_iff hw]
  | query => exact Iff.rfl

/-- **A sent command carries the token exactly if it is in order.** -/
theorem Counted.sent_iff (hpos : 0 < token.toInt) (hissue : c.issue ≠ .query)
    (hfence : c.fence = nextFence c.issue (GoMap.get s.fences c.fenceKey) (tokenWord token)) :
    (c.fence.toNat : ℤ) = token.toInt ↔ c.InOrder s.issued token := by
  rw [fence_eq_token_iff hpos, hfence, nextFence_eq_iff (tokenWord_pos hpos) hissue]
  exact h.admits_iff c hpos

omit h in
theorem NodeCommand.Carries.mono {m m' : TransitionStore} (h : c.Carries m)
    (hrows : KeepsRows m m') :
    c.Carries m' := by
  obtain ⟨token, hbacked, hfence⟩ := h
  exact ⟨token, hbacked.mono hrows, hfence⟩

/-- A sent command that carries its token is the new maximum of its counter. -/
theorem Counted.sent (hstore : s'.store = s.store)
    (hfences : s'.fences = s.fences.insert c.fenceKey c.fence)
    (hissued : s'.issued = s.issued ++ [c]) (hcarries : c.Carries s.store)
    (hle : GoMap.get s.fences c.fenceKey ≤ c.fence) : Counted s' := by
  refine ⟨?_, ?_, ?_⟩
  · intro c' hc'
    rw [hissued] at hc'
    rw [hstore]
    rcases of_mem_snoc hc' with hc' | rfl
    · exact h.carried c' hc'
    · exact hcarries
  · intro k c' hc' hk
    rw [hissued] at hc'
    rw [hfences]
    by_cases hself : k = c.fenceKey
    · subst hself
      rw [get_insert_self]
      rcases of_mem_snoc hc' with hc' | rfl
      · exact UInt64.le_trans (h.bound _ c' hc' hk) hle
      · exact UInt64.le_refl _
    · rw [get_insert_of_ne _ _ hself]
      rcases List.mem_append.1 hc' with hc' | hc'
      · exact h.bound k c' hc' hk
      · rw [List.mem_singleton.1 hc'] at hk
        exact absurd hk.symm hself
  · intro k
    rw [hfences, hissued]
    by_cases hself : k = c.fenceKey
    · subst hself
      rw [get_insert_self]
      exact .inr ⟨c, by simp, rfl, rfl⟩
    · rw [get_insert_of_ne _ _ hself]
      rcases h.attained k with hzero | ⟨c', hc', hrest⟩
      · exact .inl hzero
      · exact .inr ⟨c', by simp [hc'], hrest⟩

/-- The new commands of a change carry their tokens exactly if they are in order, and the counters
then stay the highest fences. -/
theorem Counted.change (hsound : SoundRows s.store) (hchange : CommandChange s s') :
    ((∀ c ∈ s'.issued.drop s.issued.length, c.Carries s'.store) ↔
        ∀ c ∈ s'.issued.drop s.issued.length, ∃ token,
          Backed s'.store c.transitionID token ∧ c.InOrder s.issued token) ∧
      ((∀ c ∈ s'.issued.drop s.issued.length, c.Carries s'.store) → Counted s') := by
  have hrows := hchange.keepsRows
  cases hchange with
  | quiet _ _ hfences hissued =>
    refine ⟨by simp [hissued], fun _ => ⟨fun c hc => ?_, ?_, ?_⟩⟩
    · exact (h.carried c (hissued ▸ hc)).mono hrows
    · rw [hfences, hissued]
      exact h.bound
    · rw [hfences, hissued]
      exact h.attained
  | sent c token hstore hbacked hfences hissued hissue hfence =>
    obtain ⟨stored, hl, rfl⟩ := hbacked
    have hpos := hsound.positive _ _ hl
    have hiff := h.sent_iff hpos hissue hfence
    have hcarries : c.Carries s.store ↔ (c.fence.toNat : ℤ) = stored.fencingToken.toInt := by
      constructor
      · rintro ⟨token, hbacked, heq⟩
        rw [heq, hbacked.unique ⟨stored, hl, rfl⟩]
      · exact fun heq => ⟨_, ⟨stored, hl, rfl⟩, heq⟩
    rw [hissued, List.drop_left, List.forall_mem_singleton, List.forall_mem_singleton, hstore]
    refine ⟨?_, fun hc => h.sent hstore hfences hissued hc ?_⟩
    · rw [hcarries, hiff]
      constructor
      · exact fun horder => ⟨_, ⟨stored, hl, rfl⟩, horder⟩
      · rintro ⟨token, hbacked, horder⟩
        rwa [hbacked.unique ⟨stored, hl, rfl⟩] at horder
    · have hword := (fence_eq_token_iff hpos).1 (hcarries.1 hc)
      have hadmits := (h.admits_iff c hpos).2 (hiff.1 (hcarries.1 hc))
      rw [hword]
      exact hadmits.le hissue
  | queried c about habout hstore hfences hissued hissue hkey hid hfence =>
    obtain ⟨token, hbacked, heq⟩ := h.carried about habout
    rw [hid] at hbacked
    rw [hfence] at heq
    have hcarries : c.Carries s.store := ⟨token, hbacked, heq⟩
    rw [hissued, List.drop_left, List.forall_mem_singleton, List.forall_mem_singleton, hstore]
    refine ⟨iff_of_true hcarries ⟨token, hbacked, by simp [NodeCommand.InOrder, hissue]⟩,
      fun _ => ⟨?_, ?_, ?_⟩⟩
    · rw [hissued, hstore]
      intro c' hc'
      rcases of_mem_snoc hc' with hc' | rfl
      · exact h.carried c' hc'
      · exact hcarries
    · intro k c' hc' hk
      rw [hissued] at hc'
      rw [hfences]
      rcases List.mem_append.1 hc' with hc' | hc'
      · exact h.bound k c' hc' hk
      · rw [List.mem_singleton.1 hc'] at hk ⊢
        rw [← hfence]
        exact h.bound k about habout (hkey.trans hk)
    · intro k
      rw [hfences, hissued]
      rcases h.attained k with hzero | ⟨c', hc', hrest⟩
      · exact .inl hzero
      · exact .inr ⟨c', by simp [hc'], hrest⟩

end

end Counted

/-! ## Runs -/

/-- A step of the adapter. -/
abbrev CommandTransition :=
  Transition (Threads AdapterState CommandRoutine)
    (ThreadEvent CommandCall CommandAnswer TransitionCall)

def newCommands (t : CommandTransition) : List NodeCommand :=
  t.post.shared.issued.drop t.pre.shared.issued.length

/-- The rows are sound and every job is ready. -/
structure AdapterReady (s : Threads AdapterState CommandRoutine) : Prop where
  sound : SoundRows s.shared.store
  ready : ∀ g ∈ s.goroutines, g.Ready s.shared

section Runs

variable {s : Threads AdapterState CommandRoutine}

theorem env_change {s : AdapterState} (hsound : SoundRows s.store) (c : TransitionCall) :
    CommandChange s (residencyAdapter.env s c) := by
  simp only [residencyAdapter]
  split_ifs with hc
  · have hstep : TransitionStep s.store c (c.run s.store).1 := ⟨hc.2, rfl⟩
    exact .quiet (hstep.keepsRows hc.1) (hsound.step hstep hc.1) rfl rfl
  · exact .refl hsound

theorem AdapterReady.step (h : AdapterReady s)
    (e : ThreadEvent CommandCall CommandAnswer TransitionCall) :
    AdapterReady (residencyAdapter.step s e) := by
  obtain ⟨hsound, hready⟩ := Program.step_invariant (P := residencyAdapter) (e := e)
    (I := fun s => SoundRows s.store) (J := fun s g => g.Ready s) h.sound h.ready
    (fun _ => trivial)
    (fun g a hg => by
      obtain ⟨hchange, hnext⟩ := exec_spec h.sound hg a
      exact ⟨hchange.soundRows h.sound, hnext, fun g' hg' => hg'.mono hchange⟩)
    (fun c _ => by
      have hchange := env_change h.sound c
      exact ⟨hchange.soundRows h.sound, fun g' hg' => hg'.mono hchange⟩)
    h.sound
  exact ⟨hsound, hready⟩

/-- Every step but a restart is one of the changes. -/
theorem AdapterReady.change (h : AdapterReady s)
    {e : ThreadEvent CommandCall CommandAnswer TransitionCall} (he : e ≠ .restart) :
    CommandChange s.shared (residencyAdapter.step s e).shared := by
  cases e with
  | call c => exact .refl h.sound
  | proceed i a =>
    cases hi : s.goroutines[i]? with
    | none =>
      rw [Program.step_proceed_none hi]
      exact .refl h.sound
    | some g =>
      rw [Program.step_proceed hi]
      exact (exec_spec h.sound (h.ready g (List.mem_of_getElem? hi)) a).1
  | other c => exact env_change h.sound c
  | restart => exact absurd rfl he

end Runs

/-- **Commands carry the tokens of their rows exactly if they are sent in their order**, with other
writers of the store and restarts. -/
theorem commands_carry_tokens_iff {store : TransitionStore} (hsound : SoundRows store)
    {tr : List CommandTransition} {s : Threads AdapterState CommandRoutine}
    (hrun : Run residencyAdapter.Step ⟨{ store := store }, []⟩ tr s) :
    (∀ t ∈ tr, ∀ c ∈ newCommands t, c.Carries t.post.shared.store) ↔
      ∀ t ∈ tr, ∀ c ∈ newCommands t, ∃ token,
        Backed t.post.shared.store c.transitionID token ∧ c.InOrder t.pre.shared.issued token := by
  have hstart : AdapterReady ⟨{ store := store }, []⟩ := ⟨hsound, fun g hg => nomatch hg⟩
  -- One step, from counters that are the highest fences.
  have hstep : ∀ s e s', (AdapterReady s ∧ Counted s.shared) → residencyAdapter.Step s e s' →
      ((∀ c ∈ newCommands ⟨s, e, s'⟩, c.Carries s'.shared.store) ↔
        ∀ c ∈ newCommands ⟨s, e, s'⟩, ∃ token, Backed s'.shared.store c.transitionID token ∧
          c.InOrder s.shared.issued token) ∧
      ((∀ c ∈ newCommands ⟨s, e, s'⟩, c.Carries s'.shared.store) →
        AdapterReady s' ∧ Counted s'.shared) := by
    rintro s e _ ⟨hready, hcounted⟩ rfl
    by_cases he : e = .restart
    · subst he
      exact ⟨by simp [newCommands, Program.step, residencyAdapter],
        fun _ => ⟨hready.step _, counted_started _⟩⟩
    · obtain ⟨hiff, hnext⟩ := hcounted.change hready.sound (hready.change he)
      exact ⟨hiff, fun hc => ⟨hready.step e, hnext hc⟩⟩
  constructor
  · intro hcarries
    refine (hrun.observe_of (I := fun s => AdapterReady s ∧ Counted s.shared) hcarries
      ⟨hstart, counted_started store⟩ fun s e s' hI hs hc => ?_).2
    obtain ⟨hiff, hnext⟩ := hstep s e s' hI hs
    exact ⟨hnext hc, hiff.1 hc⟩
  · intro horder
    refine (hrun.observe_of (I := fun s => AdapterReady s ∧ Counted s.shared) horder
      ⟨hstart, counted_started store⟩ fun s e s' hI hs hc => ?_).2
    obtain ⟨hiff, hnext⟩ := hstep s e s' hI hs
    exact ⟨hnext (hiff.2 hc), hiff.2 hc⟩

def loadCall : CommandCall :=
  .transitionWithFrom ⟨"node-llm", "node-gpu0", "llama", "http", "v1", "1", "f"⟩ "qwen" .coldDisk
    .hotVRAM "request"

/-- The job takes that many steps that nothing disturbs. -/
def undisturbed (i n : ℕ) : List (Threads AdapterState CommandRoutine →
      ThreadEvent CommandCall CommandAnswer TransitionCall) :=
  List.replicate n fun s => .proceed i { order := s.shared.store.transitions.entries }

/-- A model is loaded, and the node answers with another tier. The rollback then fails. -/
def loadThenRollback : List (Threads AdapterState CommandRoutine →
      ThreadEvent CommandCall CommandAnswer TransitionCall) :=
  (fun _ => .call loadCall) :: undisturbed 0 6 ++
    (fun _ => .proceed 0 { reply := .invalidTier }) :: undisturbed 0 5 ++
    [fun _ => .proceed 0 { reply := .ended false }]

/-- The kind and fence of each command, with the token of its row. -/
def sentFences (s : AdapterState) : List (CommandIssue × UInt64 × Option Int64) :=
  s.issued.map fun c =>
    (c.issue, c.fence, (s.store.transitions.lookup c.transitionID).map (·.fencingToken))

theorem soundRows_empty : SoundRows {} where
  keyed _ _ h := nomatch h
  positive _ _ h := nomatch h

theorem loadThenRollback_in_order :
    let s := Run.afterScript residencyAdapter.step ⟨{ store := {} }, []⟩ loadThenRollback
    let tr := Run.script residencyAdapter.step ⟨{ store := {} }, []⟩ loadThenRollback
    sentFences s.shared = [(.fresh, 1, some 1), (.rollback 1, 2, some 2)] ∧
      (∀ t ∈ tr, ∀ c ∈ newCommands t, c.Carries t.post.shared.store) ∧
      ∀ t ∈ tr, ∀ c ∈ newCommands t, ∃ token,
        Backed t.post.shared.store c.transitionID token ∧ c.InOrder t.pre.shared.issued token := by
  intro s tr
  have hfences : ∀ t ∈ tr, ∀ c ∈ newCommands t,
      (t.post.shared.store.transitions.lookup c.transitionID).any
        (fun row => (c.fence.toNat : ℤ) = row.fencingToken.toInt) = true := by decide +kernel
  have hcarries : ∀ t ∈ tr, ∀ c ∈ newCommands t, c.Carries t.post.shared.store := by
    intro t ht c hc
    obtain ⟨row, hl, hrow⟩ := (Option.any_eq_true _ _).1 (hfences t ht c hc)
    exact ⟨_, ⟨row, hl, rfl⟩, of_decide_eq_true hrow⟩
  exact ⟨by decide +kernel, hcarries, (commands_carry_tokens_iff soundRows_empty
    (Run.of_script _ (fun _ _ _ => rfl) _)).1 hcarries⟩

/-- **A retry carries the fence of the rollback.** Its row is still running with the token 1, and
its command is sent with 2. -/
theorem retry_carries_rollback_fence :
    sentFences (Run.afterScript residencyAdapter.step ⟨{ store := {} }, []⟩
        (loadThenRollback ++ (fun _ => .call loadCall) :: undisturbed 1 3)).shared =
      [(.fresh, 1, some 1), (.rollback 1, 2, some 2), (.retry, 2, some 1)] := by
  decide +kernel

end VramGovernor.Workloads
