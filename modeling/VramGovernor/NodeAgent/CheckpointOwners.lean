import VramGovernor.NodeAgent.CheckpointPhases

/-!
# The owners of checkpoint slots, and the end of an operation

Commands on a node, and restarts that rebuild the owners from the phases in the state file. The save
after a command may fail, and a restart then finds the phases of an earlier save.

* `owners_released`: the owner of a slot gives way only after it released the slot, unless a save
  fails, or a command whose slot is not compared with the owners is for a slot of another operation:
  an assignment without a named slot, a rollback or a cancellation
  (`automatic_assignment_takes_slot`).
* `released_final`: phases never fall, and an operation that was released for good owns no slot and
  calls no runtime, unless a save fails or it is cancelled then (`cancel_after_release`).
* `rebuilt_owners`: the rebuilt owners do not depend on the order of the journal, and under the
  first condition they are those in memory (`rebuilt_owners_differ`).

All rest on `Recorded`: an operation is journaled under its name at a phase of its last action, and
the owner of a slot is journaled there and was not released.
-/

namespace VramGovernor.NodeAgent

open GoString GoMap CheckpointState

/-! ## Steps -/

/-- The processor in memory, and the phases in its state file. -/
structure CheckpointNode where
  memory : CheckpointState := {}
  journal : GoMap CheckpointPhaseState := ∅

/-- A command with the answers of its environment, and whether the save after it replaced the state
file; or a restart with an order of the journal. -/
inductive CheckpointEvent
  | command (c : CheckpointCommand) (o : CheckpointAnswers) (saved : Bool)
  | restart (order : List (Entry CheckpointPhaseState))

open CheckpointEvent

def CheckpointEvent.exec (n : CheckpointNode) : CheckpointEvent → CheckpointNode
  | .command c o saved =>
    let memory := (n.memory.executeCheckpoint c o).state
    { memory, journal := if saved then memory.checkpointPhases else n.journal }
  | .restart order =>
    { n with memory := ⟨n.journal, rebuildCheckpointSlotOwners n.journal order⟩ }

/-- The order is one of the map that the event ranges over. -/
def CheckpointEvent.Ordered (n : CheckpointNode) : CheckpointEvent → Prop
  | .command _ o _ => RangeOrder n.memory.checkpointPhases o.order
  | .restart order => RangeOrder n.journal order

def CheckpointEvent.saved : CheckpointEvent → Bool
  | .command _ _ saved => saved
  | .restart _ => true

structure CheckpointStep (n : CheckpointNode) (e : CheckpointEvent) (n' : CheckpointNode) :
    Prop where
  order : e.Ordered n
  state : n' = e.exec n

variable {n n' n₁ n₂ : CheckpointNode} {s : CheckpointState} {e : CheckpointEvent}
  {tr tr' : List (Transition CheckpointNode CheckpointEvent)} {op : GoString}

def CheckpointState.owner (s : CheckpointState) (targetID : GoString) (slotID : ℤ) :
    Option GoString :=
  s.checkpointSlots.lookup (slotKey targetID slotID)

def CheckpointState.phaseOf (s : CheckpointState) (op : GoString) : ℕ :=
  (s.checkpointPhases.lookup op).elim 0 (·.phase)

/-! ## The tables -/

def phasesOf : CheckpointAction → List ℕ
  | .slotAssign => [1, 8]
  | .release => [6, 15]
  | .rollbackResume => [11]
  | .slotQuery | .stateQuery => []
  | action => [checkpointPhase action]

/-- The action `last` led to the phase. -/
def AtPhase (phase : ℕ) (last : CheckpointAction) : Prop := phase ∈ phasesOf last

instance (phase : ℕ) (last : CheckpointAction) : Decidable (AtPhase phase last) :=
  inferInstanceAs (Decidable (_ ∈ _))

/-- An allowed action repeats the last one, or moves on: the phase is one of the action and does not
fall, the operation is not at its end, and slot assignments follow releases. -/
theorem transitionAllowed_table : ∀ last, ∀ phase ∈ phasesOf last, ∀ action,
    action ≠ .rollbackResume → action.isQuery = false →
    transitionAllowed phase (some last) action = true →
    (0 < checkpointPhaseFor phase (some last) action ∧
      phase = checkpointPhaseFor phase (some last) action ∧ last = action) ∨
    (phase ≤ checkpointPhaseFor phase (some last) action ∧
      AtPhase (checkpointPhaseFor phase (some last) action) action ∧ phase ≠ 15 ∧
      (last = .release ↔ action = .slotAssign)) := by
  decide

theorem le_of_atPhase : ∀ last, ∀ phase ∈ phasesOf last, phase ≤ 15 := by
  decide

theorem release_of_atPhase : ∀ last, AtPhase 15 last → last = .release := by
  decide

theorem checkpointPhaseFor_rollbackResume {phase : ℕ} {last : Option CheckpointAction}
    (h₁ : 1 ≤ phase) (h₂ : phase < 12) : checkpointPhaseFor phase last .rollbackResume = 11 := by
  simp [checkpointPhaseFor, checkpointPhase, h₁, h₂]

theorem checkpointPhaseFor_cancel (phase : ℕ) (last : Option CheckpointAction) :
    checkpointPhaseFor phase last .cancel = 14 := by
  simp [checkpointPhaseFor, checkpointPhase]

/-! ## What the journal and the owners say of each other -/

/-- A journaled operation: under its name, at a phase of its last action. -/
structure JournalEntry (op : GoString) (st : CheckpointPhaseState) : Prop where
  named : st.operationID = op
  nonblank : isBlank op = false
  phased : ∃ last, st.action = some last ∧ AtPhase st.phase last

/-- An operation that has a slot and was not released. -/
structure CheckpointPhaseState.HasSlot (st : CheckpointPhaseState) (k : GoString) : Prop where
  slot : st.slot = k
  assigned : 0 ≤ st.slotID
  held : st.action ≠ some .release

structure Recorded (s : CheckpointState) : Prop where
  entry : ∀ op st, s.checkpointPhases.lookup op = some st → JournalEntry op st
  owned : ∀ k op, s.checkpointSlots.lookup k = some op →
    ∃ st, s.checkpointPhases.lookup op = some st ∧ st.HasSlot k

variable {order : List (Entry CheckpointPhaseState)} {st₀ : CheckpointPhaseState}

section Commit

variable {c : CheckpointCommand} {o : CheckpointAnswers} {st : CheckpointPhaseState}
  {result : CheckpointResult}

/-- A linked state is of the command's operation; if the operation has a state, it is this one. -/
theorem linkedState_cases (hr : Recorded s) (h : s.linkedState c order = some st) :
    st.operationID = c.operationID ∧
      ∀ st₀, s.checkpointPhases.lookup c.operationID = some st₀ → st = st₀ := by
  unfold linkedState at h
  cases hl : s.checkpointPhases.lookup c.operationID with
  | some st₁ =>
    obtain rfl : st₁ = st := by simpa [hl] using h
    exact ⟨(hr.entry _ _ hl).named, fun st₀ h₀ => Option.some.inj h₀⟩
  | none =>
    simp only [hl] at h
    split_ifs at h
    obtain ⟨e, -, rfl⟩ := Option.map_eq_some_iff.1 h
    exact ⟨rfl, fun st₀ h₀ => by cases h₀⟩

/-- A mutation that moves its operation on in the table and reaches the runtime is no repetition. -/
theorem Reaches.movesOn (hr : Recorded s) (h : Reaches s c o st)
    (hq : c.action.isQuery = false) (hl : s.checkpointPhases.lookup c.operationID = some st₀)
    (hs : st.SameOperation st₀) (ha : c.action ≠ .rollbackResume)
    (hm : transitionAllowed st₀.phase st₀.action c.action = true) :
    st₀.phase ≤ checkpointPhaseFor st₀.phase st₀.action c.action ∧
      AtPhase (checkpointPhaseFor st₀.phase st₀.action c.action) c.action ∧ st₀.phase ≠ 15 ∧
      (st₀.action = some .release ↔ c.action = .slotAssign) := by
  obtain ⟨last, hlast, hphase⟩ := (hr.entry _ _ hl).phased
  rw [hlast] at hm ⊢
  rcases transitionAllowed_table last _ hphase _ ha hq hm with ⟨hpos, hsame, hact⟩ | hmove
  · have hfresh := h.fresh
    rw [CheckpointPhaseState.replays, hs.phase, hs.action, hlast, ← hsame, hact] at hfresh
    rw [← hsame] at hpos
    simp [hpos.ne'] at hfresh
  · simpa only [Option.some.injEq] using hmove

/-- What a commit makes of the operation. -/
structure Committed (s : CheckpointState) (c : CheckpointCommand) (st' : CheckpointPhaseState) :
    Prop where
  operation : st'.operationID = c.operationID
  action : st'.action = some c.action
  atPhase : AtPhase st'.phase c.action
  /-- The operation keeps its slot, unless it was released. -/
  kept : ∀ st₀, s.checkpointPhases.lookup c.operationID = some st₀ →
    st₀.action ≠ some .release → st'.targetID = st₀.targetID ∧ st'.slotID = st₀.slotID

theorem Commits.committed (hr : Recorded s) (h : Commits s c o st result) :
    Committed s c (st.advance c.action result) := by
  have hslot : c.action ≠ .slotAssign → (st.advance c.action result).slotID = st.slotID := by
    intro ha
    simp [CheckpointPhaseState.advance, (runtimeStage_slotID h.stage).1 ha]
  cases h.authorizedFor with
  | fresh hl ha ht ho hc hp hn =>
    refine ⟨ho, rfl, ?_, fun st₀ h₀ => by simp [hl] at h₀⟩
    simp only [CheckpointPhaseState.advance, hp, hn, ha]
    decide
  | moves st₀ hl hs hc ha hm ht =>
    obtain ⟨-, hat, -, hre⟩ := h.reaches.movesOn hr (isQuery_of_commits _ h.commits) hl hs ha.1 hm
    refine ⟨hs.operationID.trans (hr.entry _ _ hl).named, rfl, ?_, fun st₁ h₁ hheld => ?_⟩
    · simp only [CheckpointPhaseState.advance, hs.phase, hs.action]
      exact hat
    · obtain rfl := Option.mem_unique hl h₁
      exact ⟨hs.targetID, (hslot fun ha' => hheld (hre.2 ha')).trans hs.slotID⟩
  | compensates st₀ hl hs _ ha =>
    obtain ⟨hop, hown⟩ := linkedState_cases hr hl
    have ha' : c.action ≠ .slotAssign := by rcases ha with ⟨ha, -⟩ | ⟨ha, -⟩ <;> simp [ha]
    refine ⟨hs.operationID.trans hop, rfl, ?_, fun st₁ h₁ _ => ?_⟩
    · rcases ha with ⟨ha, h₁, h₂⟩ | ⟨ha, -⟩
      · simp only [CheckpointPhaseState.advance, ha, hs.phase]
        rw [checkpointPhaseFor_rollbackResume h₁ h₂]
        decide
      · simp only [CheckpointPhaseState.advance, ha, checkpointPhaseFor_cancel]
        decide
    · obtain rfl := hown st₁ h₁
      exact ⟨hs.targetID, (hslot ha').trans hs.slotID⟩

theorem commit_phases (h : Committed s c (st.advance c.action result)) (op : GoString) :
    (s.commitCheckpointPhase st c.action result).checkpointPhases.lookup op =
      if op = c.operationID then some (st.advance c.action result)
      else s.checkpointPhases.lookup op := by
  rw [commitCheckpointPhase, lookup_insert_of, h.operation]

theorem commit_slots (h : Committed s c (st.advance c.action result)) (k : GoString) :
    (s.commitCheckpointPhase st c.action result).checkpointSlots.lookup k =
      if k = (st.advance c.action result).slot then
        if c.action = .release then none
        else if 0 ≤ (st.advance c.action result).slotID then some c.operationID
        else s.checkpointSlots.lookup k
      else s.checkpointSlots.lookup k := by
  simp only [commitCheckpointPhase, h.operation]
  by_cases hrel : c.action = .release
  · simp only [hrel, if_true]
    rw [lookup_erase_of]
  · simp only [hrel, if_false]
    by_cases h0 : 0 ≤ (st.advance c.action result).slotID
    · simp only [h0, if_true]
      rw [lookup_insert_of]
    · simp only [h0, if_false, ite_self]

theorem Committed.slot_eq {st' : CheckpointPhaseState} {k : GoString} (h : Committed s c st')
    (hl : s.checkpointPhases.lookup c.operationID = some st₀) (hs : st₀.HasSlot k) :
    st'.slot = k ∧ 0 ≤ st'.slotID := by
  obtain ⟨ht, hi⟩ := h.kept st₀ hl hs.held
  exact ⟨by rw [CheckpointPhaseState.slot, ht, hi]; exact hs.slot, by rw [hi]; exact hs.assigned⟩

theorem Recorded.commit (hr : Recorded s) (h : Commits s c o st result) :
    Recorded (s.commitCheckpointPhase st c.action result) := by
  have hcom := h.committed hr
  constructor
  · intro op st' hl
    rw [commit_phases hcom] at hl
    split_ifs at hl with hop
    · obtain rfl := Option.some.inj hl
      exact ⟨hcom.operation.trans hop.symm, hop ▸ c.required _ (by simp), c.action, hcom.action,
        hcom.atPhase⟩
    · exact hr.entry op st' hl
  · intro k op hk
    rw [commit_slots hcom] at hk
    -- the record is the one of the commit, or an old one
    by_cases hnew : k = (st.advance c.action result).slot ∧ c.action ≠ .release ∧
        0 ≤ (st.advance c.action result).slotID
    · obtain ⟨rfl, hrel, h0⟩ := hnew
      simp only [if_true, hrel, if_false, h0, Option.some.injEq] at hk
      refine ⟨st.advance c.action result, ?_, rfl, h0, ?_⟩
      · rw [commit_phases hcom, if_pos hk.symm]
      · rw [hcom.action]
        simpa using hrel
    · have hold : s.checkpointSlots.lookup k = some op ∧
          (k = (st.advance c.action result).slot → c.action ≠ .release) := by
        split_ifs at hk with hslot hrel h0
        · exact absurd ⟨hslot, hrel, h0⟩ hnew
        · exact ⟨hk, fun _ => hrel⟩
        · exact ⟨hk, fun h => absurd h hslot⟩
      obtain ⟨st₀, hl, hs⟩ := hr.owned k op hold.1
      refine ⟨st₀, ?_, hs⟩
      rw [commit_phases hcom, if_neg ?_, hl]
      rintro rfl
      obtain ⟨hslot, h0⟩ := hcom.slot_eq hl hs
      exact hnew ⟨hslot.symm, hold.2 hslot.symm, h0⟩

end Commit

/-! ## Restarts -/

section Rebuild

variable {latest : GoMap CheckpointPhaseState} {owners : GoMap GoString}
  {entry : Entry CheckpointPhaseState} {k op op' op'' : GoString}

def fenceOf (latest : GoMap CheckpointPhaseState) (op : GoString) : ℤ :=
  (latest.lookup op).elim 0 (·.fence)

/-- A slot that both operations have goes to the first one, by its fence or by its name. -/
def Precedes (latest : GoMap CheckpointPhaseState) (op op' : GoString) : Prop :=
  fenceOf latest op' < fenceOf latest op ∨ fenceOf latest op = fenceOf latest op' ∧ op ≤ op'

theorem Precedes.refl (op : GoString) : Precedes latest op op := .inr ⟨rfl, List.le_refl op⟩

theorem Precedes.trans (h : Precedes latest op op') (h' : Precedes latest op' op'') :
    Precedes latest op op'' := by
  rcases h with hlt | ⟨heq, hle⟩
  · left
    rcases h' with hlt' | ⟨heq', -⟩ <;> omega
  · rcases h' with hlt' | ⟨heq', hle'⟩
    · exact .inl (by omega)
    · exact .inr ⟨heq.trans heq', List.le_trans hle hle'⟩

theorem Precedes.antisymm (h : Precedes latest op op') (h' : Precedes latest op' op) :
    op = op' := by
  rcases h with hlt | ⟨heq, hle⟩
  · rcases h' with hlt' | ⟨heq', -⟩ <;> omega
  · rcases h' with hlt' | ⟨-, hle'⟩
    · omega
    · exact List.le_antisymm hle hle'

/-- The entry is read by the rebuild. -/
structure Journaled (latest : GoMap CheckpointPhaseState)
    (entry : Entry CheckpointPhaseState) : Prop where
  lookup_eq : latest.lookup entry.1 = some entry.2
  named : isBlank entry.1 = false ∧ entry.2.operationID ≠ []

/-- The entry has a claim on the slot. -/
structure SlotClaim (latest : GoMap CheckpointPhaseState) (k : GoString)
    (entry : Entry CheckpointPhaseState) : Prop extends Journaled latest entry where
  hasSlot : entry.2.HasSlot k
  phase : entry.2.phase ≠ 0

theorem installOwner_of_not_claims (hl : Journaled latest entry) (hc : ¬ SlotClaim latest k entry) :
    (installOwner latest owners entry).lookup k = owners.lookup k := by
  unfold installOwner
  split_ifs with hskip
  · rfl
  · simp only [Bool.or_eq_true, decide_eq_true_eq, not_or, not_lt] at hskip
    have hk : k ≠ entry.2.slot := fun hk => hc ⟨hl, ⟨hk.symm, hskip.1.1, hskip.1.2⟩, hskip.2⟩
    cases owners.lookup entry.2.slot with
    | none => rw [lookup_insert_of, if_neg hk]
    | some prior =>
      dsimp only
      split_ifs
      · rfl
      · rw [lookup_insert_of, if_neg hk]

/-- An entry with a claim gets the slot, or leaves it to an owner that precedes it. -/
theorem installOwner_of_claims (owners : GoMap GoString) (hc : SlotClaim latest k entry) :
    ∃ op, (installOwner latest owners entry).lookup k = some op ∧
      (op = entry.1 ∨ owners.lookup k = some op) ∧ Precedes latest op entry.1 ∧
      ∀ prior, owners.lookup k = some prior → Precedes latest op prior := by
  have hskip : (decide (entry.2.slotID < 0) || decide (entry.2.action = some .release) ||
      decide (entry.2.phase = 0)) = false := by
    simpa [hc.phase, hc.hasSlot.held] using hc.hasSlot.assigned
  have hfence : entry.2.fence = fenceOf latest entry.1 := by simp [fenceOf, hc.lookup_eq]
  unfold installOwner
  rw [hskip]
  obtain rfl := hc.hasSlot.slot
  cases hprior : owners.lookup entry.2.slot with
  | none => exact ⟨entry.1, by simp, .inl rfl, .refl _, nofun⟩
  | some prior =>
    simp only [Bool.false_eq_true, if_false, hfence]
    split_ifs with hkeep
    · refine ⟨prior, hprior, .inr rfl, ?_, fun p hp => Option.some.inj hp ▸ .refl _⟩
      simp only [Bool.and_eq_true, Bool.or_eq_true, decide_eq_true_eq] at hkeep
      exact hkeep.2.imp_right fun h => ⟨h.1, List.le_of_lt h.2⟩
    · refine ⟨entry.1, by simp, .inl rfl, .refl _, fun p hp => Option.some.inj hp ▸ ?_⟩
      rcases eq_or_ne prior entry.1 with rfl | hne
      · exact .refl _
      · simp only [Bool.and_eq_true, Bool.or_eq_true, decide_eq_true_eq, not_and, not_or,
          not_lt] at hkeep
        rcases (hkeep hne).1.lt_or_eq with hlt | heq
        · exact .inl hlt
        · exact .inr ⟨heq.symm, List.not_lt.1 ((hkeep hne).2 heq)⟩

/-- A way through the journal leaves the slot to the claim that precedes all others. -/
theorem foldl_installOwner (l : List (Entry CheckpointPhaseState))
    (hl : ∀ e ∈ l, Journaled latest e) :
    ((l.foldl (installOwner latest) ∅).lookup k = none ∧ ∀ e ∈ l, ¬ SlotClaim latest k e) ∨
    ∃ e ∈ l, SlotClaim latest k e ∧ (l.foldl (installOwner latest) ∅).lookup k = some e.1 ∧
      ∀ e' ∈ l, SlotClaim latest k e' → Precedes latest e.1 e'.1 := by
  induction l using List.reverseRecOn with
  | nil => simp
  | append_singleton l e ih =>
    simp only [List.forall_mem_append, List.forall_mem_singleton, List.foldl_concat] at hl ⊢
    by_cases hc : SlotClaim latest k e
    · obtain ⟨op, hop, hor, hle, hprior⟩ :=
        installOwner_of_claims (l.foldl (installOwner latest) ∅) hc
      right
      rcases ih hl.1 with ⟨hnone, hfree⟩ | ⟨e₀, he₀, hc₀, hown, hbest⟩
      · obtain rfl : op = e.1 := hor.resolve_right (by simp [hnone])
        exact ⟨e, by simp, hc, hop, fun e' he' hc' => absurd hc' (hfree e' he'), fun _ => hle⟩
      · have hall : ∀ e' ∈ l, SlotClaim latest k e' → Precedes latest op e'.1 :=
          fun e' he' hc' => (hprior _ hown).trans (hbest e' he' hc')
        rcases hor with rfl | hor
        · exact ⟨e, by simp, hc, hop, hall, fun _ => hle⟩
        · obtain rfl := Option.mem_unique hown hor
          exact ⟨e₀, by simp [he₀], hc₀, hop, hall, fun _ => hle⟩
    · rw [installOwner_of_not_claims hl.2 hc]
      rcases ih hl.1 with ⟨hnone, hfree⟩ | ⟨e₀, he₀, hc₀, hown, hbest⟩
      · exact .inl ⟨hnone, hfree, hc⟩
      · exact .inr ⟨e₀, by simp [he₀], hc₀, hown, hbest, fun h => absurd h hc⟩

/-- The rebuilt owner of a slot has the claim that precedes all others. -/
theorem rebuild_cases (horder : RangeOrder latest order) (k : GoString) :
    ((rebuildCheckpointSlotOwners latest order).lookup k = none ∧ ∀ e, ¬ SlotClaim latest k e) ∨
    ∃ e, SlotClaim latest k e ∧ (rebuildCheckpointSlotOwners latest order).lookup k = some e.1 ∧
      ∀ e', SlotClaim latest k e' → Precedes latest e.1 e'.1 := by
  have hmem (e : Entry CheckpointPhaseState) :
      e ∈ order.filter (fun e => !isBlank e.1 && e.2.operationID ≠ []) ↔ Journaled latest e := by
    rw [List.mem_filter, horder.mem_iff]
    exact ⟨fun h => ⟨h.1, by simpa using h.2⟩, fun h => ⟨h.lookup_eq, by simpa using h.named⟩⟩
  rcases foldl_installOwner _ fun e => (hmem e).1 with ⟨hnone, hfree⟩ | ⟨e, -, hc, hown, hbest⟩
  · exact .inl ⟨hnone, fun e hc => hfree e ((hmem e).2 hc.toJournaled) hc⟩
  · exact .inr ⟨e, hc, hown, fun e' hc' => hbest e' ((hmem e').2 hc'.toJournaled) hc'⟩

/-- The only operation that has a slot gets it back. -/
theorem rebuild_complete {st : CheckpointPhaseState} (horder : RangeOrder latest order)
    (hl : latest.lookup op = some st) (hj : JournalEntry op st) (hs : st.HasSlot k)
    (honly : ∀ op' st', latest.lookup op' = some st' → st'.HasSlot k → op' = op) :
    (rebuildCheckpointSlotOwners latest order).lookup k = some op := by
  have hphase : st.phase ≠ 0 := by
    obtain ⟨last, -, hphase⟩ := hj.phased
    rintro hzero
    rw [hzero] at hphase
    exact absurd hphase (by cases last <;> decide)
  have hname : st.operationID ≠ [] := by
    intro hempty
    have hblank := hj.nonblank
    rw [← hj.named, hempty] at hblank
    exact absurd hblank (by decide)
  rcases rebuild_cases horder k with ⟨-, hfree⟩ | ⟨e, hc, hown, -⟩
  · exact absurd ⟨⟨hl, hj.nonblank, hname⟩, hs, hphase⟩ (hfree ⟨op, st⟩)
  · rw [hown, honly e.1 e.2 hc.lookup_eq hc.hasSlot]

end Rebuild

/-! ## The invariant of the records -/

/-- A node whose saves have all reached the state file. -/
structure Intact (n : CheckpointNode) : Prop where
  recorded : Recorded n.memory
  synced : n.journal = n.memory.checkpointPhases

theorem Intact.step (hi : Intact n) (h : CheckpointStep n e n') (hsaved : e.saved = true) :
    Intact n' := by
  obtain ⟨horder, rfl⟩ := h
  cases e with
  | restart order =>
    refine ⟨⟨fun op st hl => hi.recorded.entry op st (hi.synced ▸ hl), fun k op hk => ?_⟩, rfl⟩
    rcases rebuild_cases horder k with ⟨hnone, -⟩ | ⟨e, hc, hown, -⟩
    · exact absurd (hnone.symm.trans hk) nofun
    · obtain rfl := Option.mem_unique hown hk
      exact ⟨e.2, hc.lookup_eq, hc.hasSlot⟩
  | command c o saved =>
    obtain rfl : saved = true := hsaved
    refine ⟨?_, rfl⟩
    rcases (executeCheckpoint_cases n.memory c o).2 with hsame | ⟨st, result, hcom, -, hnew⟩
    · simpa only [exec, hsame] using hi.recorded
    · simpa only [exec, hnew] using hi.recorded.commit hcom

theorem intact_empty : Intact {} :=
  ⟨⟨fun _ _ h => by simp at h, fun _ _ h => by simp at h⟩, rfl⟩

/-! ## Owners give way after a release -/

/-- The slot of the command is not compared with the owners. -/
def CheckpointCommand.unchecked (c : CheckpointCommand) : Bool :=
  c.action = .rollbackResume || c.action = .cancel || c.action = .slotAssign && c.requestedSlot < 0

/-- The slots that the command may be for: the one that it names, and the idle one that an
assignment finds. -/
def CheckpointCommand.slots (c : CheckpointCommand) (o : CheckpointAnswers) : List ℤ :=
  c.requestedSlot :: (o.assigned.toOption.bind (assignSlot · c.requestedSlot)).toList

/-- An unchecked command is for a slot that is recorded for another operation. -/
def CheckpointState.takes (s : CheckpointState) (c : CheckpointCommand)
    (o : CheckpointAnswers) : Bool :=
  c.unchecked && (c.slots o).any fun slotID => (s.owner c.targetID slotID).any (· ≠ c.operationID)

def takesSlot (t : Transition CheckpointNode CheckpointEvent) : Bool :=
  match t.label with
  | .command c o _ => t.pre.memory.takes c o
  | .restart _ => false

/-- The operation commits a release of the slot. -/
def ReleasesSlot (op targetID : GoString) (slotID : ℤ)
    (t : Transition CheckpointNode CheckpointEvent) : Prop :=
  ∃ c o saved, t.label = .command c o saved ∧ c.operationID = op ∧ c.action = .release ∧
    t.post.memory.owner targetID slotID = none ∧
    ∃ st, t.post.memory.checkpointPhases.lookup op = some st ∧ st.action = some .release ∧
      st.targetID = targetID ∧ st.slotID = slotID

/-- Every operation that has a slot is its recorded owner. -/
def Held (s : CheckpointState) : Prop :=
  ∀ op st k, s.checkpointPhases.lookup op = some st → st.HasSlot k →
    s.checkpointSlots.lookup k = some op

section Taking

variable {c : CheckpointCommand} {o : CheckpointAnswers} {st : CheckpointPhaseState}
  {result : CheckpointResult} {k : GoString}

/-- An assignment commits a slot of its target that the runtime gave it. -/
theorem Commits.slot_assigned (h : Commits s c o st result) (ha : c.action = .slotAssign)
    (htarget : st.targetID = c.targetID) : ∃ slotID ∈ c.slots o,
      (st.advance c.action result).slot = slotKey c.targetID slotID ∧
        (0 ≤ c.requestedSlot → slotID = c.requestedSlot) := by
  obtain ⟨rows, slotID, hrows, hslot, hresult⟩ := (runtimeStage_slotID h.stage).2 ha
  refine ⟨slotID, ?_, ?_, assignSlot_eq hslot⟩
  · simp [CheckpointCommand.slots, hrows, Except.toOption, hslot]
  · simp [CheckpointPhaseState.slot, CheckpointPhaseState.advance, htarget, hresult]

theorem Commits.slot_unchecked (h : Commits s c o st result) (hc : c.unchecked = true) :
    ∃ slotID ∈ c.slots o, (st.advance c.action result).slot = slotKey c.targetID slotID := by
  have hassigned (ha : c.action = .slotAssign) (htarget : st.targetID = c.targetID) :
      ∃ slotID ∈ c.slots o, (st.advance c.action result).slot = slotKey c.targetID slotID := by
    obtain ⟨slotID, hmem, hslot, -⟩ := h.slot_assigned ha htarget
    exact ⟨slotID, hmem, hslot⟩
  cases h.authorizedFor with
  | fresh hl ha ht ho htarget => exact hassigned ha htarget
  | moves st₀ hl hs htarget ha =>
    have hassign : c.action = .slotAssign := by
      simp only [CheckpointCommand.unchecked, ha.1, ha.2, Bool.or_eq_true, Bool.and_eq_true,
        decide_eq_true_eq, false_or] at hc
      exact hc.1
    exact hassigned hassign (hs.targetID.trans htarget)
  | compensates st₀ hl hs hslot ha =>
    have hassign : c.action ≠ .slotAssign := by rcases ha with ⟨ha, -⟩ | ⟨ha, -⟩ <;> simp [ha]
    refine ⟨c.requestedSlot, List.mem_cons_self, ?_⟩
    rw [← hslot, CheckpointPhaseState.slot, CheckpointPhaseState.slot]
    simp [CheckpointPhaseState.advance, (runtimeStage_slotID h.stage).1 hassign, hs.targetID,
      hs.slotID]

variable (hr : Recorded s) (hh : Held s) (h : Commits s c o st result)
include hr hh h

/-- A checked commit finds its slot free or its own. -/
theorem Commits.slot_free (hc : c.unchecked = false) (hk : k = (st.advance c.action result).slot)
    (h0 : 0 ≤ (st.advance c.action result).slotID) (hop : s.checkpointSlots.lookup k = some op) :
    op = c.operationID := by
  have hcom := h.committed hr
  -- an operation with a slot holds the slot that it commits
  have hown : ∀ st₀, s.checkpointPhases.lookup c.operationID = some st₀ →
      st₀.action ≠ some .release → op = c.operationID := by
    intro st₀ hl hheld
    obtain ⟨ht, hi⟩ := hcom.kept st₀ hl hheld
    have hslot : st₀.HasSlot k :=
      ⟨by rw [hk, CheckpointPhaseState.slot, CheckpointPhaseState.slot, ht, hi], hi ▸ h0, hheld⟩
    exact Option.some.inj (hop.symm.trans (hh _ st₀ k hl hslot))
  -- an assignment names its slot, and the slot was compared
  have hnamed : c.action = .slotAssign → s.slotTaken c = false → st.targetID = c.targetID →
      op = c.operationID := by
    intro ha htaken htarget
    have hreq : 0 ≤ c.requestedSlot := by
      simpa [CheckpointCommand.unchecked, ha] using hc
    obtain ⟨slotID, -, hslot, hnamed⟩ := h.slot_assigned ha htarget
    obtain ⟨st₁, hl₁, -⟩ := hr.owned k op hop
    have hne : op ≠ [] := by
      rintro rfl
      exact absurd (hr.entry _ _ hl₁).nonblank (by decide)
    rw [hk, hslot, hnamed hreq] at hop
    simpa [slotTaken, hreq, hop, hne] using htaken
  cases h.authorizedFor with
  | fresh hl ha ht ho htarget => exact hnamed ha ht htarget
  | moves st₀ hl hs htarget ha hm ht =>
    by_cases hassign : c.action = .slotAssign
    · exact hnamed hassign (ht hassign) (hs.targetID.trans htarget)
    · have hmove := h.reaches.movesOn hr (isQuery_of_commits _ h.commits) hl hs ha.1 hm
      exact hown st₀ hl fun hrel => hassign (hmove.2.2.2.1 hrel)
  | compensates st₀ hl hs _ ha =>
    rcases ha with ⟨ha, -⟩ | ⟨ha, -⟩ <;> simp [CheckpointCommand.unchecked, ha] at hc

variable (ht : s.takes c o = false)
include ht

/-- The slot of another operation is not the slot of a commit. -/
theorem Commits.slot_ne (hop : s.checkpointSlots.lookup k = some op) (hne : op ≠ c.operationID) :
    k ≠ (st.advance c.action result).slot := by
  intro hk
  cases hc : c.unchecked with
  | true =>
    obtain ⟨slotID, hmem, hslot⟩ := h.slot_unchecked hc
    rw [takes, hc, Bool.true_and, List.any_eq_false] at ht
    have hfree := ht slotID hmem
    rw [owner, ← hslot, ← hk, hop] at hfree
    simp [hne] at hfree
  | false =>
    obtain ⟨st₁, hl₁, hs₁⟩ := hr.owned k op hop
    have h0 : 0 ≤ (st.advance c.action result).slotID := by
      rw [← (slotKey_inj (hs₁.slot.trans hk)).2]
      exact hs₁.assigned
    exact hne (h.slot_free hr hh hc hk h0 hop)

theorem Held.commit : Held (s.commitCheckpointPhase st c.action result) := by
  have hcom := h.committed hr
  intro op st' k hl hs
  rw [commit_phases hcom] at hl
  rw [commit_slots hcom]
  split_ifs at hl with hop
  · obtain rfl := Option.some.inj hl
    have hrel : c.action ≠ .release := by
      intro hrel
      exact hs.held (by rw [hcom.action, hrel])
    simp [← hs.slot, hrel, hs.assigned, hop]
  · have hold := hh op st' k hl hs
    rw [if_neg (h.slot_ne hr hh ht hold hop), hold]

end Taking

/-- The rebuilt owners are those in memory, if every operation that has a slot is its owner. -/
theorem Held.rebuild (hr : Recorded s) (hh : Held s)
    (horder : RangeOrder s.checkpointPhases order) (k : GoString) :
    (rebuildCheckpointSlotOwners s.checkpointPhases order).lookup k =
      s.checkpointSlots.lookup k := by
  cases hlive : s.checkpointSlots.lookup k with
  | some op =>
    obtain ⟨st, hl, hs⟩ := hr.owned k op hlive
    refine rebuild_complete horder hl (hr.entry op st hl) hs fun op' st' hl' hs' => ?_
    exact Option.some.inj ((hh op' st' k hl' hs').symm.trans hlive)
  | none =>
    rcases rebuild_cases horder k with ⟨hnone, -⟩ | ⟨e, hc, -⟩
    · exact hnone
    · exact absurd (hlive.symm.trans (hh e.1 e.2 k hc.lookup_eq hc.hasSlot)) nofun

section

variable (hi : Intact n ∧ Held n.memory) (h : CheckpointStep n e n')
  (ht : takesSlot ⟨n, e, n'⟩ = false)
include hi h ht

theorem Held.step (hsaved : e.saved = true) : Intact n' ∧ Held n'.memory := by
  refine ⟨hi.1.step h hsaved, ?_⟩
  obtain ⟨horder, rfl⟩ := h
  cases e with
  | restart order =>
    rw [Ordered, hi.1.synced] at horder
    intro op st k hl hs
    simp only [exec, hi.1.synced] at hl ⊢
    rw [hi.2.rebuild hi.1.recorded horder]
    exact hi.2 op st k hl hs
  | command c o saved =>
    rcases (executeCheckpoint_cases n.memory c o).2 with hsame | ⟨st, result, hcom, -, hnew⟩
    · simpa only [exec, hsame] using hi.2
    · simp only [exec, hnew]
      exact hi.2.commit hi.1.recorded hcom ht

variable {targetID : GoString} {slotID : ℤ}

/-- **The step.** The owner of a slot stays, unless it releases the slot. -/
theorem owner_step (hop : n.memory.owner targetID slotID = some op) :
    n'.memory.owner targetID slotID = some op ∨ ReleasesSlot op targetID slotID ⟨n, e, n'⟩ := by
  obtain ⟨horder, rfl⟩ := h
  cases e with
  | restart order =>
    rw [Ordered, hi.1.synced] at horder
    left
    simp only [owner, exec, hi.1.synced]
    rw [hi.2.rebuild hi.1.recorded horder]
    exact hop
  | command c o saved =>
    rcases (executeCheckpoint_cases n.memory c o).2 with hsame | ⟨st, result, hcommit, -, hnew⟩
    · left
      simpa only [exec, hsame] using hop
    · have hcom := hcommit.committed hi.1.recorded
      obtain ⟨st₀, hl, hs⟩ := hi.1.recorded.owned _ _ hop
      by_cases hne : op = c.operationID
      · subst hne
        obtain ⟨hslot, h0⟩ := hcom.slot_eq hl hs
        obtain ⟨htarget, hid⟩ := slotKey_inj hslot
        have howner := commit_slots hcom (slotKey targetID slotID)
        rw [if_pos hslot.symm] at howner
        by_cases hrel : c.action = .release
        · right
          refine ⟨c, o, saved, rfl, rfl, hrel, ?_, st.advance c.action result, ?_, ?_, htarget, hid⟩
          · simp only [exec, hnew]
            rw [owner, howner, if_pos hrel]
          · simp only [exec, hnew]
            rw [commit_phases hcom, if_pos rfl]
          · rw [hcom.action, hrel]
        · left
          simp only [exec, hnew]
          rw [owner, howner, if_neg hrel, if_pos h0]
      · left
        simp only [exec, hnew]
        rw [owner, commit_slots hcom, if_neg (hcommit.slot_ne hi.1.recorded hi.2 ht hop hne)]
        exact hop

end

theorem held_run (h : Run CheckpointStep {} tr n)
    (hkept : ∀ t ∈ tr, t.label.saved = true ∧ takesSlot t = false) :
    Intact n ∧ Held n.memory := by
  have hempty : Held {} := fun op st k hl => by simp at hl
  exact h.invariant_of (I := fun n => Intact n ∧ Held n.memory) hkept ⟨intact_empty, hempty⟩
    fun n e n' hi hs hkept => Held.step hi hs hkept.2 hkept.1

/-- **Owners give way after a release**: if a slot has two owners at two times, the first released
it in between, given that every save reaches the state file and no assignment without a named slot,
rollback or cancellation is for a slot that is recorded for another operation. -/
theorem owners_released {op op' targetID : GoString} {slotID : ℤ} (h₁ : Run CheckpointStep {} tr n₁)
    (h₂ : Run CheckpointStep n₁ tr' n₂)
    (hkept : ∀ t ∈ tr ++ tr', t.label.saved = true ∧ takesSlot t = false)
    (hop : n₁.memory.owner targetID slotID = some op)
    (hop' : n₂.memory.owner targetID slotID = some op') (hne : op ≠ op') :
    ∃ t ∈ tr', ReleasesSlot op targetID slotID t := by
  by_contra hno
  have hstays : ∀ t ∈ tr', (t.label.saved = true ∧ takesSlot t = false) ∧
      ¬ ReleasesSlot op targetID slotID t :=
    fun t ht => ⟨hkept t (List.mem_append_right _ ht), fun hrel => hno ⟨t, ht, hrel⟩⟩
  have hi := held_run h₁ fun t ht => hkept t (List.mem_append_left _ ht)
  have hend := h₂.invariant_of (I := fun n => (Intact n ∧ Held n.memory) ∧
    n.memory.owner targetID slotID = some op) hstays ⟨hi, hop⟩ fun n e n' hi hs hc =>
      ⟨Held.step hi.1 hs hc.1.2 hc.1.1, (owner_step hi.1 hs hc.1.2 hi.2).resolve_right hc.2⟩
  exact hne (Option.mem_unique hend.2 hop')

/-- **The rebuilt owners** do not depend on the order of the journal, and are the owners in memory
if every save reached the state file and no command took a slot of another operation. -/
theorem rebuilt_owners (h : Run CheckpointStep {} tr n) (horder : RangeOrder n.journal order)
    (k : GoString) :
    (∀ order', RangeOrder n.journal order' →
      (rebuildCheckpointSlotOwners n.journal order').lookup k =
        (rebuildCheckpointSlotOwners n.journal order).lookup k) ∧
    ((∀ t ∈ tr, t.label.saved = true ∧ takesSlot t = false) →
      (rebuildCheckpointSlotOwners n.journal order).lookup k =
        n.memory.checkpointSlots.lookup k) := by
  constructor
  · intro order' horder'
    rcases rebuild_cases horder k with ⟨hnone, hfree⟩ | ⟨e, hc, hown, hbest⟩
    · rcases rebuild_cases horder' k with ⟨hnone', -⟩ | ⟨e', hc', -⟩
      · rw [hnone, hnone']
      · exact absurd hc' (hfree e')
    · rcases rebuild_cases horder' k with ⟨-, hfree'⟩ | ⟨e', hc', hown', hbest'⟩
      · exact absurd hc (hfree' e)
      · rw [hown, hown', (hbest e' hc').antisymm (hbest' e hc)]
  · intro hkept
    obtain ⟨hi, hh⟩ := held_run h hkept
    rw [hi.synced] at horder ⊢
    exact hh.rebuild hi.recorded horder k

/-- A command of one of two operations on one resource, under the token of its operation. -/
def sampleCommand (second : Bool) (action : CheckpointAction) (slotID : Option ℤ) :
    CheckpointCommand where
  action := action
  operationID := if second then "B" else "A"
  ownerID := "o"
  workloadID := "w"
  targetID := "t"
  acceleratorID := "g"
  model := "m"
  runtimeIdentity := "r"
  profileFingerprint := "p"
  contextFingerprint := "c"
  generation := some (.integer 1)
  fencingToken := some (.integer (if second && action = .slotAssign then 2 else 1))
  slotID := slotID.map .integer
  compensationOf := "A"
  conversationID := "v"
  partialOutputOffset := some (.integer 0)
  required := by cases second <;> decide

/-- The answers on a node whose slot 0 is idle. -/
def idleAnswers (s : CheckpointState) : CheckpointAnswers :=
  { order := s.checkpointPhases.entries
    assigned := .ok [⟨0, false⟩] }

theorem commandStep (n : CheckpointNode) (c : CheckpointCommand) (saved : Bool) :
    CheckpointStep n (.command c (idleAnswers n.memory) saved)
      (exec n (.command c (idleAnswers n.memory) saved)) :=
  ⟨rangeOrder_entries _, rfl⟩

/-- Commands whose saves succeed. -/
def checkpointScript (commands : List CheckpointCommand) :
    List (CheckpointNode → CheckpointEvent) :=
  commands.map fun c n => .command c (idleAnswers n.memory) true

def afterCommands (commands : List CheckpointCommand) (n : CheckpointNode := {}) : CheckpointNode :=
  Run.afterScript exec n (checkpointScript commands)

theorem checkpointRun_script (commands : List CheckpointCommand) (n : CheckpointNode := {}) :
    Run CheckpointStep n (Run.script exec n (checkpointScript commands))
      (afterCommands commands n) := by
  refine Run.of_script _ ?_ _
  intro a ha n
  obtain ⟨c, -, rfl⟩ := List.mem_map.1 ha
  exact commandStep n c true

def assignFirst : CheckpointCommand := sampleCommand false .slotAssign (some 0)

/-- The first operation releases its slot, and the second gets it. -/
def reassignment : List CheckpointCommand :=
  [sampleCommand false .release (some 0), sampleCommand true .slotAssign (some 0)]

theorem released_slot_reassigned :
    let n := afterCommands [assignFirst]
    (afterCommands reassignment n).memory.owner "t" 0 = some (ofString "B") ∧
      ∃ t ∈ Run.script exec n (checkpointScript reassignment), ReleasesSlot "A" "t" 0 t := by
  have hlast : (afterCommands reassignment (afterCommands [assignFirst])).memory.owner "t" 0 =
    some (ofString "B") := by decide +kernel
  exact ⟨hlast, owners_released (checkpointRun_script [assignFirst])
    (checkpointRun_script reassignment _) (by decide +kernel) (by decide +kernel) hlast (by decide)⟩

/-- **A slot without a release.** The second operation takes the slot of the first by an assignment
that names no slot. -/
theorem automatic_assignment_takes_slot : ∃ tr n t, Run CheckpointStep {} tr n ∧
    Run CheckpointStep n [t] t.post ∧ n.memory.owner "t" 0 = some (ofString "A") ∧
    t.post.memory.owner "t" 0 = some (ofString "B") ∧ ¬ ReleasesSlot "A" "t" 0 t := by
  refine ⟨_, _, _, checkpointRun_script [assignFirst],
    Run.nil.snoc (commandStep _ (sampleCommand true .slotAssign none) true), by decide +kernel,
    by decide +kernel, ?_⟩
  rintro ⟨c, o, saved, hlabel, hop, -⟩
  obtain ⟨rfl, -⟩ := command.inj hlabel
  exact absurd hop (by decide)

theorem rebuilt_owners_reassigned :
    let n := afterCommands (assignFirst :: reassignment)
    n.memory.owner "t" 0 = some (ofString "B") ∧
    (rebuildCheckpointSlotOwners n.journal n.journal.entries.reverse).lookup (slotKey "t" 0) =
      (rebuildCheckpointSlotOwners n.journal n.journal.entries).lookup (slotKey "t" 0) ∧
    (rebuildCheckpointSlotOwners n.journal n.journal.entries).lookup (slotKey "t" 0) =
      n.memory.checkpointSlots.lookup (slotKey "t" 0) := by
  have hrebuilt := rebuilt_owners (checkpointRun_script (assignFirst :: reassignment))
    (rangeOrder_entries _) (slotKey "t" 0)
  exact ⟨by decide +kernel, hrebuilt.1 _ (List.reverse_perm _), hrebuilt.2 (by decide +kernel)⟩

/-- **Owners that a restart does not find.** The second operation takes the slot of the first and
releases it, and the first gets it back. Or the save after an assignment fails, and the slot has no
owner. -/
theorem rebuilt_owners_differ :
    (∃ tr n, Run CheckpointStep {} tr n ∧ (∀ t ∈ tr, t.label.saved = true) ∧
      n.memory.owner "t" 0 = none ∧
      (rebuildCheckpointSlotOwners n.journal n.journal.entries).lookup (slotKey "t" 0) =
        some (ofString "A")) ∧
    ∃ tr n, Run CheckpointStep {} tr n ∧ n.memory.owner "t" 0 = some (ofString "A") ∧
      (rebuildCheckpointSlotOwners n.journal n.journal.entries).lookup (slotKey "t" 0) = none :=
  ⟨⟨_, _, checkpointRun_script [assignFirst, sampleCommand true .slotAssign none,
      { sampleCommand true .release (some 0) with fencingToken := some (.integer 2) }],
      by decide +kernel⟩,
    _, _, Run.nil.snoc (commandStep {} assignFirst false), by decide +kernel⟩

/-! ## The end of an operation -/

/-- A cancellation of the operation, released for good, that is authorized and names its
conversation and what it compensates. -/
def cancelsReleased (op : GoString) (t : Transition CheckpointNode CheckpointEvent) : Bool :=
  match t.label with
  | .command c o _ =>
    c.operationID = op && c.action = .cancel && t.pre.memory.phaseOf op = 15 &&
      (t.pre.memory.authorizeCheckpointPhase c o.order).isOk && c.conversationID ≠ [] &&
      c.compensationOf = op
  | .restart _ => false

section Final

variable {c : CheckpointCommand} {o : CheckpointAnswers} {st : CheckpointPhaseState}
  {result : CheckpointResult} {saved : Bool}

theorem phaseOf_eq (h : s.checkpointPhases.lookup op = some st₀) : s.phaseOf op = st₀.phase := by
  simp [phaseOf, h]

theorem Recorded.phaseOf_le (hr : Recorded s) (op : GoString) : s.phaseOf op ≤ 15 := by
  cases hl : s.checkpointPhases.lookup op with
  | none => simp [phaseOf, hl]
  | some st =>
    obtain ⟨last, -, hphase⟩ := (hr.entry _ _ hl).phased
    rw [phaseOf_eq hl]
    exact le_of_atPhase last _ hphase

theorem Recorded.unowned (hr : Recorded s) (h : s.phaseOf op = 15) (targetID : GoString)
    (slotID : ℤ) : s.owner targetID slotID ≠ some op := by
  intro hop
  obtain ⟨st, hl, hs⟩ := hr.owned _ _ hop
  obtain ⟨last, hlast, hphase⟩ := (hr.entry _ _ hl).phased
  rw [← phaseOf_eq hl, h] at hphase
  exact hs.held (by rw [hlast, release_of_atPhase last hphase])

theorem cancel_calls (ha : c.action = .cancel) :
    (c.runtimeStage o).1 = [] ∧ (∀ result, (c.runtimeStage o).2 ≠ .ok result) ∨
      c.conversationID ≠ [] ∧ c.compensationOf = c.operationID := by
  simp only [CheckpointCommand.runtimeStage, ha]
  split_ifs with hconversation hcompensation
  · exact .inl ⟨rfl, fun _ h => by cases h⟩
  · exact .inl ⟨rfl, fun _ h => by cases h⟩
  · exact .inr ⟨hconversation, not_not.1 (not_or.1 hcompensation).2⟩

theorem query_calls (hq : c.action.isQuery = true) : (c.runtimeStage o).1 = [.querySlots] := by
  simp only [CheckpointAction.isQuery, Bool.or_eq_true, decide_eq_true_eq] at hq
  rcases hq with hq | hq <;> simp [CheckpointCommand.runtimeStage, hq]

/-- After its final release, only a cancellation of the operation reaches the runtime. -/
theorem cancel_of_reaches (hr : Recorded s) (h : Reaches s c o st)
    (hq : c.action.isQuery = false) (h15 : s.phaseOf c.operationID = 15) : c.action = .cancel := by
  cases h.authorizedFor hq with
  | fresh hl => simp [phaseOf, hl] at h15
  | moves st₀ hl hs hc ha hm ht =>
    rw [phaseOf_eq hl] at h15
    exact absurd h15 (h.movesOn hr hq hl hs ha.1 hm).2.2.1
  | compensates st₀ hl hs _ ha =>
    rcases ha with ⟨-, -, hlt⟩ | ⟨ha, -⟩
    · have hown := (linkedState_cases hr hl).2
      cases hl' : s.checkpointPhases.lookup c.operationID with
      | none => simp [phaseOf, hl'] at h15
      | some st₁ =>
        obtain rfl := hown st₁ hl'
        rw [phaseOf_eq hl'] at h15
        rw [h15] at hlt
        exact absurd hlt (by decide)
    · exact ha

/-- A commit does not lower the phase of its operation, unless it cancels a released one. -/
theorem Commits.phase_le (hr : Recorded s) (h : Commits s c o st result)
    (hc : s.phaseOf c.operationID = 15 → c.action ≠ .cancel) :
    s.phaseOf c.operationID ≤ (st.advance c.action result).phase := by
  have hphase : (st.advance c.action result).phase =
      checkpointPhaseFor st.phase st.action c.action := rfl
  cases h.authorizedFor with
  | fresh hl => simp [phaseOf, hl]
  | moves st₀ hl hs htarget ha hm ht =>
    rw [phaseOf_eq hl, hphase, hs.phase, hs.action]
    exact (h.reaches.movesOn hr (isQuery_of_commits _ h.commits) hl hs ha.1 hm).1
  | compensates st₀ hl hs _ ha =>
    have hown := (linkedState_cases hr hl).2
    cases hl' : s.checkpointPhases.lookup c.operationID with
    | none => simp [phaseOf, hl']
    | some st₁ =>
      obtain rfl := hown st₁ hl'
      rcases ha with ⟨ha, h₁, h₂⟩ | ⟨ha, -⟩
      · rw [phaseOf_eq hl', hphase, ha, hs.phase, checkpointPhaseFor_rollbackResume h₁ h₂]
        exact Nat.le_of_lt_succ h₂
      · rw [hphase, ha, checkpointPhaseFor_cancel]
        have hle := hr.phaseOf_le c.operationID
        have hne : s.phaseOf c.operationID ≠ 15 := fun h15 => hc h15 ha
        omega

theorem commit_phaseOf (h : Committed s c (st.advance c.action result)) (op : GoString) :
    (s.commitCheckpointPhase st c.action result).phaseOf op =
      if op = c.operationID then (st.advance c.action result).phase else s.phaseOf op := by
  rw [phaseOf, commit_phases h]
  split_ifs <;> rfl

/-- A cancellation of a released operation that is authorized stops before the runtime. -/
theorem cancel_refused (hno : cancelsReleased op ⟨n, .command c o saved, n'⟩ = false)
    (hop : c.operationID = op) (ha : c.action = .cancel) (h15 : n.memory.phaseOf op = 15)
    (hreach : Reaches n.memory c o st) :
    (c.runtimeStage o).1 = [] ∧ ∀ result, (c.runtimeStage o).2 ≠ .ok result := by
  rcases cancel_calls (o := o) ha with hrefused | ⟨hconversation, hcompensation⟩
  · exact hrefused
  · simp [cancelsReleased, hop, ha, h15, hreach.authorized, Except.isOk, Except.toBool,
      hconversation, hcompensation] at hno

section

variable (hi : Intact n) (h : CheckpointStep n e n') (hno : cancelsReleased op ⟨n, e, n'⟩ = false)
include hi h hno

/-- **The step.** The phase does not fall. -/
theorem phaseOf_step : n.memory.phaseOf op ≤ n'.memory.phaseOf op := by
  obtain ⟨-, rfl⟩ := h
  cases e with
  | restart order => simp [exec, phaseOf, hi.synced]
  | command c o saved =>
    rcases (executeCheckpoint_cases n.memory c o).2 with hsame | ⟨st, result, hcom, -, hnew⟩
    · exact (congrArg (phaseOf · op) hsame).ge
    · simp only [exec, hnew, commit_phaseOf (hcom.committed hi.recorded)]
      split_ifs with hop
      · rw [hop]
        refine hcom.phase_le hi.recorded fun h15 ha => ?_
        exact (cancel_refused hno hop.symm ha (hop ▸ h15) hcom.reaches).2 result hcom.stage
      · exact le_rfl

/-- **The step after the final release.** The commands of the operation act on no slot. -/
theorem calls_step (hlabel : e = .command c o saved) (hop : c.operationID = op)
    (h15 : n.memory.phaseOf op = 15) :
    ∀ call ∈ (n.memory.executeCheckpoint c o).calls, call.acts = false := by
  subst hlabel
  rcases (executeCheckpoint_cases n.memory c o).1 with hnone | ⟨st, hreach, hcalls⟩
  · simp [hnone]
  · cases hq : c.action.isQuery with
    | true =>
      rw [hcalls, query_calls hq]
      decide
    | false =>
      have hcancel := cancel_of_reaches hi.recorded hreach hq (hop ▸ h15)
      rw [hcalls, (cancel_refused hno hop hcancel h15 hreach).1]
      exact nofun

end

end Final

/-- **The end of an operation.** Its phase never falls, and after its final release it owns no slot
and acts on none, if every save reaches the state file and the operation is not cancelled after the
release. -/
theorem released_final (h₁ : Run CheckpointStep {} tr n₁) (h₂ : Run CheckpointStep n₁ tr' n₂)
    (op : GoString)
    (hkept : ∀ t ∈ tr ++ tr', t.label.saved = true ∧ cancelsReleased op t = false) :
    (∀ t ∈ tr', t.pre.memory.phaseOf op ≤ t.post.memory.phaseOf op) ∧
    (n₁.memory.phaseOf op = 15 → ∀ t ∈ tr',
      (∀ targetID slotID, t.post.memory.owner targetID slotID ≠ some op) ∧
      ∀ c o saved, t.label = .command c o saved → c.operationID = op →
        ∀ call ∈ (t.pre.memory.executeCheckpoint c o).calls, call.acts = false) := by
  have hi : Intact n₁ := h₁.invariant_of (fun t ht => hkept t (List.mem_append_left _ ht))
    intact_empty fun _ _ _ hi hs hkept => hi.step hs hkept.1
  have hkept' : ∀ t ∈ tr', t.label.saved = true ∧ cancelsReleased op t = false :=
    fun t ht => hkept t (List.mem_append_right _ ht)
  refine ⟨(h₂.observe_of hkept' hi fun n e n' hi hs hkept =>
    ⟨hi.step hs hkept.1, phaseOf_step hi hs hkept.2⟩).2, fun h15 => ?_⟩
  refine (h₂.observe_of (I := fun n => Intact n ∧ n.memory.phaseOf op = 15) hkept' ⟨hi, h15⟩
    fun n e n' hi hs hkept => ?_).2
  -- the phase stays at the end, which is the highest
  have hpost := hi.1.step hs hkept.1
  have hle := phaseOf_step hi.1 hs hkept.2
  have hle' := hpost.recorded.phaseOf_le op
  have h15 : n'.memory.phaseOf op = 15 := by omega
  exact ⟨⟨hpost, h15⟩, hpost.recorded.unowned h15,
    fun c o saved hlabel hop => calls_step hi.1 hs hkept.2 hlabel hop hi.2⟩

/-- An operation through its final release. -/
def releasedCommands : List CheckpointCommand :=
  [assignFirst, sampleCommand false .rollbackResume (some 0), sampleCommand false .release (some 0)]

/-- A repeated release acts on no slot. -/
theorem released_operation_final :
    let n := afterCommands releasedCommands
    let c := sampleCommand false .release (some 0)
    n.memory.phaseOf "A" = 15 ∧
      ∀ call ∈ (n.memory.executeCheckpoint c (idleAnswers n.memory)).calls, call.acts = false := by
  refine ⟨by decide +kernel, ?_⟩
  have hfinal := released_final (checkpointRun_script releasedCommands)
    (checkpointRun_script [sampleCommand false .release (some 0)] _) "A" (by decide +kernel)
  exact (hfinal.2 (by decide +kernel) _ List.mem_cons_self).2 _ _ _ rfl rfl

/-- **A cancellation after the release.** It lowers the phase from 15 to 14, and the operation owns
its slot again. -/
theorem cancel_after_release : ∃ tr n t, Run CheckpointStep {} tr n ∧
    Run CheckpointStep n [t] t.post ∧ n.memory.phaseOf "A" = 15 ∧
    t.post.memory.phaseOf "A" = 14 ∧ t.post.memory.owner "t" 0 = some (ofString "A") :=
  ⟨_, _, _, checkpointRun_script releasedCommands,
    Run.nil.snoc (commandStep _ (sampleCommand false .cancel (some 0)) true), by decide +kernel⟩

end VramGovernor.NodeAgent
