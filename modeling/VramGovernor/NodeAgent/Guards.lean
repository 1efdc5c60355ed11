import VramGovernor.NodeAgent.Handle

/-!
# What guards the executions of a node

The fences of a processor cover the executions when the fence of every resource is at least the
token of every mutation of it that ran. A processor guards the executions when its fences cover
them or when it is sealed: blocked for a reason that admits no mutation and that every later save
and load keeps. The same is said of the disk. A step that leaves the fences alone and breaks no seal
keeps all this (`Processor.Quiet`), and so do a save (`Processor.save_ok`, `Processor.save_crash`)
and a start (`Disk.Guards.start`).
-/

namespace VramGovernor.NodeAgent

open GoString Processor

/-! ## Resources and executions -/

def IsCheckpointSlot (resource : GoString) : Prop :=
  ∃ slotID, resource = Config.checkpointResource slotID

/-- The key fences a resource whose mutations are checked. -/
def OrderedKey (key : GoString) : Prop :=
  ∃ target resource, key = fenceKey target resource ∧ ¬ IsCheckpointSlot resource

/-- Every fence is at least the tokens that ran under it. -/
def Covers (fences : GoMap ℤ) (executed : List Execution) : Prop :=
  ∀ e ∈ executed, OrderedKey e.key → ∃ fence, fences.lookup e.key = some fence ∧ e.token ≤ fence

def Increasing (executed : List Execution) : Prop :=
  executed.Pairwise fun e e' => OrderedKey e.key → e'.key = e.key → e.token < e'.token

section Covers

variable {fences fences' : GoMap ℤ} {executed : List Execution} {key : GoString} {token : ℤ}

theorem Covers.congr (h : Covers fences executed)
    (hsame : ∀ key, fences'.lookup key = fences.lookup key) : Covers fences' executed := by
  intro e he hkey
  rw [hsame]
  exact h e he hkey

/-- The new token is above what ran under its key. -/
def Above (executed : List Execution) (key : GoString) (token : ℤ) : Prop :=
  ∀ e ∈ executed, OrderedKey e.key → e.key = key → e.token < token

theorem Covers.insert (h : Covers fences executed)
    (hle : ∀ e ∈ executed, OrderedKey e.key → e.key = key → e.token ≤ token) :
    Covers (fences.insert key token) executed := by
  intro e he hkey
  by_cases hk : e.key = key
  · exact ⟨token, by rw [hk, AList.lookup_insert], hle e he hkey hk⟩
  · rw [AList.lookup_insert_ne hk]
    exact h e he hkey

theorem Covers.insert_above (h : Covers fences executed) (habove : Above executed key token) :
    Covers (fences.insert key token) executed :=
  h.insert fun e he hkey hk => (habove e he hkey hk).le

theorem Covers.append (h : Covers fences executed) {e : Execution}
    (he : fences.lookup e.key = some e.token) : Covers fences (executed ++ [e]) := by
  intro e' he' hkey
  rw [List.mem_append, List.mem_singleton] at he'
  obtain hold | rfl := he'
  · exact h e' hold hkey
  · exact ⟨e'.token, he, le_rfl⟩

theorem Increasing.append (h : Increasing executed) {e : Execution}
    (habove : Above executed e.key e.token) : Increasing (executed ++ [e]) := by
  refine List.pairwise_append.2 ⟨h, List.pairwise_singleton _ _, ?_⟩
  intro e' he' e'' he'' hkey hsame
  rw [List.mem_singleton] at he''
  subst he''
  exact habove e' he' hkey hsame.symm

end Covers

/-! ## Sealed processors -/

namespace Processor

variable {p q : Processor} {executed : List Execution}

/-- The processor is blocked for a reason that only an operator lifts. -/
def Sealed (p : Processor) : Prop :=
  p.stateBlocked = true ∧ ∃ reason, p.stateBlockReason = some reason ∧ reason ≠ .warmTransient

theorem block_sealed {reason : BlockReason} (h : reason ≠ .warmTransient) :
    (p.block reason).Sealed := by
  refine ⟨rfl, ?_⟩
  unfold block
  split_ifs with hraised
  · exact ⟨reason, rfl, h⟩
  · -- the reason that stays has at least the rank of the new one
    cases hreason : p.stateBlockReason with
    | none => cases reason <;> simp_all [blockReasonRank]
    | some old => cases reason <;> cases old <;> simp_all [blockReasonRank]

theorem Sealed.block (h : p.Sealed) (reason : BlockReason) : (p.block reason).Sealed := by
  obtain ⟨hblocked, old, hold, hne⟩ := h
  by_cases hreason : reason = .warmTransient
  · refine ⟨rfl, old, ?_, hne⟩
    cases old <;> simp_all [Processor.block, blockReasonRank]
  · exact block_sealed hreason

theorem Sealed.clearWarmBlock (h : p.Sealed) : p.clearWarmBlock.Sealed := by
  obtain ⟨-, reason, hreason, hne⟩ := id h
  unfold Processor.clearWarmBlock
  rw [if_neg (by simp [hreason, hne])]
  exact h

/-- The step leaves the fences alone and breaks no seal. -/
structure Quiet (p q : Processor) : Prop where
  fences : q.fences = p.fences
  keeps_seal : p.Sealed → q.Sealed

theorem Quiet.trans {r : Processor} (h : p.Quiet q) (h' : q.Quiet r) : p.Quiet r :=
  ⟨h'.fences.trans h.fences, fun hs => h'.keeps_seal (h.keeps_seal hs)⟩

variable (p)

theorem quiet_refl : p.Quiet p := ⟨rfl, id⟩

theorem quiet_block (reason : BlockReason) : p.Quiet (p.block reason) :=
  ⟨rfl, fun h => h.block reason⟩

theorem quiet_clearWarmBlock : p.Quiet p.clearWarmBlock := by
  refine ⟨?_, Sealed.clearWarmBlock⟩
  unfold clearWarmBlock
  split_ifs <;> rfl

theorem quiet_settle (s : Settlement) : p.Quiet (p.settle s) := ⟨rfl, id⟩

variable (command : NodeCommand) (intent : Option PendingCommand) (key : GoString)

theorem quiet_retire (retain : Bool) : p.Quiet (p.retire command intent key retain) := by
  cases retain with
  | true => exact p.quiet_block _
  | false =>
    cases intent with
    | none => exact p.quiet_settle _
    | some intent => exact (p.quiet_settle _).trans (quiet_clearWarmBlock _)

theorem quiet_reinstate : p.Quiet (p.reinstate command intent key) := by
  cases intent with
  | none => exact p.quiet_block _
  | some intent => exact ⟨rfl, fun h => ⟨rfl, (h.block .durability).2⟩⟩

variable {p}

/-! ## What guards the executions -/

/-- The processor admits no mutation, or its fences cover the executions. -/
def Guards (p : Processor) (executed : List Execution) : Prop := p.Sealed ∨ Covers p.fences executed

theorem Guards.quiet (h : p.Guards executed) (hq : p.Quiet q) : q.Guards executed := by
  obtain hsealed | hcovers := h
  · exact .inl (hq.keeps_seal hsealed)
  · refine .inr ?_
    rw [hq.fences]
    exact hcovers

end Processor

/-- A load of the saved state would give a processor that guards the executions. -/
def CommandStatePayload.Guards (s : CommandStatePayload) (executed : List Execution) : Prop :=
  (∃ reason, s.blockReason = some reason ∧ reason ≠ .warmTransient) ∨ Covers s.fences executed

/-- A load of the disk gives a processor that guards the executions. A journal without a primary is
evidence of a lost one. -/
def Disk.Guards (d : Disk) (executed : List Execution) : Prop :=
  (∃ reason, d.marker = some reason ∧ reason ≠ .warmTransient) ∨
    match d.primary with
    | some payload => payload.Guards executed
    | none => d.journal = true ∨ executed = []

section Saving

variable {p p' : Processor} {d d' : Disk} {executed : List Execution} {o : SaveOutcome}

theorem Processor.Guards.payload (h : p.Guards executed) :
    p.commandStatePayload.Guards executed := by
  obtain ⟨-, hreason⟩ | hcovers := h
  · exact .inl hreason
  · exact .inr hcovers

theorem Disk.guards_renamed {payload : CommandStatePayload} (h : payload.Guards executed) :
    (d.reach payload .renamed).Guards executed := .inr h

theorem Disk.Guards.reach (h : d.Guards executed) {payload : CommandStatePayload}
    (hpayload : payload.Guards executed) (stage : SaveStage) :
    (d.reach payload stage).Guards executed := by
  cases stage with
  | unprepared => exact h
  | prepared =>
    obtain hmarker | hprimary := h
    · exact .inl hmarker
    · refine .inr ?_
      cases hp : d.primary with
      | some payload => simpa [Disk.reach, hp] using hprimary
      | none => simp [Disk.reach, hp]
  | renamed => exact Disk.guards_renamed hpayload

/-- **A save that returns** keeps what guards the executions, on the disk and in memory. -/
theorem Processor.save_ok {saved : Bool} (h : p.save d o = .ok (p', d', saved))
    (hp : p.Guards executed) (hd : d.Guards executed) : p.Quiet p' ∧ d'.Guards executed := by
  cases o with
  | completes =>
    cases h
    exact ⟨p.quiet_refl, hd.reach hp.payload _⟩
  | fails reached marked =>
    cases h
    refine ⟨p.quiet_block _, ?_⟩
    cases marked with
    | true => exact .inl ⟨.durability, rfl, by simp⟩
    | false => exact hd.reach hp.payload reached
  | crashes reached => cases h

theorem Processor.save_crash (h : p.save d o = .error d') (hp : p.Guards executed)
    (hd : d.Guards executed) : d'.Guards executed := by
  cases o with
  | completes | fails reached marked => cases h
  | crashes reached =>
    cases h
    exact hd.reach hp.payload reached

theorem Processor.save_true (h : p.save d o = .ok (p', d', true)) :
    p' = p ∧ d' = d.reach p.commandStatePayload .renamed := by
  cases o with
  | completes =>
    cases h
    exact ⟨rfl, rfl⟩
  | fails reached marked | crashes reached => cases h

end Saving

/-! ## Loading -/

section Loading

variable {p : Processor} {d : Disk} {executed : List Execution}

theorem Processor.quarantineState_sealed (q : Quarantine) : (p.quarantineState d q).1.Sealed := by
  cases q with
  | unmarked | stuck marked => exact block_sealed (by simp)
  | moved synced marked =>
    cases synced <;> cases marked <;> exact block_sealed (by simp)

theorem Disk.Guards.quarantineState (h : d.Guards executed) (q : Quarantine) :
    (p.quarantineState d q).2.Guards executed := by
  cases q with
  | unmarked => exact h
  | moved synced marked =>
    refine .inl ?_
    cases marked with
    | false => exact ⟨.corrupt, rfl, by simp⟩
    | true =>
      have hcorrupt : (p.block .corrupt).Sealed := block_sealed (by simp)
      cases synced with
      | true => exact hcorrupt.2
      | false => exact (hcorrupt.block .quarantine).2
  | stuck marked =>
    refine .inl ?_
    cases marked with
    | false => exact ⟨.corrupt, rfl, by simp⟩
    | true =>
      have hblocked : (p.block .quarantine).Sealed := block_sealed (by simp)
      exact hblocked.2

theorem Processor.loadPending_quiet (payload : CommandStatePayload) :
    p.Quiet (p.loadPending payload) := by
  unfold loadPending
  split_ifs
  · exact p.quiet_refl
  · exact ⟨rfl, fun h => Sealed.block h _⟩

theorem Processor.takeOver_fences (p : Processor) (d : Disk) (payload : CommandStatePayload)
    (l : LoadCircumstances) : (p.takeOver d payload l).fences = payload.fences := by
  unfold takeOver
  cases payload.blockReason <;> dsimp only <;> split_ifs <;> rfl

theorem Processor.Sealed.takeOver (h : p.Sealed) (d : Disk) (payload : CommandStatePayload)
    (l : LoadCircumstances) : (p.takeOver d payload l).Sealed := by
  have hfences : Processor.Sealed { p with fences := payload.fences } := h
  unfold Processor.takeOver
  cases payload.blockReason with
  | none =>
    split_ifs
    · exact hfences.block _
    · exact hfences
  | some reason =>
    split_ifs
    · exact (hfences.block _).block _
    · exact hfences.block _

theorem Processor.guards_takeOver {payload : CommandStatePayload}
    (h : p.Sealed ∨ payload.Guards executed) (l : LoadCircumstances) :
    (p.takeOver d payload l).Guards executed := by
  obtain hsealed | ⟨reason, hreason, hne⟩ | hcovers := h
  · exact .inl (hsealed.takeOver d payload l)
  · refine .inl ?_
    simp only [takeOver, hreason]
    exact block_sealed hne
  · refine .inr ?_
    rw [takeOver_fences]
    exact hcovers

theorem Disk.Guards.loadPayload (h : d.Guards executed) {payload : CommandStatePayload}
    (hpayload : p.Sealed ∨ payload.Guards executed) (l : LoadCircumstances) :
    (p.loadPayload d payload l).1.Guards executed ∧
      (p.loadPayload d payload l).2.Guards executed := by
  have htaken : (p.takeOver d payload l).Guards executed := guards_takeOver hpayload l
  unfold Processor.loadPayload
  split_ifs
  · exact ⟨htaken.quiet (loadPending_quiet payload), h⟩
  · exact ⟨.inl (quarantineState_sealed _), h.quarantineState _⟩

/-- `p` is what the recovery marker made of an empty processor. -/
theorem Disk.Guards.loadPrimary (h : d.Guards executed) (l : LoadCircumstances)
    (hmarker : ∀ reason, d.marker = some reason → reason ≠ .warmTransient → p.Sealed) :
    (p.loadPrimary d l).1.Guards executed ∧ (p.loadPrimary d l).2.Guards executed := by
  unfold Processor.loadPrimary
  cases hp : d.primary with
  | none =>
    refine ⟨?_, h⟩
    dsimp only
    split_ifs with hevidence
    · exact .inl (block_sealed (by simp))
    · -- no evidence of an earlier state: nothing ran
      simp only [Bool.or_eq_true, not_or, Option.not_isSome_iff_eq_none] at hevidence
      obtain ⟨reason, hreason, -⟩ | hnone := h
      · simp [hreason] at hevidence
      · simp only [hp, hevidence.2, Bool.false_eq_true, false_or] at hnone
        exact .inr fun e he => by simp [hnone] at he
  | some payload =>
    have hpayload : p.Sealed ∨ payload.Guards executed := by
      obtain ⟨reason, hreason, hne⟩ | hsome := id h
      · exact .inl (hmarker reason hreason hne)
      · exact .inr (by simpa only [hp] using hsome)
    dsimp only
    split_ifs
    · exact ⟨.inl (block_sealed (by simp)), h⟩
    · exact ⟨.inl (quarantineState_sealed _), h.quarantineState _⟩
    · exact h.loadPayload hpayload l

/-- **A start from a disk that guards the executions** gives a processor that guards them. -/
theorem Disk.Guards.start (h : d.Guards executed) (l : LoadCircumstances) :
    (d.start l).1.Guards executed ∧ (d.start l).2.Guards executed := by
  have hload : (d.load l).1.Guards executed ∧ (d.load l).2.Guards executed := by
    unfold Disk.load
    cases hm : d.marker with
    | none => exact h.loadPrimary l (by simp [hm])
    | some reason =>
      split_ifs
      · exact ⟨.inl (block_sealed (by simp)), h⟩
      · refine h.loadPrimary l fun reason' hreason hne => ?_
        rw [hm, Option.some.injEq] at hreason
        exact block_sealed (by rwa [hreason])
  unfold Disk.start
  split_ifs
  · exact ⟨hload.1.quiet (quiet_block _ _), hload.2⟩
  · exact hload

end Loading

end VramGovernor.NodeAgent
