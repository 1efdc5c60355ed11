import VramGovernor.Foundations.Run
import VramGovernor.NodeAgent.WriteAhead

/-!
# Mutations of a resource run in the order of their tokens

A mutation reaches the runtime after its token was checked against the fence in memory and saved
with it, so the fences of memory and disk cover the executions. A fence is lowered in two cases
only: a command that expires before its execution, or whose journal fails, puts back the fence it
found; and a load that loses the primary leaves a sealed processor. Hence the tokens that ran on a
resource increase strictly (`Node.fencing_tokens_increase`). A checkpoint takes its slot without a
check, so slots are not ordered in this way.
-/

namespace VramGovernor.NodeAgent

open GoString Processor

variable {cfg : Config} {command : NodeCommand} {c : Circumstances}

/-! ## Execution -/

theorem Processor.commitStage_of_not {p : Processor} (h : command.name.commitsFence = false)
    (commits : Bool) : p.commitStage cfg command commits = p := by
  unfold commitStage
  cases cfg.routerTarget command.targetID <;> simp [h]

variable {h : Handling}

/-- A commit writes the token that the fence already has. -/
theorem Armed.covers_commitStage {fence : RaisedFence} (ha : Armed cfg command h fence)
    (commits : Bool) :
    Covers (h.processor.commitStage cfg command commits).fences
      (h.executed ++ [fence.execution command]) := by
  cases hc : command.name.commitsFence with
  | false =>
    rw [commitStage_of_not hc]
    exact ha.memory
  | true =>
    obtain ⟨htoken, server, hserver, hkey⟩ := ha.commits hc
    simp only [commitStage, hserver, hc, Bool.true_and]
    split_ifs
    · simp only [commitFence, htoken, ← hkey]
      refine ha.memory.insert fun e he hordered hk => ?_
      rw [List.mem_append, List.mem_singleton] at he
      obtain hold | rfl := he
      · exact (ha.above e hold hordered hk).le
      · exact le_rfl
    · exact ha.memory

theorem Processor.afterExecution_quiet (p : Processor) (cfg : Config) (command : NodeCommand)
    (outcome : Outcome) :
    (p.commitStage cfg command outcome.commits).Quiet (p.afterExecution cfg command outcome) := by
  unfold afterExecution
  split_ifs
  · exact (quiet_settle _ _).trans (quiet_clearWarmBlock _)
  · exact quiet_settle _ _

section

variable (hf : h.Fenced)
include hf

theorem Handling.Fenced.executeStage (hready : h.Ready cfg command) :
    (h.executeStage cfg command c).Fenced := by
  unfold Handling.executeStage
  split_ifs with herror hexpired
  · exact hf
  all_goals
    rw [Bool.not_eq_true, Option.isSome_eq_false_iff, Option.isNone_iff_eq_none] at herror
    have hready := hready herror
  · -- expired before the execution: the fence that was found comes back
    cases hfence : h.fence with
    | none => exact ⟨hf.memory, hf.disk, hf.increasing⟩
    | some fence =>
      rw [hfence] at hready
      exact ⟨.inr hready.restores, hf.disk, hf.increasing⟩
  · cases hfence : h.fence with
    | none =>
      rw [hfence] at hready
      have hquiet : h.processor.Quiet (h.processor.afterExecution cfg command c.outcome) := by
        have := h.processor.afterExecution_quiet cfg command c.outcome
        rwa [commitStage_of_not hready] at this
      exact ⟨hf.memory.quiet hquiet, hf.disk, hf.increasing⟩
    | some fence =>
      rw [hfence] at hready
      have hcommitted : (h.processor.commitStage cfg command c.outcome.commits).Guards
          (h.executed ++ [fence.execution command]) := .inr (hready.covers_commitStage _)
      exact ⟨hcommitted.quiet (afterExecution_quiet _ _ _ _), hready.disk,
        hf.increasing.append hready.above⟩

/-! ## Settlement and the last save -/

theorem Handling.Fenced.unreconciled (failed : Bool) : (h.unreconciled command failed).Fenced := by
  unfold Handling.unreconciled
  split_ifs
  · exact hf.quiet (quiet_block _ _) _
  · exact hf

theorem Handling.Fenced.settleProof (o : SaveOutcome) (proof : QueryProof) :
    Keeps (h.settleProof command o proof) Handling.Fenced := by
  cases proof with
  | nothing => exact hf
  | rejected => exact hf.unreconciled true
  | retires s =>
    have hsettled := hf.quiet ((quiet_settle h.processor s).trans
      (quiet_clearWarmBlock _)) h.error
    have hsave := hsettled.keeps_save o
    unfold Handling.settleProof
    dsimp only
    split
    · next hs => rwa [hs] at hsave
    · next h' saved hs =>
      rw [hs] at hsave
      exact hsave.1.unreconciled _

theorem Handling.Fenced.settleStage : Keeps (h.settleStage command c) Handling.Fenced := by
  unfold Handling.settleStage
  split_ifs
  · exact hf.settleProof _ _
  · exact hf

theorem Handling.Fenced.finishStage (intent : Option PendingCommand) :
    Keeps (h.finishStage command intent c) fun r => r.1.Fenced := by
  unfold Handling.finishStage
  extract_lets retain key
  have hretired := hf.quiet (quiet_retire h.processor command intent key retain) h.error
  have hsave := hretired.keeps_save c.finalSave
  split
  · next hs => rwa [hs] at hsave
  · next h' hs =>
    rw [hs] at hsave
    exact hsave.1
  · next h' hs =>
    rw [hs] at hsave
    exact hsave.1.quiet (quiet_reinstate _ _ _ _) _

theorem Handling.Fenced.run (hfence : h.fence = none)
    (hsealed : h.processor.Sealed → command.name.isQuery = true) :
    Keeps (h.run cfg command c) fun r => r.1.Fenced := by
  refine (Handling.intend_keeps hf hfence hsealed).bind fun r hr => ?_
  exact (hr.1.executeStage hr.2).settleStage.bind fun h' hf' => hf'.finishStage r.2

end

/-! ## Runs of a node -/

/-- What a node does next: a command, the end of the process and its restart, a reconciliation. -/
inductive NodeAction
  | handle (command : NodeCommand) (c : Circumstances)
  | restart (l : LoadCircumstances)
  | reconcile (r : Reconciliation)

def NodeAction.exec (cfg : Config) (n : Node) : NodeAction → Node
  | .handle command c => (n.handle cfg command c).1
  | .restart l => (⟨n.disk, n.executed⟩ : Crash).restart l
  | .reconcile r => n.reconcile r

def NodeAction.Step (cfg : Config) (n : Node) (a : NodeAction) (n' : Node) : Prop :=
  n' = a.exec cfg n

namespace Node

variable {n : Node}

structure Fenced (n : Node) : Prop where
  memory : n.processor.Guards n.executed
  disk : n.disk.Guards n.executed
  increasing : Increasing n.executed

theorem fenced_restart {crash : Crash} (hf : crash.Fenced) (l : LoadCircumstances) :
    (crash.restart l).Fenced :=
  ⟨(hf.disk.start l).1, (hf.disk.start l).2, hf.increasing⟩

theorem Fenced.handle (hf : n.Fenced) (command : NodeCommand) (c : Circumstances) :
    (n.handle cfg command c).1.Fenced := by
  unfold Node.handle
  extract_lets normalized
  cases c.refusal with
  | some message => exact hf
  | none =>
    split_ifs
    · exact hf
    · cases hgate : n.processor.gate cfg normalized c with
      | some reply => exact hf
      | none =>
        have hhandling : Handling.Fenced ⟨n.processor, n.disk, n.executed, none, none, false⟩ :=
          ⟨hf.memory, hf.disk, hf.increasing⟩
        have hrun : Keeps (Handling.run ⟨n.processor, n.disk, n.executed, none, none, false⟩ cfg
            normalized c) fun r => r.1.Fenced :=
          hhandling.run rfl fun hsealed => isQuery_of_gate hsealed hgate
        dsimp only
        split
        · next crash hr =>
          rw [hr] at hrun
          exact fenced_restart hrun _
        · next h reply hr =>
          rw [hr] at hrun
          exact ⟨hrun.memory, hrun.disk, hrun.increasing⟩

theorem Fenced.reconcile (hf : n.Fenced) (r : Reconciliation) : (n.reconcile r).Fenced := by
  unfold Node.reconcile
  split_ifs
  · exact hf
  extract_lets settled p
  have hquiet : n.processor.Quiet p := by
    refine (quiet_settle _ r.settlement).trans ?_
    by_cases hleft : (r.unresolved || !settled.pending.entries.isEmpty) = true
    · simp only [p, hleft, if_true]
      exact quiet_block _ _
    · simp only [p, hleft]
      exact quiet_clearWarmBlock _
  have hp : p.Guards n.executed := hf.memory.quiet hquiet
  cases hs : p.save n.disk r.save with
  | error disk => exact fenced_restart ⟨save_crash hs hp hf.disk, hf.increasing⟩ _
  | ok result =>
    obtain ⟨q, d, saved⟩ := result
    obtain ⟨hq, hd⟩ := save_ok hs hp hf.disk
    cases saved with
    | true => exact ⟨hp.quiet hq, hd, hf.increasing⟩
    | false =>
      have hreopened : q.Quiet ((q.reopen n.processor.pending).block .durability) :=
        ⟨rfl, fun _ => block_sealed (by simp)⟩
      exact ⟨(hp.quiet hq).quiet hreopened, hd, hf.increasing⟩

theorem Fenced.step {n' : Node} {a : NodeAction} (hf : n.Fenced) (h : a.Step cfg n n') :
    n'.Fenced := by
  subst h
  cases a with
  | handle command c => exact hf.handle command c
  | restart l => exact fenced_restart ⟨hf.disk, hf.increasing⟩ l
  | reconcile r => exact hf.reconcile r

theorem fenced_start (d : Disk) (p : Processor) : Fenced ⟨d, p, []⟩ := by
  have hcovers (fences : GoMap ℤ) : Covers fences [] := fun e he => by simp at he
  refine ⟨.inr (hcovers _), .inr ?_, List.Pairwise.nil⟩
  cases hp : d.primary with
  | none => exact .inr rfl
  | some payload => exact .inr (hcovers _)

/-- The tokens of the mutations of a resource that reached the runtime, in order. -/
def tokensOn (n : Node) (target resource : GoString) : List ℤ :=
  (n.executed.filter fun e => e.key = fenceKey target resource).map (·.token)

/-- **Mutations of a resource run in the order of their tokens**, with crashes at any stage of any
save, unless the resource is a checkpoint slot. -/
theorem fencing_tokens_increase {d : Disk} {p : Processor} {tr : List (Transition Node NodeAction)}
    (h : Run (fun n a => a.Step cfg n) ⟨d, p, []⟩ tr n) (target resource : GoString)
    (hslot : ¬ IsCheckpointSlot resource) : (n.tokensOn target resource).Pairwise (· < ·) := by
  have hf : n.Fenced := h.invariant (fenced_start d p) fun _ _ _ hf hs => hf.step hs
  have hordered : OrderedKey (fenceKey target resource) := ⟨target, resource, rfl, hslot⟩
  unfold tokensOn
  rw [List.pairwise_map]
  refine (hf.increasing.filter _).imp_of_mem fun {e e'} he he' hlt => ?_
  simp only [List.mem_filter, decide_eq_true_eq] at he he'
  exact hlt (he.2 ▸ hordered) (he'.2.trans he.2.symm)

/-! ## A retried load -/

/-- A load of the model `m` on the only server of a node. -/
def loadCommand (id : GoString) (token : ℤ) : NodeCommand :=
  { id, name := .loadModel, expiresAt := ⟨10, 0⟩, targetID := "s", model := "m",
    fencingToken := some (.integer token) }

/-- A load crashes before its last save, is reconciled, and is retried with its old token, with a
new one that expires, and with that one in time. -/
def retriedLoad : List (Node → NodeAction) :=
  [fun _ => .handle (loadCommand "a" 5)
    { gateTime := ⟨1, 0⟩, mutationTime := ⟨1, 0⟩, finalSave := .crashes .unprepared },
   fun _ => .reconcile { settlement := ⟨["a"], []⟩ },
   fun _ => .handle (loadCommand "b" 5) { gateTime := ⟨2, 0⟩, mutationTime := ⟨2, 0⟩ },
   fun _ => .handle (loadCommand "c" 6) { gateTime := ⟨3, 0⟩, mutationTime := ⟨11, 0⟩ },
   fun _ => .handle (loadCommand "d" 6) { gateTime := ⟨4, 0⟩, mutationTime := ⟨4, 0⟩ }]

/-- The node after the retried load, from an empty disk. -/
def afterRetriedLoad : Node :=
  Run.afterScript (NodeAction.exec ⟨"n", [⟨"s", []⟩], true⟩) ⟨{}, {}, []⟩ retriedLoad

theorem fencing_tokens_increase_retriedLoad : afterRetriedLoad.tokensOn "n-s" "m" = [5, 6] ∧
      (afterRetriedLoad.tokensOn "n-s" "m").Pairwise (· < ·) := by
  refine ⟨by decide +kernel, fencing_tokens_increase
    (Run.of_script (NodeAction.exec _) (fun _ _ _ => rfl) _) "n-s" "m" ?_⟩
  rintro ⟨slotID, hslot⟩
  have hhead : (0x6D : UInt8) :: [] = 0x63 :: _ := hslot
  exact absurd (List.cons.inj hhead).1 (by decide)

end Node

end VramGovernor.NodeAgent
