import Mathlib.Data.Set.Insert
import VramGovernor.Foundations.Run
import VramGovernor.NodeAgent.DisplacementJournals

/-!
# The protocol of a displacement

What the two journals of a node are for, without commands, identities of commands and fences that
are compared: of an accelerator the protocol keeps the operation that stops on it, the operations it
has seen and the operation that is relaunched on it, with the receipts of their steps (`ViewStep`).
Its steps admit, acknowledge and drop. One invariant ties the journals to the history
(`Consistent`); the laws of order that an admission obeys (`InOrder`) are read off it.
-/

namespace VramGovernor.NodeAgent

open DisplacementEvent StepID

/-! ## Histories -/

/-- The accelerator, the operation and the step, whatever the fence. -/
def StepID.key (id : StepID) : GoString × GoString × DisplacementStepName :=
  (id.acceleratorID, id.operationID, id.step)

namespace DisplacementEvent

def id : DisplacementEvent → StepID
  | admitted id _ | acknowledged id _ | dropped id => id

/-- The step has an admission that was not dropped since. -/
def isOpen (key : GoString × GoString × DisplacementStepName) (history : List DisplacementEvent) :
    Bool :=
  history.foldl (fun b e => match e with
    | admitted id _ => b || id.key = key
    | dropped id => b && id.key ≠ key
    | acknowledged _ _ => b) false

/-- Another operation was admitted to stop on the accelerator after this one was admitted there. -/
def Superseded (acceleratorID operationID : GoString) (history : List DisplacementEvent) : Prop :=
  ∃ h₁ id step r h₂, history = h₁ ++ admitted id r :: h₂ ∧ id.step = .stop step ∧
    id.acceleratorID = acceleratorID ∧ id.operationID ≠ operationID ∧
    ∃ id' r', admitted id' r' ∈ h₁ ∧ id'.acceleratorID = acceleratorID ∧
      id'.operationID = operationID

variable {key : GoString × GoString × DisplacementStepName} {h h₁ h₂ : List DisplacementEvent}
  {e : DisplacementEvent} {id : StepID} {r a op : GoString}

@[simp] theorem isOpen_admitted :
    isOpen key (h ++ [admitted id r]) = (isOpen key h || id.key = key) := by
  simp [isOpen]

@[simp] theorem isOpen_dropped :
    isOpen key (h ++ [dropped id]) = (isOpen key h && id.key ≠ key) := by
  simp [isOpen]

@[simp] theorem isOpen_acknowledged : isOpen key (h ++ [acknowledged id r]) = isOpen key h := by
  simp [isOpen]

theorem isOpen_append_of_ne (he : e.id.key ≠ key) : isOpen key (h ++ [e]) = isOpen key h := by
  cases e with
  | admitted id r | dropped id =>
    have hne : id.key ≠ key := he
    simp [hne]
  | acknowledged id r => exact isOpen_acknowledged

theorem exists_admitted_of_isOpen (ho : isOpen key h = true) :
    ∃ id r, admitted id r ∈ h ∧ id.key = key := by
  induction h using List.reverseRecOn with
  | nil => simp [isOpen] at ho
  | append_singleton h e ih =>
    have hmono (hold : isOpen key h = true) : ∃ id r, admitted id r ∈ h ++ [e] ∧ id.key = key := by
      obtain ⟨id, r, hm, hk⟩ := ih hold
      exact ⟨id, r, List.mem_append_left _ hm, hk⟩
    cases e with
    | admitted id r =>
      rw [isOpen_admitted, Bool.or_eq_true, decide_eq_true_iff] at ho
      rcases ho with ho | hk
      · exact hmono ho
      · exact ⟨id, r, by simp, hk⟩
    | acknowledged id r => exact hmono (by simpa using ho)
    | dropped id =>
      rw [isOpen_dropped, Bool.and_eq_true] at ho
      exact hmono ho.1

/-- An admission is open until it is dropped. -/
theorem exists_dropped_of_not_isOpen (ho : isOpen key (h₁ ++ admitted id r :: h₂) = false)
    (hk : id.key = key) : ∃ id', dropped id' ∈ h₂ ∧ id'.key = key := by
  induction h₂ using List.reverseRecOn with
  | nil => simp [hk] at ho
  | append_singleton h e ih =>
    rw [← List.cons_append, ← List.append_assoc] at ho
    have hmono (hold : isOpen key (h₁ ++ admitted id r :: h) = false) :
        ∃ id', dropped id' ∈ h ++ [e] ∧ id'.key = key := by
      obtain ⟨id', hm, hk'⟩ := ih hold
      exact ⟨id', List.mem_append_left _ hm, hk'⟩
    cases e with
    | admitted id' r' =>
      rw [isOpen_admitted, Bool.or_eq_false_iff] at ho
      exact hmono ho.1
    | acknowledged id' r' =>
      rw [isOpen_acknowledged] at ho
      exact hmono ho
    | dropped id' =>
      by_cases hk' : id'.key = key
      · exact ⟨id', by simp, hk'⟩
      · rw [isOpen_append_of_ne (e := dropped id') hk'] at ho
        exact hmono ho

theorem Superseded.exists_admitted (hs : Superseded a op h) :
    ∃ id r, admitted id r ∈ h ∧ id.acceleratorID = a ∧ id.operationID = op := by
  obtain ⟨h₁, id, step, r, h₂, rfl, -, -, -, id', r', hm, ha, ho⟩ := hs
  exact ⟨id', r', List.mem_append_left _ hm, ha, ho⟩

/-- Only the admission of another operation's stop supersedes. -/
theorem Superseded.of_append
    (he : ∀ id step r, e = admitted id r → id.step = .stop step → id.acceleratorID = a →
      id.operationID = op)
    (hs : Superseded a op (h ++ [e])) : Superseded a op h := by
  obtain ⟨h₁, id, step, r, h₂, hh, hstep, ha, hop, hprior⟩ := hs
  rcases List.eq_nil_or_concat h₂ with rfl | ⟨h₂, e', rfl⟩
  · obtain ⟨-, hlast⟩ := List.append_inj' hh rfl
    exact absurd (he id step r (by simpa using hlast) hstep ha) hop
  · rw [List.concat_eq_append, ← List.cons_append, ← List.append_assoc] at hh
    obtain ⟨rfl, -⟩ := List.append_inj' hh rfl
    exact ⟨h₁, id, step, r, h₂, rfl, hstep, ha, hop, hprior⟩

end DisplacementEvent

/-- What holds of an admission after the history before it. -/
structure InOrder (history : List DisplacementEvent) (id : StepID) (prior : GoString) : Prop where
  urgent_stop : id.step = .stop .urgentStop →
    ∃ r, acknowledged { id with step := .stop .victimStop } r ∈ history
  urgent_load : id.step = .relaunch .urgentLoad →
    acknowledged { id with step := .stop .victimStop } prior ∈ history
  victim_reload : id.step = .relaunch .victimReload →
    (∃ r, acknowledged { id with step := .relaunch .urgentLoad } r ∈ history) ∧
      ∃ r, acknowledged { id with step := .stop .urgentStop } r ∈ history
  once : ∀ h₁ id' r h₂, history = h₁ ++ admitted id' r :: h₂ → id'.key = id.key →
    ∃ id'', dropped id'' ∈ h₂ ∧ id''.key = id.key
  not_superseded : ¬ Superseded id.acceleratorID id.operationID history

/-! ## The protocol -/

/-- The stops on an accelerator: the operations it has seen and the steps of the current one, a
pending step without a receipt and an acknowledged one with it. -/
@[ext]
structure StopView where
  operationID : GoString
  fence : ℤ
  recoveryEpoch : GoString
  used : Set GoString
  steps : StopStep → Option (Option GoString)
  consumed : operationID ∈ used

@[ext]
structure RelaunchView where
  operationID : GoString
  fence : ℤ
  recoveryEpoch : GoString
  steps : RelaunchStep → Option (Option GoString)

structure DisplacementView where
  stops : GoString → Option StopView
  relaunches : GoString → Option RelaunchView

open DisplacementView

namespace StopView

variable (s : StopView) (a : GoString) (k : StopStep)

def id : StepID := ⟨a, s.operationID, s.fence, s.recoveryEpoch, .stop k⟩

def setStep (x : Option (Option GoString)) : StopView :=
  { s with steps := Function.update s.steps k x }

end StopView

namespace RelaunchView

variable (s : RelaunchView) (a : GoString) (k : RelaunchStep)

def id : StepID := ⟨a, s.operationID, s.fence, s.recoveryEpoch, .relaunch k⟩

def setStep (x : Option (Option GoString)) : RelaunchView :=
  { s with steps := Function.update s.steps k x }

end RelaunchView

namespace DisplacementView

variable (v : DisplacementView) (a : GoString)

/-- The operations an accelerator has seen. -/
def usedOn : Set GoString := (v.stops a).elim ∅ (·.used)

def setStop (s : StopView) : DisplacementView :=
  { v with stops := Function.update v.stops a (some s) }

def setRelaunch (s : Option RelaunchView) : DisplacementView :=
  { v with relaunches := Function.update v.relaunches a s }

def firstStop (op epoch : GoString) (fence : ℤ) : StopView where
  operationID := op
  fence := fence
  recoveryEpoch := epoch
  used := insert op (v.usedOn a)
  steps := Function.update (fun _ => none) .victimStop (some none)
  consumed := Set.mem_insert _ _

end DisplacementView

def StopView.firstLoad (s : StopView) : RelaunchView where
  operationID := s.operationID
  fence := s.fence
  recoveryEpoch := s.recoveryEpoch
  steps := Function.update (fun _ => none) .urgentLoad (some none)

/-- The steps of the protocol. -/
inductive ViewStep (v : DisplacementView) : DisplacementEvent → DisplacementView → Prop
  | beginStop {a op epoch : GoString} {fence : ℤ} (hop : op ∉ v.usedOn a) :
      ViewStep v (admitted ⟨a, op, fence, epoch, .stop .victimStop⟩ [])
        (v.setStop a (v.firstStop a op epoch fence))
  | nextStop {a : GoString} {s : StopView} {k : StopStep} (hs : v.stops a = some s)
      (hk : s.steps k = none)
      (hu : k = .urgentStop → ∃ r, s.steps .victimStop = some (some r)) :
      ViewStep v (admitted (s.id a k) []) (v.setStop a (s.setStep k (some none)))
  | acknowledgeStop {a r : GoString} {s : StopView} {k : StopStep} (hs : v.stops a = some s) :
      ViewStep v (acknowledged (s.id a k) r) (v.setStop a (s.setStep k (some (some r))))
  | dropStop {a : GoString} {s : StopView} {k : StopStep} (hs : v.stops a = some s) :
      ViewStep v (dropped (s.id a k)) (v.setStop a (s.setStep k none))
  | load {a r : GoString} {s : StopView} (hs : v.stops a = some s)
      (hr : s.steps .victimStop = some (some r))
      (hl : ∀ l, v.relaunches a = some l → l.operationID ≠ s.operationID) :
      ViewStep v (admitted (s.firstLoad.id a .urgentLoad) r) (v.setRelaunch a (some s.firstLoad))
  | reload {a r r' : GoString} {s : StopView} {l : RelaunchView} (hs : v.stops a = some s)
      (hl : v.relaunches a = some l)
      (hsame : s.id a .urgentStop = { l.id a .victimReload with step := .stop .urgentStop })
      (hr : s.steps .urgentStop = some (some r)) (hu : l.steps .urgentLoad = some (some r'))
      (hn : l.steps .victimReload = none) :
      ViewStep v (admitted (l.id a .victimReload) r)
        (v.setRelaunch a (some (l.setStep .victimReload (some none))))
  | acknowledgeRelaunch {a r : GoString} {l : RelaunchView} {k : RelaunchStep}
      (hl : v.relaunches a = some l) :
      ViewStep v (acknowledged (l.id a k) r) (v.setRelaunch a (some (l.setStep k (some (some r)))))
  | dropRelaunch {a : GoString} {l : RelaunchView} {k : RelaunchStep} {l' : Option RelaunchView}
      (hl : v.relaunches a = some l)
      (hl' : l' = some (l.setStep k none) ∨ l' = none ∧ ∀ k', k' ≠ k → l.steps k' = none) :
      ViewStep v (dropped (l.id a k)) (v.setRelaunch a l')

/-! ## The invariant -/

/-- What the journals know of the history. -/
structure Consistent (v : DisplacementView) (h : List DisplacementEvent) : Prop where
  consumed : ∀ {id r}, admitted id r ∈ h → id.operationID ∈ v.usedOn id.acceleratorID
  stop_acknowledged : ∀ {a s k r}, v.stops a = some s → s.steps k = some (some r) →
    acknowledged (s.id a k) r ∈ h
  relaunch_acknowledged : ∀ {a l k r}, v.relaunches a = some l → l.steps k = some (some r) →
    acknowledged (l.id a k) r ∈ h
  stop_open : ∀ {a s k}, v.stops a = some s → isOpen (s.id a k).key h = true → s.steps k ≠ none
  relaunch_open : ∀ {a s k}, v.stops a = some s →
    isOpen (a, s.operationID, .relaunch k) h = true →
    ∃ l, v.relaunches a = some l ∧ l.operationID = s.operationID ∧ l.steps k ≠ none
  current : ∀ {a s}, v.stops a = some s → ¬ Superseded a s.operationID h

namespace Consistent

variable {v v' : DisplacementView} {h : List DisplacementEvent} {e : DisplacementEvent}
  {a op : GoString} {s : StopView} {x : Option (Option GoString)} {l' : Option RelaunchView}

section

variable (hc : Consistent v h)
include hc

theorem not_isOpen (hop : op ∉ v.usedOn a) (k : DisplacementStepName) :
    isOpen (a, op, k) h = false := by
  by_contra ho
  rw [Bool.not_eq_false] at ho
  obtain ⟨id, r, hm, hk⟩ := exists_admitted_of_isOpen ho
  obtain ⟨rfl, rfl, rfl⟩ : id.acceleratorID = a ∧ id.operationID = op ∧ id.step = k := by
    simpa [key] using hk
  exact hop (hc.consumed hm)

theorem not_superseded (hop : op ∉ v.usedOn a) : ¬ Superseded a op h := by
  intro hs
  obtain ⟨id, r, hm, rfl, rfl⟩ := hs.exists_admitted
  exact hop (hc.consumed hm)

/-- An event on an accelerator leaves the stops of the others as they were known. -/
theorem setStop (hid : e.id.acceleratorID = a)
    (hused : v.usedOn a ⊆ s.used) (hadm : ∀ id r, e = admitted id r → id.operationID ∈ s.used)
    (hack : ∀ k r, s.steps k = some (some r) → acknowledged (s.id a k) r ∈ h ++ [e])
    (hopen : ∀ k, isOpen (s.id a k).key (h ++ [e]) = true → s.steps k ≠ none)
    (hrel : ∀ k, isOpen (a, s.operationID, .relaunch k) (h ++ [e]) = true →
      ∃ l, v.relaunches a = some l ∧ l.operationID = s.operationID ∧ l.steps k ≠ none)
    (hcur : ¬ Superseded a s.operationID (h ++ [e])) :
    Consistent (v.setStop a s) (h ++ [e]) := by
  have hother {a' : GoString} (ha : a' ≠ a) : (v.setStop a s).stops a' = v.stops a' :=
    Function.update_of_ne ha _ _
  have hself {s' : StopView} (hs : (v.setStop a s).stops a = some s') : s' = s := by
    simpa [DisplacementView.setStop, eq_comm] using hs
  have hkey {a' op' : GoString} {k : DisplacementStepName} (ha : a' ≠ a) :
      isOpen (a', op', k) (h ++ [e]) = isOpen (a', op', k) h :=
    isOpen_append_of_ne fun hk => ha ((congrArg Prod.fst hk).symm.trans hid)
  refine ⟨?_, ?_, ?_, ?_, ?_, ?_⟩
  · intro id r hm
    by_cases ha : id.acceleratorID = a
    · have hin : id.operationID ∈ s.used := by
        rcases List.mem_append.1 hm with hm | hm
        · exact hused (ha ▸ hc.consumed hm)
        · exact hadm id r (List.mem_singleton.1 hm).symm
      simpa [DisplacementView.usedOn, DisplacementView.setStop, ha] using hin
    · have hold : admitted id r ∈ h := by
        rcases List.mem_append.1 hm with hm | hm
        · exact hm
        · obtain rfl : admitted id r = e := by simpa using hm
          exact absurd hid ha
      rw [usedOn, hother ha]
      exact hc.consumed hold
  · intro a' s' k r hs hk
    by_cases ha : a' = a
    · subst ha
      obtain rfl := hself hs
      exact hack k r hk
    · exact List.mem_append_left _ (hc.stop_acknowledged (hother ha ▸ hs) hk)
  · intro a' l k r hl hk
    exact List.mem_append_left _ (hc.relaunch_acknowledged hl hk)
  · intro a' s' k hs ho
    by_cases ha : a' = a
    · subst ha
      obtain rfl := hself hs
      exact hopen k ho
    · exact hc.stop_open (hother ha ▸ hs) ((hkey ha).symm.trans ho)
  · intro a' s' k hs ho
    by_cases ha : a' = a
    · subst ha
      obtain rfl := hself hs
      exact hrel k ho
    · exact hc.relaunch_open (hother ha ▸ hs) ((hkey ha).symm.trans ho)
  · intro a' s' hs hsup
    by_cases ha : a' = a
    · subst ha
      obtain rfl := hself hs
      exact hcur hsup
    · refine hc.current (hother ha ▸ hs) (hsup.of_append fun id step r he _ hid' => ?_)
      subst he
      exact absurd (hid'.symm.trans hid) ha

theorem setStopStep {k : StopStep} (hs : v.stops a = some s)
    (hid : e.id = s.id a k) (hx : ∀ r, x = some (some r) → e = acknowledged (s.id a k) r)
    (hopen : isOpen (s.id a k).key (h ++ [e]) = true → x ≠ none) :
    Consistent (v.setStop a (s.setStep k x)) (h ++ [e]) := by
  have hadm (id : StepID) (r : GoString) (he : e = admitted id r) : id = s.id a k := by
    subst he
    exact hid
  refine hc.setStop (congrArg acceleratorID hid) ?_ ?_ ?_ ?_ ?_ ?_
  · simp [usedOn, hs, StopView.setStep]
  · intro id r he
    rw [hadm id r he]
    exact s.consumed
  · intro k' r hk'
    by_cases hk : k' = k
    · subst hk
      rw [hx r (by simpa [StopView.setStep] using hk')]
      exact List.mem_concat_self
    · have hold : s.steps k' = some (some r) := by simpa [StopView.setStep, hk] using hk'
      have hmem : acknowledged (s.id a k') r ∈ h := hc.stop_acknowledged hs hold
      exact List.mem_append_left _ hmem
  · intro k' ho
    by_cases hk : k' = k
    · subst hk
      simpa [StopView.setStep] using hopen ho
    · have hne : e.id.key ≠ (s.id a k').key := by
        rw [hid]
        simpa [StopView.id, key] using Ne.symm hk
      have hold : isOpen (s.id a k').key h = true := (isOpen_append_of_ne hne).symm.trans ho
      simpa [StopView.setStep, hk] using hc.stop_open hs hold
  · intro k' ho
    have hne : e.id.key ≠ (a, s.operationID, .relaunch k') := by
      rw [hid]
      simp [StopView.id, key]
    have hold : isOpen (a, s.operationID, .relaunch k') h = true :=
      (isOpen_append_of_ne hne).symm.trans ho
    show ∃ l, v.relaunches a = some l ∧ l.operationID = s.operationID ∧ l.steps k' ≠ none
    exact hc.relaunch_open hs hold
  · intro hsup
    refine hc.current hs (hsup.of_append fun id step r he _ _ => ?_)
    rw [hadm id r he]
    rfl

/-- An event of the relaunches leaves the stops as they were known. -/
theorem setRelaunch {l' : Option RelaunchView} {k : RelaunchStep}
    (hid : e.id.acceleratorID = a) (hstep : e.id.step = .relaunch k)
    (hadm : ∀ id r, e = admitted id r → id.operationID ∈ v.usedOn a)
    (hack : ∀ l k r, l' = some l → l.steps k = some (some r) → acknowledged (l.id a k) r ∈ h ++ [e])
    (hrel : ∀ s k, v.stops a = some s →
      isOpen (a, s.operationID, .relaunch k) (h ++ [e]) = true →
      ∃ l, l' = some l ∧ l.operationID = s.operationID ∧ l.steps k ≠ none) :
    Consistent (v.setRelaunch a l') (h ++ [e]) := by
  have hother {a' : GoString} (ha : a' ≠ a) :
      (v.setRelaunch a l').relaunches a' = v.relaunches a' :=
    Function.update_of_ne ha _ _
  have hself : (v.setRelaunch a l').relaunches a = l' := Function.update_self _ _ _
  refine ⟨?_, ?_, ?_, ?_, ?_, ?_⟩
  · intro id r hm
    rcases List.mem_append.1 hm with hm | hm
    · exact hc.consumed hm
    · obtain rfl : admitted id r = e := by simpa using hm
      exact (show id.acceleratorID = a from hid) ▸ hadm id r rfl
  · intro a' s k r hs hk
    exact List.mem_append_left _ (hc.stop_acknowledged hs hk)
  · intro a' l k r hl hk
    by_cases ha : a' = a
    · subst ha
      exact hack l k r (hself.symm.trans hl) hk
    · exact List.mem_append_left _ (hc.relaunch_acknowledged (hother ha ▸ hl) hk)
  · intro a' s k' hs ho
    refine hc.stop_open hs ((isOpen_append_of_ne fun hk => ?_).symm.trans ho)
    have : e.id.step = .stop k' := congrArg (·.2.2) hk
    rw [hstep] at this
    cases this
  · intro a' s k hs ho
    by_cases ha : a' = a
    · subst ha
      rw [hself]
      exact hrel s k hs ho
    · rw [hother ha]
      exact hc.relaunch_open hs ((isOpen_append_of_ne fun hk =>
        ha ((congrArg Prod.fst hk).symm.trans hid)).symm.trans ho)
  · intro a' s hs hsup
    refine hc.current hs (hsup.of_append fun id step r he hst _ => ?_)
    subst he
    rw [show id.step = .relaunch k from hstep] at hst
    cases hst

/-- A step of the relaunched operation. It is dropped with the operation if no other step is
left. -/
theorem setRelaunchStep {k : RelaunchStep} {l : RelaunchView} (hl : v.relaunches a = some l)
    (hid : e.id = l.id a k) (hadm : ∀ id r, e = admitted id r → id.operationID ∈ v.usedOn a)
    (hx : ∀ r, x = some (some r) → e = acknowledged (l.id a k) r)
    (hopen : isOpen (l.id a k).key (h ++ [e]) = true → x ≠ none)
    (hl' : l' = some (l.setStep k x) ∨ (l' = none ∧ x = none ∧ ∀ k', k' ≠ k → l.steps k' = none)) :
    Consistent (v.setRelaunch a l') (h ++ [e]) := by
  refine hc.setRelaunch (congrArg acceleratorID hid) (congrArg step hid) hadm ?_ ?_
  · intro l₀ k' r he hk'
    rcases hl' with hl' | ⟨hn, -⟩
    · obtain rfl : l₀ = l.setStep k x := Option.mem_unique he hl'
      by_cases hk : k' = k
      · subst hk
        rw [hx r (by simpa [RelaunchView.setStep] using hk')]
        exact List.mem_concat_self
      · have hold : l.steps k' = some (some r) := by simpa [RelaunchView.setStep, hk] using hk'
        have hmem : acknowledged (l.id a k') r ∈ h := hc.relaunch_acknowledged hl hold
        exact List.mem_append_left _ hmem
    · cases he.symm.trans hn
  · intro s k' hs ho
    -- the event itself opens only its own step, so every other open step was journaled before
    by_cases hkey : e.id.key = (a, s.operationID, .relaunch k')
    · have hl₀ : a = a ∧ l.operationID = s.operationID ∧ k = k' := by
        simpa [hid, RelaunchView.id, key] using hkey
      obtain ⟨-, hop, rfl⟩ := hl₀
      have hx' : x ≠ none := hopen (by rwa [← hid, hkey])
      rcases hl' with rfl | ⟨-, hn, -⟩
      · exact ⟨_, rfl, hop, by simpa [RelaunchView.setStep] using hx'⟩
      · exact absurd hn hx'
    · obtain ⟨l₀, hl₀, hop, hk'⟩ := hc.relaunch_open hs ((isOpen_append_of_ne hkey).symm.trans ho)
      obtain rfl : l = l₀ := Option.mem_unique hl hl₀
      have hk : k' ≠ k := by
        rintro rfl
        exact hkey (by rw [hid, RelaunchView.id, key, hop])
      rcases hl' with rfl | ⟨-, -, hn⟩
      · exact ⟨_, rfl, hop, by simpa [RelaunchView.setStep, hk] using hk'⟩
      · exact absurd (hn k' hk) hk'

/-- **Step lemma.** Every step of the protocol keeps the journals consistent with the history. -/
theorem step (hst : ViewStep v e v') : Consistent v' (h ++ [e]) := by
  cases hst with
  | @beginStop a op epoch fence hop =>
    have hkey (k : DisplacementStepName) (hk : k ≠ .stop .victimStop) :
        isOpen (a, op, k)
          (h ++ [admitted ⟨a, op, fence, epoch, .stop .victimStop⟩ []]) = false := by
      rw [isOpen_append_of_ne fun hk' => hk (congrArg (·.2.2) hk').symm]
      exact hc.not_isOpen hop k
    refine hc.setStop rfl (Set.subset_insert _ _) ?_ ?_ ?_ ?_ ?_
    · rintro id r he
      cases he
      exact Set.mem_insert _ _
    · intro k r hk
      cases k <;> simp [firstStop] at hk
    · intro k ho
      cases k with
      | victimStop => simp [firstStop]
      | urgentStop => exact absurd ho (Bool.eq_false_iff.1 (hkey (.stop .urgentStop) (by simp)))
    · intro k ho
      exact absurd ho (Bool.eq_false_iff.1 (hkey _ (by simp)))
    · intro hsup
      refine hc.not_superseded hop (hsup.of_append fun id step r he _ _ => ?_)
      cases he
      rfl
  | nextStop hs hk hu | acknowledgeStop hs | dropStop hs =>
    exact hc.setStopStep hs rfl (by simp) (by simp)
  | @load a r s hs hr hl =>
    have hused : s.operationID ∈ v.usedOn a := by
      simpa [usedOn, hs] using s.consumed
    refine hc.setRelaunch rfl rfl ?_ ?_ ?_
    · rintro id r' he
      cases he
      exact hused
    · rintro l k r' he hk
      cases he
      cases k <;> simp [StopView.firstLoad] at hk
    · intro s' k hs' ho
      obtain rfl : s = s' := Option.mem_unique hs hs'
      refine ⟨_, rfl, rfl, ?_⟩
      cases k with
      | urgentLoad => simp [StopView.firstLoad]
      | victimReload =>
        rw [isOpen_append_of_ne (by simp [DisplacementEvent.id, RelaunchView.id, key])] at ho
        obtain ⟨l, hl', hop, -⟩ := hc.relaunch_open hs ho
        exact absurd hop (hl l hl')
  | @reload a r r' s l hs hl hsame hr hu hn =>
    have hop : s.operationID = l.operationID := congrArg operationID hsame
    refine hc.setRelaunchStep hl rfl ?_ (by simp) ?_ (.inl rfl)
    · rintro id r' he
      cases he
      show l.operationID ∈ v.usedOn a
      simpa [usedOn, hs, hop] using s.consumed
    · simp
  | acknowledgeRelaunch hl =>
    exact hc.setRelaunchStep hl rfl (by simp) (by simp) (by simp) (.inl rfl)
  | dropRelaunch hl hl' =>
    exact hc.setRelaunchStep hl rfl (by simp) (by simp) (by simp)
      (hl'.imp_right fun hn => ⟨hn.1, rfl, hn.2⟩)

/-- An admission is in order after every history that the journals are consistent with. -/
theorem inOrder {id : StepID} {prior : GoString}
    (hst : ViewStep v (admitted id prior) v') : InOrder h id prior := by
  have honce (ho : isOpen id.key h = false) (h₁ : List DisplacementEvent) (id' : StepID)
      (r : GoString) (h₂ : List DisplacementEvent) (hh : h = h₁ ++ admitted id' r :: h₂)
      (hk : id'.key = id.key) : ∃ id'', dropped id'' ∈ h₂ ∧ id''.key = id.key :=
    exists_dropped_of_not_isOpen (hh ▸ ho) hk
  cases hst with
  | beginStop hop =>
    exact ⟨by simp, by simp, by simp, honce (hc.not_isOpen hop _), hc.not_superseded hop⟩
  | nextStop hs hk hu =>
    refine ⟨fun hstep => ?_, by simp [StopView.id], by simp [StopView.id], honce ?_, hc.current hs⟩
    · obtain ⟨r, hr⟩ := hu (by simpa [StopView.id] using hstep)
      exact ⟨r, hc.stop_acknowledged hs hr⟩
    · exact Bool.eq_false_iff.2 fun ho => hc.stop_open hs ho hk
  | load hs hr hl =>
    refine ⟨by simp [RelaunchView.id], fun _ => hc.stop_acknowledged hs hr,
      by simp [RelaunchView.id], honce (Bool.eq_false_iff.2 fun ho => ?_), hc.current hs⟩
    obtain ⟨l, hl', hop, -⟩ := hc.relaunch_open hs ho
    exact hl l hl' hop
  | @reload a r r' s l hs hl hsame hr hu hn =>
    have hop : s.operationID = l.operationID := congrArg operationID hsame
    refine ⟨by simp [RelaunchView.id], by simp [RelaunchView.id],
      fun _ => ⟨⟨r', hc.relaunch_acknowledged hl hu⟩, _, hsame ▸ hc.stop_acknowledged hs hr⟩,
      honce (Bool.eq_false_iff.2 fun ho => ?_), ?_⟩
    · obtain ⟨l', hl', -, hk⟩ := hc.relaunch_open hs (k := .victimReload) (hop ▸ ho)
      obtain rfl : l = l' := Option.mem_unique hl hl'
      exact hk hn
    · show ¬ Superseded a l.operationID h
      exact hop ▸ hc.current hs

end

end Consistent

section Protocol

variable {v₀ v : DisplacementView} {tr : List (Transition DisplacementView DisplacementEvent)}

theorem Consistent.run (h₀ : Consistent v₀ []) (hr : Run ViewStep v₀ tr v) :
    Consistent v (tr.map (·.label)) := by
  induction hr with
  | nil => exact h₀
  | snoc _ hst ih => simpa using ih.step hst

theorem Consistent.run_inOrder (h₀ : Consistent v₀ []) (hr : Run ViewStep v₀ tr v)
    {h₁ h₂ : List DisplacementEvent} {id : StepID} {prior : GoString}
    (hh : tr.map (·.label) = h₁ ++ admitted id prior :: h₂) : InOrder h₁ id prior := by
  obtain ⟨l₁, l', rfl, rfl, hl'⟩ := List.map_eq_append_iff.1 hh
  obtain ⟨t, l₂, rfl, ht, -⟩ := List.map_eq_cons_iff.1 hl'
  obtain ⟨hr₁, hst, -⟩ := hr.split rfl
  exact (h₀.run hr₁).inOrder (ht ▸ hst)

end Protocol

end VramGovernor.NodeAgent
