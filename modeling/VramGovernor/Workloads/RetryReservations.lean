import VramGovernor.Workloads.ModelLimit

/-!
# The reservations that the retry loop finishes

When the retry loop has released the lease of an intent, it finishes the reservation of the intent's
workload, which it finds by the workload's id alone. An intent that a failed admission left outlives
it, and the workload may run elsewhere by then: the loop drops its placement there
(`retry_drops_later_placement`). This does not happen if the intents that the loop lists, and those
it still has to visit when a workload is registered, are for the lease that the workload is
registered with (`retry_finishes_own_lease`).
-/

namespace VramGovernor.Workloads

open GoString GoMap Store Bookkeeping Workloads.Action Manager

/-! ## Intents in the loop -/

def carries (r : TargetReservation) (intent : AcceleratorLeaseCleanupIntent) : Bool :=
  r.lease.acceleratorID = intent.acceleratorID && r.lease.fencingToken = intent.fencingToken

/-- The workload's reservation, if it is not released, carries the lease of the intent. -/
def Manager.bound (m : Manager) (intent : AcceleratorLeaseCleanupIntent) : Bool :=
  match (m.reservations.lookup (intentWorkload intent)).bind (m.heap[·]?) with
  | some r => r.released || carries r intent
  | none => true

/-- The intents that a thread of the loop still has to visit, or is visiting. -/
def Thread.listed : Thread → List AcceleratorLeaseCleanupIntent
  | .retry intents => intents
  | .rollback _ _ (.retry intent rest) => intent :: rest
  | .findReservation _ _ rest => rest
  | .finish _ _ rest | .unregister _ _ rest | .confirm _ rest | .finalize _ rest
  | .forgetIntent _ rest | .reschedule _ _ rest => rest.getD []
  | _ => []

/-- The thread has released the lease of an intent and looks for the reservation, or finishes it. -/
def Thread.settling : Thread → Bool
  | .findReservation _ _ _ | .finish _ _ (some _) => true
  | _ => false

namespace Thread

theorem listed_next (rest : Option (List AcceleratorLeaseCleanupIntent)) :
    (next rest).listed = rest.getD [] ∧ (next rest).settling = false := by
  cases rest <;> exact ⟨rfl, rfl⟩

theorem listed_afterRelease (terminal : Option AcceleratorLeaseCleanupIntent)
    (rest : Option (List AcceleratorLeaseCleanupIntent)) :
    (afterRelease terminal rest).listed = rest.getD [] ∧
      (afterRelease terminal rest).settling = false := by
  cases terminal with
  | none => exact listed_next rest
  | some intent => exact ⟨rfl, rfl⟩

/-- After a rollback the loop goes on with the rest, or looks for the reservation of the intent. -/
theorem listed_afterRollback (e : Option GoError) (k : Continuation) :
    (afterRollback e k).listed = [] ∧ (afterRollback e k).settling = false ∨
      ∃ intent rest, k = .retry intent rest ∧ (afterRollback e k).listed = rest ∧
        ((afterRollback e k).settling = false ∨ ∃ terminal,
          afterRollback e k = .findReservation (intentWorkload intent) terminal rest) := by
  cases k with
  | reserve adm reason => cases e <;> cases reason <;> exact .inl ⟨rfl, rfl⟩
  | release p terminal => cases e <;> exact .inl ⟨rfl, rfl⟩
  | retry intent rest =>
    refine .inr ⟨intent, rest, rfl, ?_⟩
    unfold afterRollback intentWorkload
    cases e with
    | none =>
      dsimp only
      split_ifs
      · exact ⟨rfl, .inr ⟨none, rfl⟩⟩
      · exact ⟨rfl, .inr ⟨some intent, rfl⟩⟩
    | some e =>
      dsimp only
      split_ifs <;> exact ⟨rfl, .inl rfl⟩

namespace Change

variable {m : Manager} {st : MemoryStore} {c : Choice} {th : Thread}
  {next : Manager × MemoryStore × Thread} (h : Change m st c th next)
include h

/-- An intent of the loop was its own before, or has just been listed. -/
theorem mem_listed {intent : AcceleratorLeaseCleanupIntent} (hintent : intent ∈ next.2.2.listed) :
    intent ∈ th.listed ∨ th = .listIntents ∧ intent ∈ (stepListIntents c).listed := by
  cases h with
  | listed hf => exact .inr ⟨rfl, by rwa [stepListIntents, hf]⟩
  | @rollsBack rb stage stage' k => cases k <;> exact .inl hintent
  | @rolledBack rb stage e k =>
    left
    rcases listed_afterRollback e k with ⟨hnil, -⟩ | ⟨intent', rest, rfl, hrest, -⟩
    · rw [hnil] at hintent
      cases hintent
    · rw [hrest] at hintent
      exact List.mem_cons_of_mem _ hintent
  | settled | skipped | unregistered | notFound | forgotten =>
    simp only [listed_afterRelease, listed_next] at hintent
    exact .inl hintent
  | _ => exact .inl hintent

/-- A reservation is looked for after the release of its intent, and finished once it is found. -/
theorem of_settling (hs : next.2.2.settling = true) :
    (∃ rb stage intent terminal rest, th = .rollback rb stage (.retry intent rest) ∧
      next.2.2 = .findReservation (intentWorkload intent) terminal rest) ∨
    ∃ w p terminal rest, th = .findReservation w terminal rest ∧
      m.reservations.lookup w = some p ∧ next.2.2 = .finish p terminal (some rest) := by
  cases h with
  | found hp => exact .inr ⟨_, _, _, _, rfl, hp, rfl⟩
  | @rolledBack rb stage e k =>
    rcases listed_afterRollback e k with ⟨-, hnot⟩ | ⟨intent, rest, rfl, -, hnot | ⟨terminal, he⟩⟩
    · cases hnot.symm.trans hs
    · cases hnot.symm.trans hs
    · exact .inl ⟨rb, stage, intent, terminal, rest, rfl, he⟩
  | settled | skipped | unregistered | notFound | forgotten =>
    simp only [listed_afterRelease, listed_next] at hs
    cases hs
  | _ => cases hs

end Change

end Thread

/-! ## Reservations -/

/-- The reservations that are not released keep their leases, and none comes to life again. -/
structure Keeps (m m' : Manager) : Prop where
  length : m.heap.length ≤ m'.heap.length
  back : ∀ p r', p < m.heap.length → m'.Live p r' → ∃ r, m.Live p r ∧ r'.lease = r.lease

section

variable {m m' : Manager} {intent : AcceleratorLeaseCleanupIntent} {p : ℕ}

theorem Keeps.of_same (h : Same m m') : Keeps m m' := by
  have hlength : m'.heap.length = m.heap.length := by simpa using congrArg List.length h.heap
  refine ⟨hlength.ge, fun p r' _ hr' => ?_⟩
  obtain ⟨r, hr, he⟩ := h.live hr'
  simp only [core, Prod.mk.injEq] at he
  exact ⟨r, hr, he.2.2.1.symm⟩

theorem Keeps.of_append {r : TargetReservation} (h : m'.heap = m.heap ++ [r]) : Keeps m m' := by
  refine ⟨by simp [h], fun p r' hlt hr' => ?_⟩
  obtain ⟨hp, hlive⟩ := hr'
  rw [h, List.getElem?_append_left hlt] at hp
  exact ⟨r', ⟨hp, hlive⟩, rfl⟩

theorem Keeps.drop {r r' : TargetReservation} (hp : m.heap[p]? = some r)
    (hr' : r'.released = true) :
    Keeps m ((m.setReservation p r').dropPlacement r) := by
  refine ⟨by simp [dropPlacement, setReservation], fun q x _ hq => ?_⟩
  exact ⟨x, (live_of_set hp hr' hq).2, rfl⟩

theorem PlacementChange.keeps {c : Choice} {th : Thread} (h : PlacementChange m c th m') :
    Keeps m m' := by
  cases h with
  | keep _ h _ => exact .of_same h
  | join _ _ _ _ _ _ h | share _ _ _ _ _ _ _ _ _ h | publish _ _ _ _ _ _ h =>
    exact h ▸ .of_append rfl
  | drop _ p r r' hp hr' h => exact h ▸ .drop hp.1 hr'

theorem ActionChange.keeps {s s' : System} {a : Action} (h : ActionChange s a s') :
    Keeps s.manager s'.manager := by
  cases h with
  | environment _ h _ _ => exact .of_same h
  | run _ _ _ _ _ _ _ h _ => exact h.keeps

theorem updateReservation_reservations (m : Manager) (p : ℕ)
    (f : TargetReservation → TargetReservation) :
    (m.updateReservation p f).reservations = m.reservations := by
  unfold updateReservation
  split <;> rfl

theorem Thread.reservations_of_step {st : MemoryStore} {c : Choice} {th : Thread} {w : GoString}
    (h : (th.step m st c).1.reservations.lookup w = some p) : m.reservations.lookup w = some p := by
  have hchange := th.change m st c
  generalize th.step m st c = next at h hchange
  cases hchange with
  | unregistered =>
    simp only [stepUnregister] at h
    split at h
    · exact h
    · unfold Manager.unregister at h
      split_ifs at h
      · rw [lookup_erase_of] at h
        split_ifs at h
        exact h
      · exact h
  | cleared | binds =>
    simp only [updateReservation_reservations] at h
    exact h
  | _ => exact h

theorem Manager.bound_iff : m.bound intent = true ↔
    ∀ p r, m.reservations.lookup (intentWorkload intent) = some p → m.Live p r →
      carries r intent = true := by
  unfold bound
  constructor
  · intro h p r hp hr
    rw [hp, Option.bind_some, hr.1] at h
    simpa [hr.2] using h
  · intro h
    split
    · next r hr =>
      obtain ⟨p, hp, hr⟩ := Option.bind_eq_some_iff.1 hr
      cases hlive : r.released with
      | true => rfl
      | false => simpa using h p r hp ⟨hr, hlive⟩
    · rfl

/-- A reservation goes on carrying the lease of an intent. -/
theorem Keeps.carries (hk : Keeps m m') (hlt : p < m.heap.length)
    (h : ∀ r, m.Live p r → carries r intent = true) :
    ∀ r, m'.Live p r → Workloads.carries r intent = true := by
  intro r' hr'
  obtain ⟨r, hr, hl⟩ := hk.back p r' hlt hr'
  have hcarries := h r hr
  simp only [Workloads.carries] at hcarries ⊢
  rwa [hl]

/-- An intent stays bound as long as its workload is not registered anew. -/
theorem bound_of_keeps (h : m.bound intent = true) (hk : Keeps m m')
    (hrange : ∀ w p, m.reservations.lookup w = some p → p < m.heap.length)
    (hres : ∀ p, m'.reservations.lookup (intentWorkload intent) = some p →
      m.reservations.lookup (intentWorkload intent) = some p) : m'.bound intent = true := by
  rw [bound_iff] at h ⊢
  intro p r' hp hr'
  exact hk.carries (hrange _ p (hres p hp)) (fun r hr => h p r (hres p hp) hr) r' hr'

end

/-! ## Runs -/

/-- A workload is registered with a reservation that was handed out, and the loop's intents for it
are for the lease of this reservation, which the loop is not looking for. The intents that the loop
lists are for the leases of their workloads. -/
def retriesOwnLeases (s : System) : Action → Bool
  | .register w p =>
    match s.manager.heap[p]? with
    | none => false
    | some r => s.threads.all fun th =>
        (th.listed.all fun intent => intentWorkload intent ≠ w || r.released || carries r intent) &&
        match th with
        | .findReservation w' _ _ => w' ≠ w
        | _ => true
  | .run i c =>
    match s.threads[i]? with
    | some .listIntents => (Thread.stepListIntents c).listed.all s.manager.bound
    | _ => true
  | _ => true

/-- The intent whose release thread `i` completes in this transition. -/
def releasedIntent (i : ℕ) (t : Transition System Action) : Option AcceleratorLeaseCleanupIntent :=
  match t.pre.threads[i]?, t.post.threads[i]? with
  | some (.rollback _ _ (.retry intent _)), some (.findReservation _ _ _) => some intent
  | _, _ => none

/-- The intent whose release thread `i` has just completed. -/
def justReleased (tr : List (Transition System Action)) (i : ℕ) :
    Option AcceleratorLeaseCleanupIntent :=
  (tr.filterMap (releasedIntent i)).getLast?

theorem justReleased_append (tr : List (Transition System Action)) (t : Transition System Action)
    (i : ℕ) : justReleased (tr ++ [t]) i = (releasedIntent i t).or (justReleased tr i) := by
  cases h : releasedIntent i t <;> simp [h, justReleased]

variable {tr : List (Transition System Action)}

theorem justReleased_of_eq {t : Transition System Action} {i : ℕ}
    (h : t.post.threads[i]? = t.pre.threads[i]?) :
    justReleased (tr ++ [t]) i = justReleased tr i := by
  have hnone : releasedIntent i t = none := by
    unfold releasedIntent
    rw [h]
    split
    · next h₁ h₂ =>
      rw [h₁] at h₂
      cases h₂
    · rfl
  rw [justReleased_append, hnone]
  rfl

/-- The invariant of the loop in a run. -/
structure RetryInvariant (tr : List (Transition System Action)) (s : System) : Prop where
  inRange : ∀ w p, s.manager.reservations.lookup w = some p → p < s.manager.heap.length
  listed : ∀ th ∈ s.threads, ∀ intent ∈ th.listed, s.manager.bound intent = true
  found : ∀ (i : ℕ) w terminal rest, s.threads[i]? = some (.findReservation w terminal rest) →
    ∃ intent, justReleased tr i = some intent ∧ w = intentWorkload intent ∧
      s.manager.bound intent = true
  finishing : ∀ (i : ℕ) p terminal rest, s.threads[i]? = some (.finish p terminal (some rest)) →
    p < s.manager.heap.length ∧ ∃ intent, justReleased tr i = some intent ∧
      ∀ r, s.manager.Live p r → carries r intent = true

section

variable {s s' : System} {a : Action} {tr : List (Transition System Action)} {new : List Thread}

section

variable (h : RetryInvariant tr s)
include h

/-- Something happens outside the threads, and threads of no intents may start. -/
theorem RetryInvariant.environment {new : List Thread}
    (hk : Keeps s.manager s'.manager) (hths : s'.threads = s.threads ++ new)
    (hnew : ∀ th ∈ new, th.listed = [] ∧ th.settling = false)
    (hrange : ∀ w p, s'.manager.reservations.lookup w = some p → p < s'.manager.heap.length)
    (hlisted : ∀ th ∈ s.threads, ∀ intent ∈ th.listed, s'.manager.bound intent = true)
    (hfound : ∀ w terminal rest, .findReservation w terminal rest ∈ s.threads →
      ∀ intent, w = intentWorkload intent → s.manager.bound intent = true →
        s'.manager.bound intent = true) :
    RetryInvariant (tr ++ [⟨s, a, s'⟩]) s' := by
  -- A thread that settles an intent was there before.
  have hold : ∀ (i : ℕ) th, s'.threads[i]? = some th → th.settling = true →
      s.threads[i]? = some th ∧ justReleased (tr ++ [⟨s, a, s'⟩]) i = justReleased tr i := by
    intro i th hi hsettling
    have hpre : s.threads[i]? = some th := by
      rw [hths] at hi
      rcases Nat.lt_or_ge i s.threads.length with hlt | hge
      · rwa [List.getElem?_append_left hlt] at hi
      · rw [List.getElem?_append_right hge] at hi
        rw [(hnew th (List.mem_of_getElem? hi)).2] at hsettling
        cases hsettling
    exact ⟨hpre, justReleased_of_eq (by rw [hi, hpre])⟩
  refine ⟨hrange, ?_, ?_, ?_⟩
  · intro th hth intent hintent
    rw [hths] at hth
    rcases List.mem_append.1 hth with hth | hth
    · exact hlisted th hth intent hintent
    · rw [(hnew th hth).1] at hintent
      cases hintent
  · intro i w terminal rest hi
    obtain ⟨hpre, he⟩ := hold i _ hi rfl
    obtain ⟨intent, hreleased, hw, hbound⟩ := h.found i w terminal rest hpre
    exact ⟨intent, he.trans hreleased, hw,
      hfound w terminal rest (List.mem_of_getElem? hpre) intent hw hbound⟩
  · intro i p terminal rest hi
    obtain ⟨hpre, he⟩ := hold i _ hi rfl
    obtain ⟨hlt, intent, hreleased, hcarries⟩ := h.finishing i p terminal rest hpre
    exact ⟨hlt.trans_le hk.length, intent, he.trans hreleased, hk.carries hlt hcarries⟩

theorem RetryInvariant.unregistered (hk : Keeps s.manager s'.manager)
    (hths : s'.threads = s.threads ++ new) (hnew : ∀ th ∈ new, th.listed = [] ∧ th.settling = false)
    (hres : s'.manager.reservations = s.manager.reservations) :
    RetryInvariant (tr ++ [⟨s, a, s'⟩]) s' := by
  have hbound : ∀ intent, s.manager.bound intent = true → s'.manager.bound intent = true :=
    fun intent hb => bound_of_keeps hb hk h.inRange fun p hp => by rwa [hres] at hp
  refine h.environment hk hths hnew ?_ ?_ ?_
  · intro w p hp
    rw [hres] at hp
    exact (h.inRange w p hp).trans_le hk.length
  · exact fun th hth intent hintent => hbound intent (h.listed th hth intent hintent)
  · exact fun _ _ _ _ intent _ hb => hbound intent hb

theorem RetryInvariant.register {w : GoString} {p : ℕ}
    (hsafe : retriesOwnLeases s (.register w p) = true) :
    RetryInvariant (tr ++ [⟨s, .register w p, exec s (.register w p)⟩])
      (exec s (.register w p)) := by
  simp only [retriesOwnLeases] at hsafe
  split at hsafe
  · cases hsafe
  next r hp =>
  obtain ⟨hlt, -⟩ := List.getElem?_eq_some_iff.1 hp
  have hsame : Same s.manager (exec s (.register w p)).manager := ⟨rfl, rfl, rfl, rfl, rfl⟩
  have hres : ∀ k, (exec s (.register w p)).manager.reservations.lookup k =
      if k = w then some p else s.manager.reservations.lookup k :=
    fun k => lookup_insert_of s.manager.reservations w k p
  -- The intents of other workloads are not concerned.
  have hother : ∀ intent, intentWorkload intent ≠ w → s.manager.bound intent = true →
      (exec s (.register w p)).manager.bound intent = true := by
    intro intent hne hb
    refine bound_of_keeps hb (.of_same hsame) h.inRange fun q hq => ?_
    rwa [hres, if_neg hne] at hq
  refine h.environment (.of_same hsame) (List.append_nil _).symm (by simp) ?_ ?_ ?_
  · intro k q hq
    rw [hres] at hq
    split_ifs at hq
    · obtain rfl := Option.some.inj hq
      exact hlt
    · exact h.inRange k q hq
  · intro th hth intent hintent
    have hall := List.all_eq_true.1 hsafe th hth
    simp only [Bool.and_eq_true, List.all_eq_true] at hall
    have hcase := hall.1 intent hintent
    by_cases hkey : intentWorkload intent = w
    · rw [bound_iff]
      intro q x hq hx
      rw [hres, if_pos hkey] at hq
      obtain rfl := Option.some.inj hq
      obtain rfl := Option.mem_unique hp hx.1
      simpa [hkey, hx.2] using hcase
    · exact hother intent hkey (h.listed th hth intent hintent)
  · intro w' terminal rest hth intent hw hb
    have hall := List.all_eq_true.1 hsafe _ hth
    simp only [Bool.and_eq_true] at hall
    exact hother intent (hw ▸ of_decide_eq_true hall.2) hb

theorem RetryInvariant.stepThread {i : ℕ} {c : Choice} {th : Thread}
    (hi : s.threads[i]? = some th) (hsafe : retriesOwnLeases s (.run i c) = true) :
    RetryInvariant (tr ++ [⟨s, .run i c, stepThread s i th c⟩])
      (stepThread s i th c) := by
  have hk : Keeps s.manager (Action.stepThread s i th c).manager :=
    (th.placementChange s.manager s.store c).keeps
  have hbound : ∀ intent, s.manager.bound intent = true →
      (Action.stepThread s i th c).manager.bound intent = true :=
    fun intent hb => bound_of_keeps hb hk h.inRange fun p hp => Thread.reservations_of_step hp
  have hmem := h.listed th (List.mem_of_getElem? hi)
  obtain ⟨hilt, -⟩ := List.getElem?_eq_some_iff.1 hi
  have hpost : (Action.stepThread s i th c).threads[i]? =
      some (th.step s.manager s.store c).2.2 := List.getElem?_set_self hilt
  have hother : ∀ j, j ≠ i → (Action.stepThread s i th c).threads[j]? = s.threads[j]? :=
    fun j hj => List.getElem?_set_ne (Ne.symm hj)
  have hchange := th.change s.manager s.store c
  refine ⟨?_, ?_, ?_, ?_⟩
  · intro w p hp
    exact (h.inRange w p (Thread.reservations_of_step hp)).trans_le hk.length
  · intro x hx intent hintent
    rcases List.mem_or_eq_of_mem_set hx with hx | rfl
    · exact hbound intent (h.listed x hx intent hintent)
    · apply hbound
      rcases hchange.mem_listed hintent with hold | ⟨hth, hnew⟩
      · exact hmem intent hold
      · simp only [retriesOwnLeases, hi, hth] at hsafe
        exact List.all_eq_true.1 hsafe intent hnew
  · intro j w terminal rest hj
    by_cases hji : j = i
    · subst hji
      rw [hpost] at hj
      have hj := Option.some.inj hj
      obtain ⟨rb, stage, intent, _, _, hth, he⟩ | ⟨_, _, _, _, -, -, he⟩ :=
        hchange.of_settling (by rw [hj]; rfl)
      all_goals cases he.symm.trans hj
      refine ⟨intent, ?_, rfl, hbound intent (hmem intent (by rw [hth]; exact List.mem_cons_self))⟩
      have hnow : releasedIntent j ⟨s, .run j c, Action.stepThread s j th c⟩ = some intent := by
        simp only [releasedIntent, hpost, hj]
        rw [hi, hth]
      rw [justReleased_append, hnow]
      rfl
    · rw [hother j hji] at hj
      obtain ⟨intent, hreleased, hw, hb⟩ := h.found j w terminal rest hj
      exact ⟨intent, (justReleased_of_eq (hother j hji)).trans hreleased, hw, hbound intent hb⟩
  · intro j p terminal rest hj
    by_cases hji : j = i
    · subst hji
      rw [hpost] at hj
      have hj := Option.some.inj hj
      obtain ⟨_, _, _, _, _, -, he⟩ | ⟨w, _, _, _, hth, hp, he⟩ :=
        hchange.of_settling (by rw [hj]; rfl)
      all_goals cases he.symm.trans hj
      obtain ⟨intent, hreleased, rfl, hb⟩ := h.found j w terminal rest (by rw [hi, hth])
      have hlt := h.inRange _ p hp
      refine ⟨hlt.trans_le hk.length, intent, ?_,
        hk.carries hlt fun r hr => bound_iff.1 hb p r hp hr⟩
      have hnow : releasedIntent j ⟨s, .run j c, Action.stepThread s j th c⟩ = none := by
        simp only [releasedIntent, hi, hth]
      rw [justReleased_append, hnow]
      exact hreleased
    · rw [hother j hji] at hj
      obtain ⟨hlt, intent, hreleased, hcarries⟩ := h.finishing j p terminal rest hj
      exact ⟨hlt.trans_le hk.length, intent,
        (justReleased_of_eq (hother j hji)).trans hreleased, hk.carries hlt hcarries⟩

theorem RetryInvariant.step (hs : Step s a s')
    (hsafe : retriesOwnLeases s a = true) : RetryInvariant (tr ++ [⟨s, a, s'⟩]) s' := by
  have hk := hs.actionChange.keeps
  obtain ⟨-, rfl⟩ := hs
  cases a with
  | run i c =>
    cases hi : s.threads[i]? with
    | none =>
      simp only [exec, hi]
      exact h.unregistered (.of_same (.refl _)) (List.append_nil _).symm (by simp) rfl
    | some th =>
      simp only [exec, hi]
      exact h.stepThread hi hsafe
  | register w p => exact h.register hsafe
  | reserveTarget targetID request =>
    simp only [exec] at hk ⊢
    split at hk <;> exact h.unregistered hk rfl (by simp [Thread.listed, Thread.settling]) rfl
  | backendStop p pending confirmed =>
    exact h.unregistered hk (List.append_nil _).symm (by simp) (updateReservation_reservations ..)
  | learn profiles | storeCall call =>
    exact h.unregistered hk (List.append_nil _).symm (by simp) rfl
  | _ => exact h.unregistered hk rfl (by simp [Thread.listed, Thread.settling]) rfl

end

end

/-- **The invariant of a run**, from any reservations and stored intents. -/
theorem retryInvariant_run {s₀ s : System} (h : Run Step s₀ tr s) (hths : s₀.threads = [])
    (hrange : ∀ w p, s₀.manager.reservations.lookup w = some p → p < s₀.manager.heap.length)
    (hsafe : ∀ t ∈ tr, retriesOwnLeases t.pre t.label = true) : RetryInvariant tr s := by
  induction h with
  | nil => refine ⟨hrange, ?_, ?_, ?_⟩ <;> simp [hths]
  | @snoc tr s s' a _ hs ih =>
    exact (ih fun t ht => hsafe t (by simp [ht])).step hs (hsafe ⟨s, a, s'⟩ (by simp))

/-- In the transition, thread `i` runs the retry loop and finishes the reservation at `p`. -/
structure FinishesReservation (t : Transition System Action) (i p : ℕ) (r : TargetReservation) :
    Prop where
  run : ∃ c, t.label = .run i c
  thread : ∃ terminal rest, t.pre.threads[i]? = some (.finish p terminal (some rest))
  live : t.pre.manager.Live p r

/-- **The retry loop finishes a reservation only if it carries the lease that was released**, if the
intents that it lists are for the leases that their workloads are registered with, and no workload
is registered with another lease meanwhile. -/
theorem retry_finishes_own_lease {s₀ s : System} {tr l₁ l₂ : List (Transition System Action)}
    (h : Run Step s₀ tr s) (hths : s₀.threads = [])
    (hrange : ∀ w p, s₀.manager.reservations.lookup w = some p → p < s₀.manager.heap.length)
    (hsafe : ∀ t ∈ tr, retriesOwnLeases t.pre t.label = true) {t : Transition System Action}
    (ht : tr = l₁ ++ t :: l₂) {i p : ℕ} {r : TargetReservation} (hr : FinishesReservation t i p r) :
    ∃ intent, justReleased l₁ i = some intent ∧
      r.lease.acceleratorID = intent.acceleratorID ∧
      r.lease.fencingToken = intent.fencingToken := by
  obtain ⟨hbefore, -, -⟩ := h.split ht
  have hinv := retryInvariant_run hbefore hths hrange fun t' ht' => hsafe t' (by simp [ht, ht'])
  obtain ⟨terminal, rest, hi⟩ := hr.thread
  obtain ⟨-, intent, hreleased, hcarries⟩ := hinv.finishing i p terminal rest hi
  refine ⟨intent, hreleased, ?_⟩
  simpa [carries] using hcarries r hr.live

/-! ## A later placement of the same workload -/

def later : GoTime := ⟨3 * 10 ^ 9, 0⟩

/-- The thread takes the next step of the retry loop. -/
def retryStepOf (i : ℕ) (s : System) : Transition System Action :=
  ⟨s, runAt i later .none s, (runAt i later .none s).exec s⟩

theorem run_retryStepOf {s : System} {as : List (System → Action)}
    (h : ∀ a ∈ as, ∀ s, (a s).Admissible s) (i : ℕ) :
    Run Step s (script s as ++ [retryStepOf i (afterScript s as)])
      (retryStepOf i (afterScript s as)).post :=
  (run_script h s).snoc (a := runAt i later .none (afterScript s as))
    ⟨Choice.of_ofSystem (afterScript s as) later .none, rfl⟩

/-- A workload runs on the first target. Its release fails, and the retry loop repeats it. -/
def failToRelease : List (System → Action) :=
  [fun _ => .reserveTarget "t1" { workloadID := "w" },
   runAt 0 {} .none, runAt 0 {} .none, runAt 0 {} .none, fun _ => .register "w" 0,
   fun _ => .releaseTarget 0, runAt 1 {} .none, runAt 1 {} .none,
   runAt 1 {} (.before unavailable), runAt 1 {} .none, runAt 1 {} .none,
   fun _ => .retryAcceleratorLeaseCleanupIntents, runAt 2 later .none, runAt 2 later .none,
   runAt 2 later .none, runAt 2 later .none, runAt 2 later .none]

/-- The loop finishes the reservation whose release had failed. -/
theorem retry_finishes_failed_release :
    let l₁ := script twoAccelerators failToRelease
    let t := retryStepOf 2 (afterScript twoAccelerators failToRelease)
    ∃ r, FinishesReservation t 2 0 r ∧ ∃ intent, justReleased l₁ 2 = some intent ∧
      r.lease.acceleratorID = intent.acceleratorID ∧
      r.lease.fencingToken = intent.fencingToken :=
  ⟨_, ⟨⟨_, rfl⟩, ⟨_, _, rfl⟩, rfl, rfl⟩,
    retry_finishes_own_lease (run_retryStepOf (by simp [failToRelease, Action.Admissible, runAt,
      Choice.of_ofSystem]) 2) rfl (by simp [twoAccelerators]) (by decide) rfl
      ⟨⟨_, rfl⟩, ⟨_, _, rfl⟩, rfl, rfl⟩⟩

/-- The thread takes a step in which the target registry refuses. -/
def runBlocked (i : ℕ) (reason : GoString) : System → Action :=
  fun s => .run i { Choice.ofSystem s {} .none with blocked := some reason }

/-- A workload is refused the first target after it has acquired the lease, whose release fails, and
is placed on the second target. The retry loop repeats the release. -/
def failToAdmit : List (System → Action) :=
  [fun _ => .reserveTarget "t1" { workloadID := "w" },
   runAt 0 {} .none, runAt 0 {} .none, runBlocked 0 "target facts changed",
   runAt 0 {} (.before unavailable), runAt 0 {} .none,
   fun _ => .reserveTarget "t2" { workloadID := "w" },
   runAt 1 {} .none, runAt 1 {} .none, runAt 1 {} .none, fun _ => .register "w" 0,
   fun _ => .retryAcceleratorLeaseCleanupIntents, runAt 2 later .none, runAt 2 later .none,
   runAt 2 later .none, runAt 2 later .none, runAt 2 later .none]

theorem failToAdmit_admissible : ∀ a ∈ failToAdmit, ∀ s, (a s).Admissible s := by
  have hblocked : ∀ s reason,
      ({ Choice.ofSystem s {} .none with blocked := some reason } : Choice).Of s := fun s _ =>
    ⟨ScanOrders.of_ofStore _, rangeOrder_entries _, rangeOrder_entries _, rangeOrder_entries _⟩
  simp [failToAdmit, Action.Admissible, runAt, runBlocked, Choice.of_ofSystem, hblocked]

/-- The loop releases the lease of the failed admission and drops the placement on the second
target, whose lease stays in the store. -/
theorem retry_drops_later_placement :
    let l₁ := script twoAccelerators failToAdmit
    let t := retryStepOf 2 (afterScript twoAccelerators failToAdmit)
    twoAccelerators.threads = [] ∧ twoAccelerators.manager.reservations = ∅ ∧
    Run Step twoAccelerators (l₁ ++ [t]) t.post ∧
    (∃ r intent, FinishesReservation t 2 0 r ∧ justReleased l₁ 2 = some intent ∧
      leaseName r.lease = (ofString "g2", ofString "w", 1) ∧
      (intent.acceleratorID, intent.fencingToken) = (ofString "g1", 1)) ∧
    (t.pre.manager.activePlacements.lookup (ofString "w")).isSome = true ∧
    t.post.manager.activePlacements.lookup (ofString "w") = none ∧
    (t.post.store.leases.lookup (ofString "g2")).isSome = true :=
  ⟨rfl, rfl, run_retryStepOf failToAdmit_admissible 2,
    ⟨_, _, ⟨⟨_, rfl⟩, ⟨_, _, rfl⟩, rfl, rfl⟩, rfl, rfl, rfl⟩, by decide, by decide, by decide⟩

end VramGovernor.Workloads
