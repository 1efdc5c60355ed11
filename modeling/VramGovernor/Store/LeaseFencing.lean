import VramGovernor.Foundations.GoInt
import VramGovernor.Store.MemoryRun

/-!
# Fencing tokens

The token of a lease is taken from a counter that outlives it. The counter grows at grants, and the
lease in the table always carries its value (`Reachable.token_eq_counter`). So tokens are granted in
increasing order and a holder whose token is not the last one cannot touch the lease
(`lease_fences_off_older_holders`), as long as the counter has not wrapped. A recovery grant raises
the counter to the fence of its row, converted from `uint64` to `int64`: `recovery_token_above_iff`
says when the token is above that fence.
-/

namespace VramGovernor.Store

open GoString

def counter (m : MemoryStore) (a : GoString) : ℤ := (GoMap.get m.leaseFences a).toInt

/-- The token that a transition grants on the accelerator. -/
def grantedToken (a : GoString) (t : Transition MemoryStore StoreCall) : Option ℤ :=
  (t.label.granted t.pre a).map (·.fencingToken.toInt)

/-- The counter of a lease that is granted, raised to the floor of a recovery, is below `2^63 - 1`.
-/
def counterBelowMax (a : GoString) (t : Transition MemoryStore StoreCall) : Bool :=
  match t.label with
  | .acquire a' w opID _ _ o =>
    a' ≠ a || (t.label.granted t.pre a).isNone ||
      raisedFence t.pre a ((recoveryEntry a w opID o).map (·.2)) < Int64.maxValue
  | _ => true

/-- The call is a renewal or a release that names the workload and the token. -/
def StoreCall.Names (c : StoreCall) (a w : GoString) (token : Int64) : Prop :=
  (∃ ttl now, c = .renew a w token ttl now) ∨ c = .release a w token

/-! ## The counter -/

theorem counter_le_raisedFence (m : MemoryStore) (a : GoString)
    (r : Option LLMCheckpointOperation) : counter m a ≤ (raisedFence m a r).toInt := by
  unfold raisedFence counter
  cases r with
  | none => exact le_refl _
  | some op =>
    dsimp only
    split_ifs with h
    · exact (Int64.lt_iff_toInt_lt.1 h).le
    · exact le_refl _

variable {m m' : MemoryStore} {c : StoreCall} {a : GoString}

/-- A step that grants moves the counter to the token, and otherwise the counter stays. -/
theorem counter_step (h : StoreStep m c m') (a : GoString)
    (hb : counterBelowMax a ⟨m, c, m'⟩ = true) :
    counter m a ≤ counter m' a ∧
      ∀ k, grantedToken a ⟨m, c, m'⟩ = some k → counter m a < k ∧ k ≤ counter m' a := by
  cases h.leaseChange a with
  | keep hg hf =>
    refine ⟨?_, fun k hk => ?_⟩
    · rw [counter, counter, hf]
    · simp [grantedToken, hg] at hk
  | renew l ttl now hc hl hf | release l hc hl hf =>
    subst hc
    refine ⟨?_, fun k hk => ?_⟩
    · rw [counter, counter, hf]
    · simp [grantedToken, StoreCall.granted] at hk
  | grant w opID ttl now o r hc hr hg hf =>
    subst hc
    have hlt : raisedFence m a (r.map (·.2)) < Int64.maxValue := by
      simpa [counterBelowMax, hg, recoveryEntry_of_grantable h.1 hr] using hb
    have htok : (grantedLease m a w ttl now.utc r).fencingToken.toInt =
        (raisedFence m a (r.map (·.2))).toInt + 1 := toInt_add_one hlt
    have hle := counter_le_raisedFence m a (r.map (·.2))
    have hpost : counter m' a = (grantedLease m a w ttl now.utc r).fencingToken.toInt := by
      rw [counter, hf]
    refine ⟨by omega, fun k hk => ?_⟩
    obtain rfl : (grantedLease m a w ttl now.utc r).fencingToken.toInt = k := by
      simpa [grantedToken, hg] using hk
    omega

def StoreCall.noWrap (m : MemoryStore) (c : StoreCall) : Bool :=
  match c with
  | .acquire a _ _ _ _ _ => counterBelowMax a ⟨m, c, m⟩
  | _ => true

theorem counterBelowMax_of_noWrap (h : c.noWrap m = true) (a : GoString) (m' : MemoryStore) :
    counterBelowMax a ⟨m, c, m'⟩ = true := by
  cases c with
  | acquire a' w opID ttl now o =>
    by_cases ha : a' = a
    · exact ha ▸ h
    · simp [counterBelowMax, ha]
  | _ => rfl

/-- **Tokens are granted in increasing order,** and the counter bounds them. -/
theorem tokens_increasing {tr : List (Transition MemoryStore StoreCall)} {m₀ : MemoryStore}
    (h : Run StoreStep m₀ tr m) (hb : ∀ t ∈ tr, counterBelowMax a t = true) :
    (tr.filterMap (grantedToken a)).Pairwise (· < ·) ∧
      ∀ k ∈ tr.filterMap (grantedToken a), k ≤ counter m a := by
  have hstep : ∀ t ∈ tr, StoreStep t.pre t.label t.post := fun t ht =>
    let ⟨_, _, _, _, hs, _⟩ := h.split_mem ht
    hs
  refine h.pairwise_lt (c := fun m => counter m a) ?_ ?_
  · intro t ht
    exact (counter_step (hstep t ht) a (hb t ht)).1
  · intro t ht
    exact (counter_step (hstep t ht) a (hb t ht)).2

/-! ## The lease -/

/-- **The lease in the table carries the last token.** -/
theorem Reachable.token_eq_counter (h : Reachable m) {l : AcceleratorLease}
    (hl : m.leases.lookup a = some l) : l.fencingToken = GoMap.get m.leaseFences a := by
  obtain ⟨tr, h⟩ := h
  revert l
  refine h.invariant (I := fun m => ∀ {l : AcceleratorLease}, m.leases.lookup a = some l →
    l.fencingToken = GoMap.get m.leaseFences a) ?_ ?_
  · intro l hl
    cases hl
  · intro m c m' ih hs l hl
    cases hs.leaseChange a with
    | keep hg hf hl' => rw [hf]; exact ih (hl' ▸ hl)
    | renew l₀ ttl now hc hl₀ hf hl' =>
      obtain rfl := Option.mem_unique hl' hl
      rw [hf, ← ih hl₀]
    | release l₀ hc hl₀ hf hl' => rw [hl'] at hl; cases hl
    | grant w opID ttl now o r hc hr hg hf hl' =>
      obtain rfl := Option.mem_unique hl' hl
      exact hf.symm

/-- A renewal or release that names another workload or token leaves the lease as it is. -/
theorem lookup_eq_of_names (h : StoreStep m c m') {w : GoString} {token : Int64}
    (hc : c.Names a w token)
    (hne : ∀ l, m.leases.lookup a = some l → (l.workloadID, l.fencingToken) ≠ (w, token)) :
    m'.leases.lookup a = m.leases.lookup a := by
  cases h.leaseChange a with
  | keep hg hf hl => exact hl
  | renew l ttl now hc' hl =>
    subst hc'
    rcases hc with ⟨ttl', now', hc⟩ | hc
    · simp only [StoreCall.renew.injEq] at hc
      exact absurd (by rw [hc.2.1, hc.2.2.1]) (hne l hl)
    · cases hc
  | release l hc' hl =>
    subst hc'
    rcases hc with ⟨ttl', now', hc⟩ | hc
    · cases hc
    · simp only [StoreCall.release.injEq] at hc
      exact absurd (by rw [hc.2.1, hc.2.2]) (hne l hl)
  | grant w' opID ttl now o r hc' =>
    subst hc'
    rcases hc with ⟨ttl', now', hc⟩ | hc <;> cases hc

theorem liveLease_eq_none_of_granted {w opID : GoString} {ttl : ℤ} {now : GoTime} {o : ScanOrders}
    (h : StoreStep m (.acquire a w opID ttl now o) m')
    (hg : ((StoreCall.acquire a w opID ttl now o).granted m a).isSome = true) :
    liveLease m a now.utc = none := by
  cases h.leaseChange a with
  | keep hn => rw [hn] at hg; cases hg
  | renew _ _ _ hc | release _ hc => cases hc
  | grant _ _ _ _ _ r hc hr =>
    cases hc
    exact hr.noLiveLease

/-- **Older holders are fenced off** while the counter stays below `2^63 - 1`: tokens increase, a
grant finds no live lease, and a call that does not name the current workload and token leaves the
lease as it is. -/
theorem lease_fences_off_older_holders {tr : List (Transition MemoryStore StoreCall)}
    {m : MemoryStore} (h : Run StoreStep newMemoryStore tr m) (a : GoString)
    (hb : ∀ t ∈ tr, counterBelowMax a t = true) : (tr.filterMap (grantedToken a)).Pairwise (· < ·) ∧
    (∀ t ∈ tr, ∀ w opID ttl now o, t.label = .acquire a w opID ttl now o →
      (t.label.granted t.pre a).isSome = true → liveLease t.pre a now.utc = none) ∧
    (∀ t ∈ tr, ∀ w token, t.label.Names a w token →
      (∀ l, t.pre.leases.lookup a = some l → (l.workloadID, l.fencingToken) ≠ (w, token)) →
        t.post.leases.lookup a = t.pre.leases.lookup a) ∧
    (∀ l₁ t₁ l₂ t₂ l₃ old w, tr = l₁ ++ t₁ :: l₂ ++ t₂ :: l₃ →
      t₁.label.granted t₁.pre a = some old → (∃ t ∈ l₂, (t.label.granted t.pre a).isSome = true) →
      t₂.label.Names a w old.fencingToken → t₂.post.leases.lookup a = t₂.pre.leases.lookup a) := by
  refine ⟨(tokens_increasing h hb).1, ?_, ?_, ?_⟩
  · rintro ⟨pre, label, post⟩ ht w opID ttl now o rfl hg
    obtain ⟨_, _, _, _, hs, _⟩ := h.split_mem ht
    exact liveLease_eq_none_of_granted hs hg
  · intro t ht w token hn hne
    obtain ⟨_, _, _, _, hs, _⟩ := h.split_mem ht
    exact lookup_eq_of_names hs hn hne
  · rintro l₁ t₁ l₂ t₂ l₃ old w htr hold ⟨t, ht, hnew⟩ hn
    obtain ⟨hpre, hs, -⟩ := h.split htr
    obtain ⟨hlt, hle⟩ := tokens_increasing hpre (a := a) fun t ht =>
      hb t (htr ▸ List.mem_append_left _ ht)
    refine lookup_eq_of_names hs hn fun l hl heq => ?_
    -- The lease carries the counter's value, which a later token than `old`'s bounds from below.
    obtain ⟨new, hnew⟩ := Option.isSome_iff_exists.1 hnew
    have hk : (old.fencingToken.toInt) < new.fencingToken.toInt := by
      have hmem : new.fencingToken.toInt ∈ l₂.filterMap (grantedToken a) :=
        List.mem_filterMap.2 ⟨t, ht, by simp [grantedToken, hnew]⟩
      rw [List.filterMap_append, List.pairwise_append, List.filterMap_cons_some (b :=
        old.fencingToken.toInt) (by simp [grantedToken, hold]), List.pairwise_cons] at hlt
      exact hlt.2.1.1 _ hmem
    have hle' : new.fencingToken.toInt ≤ counter t₂.pre a :=
      hle _ (List.mem_filterMap.2 ⟨t, by simp [ht], by simp [grantedToken, hnew]⟩)
    have htok : l.fencingToken = GoMap.get t₂.pre.leaseFences a :=
      Reachable.token_eq_counter ⟨_, hpre⟩ hl
    have hold' : l.fencingToken = old.fencingToken := congrArg Prod.snd heq
    rw [counter, ← htok, hold'] at hle'
    omega

/-- Two workloads take the accelerator in turn; then the first one renews and releases again. -/
def takeover : List (MemoryStore → StoreCall) :=
  [fun m => .acquire "gpu" "w1" [] 10 {} (.ofStore m),
   fun _ => .release "gpu" "w1" 1,
   fun m => .acquire "gpu" "w2" [] 10 {} (.ofStore m),
   fun _ => .renew "gpu" "w1" 1 99 {},
   fun _ => .release "gpu" "w1" 1]

/-- The theorem at a takeover: the first holder's renewal and release leave the second's lease. -/
theorem takeover_fences_off_first :
    ((script newMemoryStore takeover).filterMap (grantedToken "gpu")).Pairwise (· < ·) ∧
    (script newMemoryStore takeover).filterMap (grantedToken "gpu") = [1, 2] ∧
    (afterScript newMemoryStore takeover).leases.lookup (ofString "gpu") =
      some ⟨"gpu", "w2", 2, ⟨10, 0⟩⟩ :=
  ⟨(lease_fences_off_older_holders (run_script
    (by simp [takeover, StoreCall.Admissible, ScanOrders.of_ofStore]) newMemoryStore) "gpu"
      (by decide)).1, by decide, by decide⟩

/-! ## Recovery -/

theorem raisedFence_some (m : MemoryStore) (a : GoString) (op : LLMCheckpointOperation) :
    (raisedFence m a (some op)).toInt = max (counter m a) op.cleanupFence.toInt64.toInt := by
  unfold raisedFence counter
  dsimp only
  split_ifs with h
  · exact (max_eq_right (Int64.lt_iff_toInt_lt.1 h).le).symm
  · exact (max_eq_left (Int64.le_iff_toInt_le.1 (Int64.not_lt.1 h))).symm

/-- **When a recovery token is above the fence of its row** and all earlier tokens: exactly when
both the fence and the counter are below `2^63 - 1`. -/
theorem recovery_token_above_iff {tr : List (Transition MemoryStore StoreCall)} {m : MemoryStore}
    (h : Run StoreStep newMemoryStore tr m) (a w opID : GoString) (ttl : ℤ) (now : GoTime)
    (hb : ∀ t ∈ tr, counterBelowMax a t = true) {o : ScanOrders} (ho : o.Of m)
    (hgrant : (acquireAcceleratorLease m a w opID ttl now o).2.2 = true)
    {e : GoMap.Entry LLMCheckpointOperation} (he : recoveryEntry a w opID o = some e) :
    ((e.2.cleanupFence.toNat : ℤ) <
        (acquireAcceleratorLease m a w opID ttl now o).2.1.fencingToken.toInt ∧
      ∀ k ∈ tr.filterMap (grantedToken a),
        k < (acquireAcceleratorLease m a w opID ttl now o).2.1.fencingToken.toInt) ↔
    e.2.cleanupFence.toNat < 2 ^ 63 - 1 ∧ counter m a < 2 ^ 63 - 1 := by
  rcases acquireAcceleratorLease_cases ho a w opID ttl now with ⟨l, hl⟩ | ⟨r, hr, hl⟩
  · rw [hl] at hgrant
    cases hgrant
  obtain rfl : r = some e := (recoveryEntry_of_grantable ho hr).symm.trans he
  have hraise := raisedFence_some m a e.2
  have hconv := toInt_toInt64 e.2.cleanupFence
  rw [hl]
  simp only [grantedLease, Option.map_some]
  constructor
  · rintro ⟨hfence, -⟩
    by_cases hlt : raisedFence m a (some e.2) < Int64.maxValue
    · rw [toInt_add_one hlt] at hfence
      rw [Int64.lt_iff_toInt_lt, Int64.toInt_maxValue] at hlt
      omega
    · rw [toInt_add_one_of_not_lt hlt] at hfence
      omega
  · rintro ⟨hfence, hc⟩
    have hlt : raisedFence m a (some e.2) < Int64.maxValue := by
      rw [Int64.lt_iff_toInt_lt, Int64.toInt_maxValue]
      omega
    rw [toInt_add_one hlt]
    refine ⟨by omega, fun k hk => ?_⟩
    have := (tokens_increasing h hb).2 k hk
    omega

/-- A planned row whose cleanup is armed with the given fence. -/
def armedRow (fence : UInt64) : LLMCheckpointOperation :=
  { id := "op", idempotencyKey := "key", ownerID := "owner", workloadID := "w", nodeID := "node"
    acceleratorID := "gpu", targetID := "target", model := "model", generation := 1, fence := 1
    runtimeIdentity := "runtime", modelFingerprint := "model", profileFingerprint := "profile"
    contextFingerprint := "context", conversationID := "conversation", workloadRevision := 1
    phase := "planned", cleanupState := "armed", cleanupTargetID := "target"
    cleanupAcceleratorID := "gpu", cleanupGeneration := 1, cleanupFence := fence }

/-- The store in which only that row has been created. -/
def armedStore (fence : UInt64) : List (MemoryStore → StoreCall) :=
  [fun m => .createCheckpoint (some (armedRow fence)) {} m.llmCheckpointOps.entries]

theorem armedStore_admissible (fence : UInt64) :
    ∀ c ∈ armedStore fence, ∀ m, (c m).Admissible m := by
  simp [armedStore, StoreCall.Admissible, GoMap.rangeOrder_entries]

/-- The condition holds of the fence `7`. -/
theorem recovery_token_above_seven :
    let m := afterScript newMemoryStore (armedStore 7)
    (7 : ℤ) <
      (acquireAcceleratorLease m "gpu" "w" "op" 10 {} (.ofStore m)).2.1.fencingToken.toInt :=
  ((recovery_token_above_iff (run_script (armedStore_admissible 7) newMemoryStore) "gpu" "w" "op" 10
    {} (by decide) (ScanOrders.of_ofStore _) (by decide)
    (e := ⟨"op", withCreateTimes (withCreateDefaults (armedRow 7)) {}⟩) (by decide)).2
    (by decide)).1

/-- At the fence `2^63` the conversion is negative and the recovery is granted token 1; at `2^63 -
1` the counter wraps. Both rows are accepted by the store. -/
theorem recovery_token_below_fence :
    (let m := afterScript newMemoryStore (armedStore 0x8000000000000000)
     let r := acquireAcceleratorLease m "gpu" "w" "op" 10 {} (.ofStore m)
     Reachable m ∧ r.2.2 = true ∧
       (recoveryEntry "gpu" "w" "op" (.ofStore m)).map (·.2.cleanupFence) =
         some 0x8000000000000000 ∧ r.2.1.fencingToken.toInt = 1) ∧
    (let m := afterScript newMemoryStore (armedStore 0x7fffffffffffffff)
     let r := acquireAcceleratorLease m "gpu" "w" "op" 10 {} (.ofStore m)
     Reachable m ∧ r.2.2 = true ∧
       (recoveryEntry "gpu" "w" "op" (.ofStore m)).map (·.2.cleanupFence) =
         some 0x7fffffffffffffff ∧ r.2.1.fencingToken.toInt = -0x8000000000000000) :=
  ⟨⟨⟨_, run_script (armedStore_admissible _) _⟩, by decide⟩,
    ⟨⟨_, run_script (armedStore_admissible _) _⟩, by decide⟩⟩

end VramGovernor.Store
