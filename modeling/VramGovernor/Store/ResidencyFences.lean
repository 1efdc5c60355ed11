import VramGovernor.Store.ResidencyTransitions

/-!
# The fences of residency transitions

Allocations and swaps keep the fences of a target and a model apart: a new row is above all of them,
and a swap leaves the fence of its row alone (`fencing_tokens`). An allocation that is repeated is
compared with the stored row, fence included. If the store raised the fence, the same request is
refused; otherwise it is answered with the row (`retry_answered_iff`).
-/

namespace VramGovernor.Store

open GoString GoMap TransitionStore

/-- Different rows of a target and a model have different fences. -/
def DistinctTokens (m : TransitionStore) : Prop :=
  ∀ i j row row', i ≠ j → m.transitions.lookup i = some row → m.transitions.lookup j = some row' →
    row.targetID = row'.targetID → row.model = row'.model → row.fencingToken ≠ row'.fencingToken

/-- The calls that hand out fences or keep them. -/
def TransitionCall.fenced : TransitionCall → Bool
  | .create _ | .update _ => false
  | _ => true

/-- The fence of a row that the call made for the target and the model. -/
def granted (targetID model : GoString) (t : Transition TransitionStore TransitionCall) :
    Option ℤ :=
  match (t.label.run t.pre).2 with
  | .ok (some row, true) =>
    if row.targetID = targetID ∧ row.model = model then some row.fencingToken.toInt else none
  | _ => none

/-- The rows stay, with what identifies them. -/
def KeepsRows (m m' : TransitionStore) : Prop :=
  ∀ id, Advances SameIdentity id m.transitions m'.transitions

theorem SameIdentity.refl (row : ResidencyTransition) : SameIdentity row row := ⟨rfl, rfl, rfl, rfl⟩

section Steps

variable {m m' : TransitionStore} {c : TransitionCall}

theorem KeepsRows.fence_le (h : KeepsRows m m') (targetID model : GoString) :
    m.fence targetID model ≤ m'.fence targetID model := by
  rw [fence_le_iff]
  have hle := (fence_le_iff (m := m')).1 (le_refl (m'.fence targetID model))
  refine ⟨hle.1, fun id row hl ht hm => ?_⟩
  obtain ⟨row', hl', hsame⟩ := h id row hl
  rw [hsame.token]
  exact hle.2 id row' hl' (hsame.targetID ▸ ht) (hsame.model ▸ hm)

section

variable (h : TransitionStep m c m') (hc : c.fenced = true)
include h hc

theorem TransitionStep.keepsRows : KeepsRows m m' := by
  intro id
  have hchange := h.change
  generalize (c.run m).2 = r at hchange
  cases hchange with
  | refused | replayed | other => exact advances_refl SameIdentity.refl id _
  | created t hcall | updated current row hcall =>
    subst hcall
    cases hc
  | allocated t row hcall hfresh hneeded hrow =>
    refine advances_insert_new SameIdentity.refl ?_ row
    rw [hrow.id]
    exact hfresh.2
  | swapped current row revision status fence hcall hl hchecks =>
    have hsame := sameIdentity_of_swapChecks hchecks
    exact advances_insert SameIdentity.refl hl
      ⟨hsame.idempotencyKey, hsame.targetID, hsame.model, hsame.token⟩

omit h hc in
theorem AllocatedFor.token_lt {t row row' : ResidencyTransition} {id : GoString}
    (h : AllocatedFor m t row) (hl : m.transitions.lookup id = some row')
    (ht : row'.targetID = row.targetID) (hm : row'.model = row.model) :
    row'.fencingToken.toInt < row.fencingToken.toInt := by
  have hle := token_le_fence hl
  have hneed : m.fence t.targetID t.model + 1 ≤ neededToken m t := le_max_right _ _
  rw [ht, hm, h.targetID, h.model] at hle
  rw [h.token]
  omega

theorem TransitionStep.distinctTokens (hd : DistinctTokens m) : DistinctTokens m' := by
  intro i j row₁ row₂ hij h₁ h₂ ht hm
  have hchange := h.change
  generalize (c.run m).2 = r at hchange
  cases hchange with
  | refused | replayed | other => exact hd i j row₁ row₂ hij h₁ h₂ ht hm
  | created t hcall | updated current row hcall =>
    subst hcall
    cases hc
  | allocated t row hcall hfresh hneeded hrow =>
    simp only [insertTransition, lookup_insert_of] at h₁ h₂
    -- at most one of the two is the new row, and it is above the other
    split_ifs at h₁ h₂ with hi hj hj
    · exact absurd (hi.trans hj.symm) hij
    · cases h₁
      intro heq
      have hlt := hrow.token_lt h₂ ht.symm hm.symm
      rw [heq] at hlt
      exact lt_irrefl _ hlt
    · cases h₂
      intro heq
      have hlt := hrow.token_lt h₁ ht hm
      rw [heq] at hlt
      exact lt_irrefl _ hlt
    · exact hd i j row₁ row₂ hij h₁ h₂ ht hm
  | swapped current row revision status fence hcall hl hchecks =>
    have hsame := sameIdentity_of_swapChecks hchecks
    simp only [lookup_insert_of] at h₁ h₂
    split_ifs at h₁ h₂ with hi hj hj
    · exact absurd (hi.trans hj.symm) hij
    · cases h₁
      rw [← hsame.token]
      exact hd row.id j current row₂ (hi ▸ hij) hl h₂ (hsame.targetID.trans ht)
        (hsame.model.trans hm)
    · cases h₂
      rw [← hsame.token]
      exact hd i row.id row₁ current (hj ▸ hij) h₁ hl (ht.trans hsame.targetID.symm)
        (hm.trans hsame.model.symm)
    · exact hd i j row₁ row₂ hij h₁ h₂ ht hm

/-- What is handed out is above the fence before and not above the fence after. -/
theorem TransitionStep.granted_between
    {targetID model : GoString} {k : ℤ} (hk : granted targetID model ⟨m, c, m'⟩ = some k) :
    m.fence targetID model < k ∧ k ≤ m'.fence targetID model := by
  have hchange := h.change
  unfold granted at hk
  generalize (c.run m).2 = r at hk hchange
  cases hchange with
  | refused | replayed | other | swapped | updated => cases hk
  | created t hcall =>
    subst hcall
    cases hc
  | allocated t row hcall hfresh hneeded hrow =>
    dsimp only at hk
    split_ifs at hk with hpair
    cases hk
    obtain ⟨rfl, rfl⟩ := hpair
    have hneed : m.fence t.targetID t.model + 1 ≤ neededToken m t := le_max_right _ _
    have hl : (m.insertTransition row).transitions.lookup row.id = some row := AList.lookup_insert _
    refine ⟨?_, token_le_fence hl⟩
    rw [hrow.token, hrow.targetID, hrow.model]
    omega

end

/-- A fresh allocation that needs more than the largest word is refused. -/
theorem TransitionStep.exhausted (h : TransitionStep m c m') {t : ResidencyTransition}
    (hc : c.request = some t) (hfresh : Fresh m t) (hneeded : 2 ^ 63 - 1 < neededToken m t) :
    (∃ e, (c.run m).2 = .error e) ∧ m' = m := by
  have hchange := h.change
  generalize (c.run m).2 = r at hchange ⊢
  cases hchange with
  | refused e => exact ⟨⟨e, rfl⟩, rfl⟩
  | replayed _ hknown => exact absurd hfresh (hknown t hc)
  | other rest hcall | created t' hcall
  | swapped current row revision status fence hcall | updated current row hcall =>
    subst hcall
    cases hc
  | allocated t' row hcall _ hle =>
    obtain rfl := Option.mem_unique hcall hc
    omega

end Steps

/-- **Fences of residency transitions** differ, increase and are kept by their rows, and one beyond
the largest word is refused. -/
theorem fencing_tokens {m₀ m : TransitionStore}
    {tr : List (Transition TransitionStore TransitionCall)} (h : Run TransitionStep m₀ tr m)
    (h₀ : DistinctTokens m₀) (hc : ∀ t ∈ tr, t.label.fenced = true) :
    (∀ t ∈ tr, DistinctTokens t.post) ∧
      (∀ targetID model, (tr.filterMap (granted targetID model)).Pairwise (· < ·)) ∧
      (∀ t ∈ tr, KeepsRows t.pre t.post) ∧
      ∀ t ∈ tr, ∀ request, t.label.request = some request → Fresh t.pre request →
        2 ^ 63 - 1 < neededToken t.pre request →
        (∃ e, (t.label.run t.pre).2 = .error e) ∧ t.post = t.pre := by
  have hstep : ∀ t ∈ tr, TransitionStep t.pre t.label t.post := by
    intro t ht
    obtain ⟨-, -, -, -, hs, -⟩ := h.split_mem ht
    exact hs
  refine ⟨?_, fun targetID model => ?_, fun t ht => (hstep t ht).keepsRows (hc t ht),
    fun t ht request => (hstep t ht).exhausted⟩
  · refine (h.observe_of hc h₀ fun m c m' hd hs hf => ?_).2
    exact ⟨hs.distinctTokens hf hd, hs.distinctTokens hf hd⟩
  · refine (h.pairwise_lt (c := fun m => m.fence targetID model) ?_ ?_).1
    · exact fun t ht => ((hstep t ht).keepsRows (hc t ht)).fence_le targetID model
    · exact fun t ht k hk => (hstep t ht).granted_between (hc t ht) hk

def loadRequest (id : GoString) (fence : Int64) : ResidencyTransition :=
  { id, idempotencyKey := id, targetID := "t", model := "m", fencingToken := fence }

def allocateTwice : List (TransitionStore → TransitionCall) :=
  [fun m => .allocate (loadRequest "a" 5) m.transitions.entries,
   fun _ => .swap { loadRequest "a" 5 with status := .running } 1 .planned 5,
   fun m => .allocate (loadRequest "b" 3) m.transitions.entries]

theorem two_fences_granted :
    ((Run.script (fun m c => (TransitionCall.run m c).1) {} allocateTwice).filterMap
        (granted "t" "m") = [5, 6]) ∧
      ∀ t ∈ Run.script (fun m c => (TransitionCall.run m c).1) {} allocateTwice,
        DistinctTokens t.post := by
  refine ⟨by decide +kernel, (fencing_tokens (Run.of_script _ ?_ _) ?_ (by decide +kernel)).1⟩
  · refine fun a ha m => ⟨?_, rfl⟩
    simp only [allocateTwice, List.mem_cons, List.not_mem_nil, or_false] at ha
    rcases ha with rfl | rfl | rfl
    · exact rangeOrder_entries _
    · trivial
    · exact rangeOrder_entries _
  · intro i j row row' hij hl
    exact absurd hl (by simp)

/-! ## Repeated requests -/

section Retry

variable {m m₁ m₂ : TransitionStore} {t row : ResidencyTransition}
  {order order' : List (Entry ResidencyTransition)}

theorem TransitionStep.keyed_eq {c : TransitionCall} {key : GoString}
    (h : TransitionStep m c m₁) (hk : m.keyed key ≠ []) : m₁.keyed key = m.keyed key := by
  have hinsert : ∀ row : ResidencyTransition, m.keyed row.idempotencyKey = [] →
      (m.insertTransition row).keyed key = m.keyed key := by
    intro row hfree
    have hne : key ≠ row.idempotencyKey := by
      rintro rfl
      exact hk hfree
    simp only [keyed, insertTransition, lookup_insert_of,
      hne, if_false]
  have hchange := h.change
  generalize (c.run m).2 = r at hchange
  cases hchange with
  | refused | replayed | other => rfl
  | created t hcall hfresh => exact hinsert t hfresh.1
  | allocated t row hcall hfresh hneeded hrow =>
    apply hinsert
    rw [hrow.idempotencyKey]
    exact hfresh.1
  | swapped | updated => rfl

theorem keyed_eq_of_run {tr : List (Transition TransitionStore TransitionCall)} {key : GoString}
    (h : Run TransitionStep m tr m₁) (hk : m.keyed key ≠ []) : m₁.keyed key = m.keyed key := by
  refine h.invariant (I := fun m' => m'.keyed key = m.keyed key) rfl fun m₁ c m₂ heq hs => ?_
  exact (hs.keyed_eq (heq ▸ hk)).trans heq

/-- What an allocation that makes a row has checked and stored. -/
theorem allocateResidencyTransition_created
    (h : allocateResidencyTransition m t order = (m₁, .ok (row, true))) :
    refuseLeaseOrigin t "unleased allocation cannot issue or accept lease-origin provenance" =
        .ok () ∧
      highwater order t.targetID t.model ≠ Int64.maxValue ∧
      row = fencedRow t (highwater order t.targetID t.model) ∧ m₁ = m.insertTransition row := by
  revert h
  fun_cases allocateResidencyTransition m t order with
  | case1 => rintro ⟨⟩
  | case2 ho =>
    rcases replayOr_cases m t (allocateFence m t order id) with ⟨-, heq⟩ | ⟨-, r, -, heq⟩
    · rw [heq]
      fun_cases allocateFence m t order id with
      | case1 => rintro ⟨⟩
      | case2 _ hmax =>
        rintro ⟨⟩
        exact ⟨ho, hmax, rfl, rfl⟩
    · rw [heq]
      cases r <;> simp [Except.map]

/-- **A repeated request is answered with its row exactly if its fence was not raised**, whatever
calls come between. An empty id leaves the key free in the index of keys: a request with another id
may then take it, and the repeated one is compared with that row. -/
theorem retry_answered_iff {tr : List (Transition TransitionStore TransitionCall)}
    (ho : m.transitions.RangeOrder order) (hid : t.id ≠ [])
    (hcreated : allocateResidencyTransition m t order = (m₁, .ok (row, true)))
    (hrun : Run TransitionStep m₁ tr m₂) (hrow : m₂.transitions.lookup row.id = some row) :
    allocateResidencyTransition m₂ t order' = (m₂, .ok (row, false)) ↔
      m.fence t.targetID t.model < t.fencingToken.toInt := by
  obtain ⟨hunleased, hmax, hrow', hm₁⟩ := allocateResidencyTransition_created hcreated
  have htoken := fencedRow_token ho hmax
  rw [← hrow'] at htoken
  have hrid : row.id = t.id := by rw [hrow']; rfl
  have hkey : m₁.keyed t.idempotencyKey = t.id := by
    have hrkey : row.idempotencyKey = t.idempotencyKey := by rw [hrow']; rfl
    rw [hm₁, keyed, insertTransition, ← hrkey, AList.lookup_insert,
      hrid]
    rfl
  have hkey₂ : m₂.keyed t.idempotencyKey = t.id := by
    rw [keyed_eq_of_run hrun (hkey ▸ hid), hkey]
  have hsame : sameResidencyTransitionLeaseOrigin row t = true := by
    rw [hrow']
    simp [sameResidencyTransitionLeaseOrigin, fencedRow]
  have hretry : allocateResidencyTransition m₂ t order' =
      (m₂, (verifyResidencyTransitionReplay (some row) t).map (·, false)) := by
    rw [hrid] at hrow
    have hne : m₂.keyed t.idempotencyKey ≠ [] := hkey₂ ▸ hid
    simp only [allocateResidencyTransition, hunleased]
    rw [replayOr, if_pos hne, hkey₂, hrow]
  have hdiffers : canonicalDiffers row t true = decide (row.fencingToken ≠ t.fencingToken) := by
    rw [hrow']
    simp [canonicalDiffers, fencedRow]
  have hraised : row.fencingToken = t.fencingToken ↔
      m.fence t.targetID t.model < t.fencingToken.toInt := by
    rw [← Int64.toInt_inj, htoken, neededToken]
    omega
  rw [hretry, ← hraised]
  by_cases heq : row.fencingToken = t.fencingToken
  · simp [verifyResidencyTransitionReplay, verifyResidencyTransitionCanonical, hdiffers, heq, hsame,
      bind, Except.bind, Except.map]
  · simp [verifyResidencyTransitionReplay, verifyResidencyTransitionCanonical, hdiffers, heq, bind,
      Except.bind, Except.map]

end Retry

def afterRequest (fence : Int64) : TransitionStore :=
  (allocateResidencyTransition {} (loadRequest "a" fence) []).1

def otherRequest : TransitionCall :=
  .allocate (loadRequest "b" 3) (afterRequest 5).transitions.entries

/-- The request is repeated after another allocation. -/
theorem retry_after_other_answered :
    allocateResidencyTransition (otherRequest.run (afterRequest 5)).1 (loadRequest "a" 5) [] =
      ((otherRequest.run (afterRequest 5)).1, .ok (fencedRow (loadRequest "a" 5) 0, false)) := by
  have hstep : TransitionStep (afterRequest 5) otherRequest
      (otherRequest.run (afterRequest 5)).1 := ⟨rangeOrder_entries _, rfl⟩
  have hcreated : allocateResidencyTransition {} (loadRequest "a" 5) [] =
      (afterRequest 5, .ok (fencedRow (loadRequest "a" 5) 0, true)) := rfl
  exact (retry_answered_iff (rangeOrder_entries ∅) (by decide) hcreated
    (Run.nil.snoc hstep) rfl).2 (by decide +kernel)

/-- A request without a lease is raised from zero to one, one below another row above that. Each is
refused when it is repeated at once. -/
theorem raised_request_refused :
    (∃ row, (allocateResidencyTransition {} (loadRequest "a" 0) []).2 = .ok (row, true) ∧
        row.fencingToken = 1 ∧
        (allocateResidencyTransition (afterRequest 0) (loadRequest "a" 0)
          (afterRequest 0).transitions.entries).2 =
            .error (transitionConflict "canonical transition arguments differ")) ∧
      ∃ m row, allocateResidencyTransition (afterRequest 5) (loadRequest "b" 3)
          (afterRequest 5).transitions.entries = (m, .ok (row, true)) ∧ row.fencingToken = 6 ∧
        (allocateResidencyTransition m (loadRequest "b" 3) m.transitions.entries).2 =
          .error (transitionConflict "canonical transition arguments differ") :=
  ⟨⟨_, rfl, by decide +kernel, by rfl⟩, ⟨_, _, rfl, by decide +kernel, by rfl⟩⟩

end VramGovernor.Store
