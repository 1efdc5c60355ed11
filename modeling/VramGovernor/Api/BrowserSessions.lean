import Mathlib.Data.List.Sort
import VramGovernor.Foundations.GoMap
import VramGovernor.Foundations.GoTime
import VramGovernor.Foundations.Sha256

/-!
# Browser sessions

A login stores the principal of a credential as a session, and every later request of the browser
rebuilds a principal from it. A session has no fields for the scheduling defaults of a credential:
the rebuilt principal has no default priority or queue policy, and no limit of its waits.
-/

namespace VramGovernor.Api

open GoString GoMap

structure Principal where
  (id plane ownerID : GoString := [])
  (scopes adapters : GoMap Unit := ∅)
  nodeID : GoString := []
  maxPriority : Int64 := 0
  (maxIncidentSeverity egressPolicy : GoString := [])
  (concurrencyLimit budgetCents preemptionBudget defaultPriority : Int64 := 0)
  defaultQueuePolicy : GoString := []
  maxQueueWaitSeconds : Int64 := 0

structure BrowserSession where
  (idHash csrfHash kind principalID plane ownerID : GoString)
  (scopes adapters : List GoString)
  nodeID : GoString
  maxPriority : Int64
  (maxIncidentSeverity egressPolicy : GoString)
  (concurrencyLimit budgetCents preemptionBudget : Int64)
  (createdAt expiresAt : GoTime)

def digestSecret (secret : GoString) : GoString := hexString (Sha256.sum256 secret)

def mapKeys (values : GoMap Unit) : List GoString := values.keys.insertionSort (· ≤ ·)

def storedBrowserSession (id csrf kind : GoString) (principal : Principal) (now expiry : GoTime) :
    BrowserSession :=
  { principal with
    idHash := digestSecret id, csrfHash := digestSecret csrf, kind, principalID := principal.id
    scopes := mapKeys principal.scopes, adapters := mapKeys principal.adapters
    createdAt := now, expiresAt := expiry }

/-- The map that a loop over the keys fills. -/
def keySet (keys : List GoString) : GoMap Unit := keys.foldl (fun m key => m.insert key ()) ∅

def principalFromSession (session : BrowserSession) : Principal :=
  { session with
    id := session.principalID
    scopes := keySet session.scopes
    adapters := keySet session.adapters }

/-! ## Scheduling controls -/

inductive QueuePolicy
  | wait
  | failFast
  deriving DecidableEq

/-- The headers and the body of a request, and the defaults of the server. -/
structure SchedulingRequest where
  (headerPriority headerQueue headerWait : GoString := [])
  bodyPriority : Option Int64 := none
  bodyQueue : GoString := []
  bodyWait : Int64 := 0
  defaultQueue : GoString := []
  defaultWait : Int64 := 0

/-- `strconv.Atoi`. -/
def atoi (s : GoString) : Option Int64 :=
  let digits := if s.head? = some 0x2B || s.head? = some 0x2D then s.tail else s
  if digits = [] || digits.any (fun b => b < 0x30 || 0x39 < b) then none
  else
    let n : ℤ := digits.foldl (fun n b => 10 * n + (b.toNat - 0x30)) 0
    let n := if s.head? = some 0x2D then -n else n
    if -2 ^ 63 ≤ n ∧ n < 2 ^ 63 then some (Int64.ofInt n) else none

/-- `strings.EqualFold` with `wait`, no letter of which has a fold outside ASCII. -/
def isWait (queue : GoString) : Bool :=
  (queue.map fun b => if 0x41 ≤ b ∧ b ≤ 0x5A then b + 0x20 else b) = "wait"

/-- The priority, the queue policy and the wait in nanoseconds. A blank header is no number. -/
def openAISchedulingControls (r : SchedulingRequest) (p : Principal) :
    Int64 × QueuePolicy × Int64 :=
  let priority := r.bodyPriority.getD ((atoi (trimSpace r.headerPriority)).getD p.defaultPriority)
  let queues := [r.bodyQueue, r.headerQueue, p.defaultQueuePolicy, r.defaultQueue].map trimSpace
  let queue := (queues.find? (· ≠ [])).getD []
  let limit := p.maxQueueWaitSeconds
  let wait := if 0 < r.bodyWait then r.bodyWait
    else (atoi (trimSpace r.headerWait)).getD (if 0 < limit then limit else r.defaultWait)
  let wait := if wait ≤ 0 then 120 else wait
  let wait := if 0 < limit && limit < wait then limit else wait
  let wait := if 900 < wait then 900 else wait
  (priority, if isWait queue then .wait else .failFast, wait * 1000000000)

/-! ## The principal of a session -/

/-- The principals have the same fields, and maps with the same keys. -/
structure SameAuthority (p q : Principal) : Prop where
  scopes : ∀ scope, q.scopes.lookup scope = p.scopes.lookup scope
  adapters : ∀ adapter, q.adapters.lookup adapter = p.adapters.lookup adapter
  fields : { q with scopes := p.scopes, adapters := p.adapters } = p

/-- The credential leaves the scheduling of its requests to the server. -/
def Principal.Unscheduled (p : Principal) : Prop :=
  p.defaultPriority = 0 ∧ p.defaultQueuePolicy = [] ∧ p.maxQueueWaitSeconds = 0

theorem lookup_foldl_insert (m : GoMap Unit) (keys : List GoString) (key : GoString) :
    (keys.foldl (fun m key => m.insert key ()) m).lookup key =
      if key ∈ keys then some () else m.lookup key := by
  induction keys generalizing m with
  | nil => rfl
  | cons k keys ih =>
    rw [List.foldl_cons, ih, lookup_insert_of]
    by_cases hk : key = k
    · simp [hk]
    · simp [hk]

theorem lookup_keySet_mapKeys (m : GoMap Unit) (key : GoString) :
    (keySet (mapKeys m)).lookup key = m.lookup key := by
  have hmem : key ∈ mapKeys m ↔ key ∈ m := (List.perm_insertionSort _ _).mem_iff
  rw [keySet, lookup_foldl_insert]
  cases hl : m.lookup key with
  | none => exact if_neg fun h => AList.lookup_eq_none.1 hl (hmem.1 h)
  | some u => exact if_pos (hmem.2 (AList.lookup_isSome.1 (by rw [hl]; rfl)))

/-- **A session has the authority of its credential** exactly if that sets no scheduling defaults,
and its requests are then scheduled the same way. -/
theorem session_authority_iff (id csrf kind : GoString) (p : Principal) (now expiry : GoTime) :
    (SameAuthority p (principalFromSession (storedBrowserSession id csrf kind p now expiry)) ↔
      p.Unscheduled) ∧
    (p.Unscheduled → ∀ r, openAISchedulingControls r
      (principalFromSession (storedBrowserSession id csrf kind p now expiry)) =
        openAISchedulingControls r p) := by
  have hfields (h : p.Unscheduled) :
      { principalFromSession (storedBrowserSession id csrf kind p now expiry) with
        scopes := p.scopes, adapters := p.adapters } = p := by
    obtain ⟨hpriority, hqueue, hwait⟩ := h
    cases p
    subst hpriority hqueue hwait
    rfl
  refine ⟨⟨fun h => ?_, fun h => ⟨lookup_keySet_mapKeys _, lookup_keySet_mapKeys _, hfields h⟩⟩,
    fun h r => ?_⟩
  · rw [← h.fields]
    exact ⟨rfl, rfl, rfl⟩
  · -- the maps are not read
    conv_rhs => rw [← hfields h]
    rfl

/-- A credential whose requests wait for at most a minute. -/
def hastyPrincipal : Principal := { id := "p", maxQueueWaitSeconds := 60 }

/-- **The limit of a wait is lost.** A request to wait for 300 seconds is clamped for the credential
and not for its session. -/
theorem session_waits_longer :
    let session := principalFromSession (storedBrowserSession "i" "c" "ui" hastyPrincipal {} {})
    ¬ SameAuthority hastyPrincipal session ∧
      openAISchedulingControls { bodyWait := 300 } hastyPrincipal =
        (0, .failFast, 60 * 1000000000) ∧
      openAISchedulingControls { bodyWait := 300 } session = (0, .failFast, 300 * 1000000000) := by
  refine ⟨fun h => ?_, by decide, by decide⟩
  exact absurd (congrArg Principal.maxQueueWaitSeconds h.fields) (by decide)

end VramGovernor.Api
