import Mathlib.Algebra.Order.BigOperators.Group.List
import VramGovernor.Foundations.GoInt
import VramGovernor.Foundations.GoMap
import VramGovernor.Foundations.GoTime

/-!
# The eviction of warm models

`reserve` counts the outstanding reservations; the eviction that is to make room for it stops as
soon as the pinned models and the request fit. So the budget is reported as exceeded while models
are left that could be evicted (`budget_exceeded_early`). That it is reported only if evicting all
of them would not be enough is so exactly if the reservations fit beside what the eviction leaves
(`budget_exceeded_held_iff`).
-/

namespace VramGovernor.NodeAgent

open GoString GoMap

structure WarmRAMPolicy where
  (maxWarmBytes ramHardCapBytes ramReserveBytes unifiedMemoryBytes : Int64 := 0)
  unifiedMemory : Bool := false

/-- An entry under its key. -/
structure WarmRAMEntry where
  bytes : Int64
  lastUsed : GoTime
  /-- The entry has a pin. -/
  pinned : Bool := true
  activeReferences : ℤ := 0
  (isProtected verified vramReleased : Bool := false)

structure WarmRAMManager where
  policy : WarmRAMPolicy
  entries : GoMap WarmRAMEntry
  reserved : Int64 := 0

inductive WarmRAMError
  | emptyFile | capRequired | capBelowReserve | unifiedUnavailable | overflow | victimCleanup
  | budgetExceeded (bytes : Int64)
  deriving DecidableEq

def WarmRAMError.text : WarmRAMError → GoString
  | emptyFile => "model file is empty"
  | capRequired => "RAM hard cap and reserve are required"
  | capBelowReserve => "RAM hard cap is below reserve"
  | unifiedUnavailable => "unified-memory accounting is unavailable"
  | overflow => "warm RAM accounting overflow"
  | victimCleanup => "warm LRU victim cleanup failed; reconciliation required"
  | budgetExceeded bytes =>
    "warm RAM LRU budget exceeded: need " ++ sprint bytes.toInt ++ ofString " bytes"

def warmAdd (a b : Int64) : Option Int64 :=
  if a < 0 || b < 0 || Int64.maxValue - b < a then none else some (a + b)

/-- The loop that adds up the pinned entries. -/
def addPinned (current : Int64) (entries : List (Entry WarmRAMEntry)) : Option Int64 :=
  entries.foldlM (fun sum e => if e.2.pinned then warmAdd sum e.2.bytes else some sum) current

def WarmRAMEntry.evictable (e : WarmRAMEntry) : Bool :=
  e.pinned && e.activeReferences = 0 && !e.isProtected

def WarmRAMEntry.held (e : WarmRAMEntry) : Bool :=
  e.pinned && (e.activeReferences ≠ 0 || e.isProtected)

def usedBefore (a b : Entry WarmRAMEntry) : Bool :=
  if a.2.lastUsed.equal b.2.lastUsed then a.1 < b.1 else a.2.lastUsed.before b.2.lastUsed

/-- The loop over the victims; `closes` tells which pins can be closed. -/
def evictRows (need maximum : Int64) (closes : GoString → Bool) :
    List (Entry WarmRAMEntry) → Int64 → GoMap WarmRAMEntry →
      GoMap WarmRAMEntry × Except WarmRAMError Unit
  | [], _, entries => (entries, .ok ())
  | e :: rows, total, entries =>
    if total + need ≤ maximum then (entries, .ok ())
    else if !e.2.pinned || closes e.1 then
      evictRows need maximum closes rows (total - e.2.bytes) (entries.erase e.1)
    else (entries.insert e.1 { e.2 with verified := false, vramReleased := false },
      .error .victimCleanup)

namespace WarmRAMManager

variable (m : WarmRAMManager) (need bytes : Int64) (closes : GoString → Bool)

/-- The entries that may be evicted, the least recently used first. -/
def victims : List (Entry WarmRAMEntry) :=
  (m.entries.entries.filter (·.2.evictable)).mergeSort fun a b => !usedBefore b a

def total : Int64 := ((m.entries.entries.filter (·.2.pinned)).map (·.2.bytes)).sum

def evictLRULocked : WarmRAMManager × Except WarmRAMError Unit :=
  if m.policy.maxWarmBytes ≤ 0 then (m, .ok ())
  else
    let p := evictRows need m.policy.maxWarmBytes closes m.victims m.total m.entries
    ({ m with entries := p.1 }, p.2)

/-- The pinned entries and the outstanding reservations. -/
def committed : Option Int64 := (addPinned 0 m.entries.entries).bind (warmAdd · m.reserved)

def enterReservation : WarmRAMManager × Except WarmRAMError Unit :=
  match warmAdd m.reserved bytes with
  | none => (m, .error .overflow)
  | some reserved => ({ m with reserved }, .ok ())

/-- The first section of `reserve` under the mutex. -/
def reserveLocked : WarmRAMManager × Except WarmRAMError Unit :=
  match m.committed.bind (warmAdd · bytes) with
  | none => (m, .error .overflow)
  | some requested =>
    if 0 < m.policy.maxWarmBytes ∧ m.policy.maxWarmBytes < requested then
      match m.evictLRULocked bytes closes with
      | (m', .error e) => (m', .error e)
      | (m', .ok ()) =>
        match m'.committed with
        | none => (m', .error .overflow)
        | some committed =>
          if (warmAdd committed bytes).all (m.policy.maxWarmBytes < ·) then
            (m', .error (.budgetExceeded bytes))
          else m'.enterReservation bytes
    else m.enterReservation bytes

/-- `reserve` up to the end of that section. What follows compares the sums with the caps and
counters of the system, and does not report the budget. -/
def reserve : WarmRAMManager × Except WarmRAMError Unit :=
  let p := m.policy
  if bytes ≤ 0 then (m, .error .emptyFile)
  else if p.ramHardCapBytes ≤ 0 || p.ramReserveBytes < 0 then (m, .error .capRequired)
  else if p.ramHardCapBytes < p.ramReserveBytes then (m, .error .capBelowReserve)
  else if p.unifiedMemory && p.unifiedMemoryBytes ≤ 0 then (m, .error .unifiedUnavailable)
  else m.reserveLocked bytes closes

end WarmRAMManager

/-! ### The sums as numbers -/

theorem warmAdd_eq_some {a b c : Int64} : warmAdd a b = some c ↔
    0 ≤ a.toInt ∧ 0 ≤ b.toInt ∧ c.toInt = a.toInt + b.toInt := by
  have ha := Int64.toInt_lt a
  have hb := Int64.toInt_lt b
  have hc := Int64.toInt_lt c
  have hroom (hb' : 0 ≤ b.toInt) : (Int64.maxValue - b).toInt = 2 ^ 63 - 1 - b.toInt := by
    rw [Int64.toInt_sub, Int64.toInt_maxValue, Int.bmod_eq_of_le (by omega) (by omega)]
  simp only [warmAdd, Bool.or_eq_true, decide_eq_true_eq, Int64.lt_iff_toInt_lt, Int64.toInt_zero]
  split_ifs with hover
  · simp only [false_iff]
    omega
  · rw [Option.some_inj, ← Int64.toInt_inj, Int64.toInt_add,
      Int.bmod_eq_of_le (by omega) (by omega)]
    omega

theorem exists_toInt {z : ℤ} (hz : 0 ≤ z) (hlt : z < 2 ^ 63) : ∃ c : Int64, c.toInt = z :=
  ⟨.ofInt z, Int64.toInt_ofInt_of_le (by omega) hlt⟩

/-- One more summand. -/
theorem bind_warmAdd_eq_some {o : Option Int64} {P : Prop} {z : ℤ} {b c : Int64}
    (hz : P → 0 ≤ z) (h : ∀ a, o = some a ↔ P ∧ a.toInt = z) :
    o.bind (warmAdd · b) = some c ↔ (P ∧ 0 ≤ b.toInt) ∧ c.toInt = z + b.toInt := by
  simp only [Option.bind_eq_some_iff, h, warmAdd_eq_some]
  constructor
  · rintro ⟨a, ⟨hP, ha⟩, -, hb, hc⟩
    exact ⟨⟨hP, hb⟩, by omega⟩
  · rintro ⟨⟨hP, hb⟩, hc⟩
    have hlt := Int64.toInt_lt c
    obtain ⟨a, ha⟩ := exists_toInt (hz hP) (by omega)
    exact ⟨a, ⟨hP, ha⟩, by rw [ha]; exact hz hP, hb, by omega⟩

/-- The bytes of the entries with a property. -/
def bytesOf (p : WarmRAMEntry → Bool) (entries : List (Entry WarmRAMEntry)) : ℤ :=
  ((entries.filter (p ·.2)).map (·.2.bytes.toInt)).sum

variable {e : Entry WarmRAMEntry} {l l' : List (Entry WarmRAMEntry)}

variable (p : WarmRAMEntry → Bool)

theorem bytesOf_cons :
    bytesOf p (e :: l) = (if p e.2 then e.2.bytes.toInt else 0) + bytesOf p l := by
  by_cases h : p e.2 <;> simp [bytesOf, h]

theorem bytesOf_perm (h : l.Perm l') : bytesOf p l = bytesOf p l' :=
  ((h.filter _).map _).sum_eq

/-- No bytes are counted as less than none. -/
def Counted (l : List (Entry WarmRAMEntry)) : Prop := ∀ e ∈ l, e.2.pinned → 0 ≤ e.2.bytes.toInt

theorem Counted.bytesOf_nonneg (h : Counted l) : 0 ≤ bytesOf (·.pinned) l := by
  apply List.sum_nonneg
  intro x hx
  obtain ⟨e, he, rfl⟩ := List.mem_map.1 hx
  rw [List.mem_filter] at he
  exact h e he.1 he.2

/-- The sum is that of the numbers, if it does not overflow. -/
theorem addPinned_eq_some {c : Int64} :
    addPinned 0 l = some c ↔ Counted l ∧ c.toInt = bytesOf (·.pinned) l := by
  induction l using List.reverseRecOn generalizing c with
  | nil => simp [addPinned, Counted, bytesOf, ← Int64.toInt_inj, @eq_comm ℤ 0]
  | append_singleton l e ih =>
    have hcounted : Counted (l ++ [e]) ↔ Counted l ∧ (e.2.pinned → 0 ≤ e.2.bytes.toInt) := by
      simp [Counted, or_imp, forall_and]
    have hsum : addPinned 0 (l ++ [e]) = (addPinned 0 l).bind fun sum =>
        if e.2.pinned then warmAdd sum e.2.bytes else some sum := by
      simp [addPinned]
    rw [hsum, hcounted, bytesOf_perm _ List.perm_append_comm, List.singleton_append, bytesOf_cons,
      add_comm]
    by_cases hpinned : e.2.pinned
    · simpa [hpinned] using bind_warmAdd_eq_some Counted.bytesOf_nonneg fun _ => ih
    · simpa [hpinned] using ih

theorem Counted.erase {entries : GoMap WarmRAMEntry} (h : Counted entries.entries)
    (hl : entries.lookup e.1 = some e.2) (hpinned : e.2.pinned) :
    Counted (entries.erase e.1).entries ∧ 0 ≤ e.2.bytes.toInt ∧
      bytesOf (·.pinned) entries.entries =
        e.2.bytes.toInt + bytesOf (·.pinned) (entries.erase e.1).entries := by
  have hperm : entries.entries.Perm (e :: (entries.erase e.1).entries) :=
    entries_perm_of_lookup hl
  have hall : Counted (e :: (entries.erase e.1).entries) := fun e' he' =>
    h e' (hperm.mem_iff.2 he')
  rw [Counted, List.forall_mem_cons] at hall
  refine ⟨hall.2, hall.1 hpinned, ?_⟩
  rw [bytesOf_perm _ hperm, bytesOf_cons, if_pos hpinned]

/-! ### The loop -/

/-- The bytes that are left, if victims of these sizes can be closed. -/
def leftAfter (need maximum : ℤ) : List ℤ → ℤ → ℤ
  | [], total => total
  | bytes :: rows, total =>
    if total + need ≤ maximum then total else leftAfter need maximum rows (total - bytes)

theorem evictRows_ok (maximum : Int64) {need total : Int64} {closes : GoString → Bool}
    {rows : List (Entry WarmRAMEntry)} {entries : GoMap WarmRAMEntry}
    (hcloses : ∀ e ∈ rows, closes e.1)
    (hrows : ∀ e ∈ rows, e.2.pinned ∧ entries.lookup e.1 = some e.2) (hkeys : rows.NodupKeys)
    (hcounted : Counted entries.entries) (hneed : 0 ≤ need.toInt)
    (htotal : total.toInt = bytesOf (·.pinned) entries.entries)
    (hfits : total.toInt + need.toInt < 2 ^ 63) :
    ∃ left, evictRows need maximum closes rows total entries = (left, .ok ()) ∧
      Counted left.entries ∧ bytesOf (·.pinned) left.entries ≤ total.toInt ∧
      bytesOf (·.pinned) left.entries =
        leftAfter need.toInt maximum.toInt (rows.map (·.2.bytes.toInt)) total.toInt := by
  have hnonneg := hcounted.bytesOf_nonneg
  induction rows generalizing total entries with
  | nil => exact ⟨entries, rfl, hcounted, htotal.ge, htotal.symm⟩
  | cons e rows ih =>
    rw [List.forall_mem_cons] at hcloses hrows
    rw [List.nodupKeys_cons] at hkeys
    have hroom : total + need ≤ maximum ↔ total.toInt + need.toInt ≤ maximum.toInt := by
      rw [Int64.le_iff_toInt_le, Int64.toInt_add, Int.bmod_eq_of_le (by omega) (by omega)]
    rw [evictRows, List.map_cons, leftAfter]
    by_cases hr : total + need ≤ maximum
    · rw [if_pos hr, if_pos (hroom.1 hr)]
      exact ⟨entries, rfl, hcounted, htotal.ge, htotal.symm⟩
    · rw [if_neg hr, if_neg (mt hroom.2 hr), if_pos (by simp [hcloses.1])]
      -- The victim leaves the map, and the total is again that of what is left.
      obtain ⟨hcounted', hbytes, hsum⟩ := hcounted.erase hrows.1.2 hrows.1.1
      have hnonneg' := hcounted'.bytesOf_nonneg
      have hsub : (total - e.2.bytes).toInt = total.toInt - e.2.bytes.toInt := by
        rw [Int64.toInt_sub, Int.bmod_eq_of_le (by omega) (by omega)]
      have htotal' : (total - e.2.bytes).toInt =
          bytesOf (·.pinned) (entries.erase e.1).entries := by omega
      have hrows' : ∀ e' ∈ rows, e'.2.pinned ∧ (entries.erase e.1).lookup e'.1 = some e'.2 := by
        intro e' he'
        have hne : e'.1 ≠ e.1 := fun h => hkeys.1 (h ▸ List.mem_keys_of_mem he')
        rw [lookup_erase_of, if_neg hne]
        exact hrows.2 e' he'
      obtain ⟨left, hleft, hcounted'', hle, hend⟩ :=
        ih hcloses.2 hrows' hkeys.2 hcounted' htotal' (by omega) hnonneg'
      exact ⟨left, hleft, hcounted'', by omega, hsub ▸ hend⟩

namespace WarmRAMManager

variable {m : WarmRAMManager} {bytes : Int64} {closes : GoString → Bool}

theorem victims_perm : m.victims.Perm (m.entries.entries.filter (·.2.evictable)) :=
  List.mergeSort_perm ..

theorem of_mem_victims (h : e ∈ m.victims) : e.2.pinned ∧ m.entries.lookup e.1 = some e.2 := by
  rw [victims_perm.mem_iff, List.mem_filter] at h
  obtain ⟨hmem, hevictable⟩ := h
  simp only [WarmRAMEntry.evictable, Bool.and_eq_true] at hevictable
  exact ⟨hevictable.1.1, AList.mem_lookup_iff.2 hmem⟩

theorem committed_eq_some {c : Int64} : m.committed = some c ↔
    (Counted m.entries.entries ∧ 0 ≤ m.reserved.toInt) ∧
      c.toInt = bytesOf (·.pinned) m.entries.entries + m.reserved.toInt :=
  bind_warmAdd_eq_some Counted.bytesOf_nonneg fun _ => addPinned_eq_some

variable (m bytes) in
/-- What is pinned after the eviction for a request. -/
def remaining : ℤ :=
  leftAfter bytes.toInt m.policy.maxWarmBytes.toInt (m.victims.map (·.2.bytes.toInt))
    (bytesOf (·.pinned) m.entries.entries)

theorem requested_eq_some {c : Int64} : m.committed.bind (warmAdd · bytes) = some c ↔
    ((Counted m.entries.entries ∧ 0 ≤ m.reserved.toInt) ∧ 0 ≤ bytes.toInt) ∧
      c.toInt = bytesOf (·.pinned) m.entries.entries + m.reserved.toInt + bytes.toInt :=
  bind_warmAdd_eq_some (fun h => Int.add_nonneg h.1.bytesOf_nonneg h.2) fun _ => committed_eq_some

variable (m bytes) in
/-- There is a maximum, and the sums do not overflow. -/
def Accounted : Prop :=
  0 < m.policy.maxWarmBytes ∧ (Counted m.entries.entries ∧ 0 ≤ m.reserved.toInt) ∧
    bytesOf (·.pinned) m.entries.entries + m.reserved.toInt + bytes.toInt < 2 ^ 63

/-- If every close succeeds, the sums of what the eviction leaves do not overflow either. -/
theorem evictLRULocked_ok (hcloses : ∀ e ∈ m.victims, closes e.1) (hbytes : 0 < bytes.toInt)
    (h : m.Accounted bytes) :
    m.remaining bytes ≤ bytesOf (·.pinned) m.entries.entries ∧
    ∃ m' requested, m.evictLRULocked bytes closes = (m', .ok ()) ∧
      m'.committed.bind (warmAdd · bytes) = some requested ∧
      requested.toInt = m.remaining bytes + m.reserved.toInt + bytes.toInt := by
  obtain ⟨hmax, ⟨hcounted, hreserved⟩, hfits⟩ := h
  have hnonneg := hcounted.bytesOf_nonneg
  have htotal : m.total.toInt = bytesOf (·.pinned) m.entries.entries := by
    rw [total, toInt_sum, List.map_map]
    change (bytesOf (·.pinned) m.entries.entries).bmod (2 ^ 64) = _
    exact Int.bmod_eq_of_le (by omega) (by omega)
  have hkeys : m.victims.NodupKeys :=
    (List.perm_nodupKeys victims_perm).2 (m.entries.nodupKeys.sublist List.filter_sublist)
  obtain ⟨left, hleft, hcounted', hle, hend⟩ := evictRows_ok m.policy.maxWarmBytes hcloses
    (fun _ => of_mem_victims) hkeys hcounted hbytes.le htotal (by omega)
  have hnonneg' := hcounted'.bytesOf_nonneg
  rw [htotal] at hle hend
  change _ = m.remaining bytes at hend
  obtain ⟨requested, hrequested⟩ : ∃ c : Int64,
    c.toInt = bytesOf (·.pinned) left.entries + m.reserved.toInt + bytes.toInt :=
      exists_toInt (by omega) (by omega)
  rw [evictLRULocked, if_neg (Int64.not_le.2 hmax), hleft]
  exact ⟨by omega, _, requested, rfl,
    requested_eq_some.2 ⟨⟨⟨hcounted', hreserved⟩, hbytes.le⟩, hrequested⟩, by omega⟩

theorem enterReservation_ne : (m.enterReservation bytes).2 ≠ .error (.budgetExceeded bytes) := by
  unfold enterReservation
  cases warmAdd m.reserved bytes <;> simp

theorem reserveLocked_budgetExceeded (hcloses : ∀ e ∈ m.victims, closes e.1)
    (hbytes : 0 < bytes.toInt) :
    (m.reserveLocked bytes closes).2 = .error (.budgetExceeded bytes) ↔ m.Accounted bytes ∧
      m.policy.maxWarmBytes.toInt < m.remaining bytes + m.reserved.toInt + bytes.toInt := by
  cases hrequested : m.committed.bind (warmAdd · bytes) with
  | none =>
    rw [reserveLocked, hrequested]
    refine iff_of_false nofun fun ⟨⟨_, hsums, hfits⟩, _⟩ => ?_
    have hnonneg := hsums.1.bytesOf_nonneg
    obtain ⟨c, hc⟩ := exists_toInt (by omega) hfits
    cases hrequested.symm.trans (requested_eq_some.2 ⟨⟨hsums, hbytes.le⟩, hc⟩)
  | some requested =>
    obtain ⟨⟨hsums, -⟩, hr⟩ := requested_eq_some.1 hrequested
    simp only [reserveLocked, hrequested]
    split_ifs with hover
    · have hacc : m.Accounted bytes := ⟨hover.1, hsums, hr ▸ Int64.toInt_lt requested⟩
      obtain ⟨-, m', requested', hevict, hsum, hr'⟩ := evictLRULocked_ok hcloses hbytes hacc
      obtain ⟨c, hc, hadd⟩ := Option.bind_eq_some_iff.1 hsum
      simp only [hevict, hc, hadd, Option.all_some, decide_eq_true_eq, Int64.lt_iff_toInt_lt, hr']
      split_ifs with hlt
      · exact iff_of_true rfl ⟨hacc, hlt⟩
      · exact iff_of_false enterReservation_ne (hlt ·.2)
    · refine iff_of_false enterReservation_ne fun ⟨hacc, hlt⟩ => ?_
      have hle := (evictLRULocked_ok hcloses hbytes hacc).1
      exact hover ⟨hacc.1, Int64.lt_iff_toInt_lt.2 (by omega)⟩

variable (m bytes) in
/-- The request passes the tests before the mutex is locked. -/
def Serves : Prop :=
  0 < bytes ∧ 0 < m.policy.ramHardCapBytes ∧ 0 ≤ m.policy.ramReserveBytes ∧
    m.policy.ramReserveBytes ≤ m.policy.ramHardCapBytes ∧
    (m.policy.unifiedMemory → 0 < m.policy.unifiedMemoryBytes)

theorem reserve_budgetExceeded (hcloses : ∀ e ∈ m.victims, closes e.1) :
    (m.reserve bytes closes).2 = .error (.budgetExceeded bytes) ↔
      m.Serves bytes ∧ m.Accounted bytes ∧
        m.policy.maxWarmBytes.toInt < m.remaining bytes + m.reserved.toInt + bytes.toInt := by
  have hserves : m.Serves bytes ↔ ¬ bytes ≤ 0 ∧
      ¬ (m.policy.ramHardCapBytes ≤ 0 || m.policy.ramReserveBytes < 0) ∧
      ¬ m.policy.ramHardCapBytes < m.policy.ramReserveBytes ∧
      ¬ (m.policy.unifiedMemory && m.policy.unifiedMemoryBytes ≤ 0) := by
    simp [Serves, Int64.not_le, Int64.not_lt, and_assoc]
  fun_cases reserve with
  | case5 p hbytes hcap hreserve hunified =>
    rw [reserveLocked_budgetExceeded hcloses (Int64.lt_iff_toInt_lt.1 (Int64.not_le.1 hbytes)),
      and_iff_right (hserves.2 ⟨hbytes, hcap, hreserve, hunified⟩)]
  | _ => exact iff_of_false nofun fun h => by have := hserves.1 h.1; tauto

/-- **The budget is reported as exceeded** only if the request does not fit beside the reservations
and the models that are referenced or protected, exactly if it and the reservations fit beside what
the eviction leaves, whenever they fit beside those models. -/
theorem budget_exceeded_held_iff (hcloses : ∀ e ∈ m.victims, closes e.1) :
    ((m.reserve bytes closes).2 = .error (.budgetExceeded bytes) →
      m.policy.maxWarmBytes.toInt <
        bytesOf (·.held) m.entries.entries + m.reserved.toInt + bytes.toInt) ↔
    (m.Serves bytes → m.Accounted bytes →
      bytesOf (·.held) m.entries.entries + m.reserved.toInt + bytes.toInt ≤
        m.policy.maxWarmBytes.toInt →
      m.remaining bytes + m.reserved.toInt + bytes.toInt ≤ m.policy.maxWarmBytes.toInt) := by
  rw [reserve_budgetExceeded hcloses]
  constructor
  · intro h hserves haccounted hheld
    by_contra hover
    have hlt := h ⟨hserves, haccounted, not_le.1 hover⟩
    omega
  · rintro h ⟨hserves, haccounted, hover⟩
    by_contra hheld
    have hle := h hserves haccounted (not_lt.1 hheld)
    omega

/-- A warm model of `bytes` bytes, under a maximum of ten. -/
def oneWarm (bytes : Int64) (activeReferences : ℤ) : WarmRAMManager where
  policy := { maxWarmBytes := 10, ramHardCapBytes := 100 }
  entries := AList.singleton "model" { bytes, activeReferences, lastUsed := {} }

/-- A referenced model of eight bytes leaves no room for four. -/
theorem budget_exceeded_referenced :
    ((oneWarm 8 1).reserve 4 fun _ => true).2 = .error (.budgetExceeded 4) ∧
      (10 : ℤ) < bytesOf (·.held) (oneWarm 8 1).entries.entries + 0 + 4 := by
  have h : ((oneWarm 8 1).reserve 4 fun _ => true).2 = .error (.budgetExceeded 4) := by
    decide +kernel
  exact ⟨h, (budget_exceeded_held_iff fun _ _ => rfl).2
    (fun _ _ hheld => absurd hheld (by decide +kernel)) h⟩

/-- Beside a reservation of three bytes, a request for four is refused, and a model of five bytes
that nothing refers to is left where it is. -/
theorem budget_exceeded_early :
    let m := ((oneWarm 5 0).reserve 3 fun _ => true).1
    (m.reserve 4 fun _ => true).2 = .error (.budgetExceeded 4) ∧
      bytesOf (·.held) m.entries.entries + m.reserved.toInt + 4 ≤ m.policy.maxWarmBytes.toInt := by
  decide +kernel

end WarmRAMManager

end VramGovernor.NodeAgent
