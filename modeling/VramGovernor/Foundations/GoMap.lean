import Mathlib.Data.Finmap
import VramGovernor.Foundations.GoString

/-!
# Maps and ranging over them

A Go map from strings is an association list without repeated keys. The order in which `range`
visits it is not specified, so a function that ranges over one takes the order as an argument
(`RangeOrder`), and what the loop finds is stated through `lookup`. For a table whose rows are never
deleted, `Advances` says that a row stays and moves along a relation.
-/

namespace VramGovernor

/-- A map keyed by strings. -/
abbrev GoMap (V : Type*) := AList fun _ : GoString => V

/-- An entry of a map: a key and its value. -/
abbrev GoMap.Entry (V : Type*) := Sigma fun _ : GoString => V

namespace GoMap

variable {V : Type*} {m : GoMap V} {order : List (Entry V)} {k k' : GoString} {v : V}
  {p : Entry V → Bool}

/-- An order in which `range` may visit the map. -/
def RangeOrder (m : GoMap V) (order : List (Entry V)) : Prop := order.Perm m.entries

theorem rangeOrder_entries (m : GoMap V) : RangeOrder m m.entries := List.Perm.refl _

theorem RangeOrder.mem_iff (h : RangeOrder m order) : ⟨k, v⟩ ∈ order ↔ m.lookup k = some v := by
  rw [List.Perm.mem_iff h, ← AList.mem_lookup_iff, Option.mem_def]

theorem eq_of_lookup_singleton {v' : V}
    (h : (AList.singleton k' v' : GoMap V).lookup k = some v) : k = k' ∧ v = v' := by
  have hmem := AList.mem_lookup_iff.1 h
  simp only [AList.singleton, List.mem_singleton, Sigma.mk.injEq, heq_eq_eq] at hmem
  exact hmem

theorem RangeOrder.congr {m' : GoMap V} (h : RangeOrder m order)
    (hm : ∀ k, m.lookup k = m'.lookup k) : RangeOrder m' order :=
  h.trans (List.lookup_ext m.nodupKeys m'.nodupKeys fun k v => by
    show v ∈ m.lookup k ↔ v ∈ m'.lookup k
    rw [hm])

/-- An order of a map with encoded values is one of the map with the values decoded. -/
theorem RangeOrder.decode {W : Type*} {m' : GoMap W} {order : List (Entry W)}
    {f : V → W} {g : W → V}
    (h : RangeOrder m' order) (hg : ∀ v, g (f v) = v)
    (hm : ∀ k, m'.lookup k = (m.lookup k).map f) :
    RangeOrder m (order.map fun e => ⟨e.1, g e.2⟩) ∧
      (order.map fun e => (⟨e.1, g e.2⟩ : Entry V)).map (fun e => ⟨e.1, f e.2⟩) = order := by
  have hmem : ∀ e ∈ order, f (g e.2) = e.2 := by
    intro e he
    have hl := h.mem_iff.1 he
    rw [hm, Option.map_eq_some_iff] at hl
    obtain ⟨v, -, hv⟩ := hl
    rw [← hv, hg]
  have hkeys : (order.map fun e => (⟨e.1, g e.2⟩ : Entry V)).keys = order.keys := by
    simp [List.keys]
  have horder : order.NodupKeys := (List.perm_nodupKeys h).2 m'.nodupKeys
  have hnodup : (order.map fun e => (⟨e.1, g e.2⟩ : Entry V)).NodupKeys := by
    rw [List.NodupKeys, hkeys]
    exact horder
  constructor
  · refine List.lookup_ext hnodup m.nodupKeys fun k v => ?_
    have hl : order.dlookup k = m'.lookup k := List.perm_dlookup k horder h
    have hmap : (order.map fun e => (⟨e.1, g e.2⟩ : Entry V)).dlookup k =
        (order.dlookup k).map g := List.dlookup_map₂ (f := fun _ => g) k
    rw [hmap, hl, hm, Option.map_map]
    simp [Function.comp_def, hg, AList.lookup]
  · rw [List.map_map]
    exact (List.map_congr_left fun e he => by simp [hmem e he]).trans (List.map_id order)

theorem lookup_insert_of (m : GoMap V) (k k' : GoString) (v : V) :
    (m.insert k v).lookup k' = if k' = k then some v else m.lookup k' := by
  split_ifs with h
  · rw [h, AList.lookup_insert]
  · rw [AList.lookup_insert_ne h]

theorem of_lookup_insert {v' : V} (h : (m.insert k v).lookup k' = some v') :
    k' = k ∧ v' = v ∨ k' ≠ k ∧ m.lookup k' = some v' := by
  rw [lookup_insert_of] at h
  split_ifs at h with hk
  · exact .inl ⟨hk, (Option.some.inj h).symm⟩
  · exact .inr ⟨hk, h⟩

theorem lookup_erase_of (m : GoMap V) (k k' : GoString) :
    (m.erase k).lookup k' = if k' = k then none else m.lookup k' := by
  split_ifs with h
  · rw [h, AList.lookup_erase]
  · rw [AList.lookup_erase_ne h]

theorem map_lookup_insert {W : Type*} (f : V → W) :
    (fun k' => ((m.insert k v).lookup k').map f) =
      Function.update (fun k' => (m.lookup k').map f) k (some (f v)) := by
  funext k'
  rw [lookup_insert_of, Function.update_apply]
  split_ifs <;> rfl

theorem map_lookup_erase {W : Type*} (f : V → W) :
    (fun k' => ((m.erase k).lookup k').map f) =
      Function.update (fun k' => (m.lookup k').map f) k none := by
  funext k'
  rw [lookup_erase_of, Function.update_apply]
  split_ifs <;> rfl

/-- The entry at a key, and the entries of the map without it. -/
theorem entries_perm_of_lookup (h : m.lookup k = some v) :
    m.entries.Perm (⟨k, v⟩ :: (m.erase k).entries) := by
  have hsame : RangeOrder (m.insert k v) m.entries :=
    (rangeOrder_entries m).congr fun k' => by
      rw [lookup_insert_of]
      split_ifs with hk
      · rw [hk, h]
      · rfl
  exact hsame

/-- The loop `for … { delete(m, k) }` over a list of keys. -/
theorem lookup_foldl_erase (m : GoMap V) (ks : List GoString) (k : GoString) :
    (ks.foldl (fun t k => AList.erase k t) m).lookup k = if k ∈ ks then none else m.lookup k := by
  induction ks generalizing m with
  | nil => simp
  | cons k' ks ih =>
    rw [List.foldl_cons, ih, lookup_erase_of]
    by_cases hk : k = k'
    · simp [hk]
    · simp [hk]

/-- The value at a key, or the zero value of its type: `m[k]` for a map of numbers. -/
def get [Zero V] (m : GoMap V) (k : GoString) : V := (m.lookup k).getD 0

theorem get_insert_self [Zero V] (m : GoMap V) (k : GoString) (v : V) :
    get (m.insert k v) k = v := by
  simp [get]

theorem get_insert_of_ne [Zero V] (m : GoMap V) (v : V) (h : k' ≠ k) :
    get (m.insert k v) k' = get m k' := by
  simp [get, AList.lookup_insert_ne h]

theorem get_erase_self [Zero V] (m : GoMap V) (k : GoString) : get (m.erase k) k = 0 := by
  simp [get]

theorem get_erase_of_ne [Zero V] (m : GoMap V) (h : k' ≠ k) : get (m.erase k) k' = get m k' := by
  simp [get, AList.lookup_erase_ne h]

/-- The map with `f` applied to every value: `for k, v := range m { m[k] = f(v) }`. -/
def mapValues (f : V → V) (m : GoMap V) : GoMap V :=
  ⟨m.entries.map fun e => ⟨e.1, f e.2⟩, by
    have hkeys : (m.entries.map fun e => (⟨e.1, f e.2⟩ : Entry V)).keys = m.entries.keys := by
      simp [List.keys]
    rw [List.NodupKeys, hkeys]
    exact m.nodupKeys⟩

theorem lookup_mapValues (f : V → V) (m : GoMap V) (k : GoString) :
    (mapValues f m).lookup k = (m.lookup k).map f :=
  List.dlookup_map₂ (f := fun _ => f) k

theorem mapValues_erase (f : V → V) (m : GoMap V) (k : GoString) :
    mapValues f (m.erase k) = (mapValues f m).erase k := by
  apply AList.ext
  show (m.entries.eraseP _).map _ = (m.entries.map _).eraseP _
  rw [List.eraseP_map]
  rfl

theorem mapValues_insert (f : V → V) (m : GoMap V) (k : GoString) (v : V) :
    mapValues f (m.insert k v) = (mapValues f m).insert k (f v) := by
  have herase := congrArg AList.entries (mapValues_erase f m k)
  apply AList.ext
  show ⟨k, f v⟩ :: (mapValues f (m.erase k)).entries = _
  rw [herase]
  rfl

theorem mapValues_mapValues (f g : V → V) (m : GoMap V) :
    mapValues f (mapValues g m) = mapValues (f ∘ g) m :=
  AList.ext (List.map_map ..)

/-- What is at the key stays there, and moves along the relation. -/
def Advances (R : V → V → Prop) (k : GoString) (m m' : GoMap V) : Prop :=
  ∀ v, m.lookup k = some v → ∃ v', m'.lookup k = some v' ∧ R v v'

section Advances

variable {R : V → V → Prop} {m' m'' : GoMap V} {v' : V}

theorem advances_refl (hrefl : ∀ v, R v v) (k : GoString) (m : GoMap V) : Advances R k m m :=
  fun v hv => ⟨v, hv, hrefl v⟩

theorem Advances.trans (htrans : ∀ {u v w}, R u v → R v w → R u w) (h : Advances R k m m')
    (h' : Advances R k m' m'') : Advances R k m m'' := by
  intro u hu
  obtain ⟨v, hv, huv⟩ := h u hu
  obtain ⟨w, hw, hvw⟩ := h' v hv
  exact ⟨w, hw, htrans huv hvw⟩

theorem advances_insert_new (hrefl : ∀ v, R v v) (hfree : m.lookup k' = none) (v' : V) :
    Advances R k m (m.insert k' v') := by
  intro v hv
  have hne : k ≠ k' := by
    rintro rfl
    rw [hfree] at hv
    cases hv
  exact ⟨v, by rw [AList.lookup_insert_ne hne]; exact hv, hrefl v⟩

theorem advances_insert (hrefl : ∀ v, R v v) (hl : m.lookup k' = some v) (hv : R v v') :
    Advances R k m (m.insert k' v') := by
  intro u hu
  by_cases hk : k = k'
  · subst hk
    obtain rfl := Option.mem_unique hl hu
    exact ⟨v', AList.lookup_insert _, hv⟩
  · exact ⟨u, by rw [AList.lookup_insert_ne hk]; exact hu, hrefl u⟩

end Advances

/-- The loop `for … { if p { found; break } }` over the map. -/
theorem RangeOrder.find?_eq_none (h : RangeOrder m order) :
    order.find? p = none ↔ ∀ k v, m.lookup k = some v → p ⟨k, v⟩ = false := by
  simp only [List.find?_eq_none, Sigma.forall, h.mem_iff, Bool.not_eq_true]

theorem RangeOrder.lookup_of_find? (h : RangeOrder m order) {e : Entry V}
    (he : order.find? p = some e) : m.lookup e.1 = some e.2 ∧ p e = true :=
  ⟨h.mem_iff.1 (List.mem_of_find?_eq_some he), List.find?_some he⟩

end GoMap

end VramGovernor
