import Mathlib.Data.List.Forall2
import VramGovernor.Foundations.GoError

/-!
# The model lists of llama.cpp

Both parsers go through the entries with the identifiers they have seen. The one for a router wants
the status of every entry; the other one takes a list without any status for that of a plain server,
and leaves every other list to the first. A list that is accepted has a record for each entry, with
distinct identifiers, and its entries all carry a status or none does (`models_accepted`).
-/

namespace VramGovernor.Wsproto

open GoString

inductive RouterModelState
  | unknown
  | unloaded
  | loaded
  deriving DecidableEq

structure RouterModelRecord where
  id : GoString
  state : RouterModelState
  deriving DecidableEq

/-- A JSON value, as far as it is decoded: an object has its `value` if that is a string. -/
inductive RawMessage
  | null
  | string (s : GoString)
  | object (value : Option GoString)
  | other

/-- `json.Unmarshal` into a string, which a `null` leaves empty. -/
def RawMessage.decode : RawMessage → Option GoString
  | .null => some []
  | .string s => some s
  | _ => none

/-- An entry of the list. Where a response has several `data` members the last one counts, but those
before it are decoded into the same slice, whose maps keep what the last one does not replace. -/
structure ModelEntry where
  (id status : Option RawMessage)
  (keptID keptStatus : Option RawMessage := none)

inductive ModelData
  | malformed (e : GoError)
  | missing
  | notArray
  /-- A list of entries, and whether all members before it are lists as well. -/
  | array (entries : List ModelEntry) (decodes : Bool)

def routerModelStatusValue : RawMessage → Option GoString
  | .string status | .object (some status) => if status = [] then none else some status
  | _ => none

variable (quote : GoString → GoString)

/-- The identifier of an entry, unless it is not a string, blank or seen. -/
def modelID (seen : List GoString) (raw : Option RawMessage) : Except GoError GoString :=
  match raw.bind RawMessage.decode with
  | none => .error ⟨"models entry id is not a nonempty string", none⟩
  | some id =>
    if isBlank id then .error ⟨"models entry id is not a nonempty string", none⟩
    else if id ∈ seen then .error ⟨"models response contains duplicate id " ++ quote id, none⟩
    else .ok id

def routerState (id : GoString) (status : Option RawMessage) : Except GoError RouterModelState :=
  match status with
  | none => .error ⟨"models entry " ++ quote id ++ " is missing status", none⟩
  | some raw =>
    match routerModelStatusValue raw with
    | none =>
      .error ⟨"models entry " ++ quote id ++ " status is not an authoritative string", none⟩
    | some status =>
      if status = "loaded" then .ok .loaded
      else if status = "unloaded" then .ok .unloaded
      else if status ∈ (["loading", "unloading", "unknown"] : List GoString) then .ok .unknown
      else .error ⟨"models entry " ++ quote id ++ " has unsupported status " ++ quote status, none⟩

def routerRecord (seen : List GoString) (entry : ModelEntry) :
    Except GoError RouterModelRecord := do
  if entry.id.isNone then .error ⟨"models entry is missing id", none⟩ else
    let id ← modelID quote seen entry.id
    let state ← routerState quote id entry.status
    .ok ⟨id, state⟩

def plainRecord (seen : List GoString) (entry : ModelEntry) : Except GoError RouterModelRecord := do
  let id ← modelID quote seen (entry.id.or entry.keptID)
  .ok ⟨id, .loaded⟩

/-- The loop over the entries. -/
def parseEntries (record : List GoString → ModelEntry → Except GoError RouterModelRecord)
    (seen : List GoString) : List ModelEntry → Except GoError (List RouterModelRecord)
  | [] => .ok []
  | entry :: entries => do
    let r ← record seen entry
    let result ← parseEntries record (r.id :: seen) entries
    .ok (r :: result)

def parseRouterModels : ModelData → Except GoError (List RouterModelRecord)
  | .malformed e => .error ⟨"models response is malformed: " ++ e.text, e.wraps⟩
  | .missing => .error ⟨"models response is missing data array", none⟩
  | .notArray => .error ⟨"models data is not an array", none⟩
  | .array entries _ => parseEntries (routerRecord quote) [] entries

/-- The entries, if there are some and none has a status. -/
def ModelData.plain : ModelData → Option (List ModelEntry)
  | .array entries decodes =>
    if decodes ∧ entries ≠ [] ∧ ∀ e ∈ entries, (e.status.or e.keptStatus).isNone then some entries
    else none
  | _ => none

/-- The records, and whether the server is a plain one. -/
def parseLlamaModels (data : ModelData) : Except GoError (List RouterModelRecord × Bool) :=
  match data.plain with
  | some entries => do
    let records ← parseEntries (plainRecord quote) [] entries
    .ok (records, true)
  | none => do
    let records ← parseRouterModels quote data
    .ok (records, false)

/-- What the records say of the entries. -/
structure Lists (entries : List ModelEntry) (records : List RouterModelRecord) : Prop where
  inOrder : entries.Forall₂ (fun e r => ∀ raw, e.id = some raw → raw.decode = some r.id) records
  distinct : (records.map (·.id)).Nodup
  nonempty : ∀ r ∈ records, r.id ≠ []

variable {quote}

theorem modelID_ok {seen : List GoString} {raw : Option RawMessage} {id : GoString}
    (h : modelID quote seen raw = .ok id) :
    raw.bind RawMessage.decode = some id ∧ id ≠ [] ∧ id ∉ seen := by
  revert h
  fun_cases modelID quote seen raw with
  | case4 id' hraw hblank hseen =>
    rintro ⟨⟩
    refine ⟨hraw, ?_, hseen⟩
    rintro rfl
    exact hblank (by decide)
  | _ => exact nofun

section Records

variable {seen : List GoString} {entry : ModelEntry} {r : RouterModelRecord}

theorem plainRecord_ok (h : plainRecord quote seen entry = .ok r) :
    modelID quote seen (entry.id.or entry.keptID) = .ok r.id := by
  obtain ⟨id, hid, h⟩ := bind_eq_ok.1 h
  cases h
  exact hid

theorem routerRecord_ok (h : routerRecord quote seen entry = .ok r) :
    modelID quote seen (entry.id.or entry.keptID) = .ok r.id ∧ entry.status.isSome := by
  unfold routerRecord at h
  split_ifs at h with hsome
  obtain ⟨id, hid, h⟩ := bind_eq_ok.1 h
  obtain ⟨state, hstate, h⟩ := bind_eq_ok.1 h
  cases h
  constructor
  · rw [Option.or_of_isSome (by simpa [Option.isSome_iff_ne_none] using hsome)]
    exact hid
  · cases hs : entry.status with
    | none => simp [routerState, hs] at hstate
    | some => rfl

end Records

/-- **The loop** keeps the order, and gives each entry an identifier that is new. -/
theorem parseEntries_lists {record : List GoString → ModelEntry → Except GoError RouterModelRecord}
    (hrecord : ∀ {seen e r}, record seen e = .ok r →
      modelID quote seen (e.id.or e.keptID) = .ok r.id)
    {seen : List GoString} {entries : List ModelEntry} {records : List RouterModelRecord}
    (h : parseEntries record seen entries = .ok records) :
    Lists entries records ∧ (∀ r ∈ records, r.id ∉ seen) ∧
      ∀ e ∈ entries, ∃ seen r, record seen e = .ok r := by
  induction entries generalizing seen records with
  | nil =>
    cases h
    exact ⟨⟨.nil, by simp, by simp⟩, by simp, by simp⟩
  | cons entry entries ih =>
    obtain ⟨r, hr, h⟩ := bind_eq_ok.1 h
    obtain ⟨result, hresult, h⟩ := bind_eq_ok.1 h
    cases h
    obtain ⟨⟨horder, hdistinct, hnonempty⟩, hnew, hread⟩ := ih hresult
    obtain ⟨hid, hne, hseen⟩ := modelID_ok (hrecord hr)
    refine ⟨⟨.cons (fun raw hraw => by simpa [hraw] using hid) horder, ?_,
      List.forall_mem_cons.2 ⟨hne, hnonempty⟩⟩, ?_, List.forall_mem_cons.2 ⟨⟨seen, r, hr⟩, hread⟩⟩
    · refine List.nodup_cons.2 ⟨fun hmem => ?_, hdistinct⟩
      obtain ⟨r', hr', heq⟩ := List.mem_map.1 hmem
      exact hnew r' hr' (by simp [heq])
    · exact List.forall_mem_cons.2 ⟨hseen, fun r' hr' hmem => hnew r' hr' (by simp [hmem])⟩

/-- **A list that is accepted** has one record for each entry, in order, with distinct identifiers;
and the entries all carry a status or none does. -/
theorem models_accepted {data : ModelData} {records : List RouterModelRecord}
    (h : parseRouterModels quote data = .ok records ∨
      ∃ plain, parseLlamaModels quote data = .ok (records, plain)) :
    ∃ entries decodes, data = .array entries decodes ∧ Lists entries records ∧
      ((∀ e ∈ entries, e.status.isSome) ∨ ∀ e ∈ entries, e.status.isNone) := by
  have hrouter (h : parseRouterModels quote data = .ok records) : ∃ entries decodes,
      data = .array entries decodes ∧ Lists entries records ∧
        ((∀ e ∈ entries, e.status.isSome) ∨ ∀ e ∈ entries, e.status.isNone) := by
    cases data with
    | array entries decodes =>
      obtain ⟨hlists, -, hread⟩ := parseEntries_lists (fun h => (routerRecord_ok h).1) h
      refine ⟨entries, decodes, rfl, hlists, .inl fun e he => ?_⟩
      obtain ⟨seen, r, hr⟩ := hread e he
      exact (routerRecord_ok hr).2
    | _ => cases h
  obtain h | ⟨plain, h⟩ := h
  · exact hrouter h
  unfold parseLlamaModels at h
  split at h
  · next entries hplain =>
    obtain ⟨result, hresult, h⟩ := bind_eq_ok.1 h
    cases h
    revert hplain
    fun_cases ModelData.plain data with
    | case1 entries' decodes hnone =>
      rintro ⟨⟩
      refine ⟨entries, decodes, rfl, (parseEntries_lists plainRecord_ok hresult).1,
        .inr fun e he => ?_⟩
      have := hnone.2.2 e he
      simp_all
    | _ => exact nofun
  · obtain ⟨result, hresult, h⟩ := bind_eq_ok.1 h
    cases h
    exact hrouter hresult

/-- A model of a router, and two of a plain server. -/
theorem models_accepted_plain :
    let accepted (data : ModelData) (records : List RouterModelRecord) :=
      ∃ entries decodes, data = .array entries decodes ∧ Lists entries records ∧
        ((∀ e ∈ entries, e.status.isSome) ∨ ∀ e ∈ entries, e.status.isNone)
    accepted (.array [⟨some (.string "a"), some (.string "unloaded"), none, none⟩] true)
        [⟨"a", .unloaded⟩] ∧
      accepted (.array [⟨some (.string "a"), none, none, none⟩,
          ⟨some (.string "b"), none, none, none⟩] true) [⟨"a", .loaded⟩, ⟨"b", .loaded⟩] :=
  ⟨@models_accepted id _ _ (.inl (by rfl)), @models_accepted id _ _ (.inr ⟨true, by rfl⟩)⟩

end VramGovernor.Wsproto
