import VramGovernor.Foundations.GoString
import VramGovernor.Foundations.GoTime

/-!
# JSON text of flat records

`encoding/json` writes a struct as its fields in order, so two texts of one struct type are equal
exactly when the texts of their fields are. A field is `Faithful` when its text determines it:
numbers always are, strings when they are UTF-8, times when they have a text and are in UTC. A
comparison of texts is one of the records if the fields of one side are faithful
(`eq_of_marshalRecord_eq`).
-/

namespace VramGovernor

open GoString

/-- A field of a struct. -/
inductive JSONField
  | null
  | number (n : ℤ)
  | string (s : GoString)
  | strings (ss : List GoString)
  | time (t : GoTime)
  deriving DecidableEq

/-- The text of a field. -/
inductive JSONText
  | null
  | number (n : ℤ)
  | string (s : List (Option (List UInt8)))
  | strings (ss : List (List (Option (List UInt8))))
  | time (t : ℤ × Option ℤ)
  deriving DecidableEq

namespace JSONField

/-- The text of a field, if it has one. -/
def text : JSONField → Option JSONText
  | null => some .null
  | number n => some (.number n)
  | string s => some (.string (jsonString s))
  | strings ss => some (.strings (ss.map jsonString))
  | time t => t.json.map .time

/-- The text of the field determines it. -/
def Faithful : JSONField → Prop
  | null => True
  | number _ => True
  | string s => ValidUTF8 s
  | strings ss => ∀ s ∈ ss, ValidUTF8 s
  | time t => t.Encodable ∧ t.offset = 0

instance : DecidablePred Faithful
  | null => inferInstanceAs (Decidable True)
  | number _ => inferInstanceAs (Decidable True)
  | string s => inferInstanceAs (Decidable (ValidUTF8 s))
  | strings ss => inferInstanceAs (Decidable (∀ s ∈ ss, ValidUTF8 s))
  | time t => inferInstanceAs (Decidable (t.Encodable ∧ t.offset = 0))

theorem map_jsonString_inj {ss ts : List GoString} (h : ∀ s ∈ ss, ValidUTF8 s)
    (he : ss.map jsonString = ts.map jsonString) : ss = ts := by
  induction ss generalizing ts with
  | nil => simpa using he.symm
  | cons s ss ih =>
    cases ts with
    | nil => cases he
    | cons t ts =>
      obtain ⟨hhead, htail⟩ := List.cons.inj he
      rw [eq_of_jsonString_eq (h s (by simp)) hhead, ih (fun s hs => h s (by simp [hs])) htail]

theorem Faithful.exists_text {f : JSONField} (h : f.Faithful) : ∃ t, f.text = some t := by
  cases f with
  | time t => exact ⟨_, by rw [text, GoTime.json_eq_some h.1]; rfl⟩
  | _ => exact ⟨_, rfl⟩

theorem Faithful.eq_of_text_eq {f g : JSONField} (h : f.Faithful) (he : f.text = g.text) :
    f = g := by
  cases f with
  | null => cases g <;> simp [text] at he ⊢
  | number n => cases g <;> simp [text] at he ⊢; exact he
  | string s =>
    cases g with
    | string t => rw [eq_of_jsonString_eq h (by simpa [text] using he)]
    | _ => simp [text] at he
  | strings ss =>
    cases g with
    | strings ts => rw [map_jsonString_inj h (by simpa [text] using he)]
    | _ => simp [text] at he
  | time t =>
    cases g with
    | time u =>
      rw [GoTime.eq_of_json_eq h.1 h.2]
      exact Option.map_injective (fun _ _ => JSONText.time.inj) he
    | _ => simp [text] at he

end JSONField

/-- The text of a struct with the given fields; `none` is the error of `json.Marshal`. -/
def marshalRecord (fs : List JSONField) : Option (List JSONText) := fs.mapM JSONField.text

variable {fs : List JSONField}

theorem marshalRecord_cons_eq_some {f : JSONField} {ts : List JSONText} :
    marshalRecord (f :: fs) = some ts ↔
      ∃ t ts', f.text = some t ∧ marshalRecord fs = some ts' ∧ ts = t :: ts' := by
  simp only [marshalRecord, List.mapM_cons, Option.bind_eq_bind, Option.bind_eq_some_iff,
    Option.pure_def, Option.some.injEq]
  constructor
  · rintro ⟨t, ht, ts', hts, rfl⟩
    exact ⟨t, ts', ht, hts, rfl⟩
  · rintro ⟨t, ts', ht, hts, rfl⟩
    exact ⟨t, ht, ts', hts, rfl⟩

theorem exists_marshalRecord (h : ∀ f ∈ fs, f.Faithful) : ∃ ts, marshalRecord fs = some ts := by
  induction fs with
  | nil => exact ⟨[], rfl⟩
  | cons f fs ih =>
    obtain ⟨t, ht⟩ := (h f (by simp)).exists_text
    obtain ⟨ts, hts⟩ := ih fun f hf => h f (by simp [hf])
    exact ⟨t :: ts, marshalRecord_cons_eq_some.2 ⟨t, ts, ht, hts, rfl⟩⟩

/-- **Records of one text are equal** if the fields of one are faithful. -/
theorem eq_of_marshalRecord_eq {gs : List JSONField} (h : ∀ f ∈ fs, f.Faithful)
    (he : marshalRecord fs = marshalRecord gs) : fs = gs := by
  obtain ⟨ts, hts⟩ := exists_marshalRecord h
  rw [hts] at he
  induction fs generalizing gs ts with
  | nil =>
    obtain rfl := Option.some.inj hts
    cases gs with
    | nil => rfl
    | cons g gs =>
      obtain ⟨t, ts', -, -, hne⟩ := marshalRecord_cons_eq_some.1 he.symm
      cases hne
  | cons f fs ih =>
    obtain ⟨t, ts', ht, hts', rfl⟩ := marshalRecord_cons_eq_some.1 hts
    cases gs with
    | nil => cases Option.some.inj he
    | cons g gs =>
      obtain ⟨u, us, hu, hus, heq⟩ := marshalRecord_cons_eq_some.1 he.symm
      obtain ⟨rfl, rfl⟩ := List.cons.inj heq
      rw [(h f (by simp)).eq_of_text_eq (ht.trans hu.symm),
        ih (fun f hf => h f (by simp [hf])) _ hus.symm hts']

/-- The texts of the fields of a record that has a text. -/
theorem getElem?_of_marshalRecord {ts : List JSONText} (h : marshalRecord fs = some ts) (i : ℕ) :
    ts[i]? = fs[i]?.bind JSONField.text := by
  induction fs generalizing ts i with
  | nil =>
    obtain rfl := Option.some.inj h
    rfl
  | cons f fs ih =>
    obtain ⟨t, ts', ht, hts', rfl⟩ := marshalRecord_cons_eq_some.1 h
    cases i with
    | zero => simpa using ht.symm
    | succ i => simpa using ih hts' i

end VramGovernor
