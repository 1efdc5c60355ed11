import VramGovernor.Foundations.GoString

/-!
# Length-prefixed strings

A tuple of strings is written injectively by putting before each its length in decimal and a
colon. The decimal text of a number has only digits in it, so the first colon ends it
(`eq_of_append_separator`), the length read there says where the string ends, and what follows is
the rest of the tuple (`lengthPrefixed_append_inj`).
-/

namespace VramGovernor

namespace GoString

/-! ## Decimal texts -/

theorem ofString_eq_flatMap (s : String) : ofString s = s.toList.flatMap String.utf8EncodeChar := by
  rw [ofString, String.toUTF8, ← String.utf8Encode_toList, List.utf8Encode]
  simp

theorem ofString_injective : Function.Injective ofString := by
  intro s t h
  have hbytes : s.toByteArray = t.toByteArray := ByteArray.ext (Array.ext' h)
  exact String.toByteArray_inj.1 hbytes

theorem sprint_natCast (n : ℕ) : sprint n = (Nat.toDigits 10 n).flatMap String.utf8EncodeChar := by
  rw [← Nat.toList_repr, ← ofString_eq_flatMap]
  rfl

theorem digit_of_mem_sprint {n : ℕ} {b : UInt8} (h : b ∈ sprint n) : 0x30 ≤ b ∧ b ≤ 0x39 := by
  rw [sprint_natCast, List.mem_flatMap] at h
  obtain ⟨c, hc, hb⟩ := h
  have hdigit := Nat.isDigit_of_mem_toDigits (by decide) (by decide) hc
  simp only [Char.isDigit, Bool.and_eq_true, decide_eq_true_eq, ge_iff_le,
    UInt32.le_iff_toNat_le] at hdigit
  have hlo : 48 ≤ c.toNat := hdigit.1
  have hhi : c.toNat ≤ 57 := hdigit.2
  -- a digit is one byte of UTF-8
  have hascii : c.val.toNat ≤ 127 := hhi.trans (by decide)
  rw [String.utf8EncodeChar] at hb
  simp only [hascii, if_true, List.mem_singleton] at hb
  rw [hb, UInt8.le_iff_toNat_le, UInt8.le_iff_toNat_le]
  simp only [Char.toNat_val, UInt8.toNat_ofNat', UInt8.reduceToNat]
  omega

theorem sprint_natCast_inj {m n : ℕ} (h : sprint m = sprint n) : m = n := by
  have hrepr : m.repr = n.repr := ofString_injective h
  have hdigits := congrArg (fun s => Nat.ofDigitChars 10 s.toList 0) hrepr
  simpa using hdigits

theorem sprint_natCast_ne_nil (n : ℕ) : sprint n ≠ [] := by
  intro h
  have hempty : n.repr = "" := ofString_injective h
  have hdigits := congrArg String.toList hempty
  rw [Nat.toList_repr] at hdigits
  exact Nat.toDigits_ne_nil hdigits

theorem sprint_negSucc (n : ℕ) : sprint (Int.negSucc n) = 0x2D :: sprint (n + 1 : ℕ) := by
  have hneg : toString (Int.negSucc n) = "-" ++ (n + 1).repr := rfl
  rfl

theorem mem_sprint {n : ℤ} {b : UInt8} (h : b ∈ sprint n) : b = 0x2D ∨ 0x30 ≤ b ∧ b ≤ 0x39 := by
  cases n with
  | ofNat n => exact .inr (digit_of_mem_sprint h)
  | negSucc n =>
    rw [sprint_negSucc, List.mem_cons] at h
    exact h.imp id digit_of_mem_sprint

theorem sprint_injective : Function.Injective sprint := by
  have hsign (m n : ℕ) : sprint m ≠ sprint (Int.negSucc n) := by
    intro h
    have hminus : (0x2D : UInt8) ∈ sprint m := by
      rw [h, sprint_negSucc]
      exact List.mem_cons_self
    exact absurd (digit_of_mem_sprint hminus).1 (by decide)
  intro m n h
  cases m with
  | ofNat m =>
    cases n with
    | ofNat n => exact congrArg Int.ofNat (sprint_natCast_inj h)
    | negSucc n => exact absurd h (hsign m n)
  | negSucc m =>
    cases n with
    | ofNat n => exact absurd h.symm (hsign n m)
    | negSucc n =>
      rw [sprint_negSucc, sprint_negSucc, List.cons.injEq] at h
      have hnat := sprint_natCast_inj h.2
      rw [Nat.succ.inj hnat]

/-! ## Strings with their lengths -/

/-- Two texts cut at the first separator. -/
theorem eq_of_append_separator {x : UInt8} {a a' b b' : GoString} (ha : x ∉ a) (ha' : x ∉ a')
    (h : a ++ x :: b = a' ++ x :: b') : a = a' ∧ b = b' := by
  induction a generalizing a' with
  | nil =>
    cases a' with
    | nil => exact ⟨rfl, by simpa using h⟩
    | cons y a' =>
      have hy : x = y := by simpa using congrArg List.head? h
      exact absurd (by simp [hy]) ha'
  | cons y a ih =>
    cases a' with
    | nil =>
      have hy : y = x := by simpa using congrArg List.head? h
      exact absurd (by simp [hy]) ha
    | cons z a' =>
      simp only [List.cons_append, List.cons.injEq] at h
      obtain ⟨htail, hrest⟩ := ih (fun hx => ha (by simp [hx])) (fun hx => ha' (by simp [hx])) h.2
      exact ⟨by rw [h.1, htail], hrest⟩

/-- Two texts cut at the last separator. -/
theorem eq_of_separator_append {x : UInt8} {a a' b b' : GoString} (hb : x ∉ b) (hb' : x ∉ b')
    (h : a ++ x :: b = a' ++ x :: b') : a = a' ∧ b = b' := by
  have hrev := congrArg List.reverse h
  simp only [List.reverse_append, List.reverse_cons, List.append_assoc,
    List.singleton_append] at hrev
  obtain ⟨hb, ha⟩ := eq_of_append_separator (by simpa using hb) (by simpa using hb') hrev
  exact ⟨List.reverse_injective ha, List.reverse_injective hb⟩

/-- The string after its length: `fmt.Sprintf("%d:%s", len(s), s)`. -/
def lengthPrefixed (s : GoString) : GoString := sprint s.length ++ ":" ++ s

/-- **A length-prefixed string can be read off the front of a text.** -/
theorem lengthPrefixed_append_inj {s s' x x' : GoString}
    (h : lengthPrefixed s ++ x = lengthPrefixed s' ++ x') : s = s' ∧ x = x' := by
  have hcolon (n : ℕ) : (0x3A : UInt8) ∉ sprint n := fun hmem =>
    absurd (digit_of_mem_sprint hmem).2 (by decide)
  have hsplit : sprint s.length ++ 0x3A :: (s ++ x) = sprint s'.length ++ 0x3A :: (s' ++ x') := by
    simpa [lengthPrefixed, show ofString ":" = [0x3A] from rfl] using h
  obtain ⟨hlength, hrest⟩ := eq_of_append_separator (hcolon _) (hcolon _) hsplit
  exact List.append_inj hrest (sprint_natCast_inj hlength)

theorem head_lengthPrefixed (s x : GoString) :
    ∃ b t, lengthPrefixed s ++ x = b :: t ∧ b ≤ 0x39 := by
  obtain ⟨b, t, hbt⟩ := List.exists_cons_of_ne_nil (sprint_natCast_ne_nil s.length)
  have hb : b ∈ sprint s.length := by simp [hbt]
  exact ⟨b, t ++ ":" ++ s ++ x, by simp [lengthPrefixed, hbt], (digit_of_mem_sprint hb).2⟩

end GoString

end VramGovernor
