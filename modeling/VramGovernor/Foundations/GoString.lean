import Mathlib.Data.List.DropRight
import Mathlib.Data.List.Infix
import Mathlib.Data.UInt

/-!
# Byte strings

A Go string is a sequence of bytes that need not be UTF-8. Read as runes, a byte that starts no
well-formed sequence counts as one ill-formed rune. `strings.TrimSpace` keeps it, `strings.ToLower`
replaces it by U+FFFD, and `encoding/json` writes the same escape for every such byte: `jsonString`
is injective at the well-formed strings only (`eq_of_jsonString_eq`).
-/

namespace VramGovernor

/-- A Go string: its bytes. -/
abbrev GoString := List UInt8

namespace GoString

/-- The bytes of a string literal. -/
def ofString (s : String) : GoString := s.toUTF8.data.toList

instance : Coe String GoString := ⟨ofString⟩

instance : LawfulBEq GoString := inferInstance

/-- The decimal text of a number, as `fmt.Sprint` prints it. -/
def sprint (n : ℤ) : GoString := ofString (toString n)

/-! ## Runes -/

/-- A rune of a string: the bytes of a well-formed UTF-8 sequence, or an ill-formed byte. -/
inductive Rune
  | valid (bytes : List UInt8)
  | invalid (byte : UInt8)
  deriving DecidableEq, Repr

/-- The bytes a rune was read from. -/
def Rune.bytes : Rune → List UInt8
  | .valid bs => bs
  | .invalid b => [b]

/-- The continuation bytes that a leading byte asks for, with the range of the first of them (the
others range over `0x80`-`0xBF`). -/
def leading (b : UInt8) : Option (ℕ × UInt8 × UInt8) :=
  if b < 0x80 then some (0, 0, 0)
  else if b < 0xC2 then none
  else if b ≤ 0xDF then some (1, 0x80, 0xBF)
  else if b = 0xE0 then some (2, 0xA0, 0xBF)
  else if b = 0xED then some (2, 0x80, 0x9F)
  else if b ≤ 0xEF then some (2, 0x80, 0xBF)
  else if b = 0xF0 then some (3, 0x90, 0xBF)
  else if b ≤ 0xF3 then some (3, 0x80, 0xBF)
  else if b = 0xF4 then some (3, 0x80, 0x8F) else none

/-- Whether `tail` are the continuation bytes the leading byte `b` asks for. -/
def wellFormedTail (b : UInt8) (tail : List UInt8) : Bool :=
  match leading b, tail with
  | some (0, _, _), [] => true
  | some (n + 1, lo, hi), c :: cs =>
    cs.length = n && (lo ≤ c && c ≤ hi) && cs.all fun d => 0x80 ≤ d && d ≤ 0xBF
  | _, _ => false

/-- The number of continuation bytes a leading byte asks for. -/
def tailLength (b : UInt8) : ℕ :=
  match leading b with
  | some (n, _, _) => n
  | none => 0

/-- The first rune of a nonempty string `b :: s` and the rest of it. -/
def decodeRune (b : UInt8) (s : GoString) : Rune × GoString :=
  if wellFormedTail b (s.take (tailLength b)) then
    (.valid (b :: s.take (tailLength b)), s.drop (tailLength b))
  else (.invalid b, s)

/-- The runes of a string of at most `fuel` bytes. -/
def runesAux : ℕ → GoString → List Rune
  | _, [] => []
  | 0, _ => []
  | fuel + 1, b :: s => (decodeRune b s).1 :: runesAux fuel (decodeRune b s).2

def runes (s : GoString) : List Rune := runesAux s.length s

variable (b : UInt8) (s : GoString)

theorem decodeRune_bytes : (decodeRune b s).1.bytes ++ (decodeRune b s).2 = b :: s := by
  unfold decodeRune
  split_ifs
  · simp [Rune.bytes]
  · rfl

theorem decodeRune_length : (decodeRune b s).2.length ≤ s.length := by
  unfold decodeRune
  split_ifs
  · simp
  · rfl

theorem runesAux_bytes : ∀ (fuel : ℕ) (s : GoString), s.length ≤ fuel →
    (runesAux fuel s).flatMap Rune.bytes = s
  | fuel, [], _ => by cases fuel <;> rfl
  | 0, _ :: _, h => by simp at h
  | fuel + 1, b :: s, h => by
    have hle : (decodeRune b s).2.length ≤ fuel := (decodeRune_length b s).trans (by simpa using h)
    rw [runesAux, List.flatMap_cons, runesAux_bytes fuel _ hle, decodeRune_bytes]

/-- **The runes of a string spell it.** -/
@[simp] theorem runes_bytes (s : GoString) : (runes s).flatMap Rune.bytes = s :=
  runesAux_bytes _ s le_rfl

/-! ## JSON strings -/

/-- A rune as `encoding/json` writes it: an ill-formed byte is the escape of U+FFFD. -/
def Rune.json : Rune → Option (List UInt8)
  | .valid bs => some bs
  | .invalid _ => none

/-- The contents of a JSON string, rune by rune. The text written determines it and conversely. -/
def jsonString (s : GoString) : List (Option (List UInt8)) := (runes s).map Rune.json

def ValidUTF8 (s : GoString) : Prop := none ∉ jsonString s

instance (s : GoString) : Decidable (ValidUTF8 s) := inferInstanceAs (Decidable (_ ∉ _))

theorem eq_flatMap_of_validUTF8 {s : GoString} (h : ValidUTF8 s) :
    s = (jsonString s).flatMap fun r => r.getD [] := by
  rw [jsonString, List.flatMap_map]
  conv_lhs => rw [← runes_bytes s]
  refine List.flatMap_congr fun r hr => ?_
  cases r with
  | valid bs => rfl
  | invalid b => exact absurd (List.mem_map_of_mem (f := Rune.json) hr) h

/-- **JSON text identifies no two strings one of which is UTF-8.** -/
theorem eq_of_jsonString_eq {s t : GoString} (hs : ValidUTF8 s) (h : jsonString s = jsonString t) :
    s = t := by
  have ht : ValidUTF8 t := by rwa [ValidUTF8, ← h]
  rw [eq_flatMap_of_validUTF8 hs, h, ← eq_flatMap_of_validUTF8 ht]

def hexDigit (n : UInt8) : UInt8 := if n < 10 then 0x30 + n else 0x57 + n

/-- `hex.EncodeToString`. -/
def hexString (s : GoString) : GoString := s.flatMap fun b => [hexDigit (b / 16), hexDigit (b % 16)]

/-- The text `encoding/json` writes for a rune, `<`, `>` and `&` escaped. -/
def Rune.escape : Rune → GoString
  | .valid [b] =>
    if b = 0x22 ∨ b = 0x5C then [0x5C, b]
    else if b = 0x08 then ofString "\\b"
    else if b = 0x0C then ofString "\\f"
    else if b = 0x0A then ofString "\\n"
    else if b = 0x0D then ofString "\\r"
    else if b = 0x09 then ofString "\\t"
    else if b < 0x20 ∨ b = 0x3C ∨ b = 0x3E ∨ b = 0x26 then ofString "\\u00" ++ hexString [b]
    else [b]
  | .valid [0xE2, 0x80, 0xA8] => ofString "\\u2028"
  | .valid [0xE2, 0x80, 0xA9] => ofString "\\u2029"
  | .valid bs => bs
  | .invalid _ => ofString "\\ufffd"

/-- The JSON text of a string, with its quotes. -/
def jsonQuote (s : GoString) : GoString := 0x22 :: (runes s).flatMap Rune.escape ++ [0x22]

/-! ## Space and case -/

/-- `unicode.IsSpace`: the white space of Latin-1, then U+1680, U+2000-U+200A, U+2028, U+2029,
U+202F, U+205F and U+3000. -/
def Rune.isSpace : Rune → Bool
  | .valid [b] => (0x09 ≤ b && b ≤ 0x0D) || b = 0x20
  | .valid [0xC2, b] => b = 0x85 || b = 0xA0
  | .valid [0xE1, 0x9A, b] => b = 0x80
  | .valid [0xE2, 0x80, b] => b ≤ 0x8A || b = 0xA8 || b = 0xA9 || b = 0xAF
  | .valid [0xE2, 0x81, b] => b = 0x9F
  | .valid [0xE3, 0x80, b] => b = 0x80
  | _ => false

def trimSpace (s : GoString) : GoString :=
  (((runes s).dropWhile Rune.isSpace).rdropWhile Rune.isSpace).flatMap Rune.bytes

/-- `unicode.ToLower`. Besides the capitals of ASCII only U+0130 and U+212A have an ASCII lower
case; the other runes are kept, as lowered texts are compared with ASCII ones. -/
def Rune.toLower : Rune → GoString
  | .valid [b] => if 0x41 ≤ b ∧ b ≤ 0x5A then [b + 0x20] else [b]
  | .valid [0xC4, 0xB0] => ofString "i"
  | .valid [0xE2, 0x84, 0xAA] => ofString "k"
  | .valid bs => bs
  | .invalid _ => [0xEF, 0xBF, 0xBD]

/-- `strings.ToLower`, up to the choice among non-ASCII letters. -/
def toLower (s : GoString) : GoString := (runes s).flatMap Rune.toLower

/-- The test `strings.TrimSpace(s) == ""`. -/
def isBlank (s : GoString) : Bool := trimSpace s = []

end GoString

end VramGovernor
