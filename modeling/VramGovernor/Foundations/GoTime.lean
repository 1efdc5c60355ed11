import Mathlib.Algebra.Order.Group.Unbundled.Int
import Mathlib.Tactic.Ring

/-!
# Instants and their JSON text

A `time.Time` is an instant together with the zone it is shown in. `encoding/json` writes the local
date and the zone in RFC 3339, so an instant with another year or zone than that allows has no text
at all, and two instants of one text need not be equal: `eq_of_json_eq` holds in UTC.
-/

namespace VramGovernor

/-- A `time.Time`: nanoseconds since the start of year 1, and the offset from UTC in seconds. -/
structure GoTime where
  (nanos offset : ℤ := 0)
  deriving DecidableEq, Repr

namespace GoTime

def isZero (t : GoTime) : Bool := t.nanos = 0

def utc (t : GoTime) : GoTime := { t with offset := 0 }

/-- `Time.Add`, the duration in nanoseconds. -/
def add (t : GoTime) (d : ℤ) : GoTime := { t with nanos := t.nanos + d }

def equal (t u : GoTime) : Bool := t.nanos = u.nanos

def after (t u : GoTime) : Bool := u.nanos < t.nanos

def before (t u : GoTime) : Bool := t.nanos < u.nanos

def truncateMicrosecond (t : GoTime) : GoTime := { t with nanos := t.nanos - t.nanos % 1000 }

def day : ℤ := 86400 * 10 ^ 9

/-- The instant as shown by a clock of its zone. -/
def localNanos (t : GoTime) : ℤ := t.nanos + t.offset * 10 ^ 9

/-- The zone as RFC 3339 writes it: `Z` at offset zero, otherwise whole minutes. -/
def zone (t : GoTime) : Option ℤ := if t.offset = 0 then none else some (t.offset.tdiv 60)

/-- The instant has a JSON text: its year is one of 0-9999 and its zone has less than 24 hours. -/
def Encodable (t : GoTime) : Prop :=
  -366 * day ≤ t.localNanos ∧ t.localNanos < 3652059 * day ∧ (t.offset.tdiv 60).natAbs < 24 * 60

instance (t : GoTime) : Decidable t.Encodable := inferInstanceAs (Decidable (_ ∧ _))

/-- `Time.MarshalJSON`: the local date and the zone, or an error. -/
def json (t : GoTime) : Option (ℤ × Option ℤ) :=
  if t.Encodable then some (t.localNanos, t.zone) else none

theorem json_eq_some {t : GoTime} (h : t.Encodable) : t.json = some (t.localNanos, t.zone) :=
  if_pos h

/-- **JSON text identifies no two instants one of which is in UTC.** -/
theorem eq_of_json_eq {t u : GoTime} (ht : t.Encodable) (hz : t.offset = 0)
    (h : t.json = u.json) : t = u := by
  rw [json_eq_some ht, json] at h
  split_ifs at h with hu
  obtain ⟨hl, hzone⟩ := Prod.mk.injEq .. ▸ Option.some.inj h
  have ho : u.offset = 0 := by
    by_contra hne
    simp [zone, hz, hne] at hzone
  cases t
  cases u
  simp only [localNanos] at hl hz ho
  simp only [mk.injEq]
  omega

end GoTime

end VramGovernor
