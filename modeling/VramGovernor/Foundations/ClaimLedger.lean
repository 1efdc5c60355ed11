import Mathlib.Tactic.Spread
import Mathlib.Logic.Basic

/-!
# Shared claims on resources that are given back once

Several claims may be on one resource, which must not be given back while one of them is in use.
Their agents agree on this without a lock: a claim is put in flight, under the control of one agent,
while no other is on the resource; the agent gives the resource back, confirms it and ends the
claim.

A `ClaimLedger` records who is where in this. It is `Safe` if a resource that has been given back is
on no claim but one whose agent has confirmed it. The operations `hold`, `attach`, `elect`,
`confirm` and `discard` keep this under their guards; all else only takes entries away
(`Safe.shrink`).
-/

namespace VramGovernor

/-- Claims `ρ` on resources `ν`, and the agents `τ` that act for them. -/
structure ClaimLedger (ρ τ ν : Type*) where
  /-- The claim is in use and on the resource. -/
  live : ρ → ν → Prop
  /-- The resource of the claim is being given back. -/
  flight : ρ → Prop
  /-- The agent is the one that gives the resource of the claim back. -/
  owns : τ → ρ → Prop
  /-- The agent has given it back and has yet to end the claim. -/
  confirmed : τ → ρ → Prop
  /-- The agent has acquired the resource and has not put it on a claim. -/
  holds : τ → ν → Prop
  /-- The resource has been given back. -/
  gone : ν → Prop

namespace ClaimLedger

variable {ρ τ ν : Type*} {L L' : ClaimLedger ρ τ ν} {p q : ρ} {i : τ} {n : ν}

structure Safe (L : ClaimLedger ρ τ ν) : Prop where
  alone : ∀ p q n, L.flight p → L.live p n → L.live q n → q = p
  gone_confirmed : ∀ p n, L.live p n → L.gone n → ∃ i, L.confirmed i p
  owns_of_confirmed : ∀ i p, L.confirmed i p → L.owns i p
  flight_of_owns : ∀ i p, L.owns i p → L.flight p
  owner_unique : ∀ i j p, L.owns i p → L.owns j p → i = j
  held_not_gone : ∀ i n, L.holds i n → ¬ L.gone n
  held_not_live : ∀ i n, L.holds i n → ∀ p, ¬ L.live p n
  holder_unique : ∀ i j n, L.holds i n → L.holds j n → i = j

/-- **A claim that is not in flight is on no resource that was given back.** -/
theorem Safe.not_gone (h : L.Safe) (hl : L.live p n) (hf : ¬ L.flight p) : ¬ L.gone n := by
  intro hg
  obtain ⟨i, hc⟩ := h.gone_confirmed p n hl hg
  exact hf (h.flight_of_owns i p (h.owns_of_confirmed i p hc))

/-- **Taking entries away**, but none that an agent owns, nor a confirmation while its claim is in
use. -/
theorem Safe.shrink (h : L.Safe) (hlive : ∀ p n, L'.live p n → L.live p n)
    (hflight : ∀ p, L'.flight p → L.flight p)
    (howns : ∀ i p, L'.owns i p → L.owns i p ∧ L'.flight p)
    (hconfirmed : ∀ i p, L'.confirmed i p → L'.owns i p)
    (hkeep : ∀ i p n, L.confirmed i p → L'.live p n → L'.confirmed i p)
    (hholds : ∀ i n, L'.holds i n → L.holds i n) (hgone : ∀ n, L'.gone n → L.gone n) : L'.Safe where
  alone p q n hf hp hq := h.alone p q n (hflight p hf) (hlive p n hp) (hlive q n hq)
  gone_confirmed p n hp hg := by
    obtain ⟨i, hc⟩ := h.gone_confirmed p n (hlive p n hp) (hgone n hg)
    exact ⟨i, hkeep i p n hc hp⟩
  owns_of_confirmed := hconfirmed
  flight_of_owns i p ho := (howns i p ho).2
  owner_unique i j p hi hj := h.owner_unique i j p (howns i p hi).1 (howns j p hj).1
  held_not_gone i n hh hg := h.held_not_gone i n (hholds i n hh) (hgone n hg)
  held_not_live i n hh p hp := h.held_not_live i n (hholds i n hh) p (hlive p n hp)
  holder_unique i j n hi hj := h.holder_unique i j n (hholds i n hi) (hholds j n hj)

/-! ## Operations -/

/-- The agent acquires the resource. -/
def hold (L : ClaimLedger ρ τ ν) (i : τ) (n : ν) : ClaimLedger ρ τ ν :=
  { L with holds := fun j x => L.holds j x ∨ j = i ∧ x = n }

/-- A resource that nobody has seen may be acquired. -/
theorem Safe.hold (h : L.Safe) (hg : ¬ L.gone n) (hl : ∀ p, ¬ L.live p n)
    (hh : ∀ j, ¬ L.holds j n) : (L.hold i n).Safe where
  __ := h
  held_not_gone := by
    rintro j x (hx | ⟨rfl, rfl⟩)
    · exact h.held_not_gone j x hx
    · exact hg
  held_not_live := by
    rintro j x (hx | ⟨rfl, rfl⟩)
    · exact h.held_not_live j x hx
    · exact hl
  holder_unique := by
    rintro j k x (hj | ⟨rfl, rfl⟩) (hk | ⟨rfl, hx⟩)
    · exact h.holder_unique j k x hj hk
    · exact absurd (hx ▸ hj) (hh j)
    · exact absurd hk (hh k)
    · rfl

/-- The resource is put on a new claim. -/
def attach (L : ClaimLedger ρ τ ν) (p : ρ) (n : ν) : ClaimLedger ρ τ ν :=
  { L with live := fun q x => L.live q x ∨ q = p ∧ x = n }

/-- A resource may be put on a claim if it was not given back, nobody holds it and no claim on it is
in flight. -/
theorem Safe.attach (h : L.Safe) (hp : ¬ L.flight p) (hf : ∀ q, L.live q n → ¬ L.flight q)
    (hg : ¬ L.gone n) (hh : ∀ j, ¬ L.holds j n) : (L.attach p n).Safe where
  __ := h
  alone := by
    rintro q q' x hq (hl | ⟨rfl, -⟩) (hl' | ⟨rfl, rfl⟩)
    · exact h.alone q q' x hq hl hl'
    · exact absurd hq (hf q hl)
    · exact absurd hq hp
    · rfl
  gone_confirmed := by
    rintro q x (hl | ⟨rfl, rfl⟩) hx
    · exact h.gone_confirmed q x hl hx
    · exact absurd hx hg
  held_not_live := by
    rintro j x hx q (hl | ⟨rfl, rfl⟩)
    · exact h.held_not_live j x hx q hl
    · exact hh j hx

/-- The agent puts the claim in flight. -/
def elect (L : ClaimLedger ρ τ ν) (i : τ) (p : ρ) : ClaimLedger ρ τ ν :=
  { L with
    flight := fun q => L.flight q ∨ q = p
    owns := fun j q => L.owns j q ∨ j = i ∧ q = p }

/-- A claim that is not in flight may be put in flight if no other is on its resource. -/
theorem Safe.elect (h : L.Safe) (hp : ¬ L.flight p)
    (halone : ∀ q n, L.live p n → L.live q n → q = p) : (L.elect i p).Safe where
  __ := h
  alone := by
    rintro q q' x (hq | rfl) hl hl'
    · exact h.alone q q' x hq hl hl'
    · exact halone q' x hl hl'
  owns_of_confirmed j q hc := .inl (h.owns_of_confirmed j q hc)
  flight_of_owns := by
    rintro j q (ho | ⟨-, rfl⟩)
    · exact .inl (h.flight_of_owns j q ho)
    · exact .inr rfl
  owner_unique := by
    rintro j k q (hj | ⟨rfl, rfl⟩) (hk | ⟨rfl, hq⟩)
    · exact h.owner_unique j k q hj hk
    · exact absurd (h.flight_of_owns j q hj) (hq ▸ hp)
    · exact absurd (h.flight_of_owns k q hk) hp
    · rfl

/-- The agent of a claim gives its resource back. -/
def confirm (L : ClaimLedger ρ τ ν) (i : τ) (p : ρ) (n : ν) : ClaimLedger ρ τ ν :=
  { L with
    gone := fun x => L.gone x ∨ x = n
    confirmed := fun j q => L.confirmed j q ∨ j = i ∧ q = p }

theorem Safe.confirm (h : L.Safe) (ho : L.owns i p) (hl : L.live p n) : (L.confirm i p n).Safe where
  __ := h
  gone_confirmed := by
    rintro q x hq (hx | rfl)
    · obtain ⟨j, hc⟩ := h.gone_confirmed q x hq hx
      exact ⟨j, .inl hc⟩
    · -- The claim in flight is the only one on its resource.
      obtain rfl := h.alone p q x (h.flight_of_owns i p ho) hl hq
      exact ⟨i, .inr ⟨rfl, rfl⟩⟩
  owns_of_confirmed := by
    rintro j q (hc | ⟨rfl, rfl⟩)
    · exact h.owns_of_confirmed j q hc
    · exact ho
  held_not_gone := by
    rintro j x hx (hg | rfl)
    · exact h.held_not_gone j x hx hg
    · exact h.held_not_live j x hx p hl

/-- The agent that has acquired a resource gives it back. -/
def discard (L : ClaimLedger ρ τ ν) (n : ν) : ClaimLedger ρ τ ν :=
  { L with
    gone := fun x => L.gone x ∨ x = n
    holds := fun j x => L.holds j x ∧ x ≠ n }

theorem Safe.discard (h : L.Safe) (hh : L.holds i n) : (L.discard n).Safe where
  __ := h
  gone_confirmed := by
    rintro q x hq (hx | rfl)
    · exact h.gone_confirmed q x hq hx
    · exact absurd hq (h.held_not_live i x hh q)
  held_not_gone := by
    rintro j x ⟨hx, hne⟩ (hg | rfl)
    · exact h.held_not_gone j x hx hg
    · exact hne rfl
  held_not_live j x hx := h.held_not_live j x hx.1
  holder_unique j k x hj hk := h.holder_unique j k x hj.1 hk.1

end ClaimLedger

end VramGovernor
