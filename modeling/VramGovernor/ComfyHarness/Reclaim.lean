import VramGovernor.ComfyHarness.Custody

/-!
# Reclaiming the GPU cache

A reclaim request looks for active runs under the mutex, and then without it reads the queue of the
backend, asks it to free its cache and polls what is left. A start request that comes in between
launches a run, which may post a chunk before the request answers that the runtime is cold
(`submitted_before_cold`). Without such a launch nothing is posted
(`nothing_submitted_after_check`).
-/

namespace VramGovernor.ComfyHarness

open GoString

structure ReclaimResponse where
  status : ℕ
  (model tier : GoString := [])
  fencingToken : Int64 := 0
  protocol : GoString := []
  (torchVRAMBytes vramFreeBytes : Int64 := 0)
  error : GoString := []
  deriving DecidableEq

/-- How far a reclaim request has come. -/
inductive ReclaimPlace
  /-- The body is decoded; `none` if that failed. -/
  | entered (fencingToken : Option Int64)
  | reading (fencingToken : Int64)
  | freeing (fencingToken : Int64)
  | polling (fencingToken : Int64)
  | answered (response : ReclaimResponse)
  /-- The process has ended. -/
  | lost
  deriving DecidableEq

structure Device where
  type : GoString
  (vramFree torchVRAMTotal : Int64)

/-- What a step meets: the replies of the backend, whether the polling is over, and the error of an
ended context. -/
structure ReclaimAnswer where
  queue : QueueReply := .rows [] []
  free : Option GoString := none
  stats : Except GoString (List Device) := .ok []
  late : Bool := false
  ended : Option GoString := none

/-- The torch reservation and the free memory of the first CUDA device. -/
def comfyVRAM : Except GoString (List Device) → Except GoString (Int64 × Int64)
  | .error e => .error e
  | .ok devices =>
    match devices.find? (·.type = ofString "cuda") with
    | some d => .ok (d.torchVRAMTotal, d.vramFree)
    | none => .error "no CUDA device reported"

def reclaimColdBytes : Int64 := 2 ^ 30

/-- The error of a deadline that has passed, by what was last observed. -/
def lateError : Except GoString (Int64 × Int64) → GoString
  | .error e => "observation_unavailable: ComfyUI system_stats: " ++ e
  | .ok (torch, _) =>
    ofString "observation_unavailable: ComfyUI still reserves GPU memory after /free (" ++
      sprint (torch >>> 20).toInt ++ " MiB)"

def Harness.busy (h : Harness) : Bool := h.runs.any (·.place ≠ .gone)

def handleReclaim (h : Harness) (a : ReclaimAnswer) (place : ReclaimPlace) : ReclaimPlace :=
  let refuse (status : ℕ) (error : GoString) : ReclaimPlace := .answered { status, error }
  match place with
  | .entered token =>
    match token.filter (0 < ·) with
    | none => refuse 400 "fencing_token is required"
    | some token => if h.busy then refuse 409 "ComfyUI has work in progress" else .reading token
  | .reading token =>
    match a.queue with
    | .unavailable e => refuse 502 ("observation_unavailable: ComfyUI queue: " ++ e)
    | .rows pending running =>
      if 0 < running.length + pending.length then refuse 409 "ComfyUI has work in progress"
      else .freeing token
  | .freeing token =>
    match a.free with
    | some e => refuse 502 ("ComfyUI free: " ++ e)
    | none => .polling token
  | .polling token =>
    let observed := comfyVRAM a.stats
    let again := if a.late then refuse 503 (lateError observed) else
      match a.ended with
      | some e => refuse 503 ("observation_unavailable: " ++ e)
      | none => .polling token
    match observed with
    | .error _ => again
    | .ok (torch, free) =>
      if torch ≤ reclaimColdBytes then
        .answered
          { status := 200, model := "runtime-cache", tier := "cold_disk", fencingToken := token,
            protocol := "managed-comfy/v1", torchVRAMBytes := torch, vramFreeBytes := free }
      else again
  | place => place

/-- The harness and a reclaim request. -/
structure Reclaiming where
  harness : Harness
  place : ReclaimPlace

inductive ReclaimEvent
  | harness (event : HarnessEvent)
  | proceed (a : ReclaimAnswer)

def Reclaiming.step (o : HarnessOptions) (s : Reclaiming) : ReclaimEvent → Reclaiming
  | .harness event =>
    let restarts := event matches .restart ..
    { harness := s.harness.step o event, place := if restarts then .lost else s.place }
  | .proceed a =>
    if s.harness.process = .up then { s with place := handleReclaim s.harness a s.place } else s

def ReclaimEvent.fresh (h : Harness) : ReclaimEvent → Bool
  | .harness event => event.fresh h
  | .proceed _ => true

def ReclaimStep (o : HarnessOptions) (s : Reclaiming) (e : ReclaimEvent) (s' : Reclaiming) : Prop :=
  e.fresh s.harness = true ∧ s' = s.step o e

/-- A start request launches a run if its write succeeds. -/
def HarnessEvent.launches : HarnessEvent → Bool
  | .start _ _ w => w.first = .written
  | _ => false

def ReclaimEvent.launches : ReclaimEvent → Bool
  | .harness event => event.launches
  | .proceed _ => false

variable {o : HarnessOptions} {h h' : Harness} {event : HarnessEvent}

theorem busy_eq_false : h.busy = false ↔ ∀ r ∈ h.runs, r.place = .gone := by
  simp [Harness.busy]

/-- **A step of an idle harness** that launches no run posts nothing. -/
theorem idle_step (hstep : HarnessStep o h event h') (hidle : h.busy = false)
    (hlaunch : event.launches = false) : h'.busy = false ∧ h'.posted = h.posted := by
  have hcommit (k : Commit) (w : Writes) :
      (commit o h k w).1.runs = h.runs ∧ (commit o h k w).1.posted = h.posted := by
    obtain ⟨t, d, hframe⟩ := commit_frame o h k w
    simp [hframe]
  have hsame {g : Harness} (hruns : g.runs = h.runs) (hposted : g.posted = h.posted) :
      g.busy = false ∧ g.posted = h.posted := by
    rw [Harness.busy, hruns]
    exact ⟨hidle, hposted⟩
  cases step_change hstep with
  | keep | close | enter => exact hsame rfl rfl
  | restart readable w =>
    have hrestart := restart_spec o h readable w
    generalize restart o h readable w = h' at hrestart
    cases hrestart <;> exact ⟨rfl, rfl⟩
  | @start r id w _ hup hstart =>
    cases hstart with
    | keep => exact hsame rfl rfl
    | @create chunks =>
      have hwrite := persistLocked_spec o (h.withExecution r chunks id) w.first
      generalize persistLocked o (h.withExecution r chunks id) w.first = p at hwrite
      cases hwrite with
      | written hw => exact absurd hw (of_decide_eq_false hlaunch)
      | kept | torn => exact hsame rfl rfl
    | @resume e =>
      obtain ⟨hruns, hposted⟩ := hcommit e.resume w
      have hrefused : h.refuses o e.resume w = true := by
        simp [Harness.refuses, of_decide_eq_false hlaunch]
      dsimp only
      rw [commit_ok, hrefused]
      exact hsame hruns hposted
  | @run i r hup hr a =>
    have hgone := busy_eq_false.1 hidle r (List.mem_of_getElem? hr)
    have hstay : runStep o h i r a = h := by simp [runStep, hgone, runAction]
    rw [hstay]
    exact hsame rfl rfl
  | @control j c hup hc a =>
    unfold controlStep
    cases controlAction h c a with
    | stay | move | panic => exact hsame rfl rfl
    | write k notice written =>
      obtain ⟨hruns, hposted⟩ := hcommit k a.writes
      have hnotice (g : Harness) : (notice.apply g c.id).runs = g.runs ∧
          (notice.apply g c.id).posted = g.posted := by
        cases notice <;> exact ⟨rfl, rfl⟩
      dsimp only [Harness.moveControl]
      split_ifs
      · exact hsame ((hnotice _).1.trans hruns) ((hnotice _).2.trans hposted)
      · exact hsame hruns hposted

/-- **Nothing is submitted before the answer.** If a reclaim request finds the harness idle and no
run is launched from then on, no chunk is posted, whatever the request answers. -/
theorem nothing_submitted_after_check {s₀ s₁ s₂ : Reclaiming} {a : ReclaimAnswer} {token : Int64}
    {tr : List (Transition Reclaiming ReclaimEvent)} (hcheck : ReclaimStep o s₀ (.proceed a) s₁)
    (hentered : s₀.place = .entered (some token)) (hreading : s₁.place = .reading token)
    (hrun : Run (ReclaimStep o) s₁ tr s₂) (hno : ∀ t ∈ tr, t.label.launches = false) :
    s₂.harness.posted = s₁.harness.posted := by
  have hidle : s₁.harness.busy = false := by
    obtain ⟨-, rfl⟩ := hcheck
    simp only [Reclaiming.step, handleReclaim] at hreading ⊢
    grind
  refine (hrun.invariant_of (I := fun s => s.harness.busy = false ∧
    s.harness.posted = s₁.harness.posted) hno ⟨hidle, rfl⟩ ?_).2
  rintro s event s' ⟨hbusy, hposted⟩ ⟨hfresh, rfl⟩ hlaunch
  cases event with
  | harness event =>
    have hstep := idle_step (o := o) ⟨hfresh, rfl⟩ hbusy hlaunch
    exact ⟨hstep.1, hstep.2.trans hposted⟩
  | proceed a =>
    simp only [Reclaiming.step]
    split_ifs <;> exact ⟨hbusy, hposted⟩

namespace Reclaiming

/-- Events that follow the check of a request. -/
def checkedScript : List ReclaimEvent → List (Reclaiming → ReclaimEvent) :=
  Run.guarded (fun s event => event.fresh s.harness) (.proceed {})

def after (events : List ReclaimEvent) : Reclaiming :=
  Run.afterScript (step smallHarness) ⟨{}, .reading 1⟩ (checkedScript events)

def transitions (events : List ReclaimEvent) : List (Transition Reclaiming ReclaimEvent) :=
  Run.script (step smallHarness) ⟨{}, .reading 1⟩ (checkedScript events)

theorem run_after (events : List ReclaimEvent) :
    Run (ReclaimStep smallHarness) ⟨{}, .reading 1⟩ (transitions events) (after events) :=
  Run.of_guarded _ (fun _ => ⟨rfl, rfl⟩) (fun _ _ hfresh => ⟨hfresh, rfl⟩) events _

end Reclaiming

/-- The backend frees its cache. -/
def freed : List ReclaimEvent := [.proceed {}, .proceed { stats := .ok [⟨"cuda", 0, 0⟩] }]

def coldResponse : ReclaimResponse :=
  { status := 200, model := "runtime-cache", tier := "cold_disk", fencingToken := 1,
    protocol := "managed-comfy/v1" }

theorem nothing_submitted_until_cold :
    (Reclaiming.after (.proceed {} :: freed)).place = .answered coldResponse ∧
      (Reclaiming.after (.proceed {} :: freed)).harness.posted = [] := by
  have hcheck : ReclaimStep smallHarness ⟨{}, .entered (some 1)⟩ (.proceed {}) ⟨{}, .reading 1⟩ :=
    ⟨rfl, rfl⟩
  exact ⟨by decide +kernel, nothing_submitted_after_check hcheck rfl rfl (Reclaiming.run_after _)
    (by decide +kernel)⟩

/-- A start request comes after the check, and its run posts a chunk after the queue was read. -/
def startDuringReclaim : List ReclaimEvent :=
  [.harness (.start twoChunks "exec" {}), .proceed {}, .harness (.proceedRun 0 {}),
    .harness (.proceedRun 0 {})] ++ freed

/-- **A chunk is submitted before the answer.** The check and the queue find nothing, and the
request answers that the runtime is cold while the chunk is with the backend. -/
theorem submitted_before_cold :
    ReclaimStep smallHarness ⟨{}, .entered (some 1)⟩ (.proceed {}) ⟨{}, .reading 1⟩ ∧
      Run (ReclaimStep smallHarness) ⟨{}, .reading 1⟩ (Reclaiming.transitions startDuringReclaim)
        (Reclaiming.after startDuringReclaim) ∧
      (Reclaiming.after startDuringReclaim).place = .answered coldResponse ∧
      (Reclaiming.after startDuringReclaim).harness.posted.map (·.chunk) = [ofString "a"] :=
  ⟨⟨rfl, rfl⟩, Reclaiming.run_after _, by decide +kernel⟩

end VramGovernor.ComfyHarness
