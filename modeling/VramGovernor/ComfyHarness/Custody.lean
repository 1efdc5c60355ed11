import VramGovernor.ComfyHarness.Records

/-!
# Custody of chunks

An execution that may still go on and has no submission under way has posted exactly the chunks it
has finished, and no run is inside a chunk (`Settled`). This holds of the record in memory and of
the one on disk, however a write has ended, so that neither a run nor a restart can post a chunk
again (`Sound`). `chunks_posted_once` is about executions whose client follows no redirection, since
that sends the same chunk again.
-/

namespace VramGovernor.ComfyHarness

open GoString Harness Cell

/-! ## The invariant -/

def RunPlace.InChunk (place : RunPlace) : Prop := ∃ c stage, place = .chunk c stage

/-- The record is the one in memory or the one on disk. -/
def Cell.Holds (c : Cell) (e : Execution) : Prop := c.mem = some e ∨ c.disk = some e

/-- The chunks of the POSTs that no redirection led to. -/
def firsts (posted : List Post) : List GoString := (posted.filter (·.hops = 0)).map (·.chunk)

/-- The first chunks have been posted and have finished, and no other. -/
structure Settled (c : Cell) (n : ℕ) : Prop where
  posted : (firsts c.posted).length = n
  observed : c.observed.length = n
  outside : ∀ i r, c.runs i = some r → ¬r.place.InChunk

/-- A record that memory or the disk may hold. -/
structure Fits (c : Cell) (e : Execution) : Prop where
  shape : Shape e
  planned : c.plan = some e.chunks
  settled : e.Live → e.submission = .unset → Settled c e.nextChunk

/-- The number of first POSTs at a stage of a chunk. -/
def ChunkStage.Posted (k n : ℕ) : ChunkStage → Prop
  | .submitting => n = k
  | .posting _ _ | .accepting _ | .polling _ | .returned (.finished _ _) => n = k + 1
  | .marking _ | .returned (.failed _) | .returned (.unresolved _) => k ≤ n ∧ n ≤ k + 1

/-- The number of histories at a stage of a chunk. -/
def ChunkStage.Observed (k n : ℕ) : ChunkStage → Prop
  | .returned (.finished _ _) => n = k + 1
  | _ => n = k

/-- A run is in a chunk. -/
structure ChunkHeld (c : Cell) (ch : Chunk) (stage : ChunkStage) (k : ℕ) : Prop where
  planned : ∃ chunks, c.plan = some chunks ∧ chunks[k]? = some ch
  posted : stage.Posted k (firsts c.posted).length
  observed : stage.Observed k c.observed.length
  prompted : stage.Prompted
  next : ∀ e, c.mem = some e → e.Live → e.nextChunk = k

/-- The control request has left to read the queue. -/
def ControlPlace.Queues (place : ControlPlace) : Prop :=
  (∃ epoch, place = .queueing epoch) ∨ ∃ epoch b, place = .queued epoch b

/-- **The invariant of an execution.** -/
structure Sound (c : Cell) : Prop where
  held : ∀ e, c.Holds e → Fits c e
  valid : ∀ chunks, c.plan = some chunks → ChunksValid chunks
  posts : ∀ chunks, c.plan = some chunks → firsts c.posted <+: chunks.map (·.id)
  observes : ∀ chunks, c.plan = some chunks → c.observed.map (·.chunk) <+: chunks.map (·.id)
  inChunk : ∀ i r ch stage, c.runs i = some r → r.place = .chunk ch stage →
    ∃ k, ChunkHeld c ch stage k
  unique : ∀ i j r r', c.runs i = some r → c.runs j = some r' → r.place.InChunk →
    r'.place.InChunk → i = j
  unplanned : c.plan = none → c.posted = [] ∧ c.observed = [] ∧ ∀ i, c.runs i = none
  queued : ∀ j r, c.controls j = some r → r.place.Queues →
    c.Quiet ∧ ∃ e, c.mem = some e ∧ ¬e.AtBoundary

section Lemmas

variable {c : Cell} {e e' mem : Execution} {i j : ℕ} {r : RunRoutine} {disk : Option Execution}
  {k : Commit} {ok : Bool} {place : RunPlace} {ch : Chunk} {id : GoString}

theorem Fits.follows (h : Fits c e) (hs : Shape e') (hf : Follows e e') : Fits c e' where
  shape := hs
  planned := h.planned.trans (congrArg some hf.chunks.symm)
  settled hl hu := by
    obtain ⟨hlive, hnext, hunset⟩ := hf.live hl
    rw [hnext]
    exact h.settled hlive (hunset hu)

theorem Fits.encoded (h : Fits c e) : Fits c e.encoded := h.follows h.shape.encoded (.encoded e)

/-- What fits depends on the logs, the chunks and the runs. -/
theorem Fits.congr {c' : Cell} (h : Fits c e) (hplan : c'.plan = c.plan)
    (hposted : c'.posted = c.posted) (hobserved : c'.observed = c.observed)
    (hruns : ∀ i r, c'.runs i = some r → r.place.InChunk → ∃ r', c.runs i = some r' ∧
      r'.place.InChunk) : Fits c' e where
  shape := h.shape
  planned := hplan.trans h.planned
  settled hl hu :=
    { posted := hposted ▸ (h.settled hl hu).posted
      observed := hobserved ▸ (h.settled hl hu).observed
      outside := fun i r hr hin => by
        obtain ⟨r', hr', hin'⟩ := hruns i r hr hin
        exact (h.settled hl hu).outside i r' hr' hin' }

section

variable (h : Sound c)
include h

theorem Sound.submitted (hr : c.runs i = some r) (hin : r.place.InChunk)
    (he : c.Holds e) (hl : e.Live) : e.submission ≠ .unset := fun hu =>
  ((h.held e he).settled hl hu).outside i r hr hin

theorem Sound.record {mem : Execution} {disk : Option Execution}
    (hmem : Fits c mem) (hdisk : ∀ e, disk = some e → Fits c e)
    (hnext : ∀ i r ch stage k, c.runs i = some r → r.place = .chunk ch stage →
      ChunkHeld c ch stage k → mem.Live → mem.nextChunk = k)
    (hboundary : ∀ j r, c.controls j = some r → r.place.Queues → ¬mem.AtBoundary) :
    Sound (c.record mem disk) where
  __ := h
  held e he := by
    have hfits : Fits c e := by
      rcases he with he | he
      · obtain rfl : mem = e := Option.some.inj he
        exact hmem
      · exact hdisk e he
    exact hfits.congr rfl rfl rfl fun i r hr hin => ⟨r, hr, hin⟩
  inChunk i r ch stage hr hplace := by
    obtain ⟨k, hheld⟩ := h.inChunk i r ch stage hr hplace
    refine ⟨k, { hheld with next := fun e he hl => ?_ }⟩
    obtain rfl : mem = e := Option.some.inj he
    exact hnext i r ch stage k hr hplace hheld hl
  queued j r hr hq := ⟨(h.queued j r hr hq).1, mem, rfl, hboundary j r hr hq⟩

variable {w : Writes}

/-- **A commit that takes an execution no further.** -/
theorem Sound.commit (he : c.mem = some e) (hk : CommitShape e k) (hf : Follows e k.record)
    (heffect : Effect k w c.disk mem disk ok) : Sound (c.record mem disk) := by
  have hold := h.held e (.inl he)
  have hrecord : Fits c k.record := hold.follows hk.record hf
  have hfallback : Fits c k.fallback := hold.follows hk.fallback hk.follows
  have hmem : Fits c mem ∧ Follows e mem := by
    cases heffect
    · exact ⟨hrecord, hf⟩
    all_goals exact ⟨hfallback, hk.follows⟩
  refine h.record hmem.1 ?_ ?_ ?_
  · intro e' he'
    cases heffect with
    | written | torn =>
      obtain rfl := Option.some.inj he'
      exact hrecord.encoded
    | kept => exact h.held e' (.inr he')
    | rewritten =>
      obtain rfl := Option.some.inj he'
      exact hfallback.encoded
  · intro i r ch stage n _ _ hheld hl
    obtain ⟨hlive, hnext, -⟩ := hmem.2.live hl
    exact hnext.trans (hheld.next e he hlive)
  · intro j r hr hq hb
    obtain ⟨-, e', he', hnot⟩ := h.queued j r hr hq
    obtain rfl : e = e' := Option.mem_unique he he'
    exact hnot (hmem.2.boundary hb)

variable {p : Process}

/-- Another record on disk, in a process that may have ended. -/
theorem Sound.rewrite (hdisk : ∀ e, disk = some e → Fits c e) :
    Sound { c with process := p, disk := disk } where
  __ := h
  held e he := by
    have hfits : Fits c e := by
      rcases he with he | he
      · exact h.held e (.inl he)
      · exact hdisk e he
    exact hfits.congr rfl rfl rfl fun i r hr hin => ⟨r, hr, hin⟩
  inChunk i r ch stage hr hplace := by
    obtain ⟨k, hheld⟩ := h.inChunk i r ch stage hr hplace
    exact ⟨k, { hheld with }⟩

theorem Sound.synced : Sound c.synced := by
  refine h.rewrite fun e he => ?_
  obtain ⟨e₀, he₀, rfl⟩ := Option.map_eq_some_iff.1 he
  exact (h.held e₀ (.inl he₀)).encoded

omit h in
theorem Cell.setRun_runs {r' : RunRoutine} (hr' : (c.setRun i r).runs j = some r') :
    j = i ∧ r' = r ∨ j ≠ i ∧ c.runs j = some r' := by
  by_cases hj : j = i
  · subst hj
    exact .inl ⟨rfl, by simpa [setRun] using hr'.symm⟩
  · exact .inr ⟨hj, by simpa [setRun, Function.update_of_ne hj] using hr'⟩

/-- A run goes into a chunk only if it was in one, or if none was and no record that goes on is
without a submission. -/
theorem Sound.setRun {i : ℕ} {r : RunRoutine} {place : RunPlace}
    (hr : c.runs i = some r) (hlive : r.place ≠ .gone)
    (hin : ∀ ch stage, place = .chunk ch stage → ∃ k, ChunkHeld c ch stage k)
    (hfrom : place.InChunk → r.place.InChunk ∨
      (∀ j r', c.runs j = some r' → ¬r'.place.InChunk) ∧
        ∀ e, c.Holds e → e.Live → e.submission ≠ .unset) :
    Sound (c.setRun i { r with place := place }) := by
  exact
    { held := fun e he => by
        have hfits := h.held e he
        refine
          { shape := hfits.shape
            planned := hfits.planned
            settled := fun hl hu => ?_ }
        have hsettled := hfits.settled hl hu
        refine { hsettled with outside := fun j r' hr' hin' => ?_ }
        rcases setRun_runs hr' with ⟨rfl, rfl⟩ | ⟨-, hr'⟩
        · rcases hfrom hin' with hin | ⟨-, hset⟩
          · exact hsettled.outside j r hr hin
          · exact hset e he hl hu
        · exact hsettled.outside j r' hr' hin'
      valid := h.valid
      posts := h.posts
      observes := h.observes
      inChunk := fun j r' ch stage hr' hplace => by
        have hheld : ∃ k, ChunkHeld c ch stage k := by
          rcases setRun_runs hr' with ⟨rfl, rfl⟩ | ⟨-, hr'⟩
          · exact hin ch stage hplace
          · exact h.inChunk j r' ch stage hr' hplace
        obtain ⟨k, hheld⟩ := hheld
        exact ⟨k, { hheld with }⟩
      unique := fun j j' r₁ r₂ hr₁ hr₂ hin₁ hin₂ => by
        rcases setRun_runs hr₁ with ⟨rfl, rfl⟩ | ⟨-, hold₁⟩ <;>
          rcases setRun_runs hr₂ with ⟨rfl, rfl⟩ | ⟨-, hold₂⟩
        · rfl
        · rcases hfrom hin₁ with hin | ⟨hnone, -⟩
          · exact h.unique j j' r r₂ hr hold₂ hin hin₂
          · exact absurd hin₂ (hnone j' r₂ hold₂)
        · rcases hfrom hin₂ with hin | ⟨hnone, -⟩
          · exact h.unique j j' r₁ r hold₁ hr hin₁ hin
          · exact absurd hin₁ (hnone j r₁ hold₁)
        · exact h.unique j j' r₁ r₂ hold₁ hold₂ hin₁ hin₂
      unplanned := fun hplan => by
        have hnone := (h.unplanned hplan).2.2 i
        rw [hr] at hnone
        cases hnone
      queued := fun j r' hr' hq => by
        obtain ⟨hquiet, -⟩ := h.queued j r' hr' hq
        exact absurd (hquiet i r hr) hlive }

/-- A run that leaves its chunk, or was in none, at a place outside. -/
theorem Sound.leave (hr : c.runs i = some r) (hlive : r.place ≠ .gone)
    (hout : ¬place.InChunk) : Sound (c.setRun i { r with place := place }) :=
  h.setRun hr hlive (fun ch stage hplace => absurd ⟨ch, stage, hplace⟩ hout)
    fun hin => absurd hin hout

theorem Sound.within {stage stage' : ChunkStage} (hr : c.runs i = some r)
    (hplace : r.place = .chunk ch stage) (hposted : ∀ k n, stage.Posted k n → stage'.Posted k n)
    (hobserved : ∀ k n, stage.Observed k n → stage'.Observed k n)
    (hprompted : stage.Prompted → stage'.Prompted) :
    Sound (c.setRun i { r with place := .chunk ch stage' }) := by
  refine h.setRun hr (by simp [hplace]) (fun ch' stage'' hsame => ?_)
    fun _ => .inl ⟨ch, stage, hplace⟩
  obtain ⟨rfl, rfl⟩ : ch = ch' ∧ stage' = stage'' := by simpa using hsame
  obtain ⟨k, hheld⟩ := h.inChunk i r ch stage hr hplace
  exact ⟨k, { hheld with
    posted := hposted k _ hheld.posted
    observed := hobserved k _ hheld.observed
    prompted := hprompted hheld.prompted }⟩

variable {a : RunAnswer}

theorem Sound.moveRun (hr : c.runs i = some r)
    (hmove : RunMove a r.place place) : Sound (c.setRun i { r with place := place }) := by
  have hlive := hmove.live
  generalize hplace : r.place = old at hmove hlive
  have hbetween (k n : ℕ) (hn : n = k ∨ n = k + 1) : k ≤ n ∧ n ≤ k + 1 := by omega
  cases hmove with
  | leave | exit | dismiss => exact h.leave hr (hplace ▸ hlive) (by simp [RunPlace.InChunk])
  | invalid | unsent =>
    exact h.within hr hplace (fun k n hn => hbetween k n (.inl hn)) (fun _ _ hn => hn) id
  | abandon | rejected =>
    exact h.within hr hplace (fun k n hn => hbetween k n (.inr hn)) (fun _ _ hn => hn) id
  | accepted _ _ _ _ hne =>
    exact h.within hr hplace (fun _ _ hn => hn) (fun _ _ hn => hn) fun _ => hne
  | fenced | unobserved | failed =>
    exact h.within hr hplace (fun k n hn => hbetween k n (.inr hn)) (fun _ _ hn => hn)
      fun _ => trivial
  | marked => exact h.within hr hplace (fun _ _ hn => hn) (fun _ _ hn => hn) id

omit h in
theorem begins_concat {l chunks : List GoString} {x : GoString} (hbegins : l <+: chunks)
    (hx : chunks[l.length]? = some x) : l ++ [x] <+: chunks := by
  obtain ⟨t, rfl⟩ := hbegins
  cases t with
  | nil => simp at hx
  | cons y t =>
    obtain rfl : y = x := by simpa using hx
    exact ⟨t, by simp⟩

/-- **A log grows by the chunk of the run that is in one**, and no record that goes on is settled
meanwhile. -/
theorem Sound.append {i : ℕ} {r : RunRoutine} {ch : Chunk}
    {stage stage' : ChunkStage} {posted : List Post} {observed : List Observed}
    (hr : c.runs i = some r) (hplace : r.place = .chunk ch stage)
    (hposts : ∀ chunks, c.plan = some chunks → firsts posted <+: chunks.map (·.id))
    (hobserves : ∀ chunks, c.plan = some chunks → observed.map (·.chunk) <+: chunks.map (·.id))
    (hstage : ∀ k, ChunkHeld c ch stage k →
      stage'.Posted k (firsts posted).length ∧
        stage'.Observed k observed.length ∧ stage'.Prompted) :
    Sound (Cell.setRun { c with posted := posted, observed := observed } i
      { r with place := .chunk ch stage' }) := by
  have hin : r.place.InChunk := ⟨ch, stage, hplace⟩
  have hplan : c.plan ≠ none := fun hnone => by
    have hrun := (h.unplanned hnone).2.2 i
    rw [hr] at hrun
    cases hrun
  have honly {j : ℕ} {r' : RunRoutine} (hr' : (Cell.setRun
      { c with posted := posted, observed := observed } i
      { r with place := .chunk ch stage' }).runs j = some r') (hin' : r'.place.InChunk) :
      j = i ∧ r' = { r with place := .chunk ch stage' } := by
    rcases setRun_runs hr' with hsame | ⟨hj, hr'⟩
    · exact hsame
    · exact absurd (h.unique j i r' r hr' hr hin' hin) hj
  exact
    { held := fun e he => by
        have hfits := h.held e he
        exact
          { shape := hfits.shape
            planned := hfits.planned
            settled := fun hl hu => absurd hu (h.submitted hr hin he hl) }
      valid := h.valid
      posts := hposts
      observes := hobserves
      inChunk := fun j r' ch' stage'' hr' hplace' => by
        obtain ⟨rfl, rfl⟩ := honly hr' ⟨ch', stage'', hplace'⟩
        obtain ⟨rfl, rfl⟩ : ch = ch' ∧ stage' = stage'' := by simpa using hplace'
        obtain ⟨k, hheld⟩ := h.inChunk j r ch stage hr hplace
        obtain ⟨hposted, hobserved, hprompted⟩ := hstage k hheld
        exact ⟨k, hheld.planned, hposted, hobserved, hprompted, hheld.next⟩
      unique := fun j j' r₁ r₂ hr₁ hr₂ hin₁ hin₂ => by
        exact (honly hr₁ hin₁).1.trans (honly hr₂ hin₂).1.symm
      unplanned := fun hnone => absurd hnone hplan
      queued := fun j r' hr' hq => by
        obtain ⟨hquiet, -⟩ := h.queued j r' hr' hq
        rw [hquiet i r hr] at hplace
        cases hplace }

theorem Sound.post (request : ℕ) (hr : c.runs i = some r)
    (hplace : r.place = .chunk ch .submitting) :
    Sound (Cell.setRun { c with posted := c.posted ++ [⟨request, id, ch.id, 0⟩] } i
      { r with place := .chunk ch (.posting request 0) }) := by
  have hfirsts : firsts (c.posted ++ [⟨request, id, ch.id, 0⟩]) = firsts c.posted ++ [ch.id] := by
    simp [firsts]
  refine h.append hr hplace (fun chunks hplan => ?_) h.observes fun k hheld => ?_
  · obtain ⟨k, hheld⟩ := h.inChunk i r ch _ hr hplace
    obtain ⟨chunks', hplan', hch⟩ := hheld.planned
    obtain rfl : chunks' = chunks := Option.mem_unique hplan' hplan
    have hlength : (firsts c.posted).length = k := hheld.posted
    rw [hfirsts]
    refine begins_concat (h.posts chunks' hplan) ?_
    rw [hlength, List.getElem?_map, hch]
    rfl
  · refine ⟨?_, hheld.observed, trivial⟩
    have hlength : (firsts c.posted).length = k := hheld.posted
    show (firsts _).length = k + 1
    rw [hfirsts, List.length_append, hlength, List.length_singleton]

theorem Sound.repost {request hops : ℕ} (request' : ℕ) (hr : c.runs i = some r)
    (hplace : r.place = .chunk ch (.posting request hops)) :
    Sound (Cell.setRun { c with posted := c.posted ++ [⟨request', id, ch.id, hops + 1⟩] } i
      { r with place := .chunk ch (.posting request' (hops + 1)) }) := by
  have hfirsts : firsts (c.posted ++ [⟨request', id, ch.id, hops + 1⟩]) = firsts c.posted := by
    simp [firsts]
  refine h.append hr hplace (fun chunks hplan => ?_) h.observes fun k hheld => ?_
  · rw [hfirsts]
    exact h.posts chunks hplan
  · rw [hfirsts]
    exact ⟨hheld.posted, hheld.observed, trivial⟩

theorem Sound.observe {promptID history : GoString} (hr : c.runs i = some r)
    (hplace : r.place = .chunk ch (.polling promptID)) :
    Sound (Cell.setRun { c with observed := c.observed ++ [⟨id, ch.id, promptID, history⟩] } i
      { r with place := .chunk ch (.returned (.finished promptID history)) }) := by
  refine h.append hr hplace h.posts (fun chunks hplan => ?_) fun k hheld => ?_
  · obtain ⟨k, hheld⟩ := h.inChunk i r ch _ hr hplace
    obtain ⟨chunks', hplan', hch⟩ := hheld.planned
    obtain rfl : chunks' = chunks := Option.mem_unique hplan' hplan
    have hlength : c.observed.length = k := hheld.observed
    rw [List.map_append]
    refine begins_concat (h.observes chunks' hplan) ?_
    rw [List.length_map, hlength, List.getElem?_map, hch]
    rfl
  · refine ⟨hheld.posted, ?_, hheld.prompted⟩
    have hlength : c.observed.length = k := hheld.observed
    show (c.observed ++ [_]).length = k + 1
    rw [List.length_append, hlength, List.length_singleton]

theorem Sound.finish (hr : c.runs i = some r) (hfinished : r.place.Finished) (hout : ¬place.InChunk)
    (he : c.mem = some e) (hstate : e.state = .running) (hk : CommitShape e k)
    (hnext : k.record.nextChunk = e.nextChunk + 1) (hchunks : k.record.chunks = e.chunks)
    (heffect : Effect k w c.disk mem disk ok) :
    Sound ((c.record mem disk).setRun i { r with place := place }) := by
  obtain ⟨ch, promptID, history, hplace⟩ := hfinished
  have hin : r.place.InChunk := ⟨ch, _, hplace⟩
  have hlive : e.Live := .inl hstate
  obtain ⟨n, hheld⟩ := h.inChunk i r ch _ hr hplace
  have hn : e.nextChunk = n := hheld.next e he hlive
  -- The run leaves its chunk first; then no run is in one.
  have hleft := h.leave hr (by simp [hplace]) hout
  have houtside (j : ℕ) (r' : RunRoutine)
      (hr' : (c.setRun i { r with place := place }).runs j = some r') : ¬r'.place.InChunk := by
    intro hin'
    rcases setRun_runs hr' with ⟨rfl, rfl⟩ | ⟨hj, hr'⟩
    · exact hout hin'
    · exact hj (h.unique j i r' r hr' hr hin' hin)
  have hold : Fits (c.setRun i { r with place := place }) e := hleft.held e (.inl he)
  have hrecord : Fits (c.setRun i { r with place := place }) k.record :=
    { shape := hk.record
      planned := hold.planned.trans (congrArg some hchunks.symm)
      settled := fun _ _ =>
        { posted := by
            rw [hnext, hn]
            exact hheld.posted
          observed := by
            rw [hnext, hn]
            exact hheld.observed
          outside := houtside } }
  have hfallback := hold.follows hk.fallback hk.follows
  have hsound : Sound ((c.setRun i { r with place := place }).record mem disk) := by
    refine hleft.record ?_ ?_ ?_ ?_
    · cases heffect
      · exact hrecord
      all_goals exact hfallback
    · intro e' he'
      cases heffect with
      | written | torn =>
        obtain rfl := Option.some.inj he'
        exact hrecord.encoded
      | kept => exact hleft.held e' (.inr he')
      | rewritten =>
        obtain rfl := Option.some.inj he'
        exact hfallback.encoded
    · intro j r' ch' stage' k' hr' hplace'
      exact absurd ⟨ch', stage', hplace'⟩ (houtside j r' hr')
    · intro j r' hr' hq
      have hgone := (h.queued j r' hr' hq).1 i r hr
      rw [hgone] at hplace
      cases hplace
  exact hsound

theorem Sound.submit (hr : c.runs i = some r) (hplace : r.place = .top)
    (he : c.mem = some e) (hstate : e.state = .running) (hch : e.chunks[e.nextChunk]? = some ch)
    (hunset : e.submission = .unset)
    (hsound : Sound (c.record (e.submit ch.id).record (some (e.submit ch.id).record.encoded))) :
    Sound ((c.record (e.submit ch.id).record (some (e.submit ch.id).record.encoded)).setRun i
      { r with place := .chunk ch .submitting }) := by
  have hfits := h.held e (.inl he)
  have hsettled := hfits.settled (.inl hstate) hunset
  refine hsound.setRun hr (by simp [hplace]) (fun ch' stage' hsame => ?_) fun _ => .inr ⟨?_, ?_⟩
  · obtain ⟨rfl, rfl⟩ : ch = ch' ∧ .submitting = stage' := by simpa using hsame
    refine ⟨e.nextChunk, ⟨e.chunks, hfits.planned, hch⟩, hsettled.posted, hsettled.observed,
      trivial, fun e' he' _ => ?_⟩
    obtain rfl := Option.some.inj he'
    rfl
  · exact hsettled.outside
  · rintro e' (he' | he') -
    all_goals
      obtain rfl := Option.some.inj he'
      simp [Execution.submit, Execution.encoded]

omit h in
theorem RunSection.outside {written unwritten : RunPlace}
    (hsection : RunSection e place k written unwritten) (hfinished : place.Finished) (ok : Bool) :
    ¬(if ok then written else unwritten).InChunk := by
  obtain ⟨ch, promptID, history, hplace⟩ := hfinished
  cases hsection <;> cases ok <;> simp_all [RunPlace.InChunk]

theorem Sound.sectionRun {written unwritten : RunPlace} (hr : c.runs i = some r)
    (he : c.mem = some e) (hsection : RunSection e r.place k written unwritten)
    (heffect : Effect k a.writes c.disk mem disk ok) :
    Sound ((c.record mem disk).setRun i { r with place := if ok then written else unwritten }) := by
  have hfits := h.held e (.inl he)
  have hcustody (ch : Chunk) (stage : ChunkStage) (hplace : r.place = .chunk ch stage) :
      ch.id ≠ [] ∧ stage.Prompted ∧ (e.state = .running → e.submission ≠ .unset) := by
    obtain ⟨n, hheld⟩ := h.inChunk i r ch stage hr hplace
    obtain ⟨chunks, hplan, hch⟩ := hheld.planned
    obtain rfl : chunks = e.chunks := Option.mem_unique hplan hfits.planned
    exact ⟨hfits.shape.chunks.named ch (List.mem_of_getElem? hch), hheld.prompted,
      fun hstate => h.submitted hr ⟨ch, stage, hplace⟩ (.inl he) (.inl hstate)⟩
  have hk := hsection.shape hfits.shape hcustody
  rcases hsection.follows with hf | ⟨hfinished, hstate, hnext, hchunks⟩
  · have hsound := h.commit he hk hf heffect
    have hleave (place : RunPlace) (hlive : r.place ≠ .gone) (hout : ¬place.InChunk) :
        Sound ((c.record mem disk).setRun i { r with place := place }) :=
      hsound.leave hr hlive hout
    have hbetween (k n : ℕ) (hn : n = k + 1) : k ≤ n ∧ n ≤ k + 1 := by omega
    generalize hplace : r.place = place at hsection
    have hlive : r.place ≠ .gone := hplace ▸ hsection.live
    cases hsection with
    | complete | refuse | failed | unresolved | missReference | boundary | advance =>
      exact hleave _ hlive (by cases ok <;> simp [RunPlace.InChunk])
    | submit hstate hch hunset =>
      cases ok with
      | false => exact hleave _ hlive (by simp [RunPlace.InChunk])
      | true =>
        cases heffect
        exact h.submit hr hplace he hstate hch hunset hsound
    | accept =>
      cases ok with
      | false =>
        exact hsound.within hr hplace (fun k n hn => hbetween k n hn) (fun _ _ hn => hn)
          fun _ => trivial
      | true => exact hsound.within hr hplace (fun _ _ hn => hn) (fun _ _ hn => hn) id
    | acceptLate =>
      rw [ite_self]
      exact hsound.within hr hplace (fun k n hn => hbetween k n hn) (fun _ _ hn => hn)
        fun _ => trivial
    | unknown =>
      rw [ite_self]
      exact hsound.within hr hplace (fun _ _ hn => hn) (fun _ _ hn => hn) id
  · exact h.finish hr hfinished (hsection.outside hfinished ok) he hstate hk hnext hchunks heffect

/-! ### Control requests -/

omit h in
theorem Cell.setControl_controls {r r' : ControlRoutine}
    (hr' : (c.setControl i r).controls j = some r') :
    j = i ∧ r' = r ∨ j ≠ i ∧ c.controls j = some r' := by
  by_cases hj : j = i
  · subst hj
    exact .inl ⟨rfl, by simpa [setControl] using hr'.symm⟩
  · exact .inr ⟨hj, by simpa [setControl, Function.update_of_ne hj] using hr'⟩

/-- A control request at another place. It leaves to read the queue only if no run is left. -/
theorem Sound.setControl {r : ControlRoutine}
    (hqueued : r.place.Queues → c.Quiet ∧ ∃ e, c.mem = some e ∧ ¬e.AtBoundary) :
    Sound (c.setControl j r) where
  __ := h
  held e he := (h.held e he).congr rfl rfl rfl fun i r hr hin => ⟨r, hr, hin⟩
  inChunk i r ch stage hr hplace := by
    obtain ⟨k, hheld⟩ := h.inChunk i r ch stage hr hplace
    exact ⟨k, { hheld with }⟩
  queued j' r' hr' hq := by
    rcases setControl_controls hr' with ⟨rfl, rfl⟩ | ⟨-, hr'⟩
    · exact hqueued hq
    · exact h.queued j' r' hr' hq

/-- The registered channels have no part in it. -/
theorem Sound.wait (waiters : Option (List ℕ)) : Sound (c.wait waiters) where
  __ := h
  held e he := (h.held e he).congr rfl rfl rfl fun i r hr hin => ⟨r, hr, hin⟩
  inChunk i r ch stage hr hplace := by
    obtain ⟨k, hheld⟩ := h.inChunk i r ch stage hr hplace
    exact ⟨k, { hheld with }⟩

variable {a : ControlAnswer}

theorem Sound.moveControl {r : ControlRoutine} {place : ControlPlace} (hr : c.controls j = some r)
    (hmove : ControlMove a c.Quiet c.mem r.place place) :
    Sound (c.setControl j { r with place := place }) := by
  refine h.setControl fun hq => ?_
  generalize hplace : r.place = old at hmove
  cases hmove with
  | readQueue he hrest hidle => exact ⟨hidle, _, he, Shape.not_boundary hrest⟩
  | queued epoch => exact h.queued j r hr (.inl ⟨epoch, hplace⟩)
  | answer | delete | confirm | absent | stopped | unstopped | wake =>
    simp [ControlPlace.Queues] at hq

theorem Sound.sectionControl {r : ControlRoutine}
    {notice : ControlNotice} {written : ControlPlace} (hr : c.controls j = some r)
    (he : c.mem = some e)
    (hsection : ControlSection r.operation c.Quiet e r.place k notice written)
    (heffect : Effect k a.writes c.disk mem disk ok) :
    Sound ((c.record mem disk).setControl j
      { r with place := if ok then written else .answered }) := by
  have hfits := h.held e (.inl he)
  obtain ⟨hk, hf⟩ := hsection.shape hfits.shape fun epoch b hplace => by
    obtain ⟨-, e', he', hnot⟩ := h.queued j r hr (.inr ⟨epoch, b, hplace⟩)
    obtain rfl : e = e' := Option.mem_unique he he'
    exact hnot
  refine (h.commit he hk hf heffect).setControl fun hq => ?_
  have hanswered : ¬(if ok then written else .answered).Queues := by
    generalize r.place = place at hsection
    cases ok <;> cases hsection <;> simp [ControlPlace.Queues]
  exact absurd hq hanswered

/-! ### Starting, resuming and restarting -/

/-- A first run of an execution without one in a chunk. -/
theorem Sound.addRun {epoch : UInt64} (hi : c.runs i = none) (hplan : c.plan ≠ none)
    (hqueued : ∀ j r, c.controls j = some r → ¬r.place.Queues) :
    Sound (c.setRun i ⟨id, epoch, .top⟩) := by
  have hold {j : ℕ} {r' : RunRoutine} (hr' : (c.setRun i ⟨id, epoch, .top⟩).runs j = some r')
      (hin : r'.place.InChunk) : c.runs j = some r' := by
    rcases setRun_runs hr' with ⟨rfl, rfl⟩ | ⟨-, hr'⟩
    · simp [RunPlace.InChunk] at hin
    · exact hr'
  exact
    { held := fun e he =>
        (h.held e he).congr rfl rfl rfl fun j r hr hin => ⟨r, hold hr hin, hin⟩
      valid := h.valid
      posts := h.posts
      observes := h.observes
      inChunk := fun j r ch stage hr hplace => by
        obtain ⟨k, hheld⟩ := h.inChunk j r ch stage (hold hr ⟨ch, stage, hplace⟩) hplace
        exact ⟨k, { hheld with }⟩
      unique := fun j j' r r' hr hr' hin hin' =>
        h.unique j j' r r' (hold hr hin) (hold hr' hin') hin hin'
      unplanned := fun hnone => absurd hnone hplan
      queued := fun j r hr hq => absurd hq (hqueued j r hr) }

/-- A new execution, if it is in memory or on disk at all. -/
theorem Sound.plan {chunks : List Chunk} {mem : Option Execution}
    (hnew : c.plan = none) (hchunks : ChunksValid chunks)
    (hheld : ∀ e, mem = some e ∨ disk = some e → Shape e ∧ e.chunks = chunks ∧ e.nextChunk = 0) :
    Sound { c with mem := mem, disk := disk, plan := some chunks } := by
  obtain ⟨hposted, hobserved, hruns⟩ := h.unplanned hnew
  have hnone {i : ℕ} {r : RunRoutine} (hr : c.runs i = some r) : False := by
    rw [hruns i] at hr
    cases hr
  exact
    { held := fun e he => by
        obtain ⟨hshape, hchunks, hnext⟩ := hheld e he
        exact
          { shape := hshape
            planned := congrArg some hchunks.symm
            settled := fun _ _ =>
              { posted := by simp [hposted, firsts, hnext]
                observed := by simp [hobserved, hnext]
                outside := fun i r hr => (hnone hr).elim } }
      valid := fun chunks' hplan => Option.some.inj hplan ▸ hchunks
      posts := fun _ _ => by simp [hposted, firsts]
      observes := fun _ _ => by simp [hobserved]
      inChunk := fun i r _ _ hr => (hnone hr).elim
      unique := fun i _ r _ hr => (hnone hr).elim
      unplanned := fun h => nomatch h
      queued := fun j r hr hq => by
        obtain ⟨-, e, he, -⟩ := h.queued j r hr hq
        have hplan := (h.held e (.inl he)).planned
        rw [hnew] at hplan
        cases hplan }

end

theorem Shape.loaded_follows (hs : Shape e) : Follows e e.loaded := by
  rw [hs.loaded_eq]
  unfold Execution.recovered
  split
  · exact .of_not_live rfl (by simp [Execution.Live, Execution.AtBoundary])
  · exact .of_same rfl rfl rfl id

/-- **A restart.** What memory has afterwards comes from the disk, and no thread is left. -/
theorem Sound.restart (h : Sound c) {mem : Option Execution} (hload : Reloaded c.disk mem disk p) :
    Sound (c.restarted p mem disk) where
  __ := h
  held e he := by
    have hfits : Fits c e := by
      have hloaded {e₀ : Execution} (he₀ : c.disk = some e₀) : Fits c e₀.loaded := by
        have hold := h.held e₀ (.inr he₀)
        exact hold.follows hold.shape.loaded hold.shape.loaded_follows
      cases hload with
      | rejected =>
        rcases he with he | he
        · cases he
        · exact h.held e (.inr he)
      | kept =>
        rcases he with he | he
        · obtain ⟨e₀, he₀, rfl⟩ := Option.map_eq_some_iff.1 he
          exact hloaded he₀
        · exact h.held e (.inr he)
      | written =>
        rcases he with he | he
        · obtain ⟨e₀, he₀, rfl⟩ := Option.map_eq_some_iff.1 he
          exact hloaded he₀
        · obtain ⟨e₀, he₀, rfl⟩ := Option.map_eq_some_iff.1 he
          exact (hloaded he₀).encoded
    exact hfits.congr rfl rfl rfl fun _ _ hr => nomatch hr
  inChunk _ _ _ _ hr := nomatch hr
  unique _ _ _ _ hr := nomatch hr
  unplanned hplan := ⟨(h.unplanned hplan).1, (h.unplanned hplan).2.1, fun _ => rfl⟩
  queued _ _ hr := nomatch hr

end Lemmas

/-! ## Steps -/

theorem Sound.empty : Sound .empty where
  held e he := by simp [Cell.Holds, Cell.empty, cell] at he
  valid := by simp [Cell.empty, cell]
  posts := by simp [Cell.empty, cell]
  observes := by simp [Cell.empty, cell]
  inChunk := by simp [Cell.empty, cell]
  unique := by simp [Cell.empty, cell]
  unplanned := by simp [Cell.empty, cell]
  queued := by simp [Cell.empty, cell]

section Steps

variable {refused : Commit → Writes → Bool} {c c' : Cell} {id : GoString} {event : HarnessEvent}

theorem Sound.active (h : Sound c) (hstep : ActiveCellStep refused id c event c') : Sound c' := by
  cases hstep with
  | keep => exact h
  | sync => exact h.synced
  | panic => exact h.rewrite fun e he => h.held e (.inr he)
  | enter => exact h.setControl fun hq => by simp [ControlPlace.Queues] at hq
  | @created r chunks w i hid hkey hnew hchunks hi =>
    have hshape := Shape.new (r := r) hid hkey hchunks
    have hplanned : Sound { c.record (newExecution r chunks id)
        (some (newExecution r chunks id).encoded) with plan := some chunks } := by
      refine h.plan hnew hchunks fun e he => ?_
      rcases he with he | he
      · obtain rfl := Option.some.inj he
        exact ⟨hshape, rfl, rfl⟩
      · obtain rfl := Option.some.inj he
        exact ⟨hshape.encoded, rfl, rfl⟩
    refine hplanned.addRun hi (by simp) fun j r' hr' hq => ?_
    obtain ⟨-, e, he, -⟩ := h.queued j r' hr' hq
    have hplan := (h.held e (.inl he)).planned
    rw [hnew] at hplan
    cases hplan
  | @uncreated r chunks w disk hid hkey hnew hchunks hdisk =>
    have hshape := Shape.new (r := r) hid hkey hchunks
    refine h.plan hnew hchunks fun e he => ?_
    rcases he with he | he
    · cases he
    rcases hdisk with rfl | ⟨-, rfl⟩
    · have hplan := (h.held e (.inr he)).planned
      rw [hnew] at hplan
      cases hplan
    · obtain rfl := Option.some.inj he
      exact ⟨hshape.encoded, rfl, rfl⟩
  | @resumed r id' w e i he hstate hi =>
    have hfits := h.held e (.inl he)
    have hsound := h.commit (w := w) he (hfits.shape.resume_commit hstate)
      (.resume hstate hfits.shape) .written
    refine hsound.addRun hi ?_ fun j r' hr' hq => ?_
    · show c.plan ≠ none
      rw [hfits.planned]
      simp
    · obtain ⟨-, e', he', hnot⟩ := h.queued j r' hr' hq
      obtain rfl : e = e' := Option.mem_unique he he'
      exact hnot hstate
  | unresumed he hstate heffect =>
    have hfits := h.held _ (.inl he)
    exact h.commit he (hfits.shape.resume_commit hstate) (.resume hstate hfits.shape) heffect
  | moveRun hr hmove => exact h.moveRun hr hmove
  | post request hr hplace => exact h.post request hr hplace
  | repost request' hr hplace => exact h.repost request' hr hplace
  | observe hr hplace => exact h.observe hr hplace
  | sectionRun hr he hsection heffect => exact (h.sectionRun hr he hsection heffect).wait _
  | moveControl hr hmove => exact h.moveControl hr hmove
  | sectionControl hr he hsection heffect => exact (h.sectionControl hr he hsection heffect).wait _

theorem Sound.step (h : Sound c) (hstep : CellStep refused id c event c') : Sound c' := by
  cases hstep with
  | keep => exact h
  | active _ hactive => exact h.active hactive
  | restart hload => exact h.restart hload

end Steps

theorem run_sound {o : HarnessOptions} {h : Harness} {tr : List (Transition Harness HarnessEvent)}
    (hrun : Run (HarnessStep o) {} tr h) (id : GoString) : Sound (h.cell id) :=
  cell_invariant (I := fun _ => Sound) (C := fun _ _ _ => True) hrun (fun _ _ _ => trivial)
    (fun _ => .empty) (fun _ _ _ _ _ hsound hstep _ => hsound.step hstep) id

/-! ## At most once -/

section Once

variable {o : HarnessOptions} {h : Harness} {tr : List (Transition Harness HarnessEvent)}

/-- A POST of the execution is answered by a redirection that keeps the method. -/
def redirects (id : GoString) (t : Transition Harness HarnessEvent) : Bool :=
  match t.label with
  | .proceedRun i a =>
    t.pre.process = .up && (a.reply matches .redirected) &&
      t.pre.runs[i]?.any fun r => r.id = id && (r.place matches .chunk _ (.posting _ _))
  | _ => false

theorem posted_directly (hrun : Run (HarnessStep o) {} tr h) {id : GoString}
    (hno : ∀ t ∈ tr, redirects id t = false) : ∀ p ∈ (h.cell id).posted, p.hops = 0 := by
  refine cell_invariant (I := fun id' c => id' = id → ∀ p ∈ c.posted, p.hops = 0)
    (C := fun id' c event => id' = id → c.process = .up → ∀ i a r, event = .proceedRun i a →
      a.reply = .redirected → c.runs i = some r → ∀ ch n m, r.place ≠ .chunk ch (.posting n m))
    hrun ?_ (fun _ _ => nofun) ?_ id rfl
  · rintro ⟨h, event, h'⟩ ht _ rfl hup i a r rfl hreply hr ch n m hplace
    obtain ⟨hr, hid⟩ := cell_runs.1 hr
    have hup : h.process = .up := hup
    have hdirect := hno _ ht
    simp [redirects, hup, hreply, hr, hid, hplace] at hdirect
  · rintro _ _ c event c' hdirect hstep hC rfl
    have hdirect := hdirect rfl
    cases hstep with
    | keep | restart => exact hdirect
    | active hup hactive =>
      cases hactive with
      | post request =>
        intro p hp
        rcases of_mem_snoc hp with hp | rfl
        · exact hdirect p hp
        · rfl
      | repost _ hr hplace ha => exact absurd hplace (hC rfl hup _ _ _ rfl ha hr _ _ _)
      | _ => exact hdirect

/-- **No chunk is posted twice, and a completed execution has posted all of its chunks**, in order,
each with a successful terminal history, if no POST of the execution is redirected. The record may
be the one in memory or the one on disk. -/
theorem chunks_posted_once (hrun : Run (HarnessStep o) {} tr h) (id : GoString)
    (hno : ∀ t ∈ tr, redirects id t = false) :
    (∀ chunkID, h.posted.countP (fun p => p.execution = id ∧ p.chunk = chunkID) ≤ 1) ∧
      ∀ e, h.executions.get id = some e ∨ h.disk.bind (·.get id) = some e → e.state = .completed →
        (h.posted.filter (·.execution = id)).map (·.chunk) = e.chunks.map (·.id) ∧
          (h.observed.filter (·.execution = id)).map (·.chunk) = e.chunks.map (·.id) := by
  have hsound := run_sound hrun id
  have hfirsts : firsts (h.cell id).posted =
      (h.posted.filter (·.execution = id)).map (·.chunk) := by
    unfold firsts
    rw [List.filter_eq_self.2]
    · rfl
    · exact fun p hp => decide_eq_true (posted_directly hrun hno p hp)
  refine ⟨fun chunkID => ?_, fun e he hstate => ?_⟩
  · have hnodup : ((h.posted.filter (·.execution = id)).map (·.chunk)).Nodup := by
      cases hplan : (h.cell id).plan with
      | none =>
        have hnone : h.posted.filter (·.execution = id) = [] := (hsound.unplanned hplan).1
        simp [hnone]
      | some chunks =>
        rw [← hfirsts]
        exact (hsound.valid chunks hplan).nodup.sublist (hsound.posts chunks hplan).sublist
    have hcount := List.nodup_iff_count_le_one.1 hnodup chunkID
    rw [List.count_eq_countP, List.countP_map, List.countP_filter] at hcount
    refine le_trans (le_of_eq (List.countP_congr fun p _ => ?_)) hcount
    simp [and_comm]
  · have hfits := hsound.held e he
    have hunset := hfits.shape.settled (by simp [hstate, atRest])
    have hsettled := hfits.settled (.inr (.inr hstate)) hunset
    have hall := hfits.shape.completed hstate
    constructor
    · rw [← hfirsts]
      refine (hsound.posts _ hfits.planned).eq_of_length ?_
      rw [hsettled.posted, hall, List.length_map]
    · refine (hsound.observes _ hfits.planned).eq_of_length ?_
      rw [List.length_map, hsettled.observed, hall, List.length_map]

end Once

/-! ### Runs of a small harness -/

/-- A harness whose file has room for a hundred executions. -/
def smallHarness : HarnessOptions := ⟨100, List.length⟩

/-- Events, without the starts under an id that is not fresh. -/
def freshScript : List HarnessEvent → List (Harness → HarnessEvent) :=
  Run.guarded (fun h event => event.fresh h) .close

def Harness.after (events : List HarnessEvent) (h : Harness := {}) : Harness :=
  Run.afterScript (Harness.step smallHarness) h (freshScript events)

def Harness.transitions (events : List HarnessEvent) (h : Harness := {}) :
    List (Transition Harness HarnessEvent) :=
  Run.script (Harness.step smallHarness) h (freshScript events)

theorem run_after (events : List HarnessEvent) (h : Harness := {}) :
    Run (HarnessStep smallHarness) h (transitions events h) (after events h) :=
  Run.of_guarded _ (fun _ => ⟨rfl, rfl⟩) (fun _ _ hfresh => ⟨hfresh, rfl⟩) events h

def twoChunks : StartRequest where
  workloadID := "w"
  idempotencyKey := "key"
  payload := { managedChunks := [⟨"a", "\x7b\"1\":1\x7d"⟩, ⟨"b", "\x7b\"2\":2\x7d"⟩] }

def goodHistory : HistoryReply := .found ⟨"\x7b\x7d", .success, some true, none⟩

/-- The steps of the first run for a chunk that the backend accepts and finishes. -/
def finishedChunk (promptID : GoString) : List HarnessEvent :=
  [.proceedRun 0 {}, .proceedRun 0 {}, .proceedRun 0 { reply := .accepted promptID },
    .proceedRun 0 {}, .proceedRun 0 { history := goodHistory }, .proceedRun 0 {}]

def completedEvents : List HarnessEvent :=
  [.start twoChunks "exec" {}] ++ finishedChunk "p" ++ finishedChunk "q" ++ [.proceedRun 0 {}]

theorem completed_posted_once :
    ∃ e, (Harness.after completedEvents).executions.get "exec" = some e ∧ e.state = .completed ∧
      (∀ chunkID, (Harness.after completedEvents).posted.countP
        (fun p => p.execution = ofString "exec" ∧ p.chunk = chunkID) ≤ 1) ∧
      ((Harness.after completedEvents).posted.filter (·.execution = ofString "exec")).map
        (·.chunk) =
        e.chunks.map (·.id) := by
  have hdone :
      ((after completedEvents).executions.get "exec").any (·.state = .completed) = true := by
    decide +kernel
  obtain ⟨e, he, hstate⟩ := (Option.any_eq_true _ _).1 hdone
  have honce := chunks_posted_once (run_after completedEvents) "exec" (by decide +kernel)
  have hstate : e.state = .completed := of_decide_eq_true hstate
  exact ⟨e, he, hstate, honce.1, (honce.2 e (.inl he) hstate).1⟩

def redirectedEvents : List HarnessEvent :=
  [.start twoChunks "exec" {}, .proceedRun 0 {}, .proceedRun 0 {},
    .proceedRun 0 { reply := .redirected }]

/-- **A redirected POST is sent again.** The client follows a redirection that keeps the method, so
the same chunk is posted twice. -/
theorem redirected_chunk_posted_twice :
    Run (HarnessStep smallHarness) {} (Harness.transitions redirectedEvents)
        (Harness.after redirectedEvents) ∧
      (Harness.after redirectedEvents).posted = [⟨0, "exec", "a", 0⟩, ⟨1, "exec", "a", 1⟩] :=
  ⟨run_after _, by decide +kernel⟩

end VramGovernor.ComfyHarness
