import VramGovernor.NodeAgent.Guards
import VramGovernor.NodeAgent.StateJournal

/-!
# A node never resumes from an older state

Whatever save was cut wherever, and whichever earlier copy of the state file was put back, a node
whose journal is as it was written comes up with the state of the last save that reached the
journal, or sealed. The last line of the journal, if it is a record, names that state (`Anchored`);
and a load that does not seal the processor has found the state in the primary file to be the one
that the last line names (`Digests.last_of_validateJournal`).
-/

namespace VramGovernor.NodeAgent

open GoString Processor JournaledDisk Digests Journal

variable {ρ : Type*} {D : Digests ρ}

/-! ## Appending -/

namespace Journal

variable {file : Option Journal} {j : Journal} {line : JournalLine} {r : JournalRecord}
  {hmac : GoString} {w : Written}

theorem getLast?_append (j : Journal) (line : JournalLine) (t : Bool) :
    (j.append line t).lines.getLast? = some (if j.terminated then line else .malformed) := by
  unfold append
  split_ifs <;> simp

/-- A line written with its newline is the last, unless it went to the end of a line without one. -/
theorem line_of_write (hw : w = .unterminated ∨ w = .whole) (h : write file line w = some j)
    (hlast : j.lines.getLast? = some (.record r hmac)) : line = .record r hmac := by
  have hj : ∃ t, j = (file.getD {}).append line t := by
    rcases hw with rfl | rfl <;> cases h <;> exact ⟨_, rfl⟩
  obtain ⟨t, rfl⟩ := hj
  rw [getLast?_append, Option.some.injEq] at hlast
  split_ifs at hlast
  exact hlast

theorem last_of_write (hw : w = .unopened ∨ w = .opened ∨ w = .fragment)
    (h : write file line w = some j) (hlast : j.lines.getLast? = some (.record r hmac)) :
    ∃ j₀, file = some j₀ ∧ j₀.lines.getLast? = some (.record r hmac) := by
  rcases hw with rfl | rfl | rfl
  · exact ⟨j, h, hlast⟩
  · cases file with
    | none =>
      cases h
      simp at hlast
    | some j₀ =>
      cases h
      exact ⟨j₀, rfl, hlast⟩
  · cases h
    rw [getLast?_append] at hlast
    split_ifs at hlast <;> simp at hlast

/-- The last record after an append is the one appended, or the one before. -/
theorem last_write (h : write file line w = some j)
    (hlast : j.lines.getLast? = some (.record r hmac)) :
    line = .record r hmac ∨ ∃ j₀, file = some j₀ ∧ j₀.lines.getLast? = some (.record r hmac) := by
  cases w with
  | unopened | opened | fragment => exact .inr (last_of_write (by simp) h hlast)
  | unterminated | whole => exact .inl (line_of_write (by simp) h hlast)

theorem append_ne_nil (j : Journal) (line : JournalLine) (t : Bool) :
    (j.append line t).lines ≠ [] := by
  unfold append
  split_ifs <;> simp

def HasLine (file : Option Journal) : Prop := ∃ j, file = some j ∧ j.lines ≠ []

theorem HasLine.write (h : HasLine file) (line : JournalLine) (w : Written) :
    HasLine (write file line w) := by
  obtain ⟨j, rfl, hj⟩ := h
  cases w with
  | unopened | opened => exact ⟨j, rfl, hj⟩
  | fragment | unterminated | whole => exact ⟨_, rfl, append_ne_nil _ _ _⟩

theorem hasLine_write (hw : w = .unterminated ∨ w = .whole) : HasLine (write file line w) := by
  rcases hw with rfl | rfl <;> exact ⟨_, rfl, append_ne_nil _ _ _⟩

end Journal

/-! ## Reading the journal -/

namespace Digests

theorem scanLine_ok {s s' : JournalScan} {line : JournalLine} (h : D.scanLine s line = .ok s') :
    ∃ r, line = D.line r ∧ (s'.prepared = some r ∨ s'.prepared = none ∧ s'.committed = some r) := by
  revert h
  fun_cases scanLine D s line with
  | case4 r hmac hauth =>
    rintro ⟨⟩
    simp only [Bool.or_eq_true, decide_eq_true_iff, not_or, not_not] at hauth
    exact ⟨r, by rw [line, hauth.2], .inl rfl⟩
  | case6 r hmac hauth =>
    rintro ⟨⟩
    simp only [Bool.or_eq_true, decide_eq_true_iff, not_or, not_not] at hauth
    exact ⟨r, by rw [line, hauth.2], .inr ⟨rfl, rfl⟩⟩
  | _ => exact nofun

/-- The last line of a scan: the prepared record if there is one, else the last committed one. -/
theorem last_of_scan {lines : List JournalLine} {s : JournalScan} {r : JournalRecord}
    (h : D.scan lines = .ok s)
    (hr : s.prepared = some r ∨ s.prepared = none ∧ s.committed = some r) :
    lines.getLast? = some (D.line r) := by
  rcases List.eq_nil_or_concat lines with rfl | ⟨lines, line, rfl⟩
  · cases h
    simp at hr
  · rw [List.concat_eq_append] at h ⊢
    simp only [scan, List.foldlM_append, List.foldlM_cons, List.foldlM_nil, bind_pure] at h
    obtain ⟨s₀, -, hline⟩ := bind_eq_ok.1 h
    obtain ⟨r', rfl, hr'⟩ := scanLine_ok hline
    have hsame : r' = r := by
      rcases hr with hr | ⟨hp, hc⟩
      · rcases hr' with hr' | ⟨hp', -⟩
        · exact Option.mem_unique hr' hr
        · cases hp'.symm.trans hr
      · rcases hr' with hr' | ⟨-, hc'⟩
        · cases hp.symm.trans hr'
        · exact Option.mem_unique hc' hc
    rw [hsame]
    simp

variable {state : AnchoredPayload ρ} {stateHash : GoString} {j : Journal} {fin : AppendEnd}

/-- **What a journal anchors.** A state that passes is named by the last line. -/
theorem last_of_validateJournal (h : (D.validateJournal state stateHash j fin).1 = .ok ()) :
    ∃ r, j.lines.getLast? = some (D.line r) ∧ names r state stateHash = true := by
  revert h
  fun_cases validateJournal D state stateHash j fin with
  | case1 | case3 | case5 => exact nofun
  | case2 s hs r hp hnames => exact fun _ => ⟨r, last_of_scan hs (.inl hp), hnames⟩
  | case4 s hs hp hany =>
    obtain ⟨r, hc, hnames⟩ := (Option.any_eq_true _ _).1 hany
    exact fun _ => ⟨r, last_of_scan hs (.inr ⟨hp, hc⟩), hnames⟩

/-- A load leaves the journal as it is, or writes the last record once more as committed. -/
theorem validateJournal_journal (state : AnchoredPayload ρ) (stateHash : GoString) (j : Journal)
    (fin : AppendEnd) :
    (D.validateJournal state stateHash j fin).2 = some j ∨
      ∃ r, j.lines.getLast? = some (D.line r) ∧
        (D.validateJournal state stateHash j fin).2 =
          write j (D.line { r with phase := .committed }) fin.written := by
  fun_cases validateJournal D state stateHash j fin with
  | case1 | case3 | case4 | case5 => exact .inl rfl
  | case2 s hs r hp => exact .inr ⟨r, last_of_scan hs (.inl hp), rfl⟩

end Digests

/-! ## Loading -/

section Loading

variable {p : Processor} {d : Disk} {payload : CommandStatePayload} {l : LoadCircumstances}

theorem Processor.takeOver_pending (p : Processor) (d : Disk) (payload : CommandStatePayload)
    (l : LoadCircumstances) : (p.takeOver d payload l).pending = p.pending := by
  unfold takeOver
  cases payload.blockReason <;> dsimp only <;> split_ifs <;> rfl

theorem Processor.takeOver_sealed (h : l.anchored = false) : (p.takeOver d payload l).Sealed := by
  have hblock : (block { p with fences := payload.fences } .durability).Sealed :=
    block_sealed (by simp)
  simp only [takeOver, h, Bool.not_false, Bool.or_true, if_true]
  cases payload.blockReason with
  | none => exact hblock
  | some reason => exact hblock.block reason

theorem Processor.loadPending_fences (p : Processor) (payload : CommandStatePayload) :
    (p.loadPending payload).fences = p.fences := by
  unfold loadPending
  split_ifs <;> rfl

theorem Processor.loadPending_pending (h : p.pending = ∅) (payload : CommandStatePayload) :
    (p.loadPending payload).pending = payload.pending := by
  unfold loadPending
  split_ifs with hempty
  · rw [h]
    exact AList.ext (List.isEmpty_iff.1 hempty).symm
  · rfl

theorem Processor.loadPrimary_not_sealed (hd : d.primary = some payload) (hp : p.pending = ∅)
    (h : ¬ (p.loadPrimary d l).1.Sealed) :
    l.readable = true ∧ l.parses = true ∧ l.anchored = true ∧
      (p.loadPrimary d l).1.fences = payload.fences ∧
      (p.loadPrimary d l).1.pending = payload.pending ∧
      (p.loadPrimary d l).2.primary = some payload := by
  revert h
  fun_cases loadPrimary p d l with
  | case1 hn => cases hn.symm.trans hd
  | case2 => exact fun h => absurd (block_sealed (by simp)) h
  | case3 => exact fun h => absurd (quarantineState_sealed _) h
  | case4 payload' hp' hreadable hparses =>
    obtain rfl := Option.mem_unique hd hp'
    fun_cases loadPayload p d payload l with
    | case1 _ hvalid =>
      intro h
      have htaken : ¬ (p.takeOver d payload l).Sealed := fun hs =>
        h ((loadPending_quiet payload).keeps_seal hs)
      refine ⟨by simpa using hreadable, by simpa using hparses, ?_, ?_, ?_, hd⟩
      · by_contra hanchored
        exact htaken (takeOver_sealed (by simpa using hanchored))
      · rw [loadPending_fences, takeOver_fences]
      · exact loadPending_pending ((takeOver_pending p d payload l).trans hp) payload
    | case2 => exact fun h => absurd (quarantineState_sealed _) h

/-- A load that does not seal the processor has found the primary file in order, and takes it over.
-/
theorem Disk.load_not_sealed (hd : d.primary = some payload) (h : ¬ (d.load l).1.Sealed) :
    (d.marker.isNone || l.markerBound) = true ∧ l.readable = true ∧ l.parses = true ∧
      l.anchored = true ∧ (d.load l).1.fences = payload.fences ∧
      (d.load l).1.pending = payload.pending ∧ (d.load l).2.primary = some payload := by
  revert h
  fun_cases Disk.load d l with
  | case1 hm => exact fun h => ⟨by simp [hm], loadPrimary_not_sealed hd rfl h⟩
  | case2 => exact fun h => absurd (block_sealed (by simp)) h
  | case3 _ _ hbound =>
    exact fun h => ⟨by simp_all, loadPrimary_not_sealed hd rfl h⟩

/-- A load without a primary file that does not seal the processor has found no trace of one. -/
theorem Disk.load_not_sealed_none (hd : d.primary = none) (h : ¬ (d.load l).1.Sealed) :
    d.journal = false ∧ (d.load l).1 = {} := by
  unfold Disk.load at h ⊢
  cases hm : d.marker with
  | none =>
    simp only [hm, loadPrimary, hd] at h ⊢
    split_ifs at h ⊢ with hevidence
    · exact absurd (block_sealed (by simp)) h
    · simpa using hevidence
  | some reason =>
    simp only [hm, loadPrimary, hd, Option.isSome_some, Bool.true_or, if_true] at h
    split_ifs at h
    all_goals exact absurd (block_sealed (by simp)) h

end Loading

namespace JournaledDisk

variable (d : JournaledDisk ρ) (l : JournalCircumstances) {e : StateEnvelope ρ}

/-- A load leaves the journal as it is, or writes its last record once more as committed. -/
def Recommits (D : Digests ρ) (journal : Option Journal) : Prop :=
  journal = d.journal ∨ ∃ j r w, d.journal = some j ∧ j.lines.getLast? = some (D.line r) ∧
    journal = Journal.write d.journal (D.line { r with phase := .committed }) w

theorem checkJournal_recommits (e : StateEnvelope ρ) : d.Recommits D (d.checkJournal D e l).2 := by
  unfold checkJournal
  split_ifs with hseq
  · exact .inl rfl
  · cases hread : d.journal.filter fun _ => l.journalReadable with
    | none => exact .inl rfl
    | some j =>
      have hj : d.journal = some j := (Option.filter_eq_some_iff.1 hread).1
      rcases validateJournal_journal (D := D) e.state e.checksum j l.finalize with
        h | ⟨r, hlast, h⟩
      · exact .inl (h.trans hj.symm)
      · exact .inr ⟨j, r, _, hj, hlast, hj ▸ h⟩

theorem load_recommits : d.Recommits D (d.load D l).2.journal := by
  unfold load
  cases d.primary with
  | none => exact .inl rfl
  | some e =>
    simp only
    split_ifs
    · exact d.checkJournal_recommits l e
    · exact .inl rfl

theorem load_proc (hd : d.primary = some e) :
    (d.load D l).1.proc = ((d.disk l.marker).load (d.circumstances D e l)).1 := by
  simp only [load, hd]
  split_ifs <;> rfl

theorem checkJournal_true (h : (d.checkJournal D e l).1 = true) :
    (∀ j, d.journal = some j → j.lines = []) ∨
      ∃ j r, d.journal = some j ∧ j.lines.getLast? = some (D.line r) ∧
        names r e.state e.checksum = true := by
  revert h
  fun_cases checkJournal D d e l with
  | case1 =>
    refine fun h => .inl fun j hj => ?_
    simp only [hj, Option.all_some, Bool.and_eq_true, List.isEmpty_iff] at h
    exact h.2
  | case2 => exact nofun
  | case3 _ j hread checked =>
    intro h
    have hok : checked.1 = .ok () := by
      cases hv : checked.1 with
      | error err => simp [hv, Except.isOk, Except.toBool] at h
      | ok u => rfl
    obtain ⟨r, hlast, hnames⟩ := last_of_validateJournal hok
    exact .inr ⟨j, r, (Option.filter_eq_some_iff.1 hread).1, hlast, hnames⟩

theorem load_primary (h : (d.load D l).2.primary = some e) : d.primary = some e := by
  unfold load at h
  cases hd : d.primary with
  | none => simp [hd] at h
  | some e' =>
    have hbind (q : Option CommandStatePayload) (hq : q.bind (fun _ => some e') = some e) :
        e' = e := by
      cases q with
      | none => cases hq
      | some payload => exact Option.some.inj hq
    simp only [hd] at h
    split_ifs at h
    · rw [hbind _ h]
    · rw [hbind _ h]

end JournaledDisk

/-! ## The invariant -/

/-- The last line of the journal, if it is a record, names the latest state; state file and copies
come from saves in the journal. -/
structure Anchored (D : Digests ρ) (n : JournaledNode ρ) : Prop where
  last : ∀ {j r hmac}, n.disk.journal = some j → j.lines.getLast? = some (.record r hmac) →
    ∃ payload, n.latest = some payload ∧ Digests.names r payload (D.state payload) = true
  recorded : n.latest.isSome = true → Journal.HasLine n.disk.journal
  copied : n.copies ≠ [] → n.latest.isSome = true
  primary : ∀ {e}, n.disk.primary = some e → e ∈ n.copies
  saved : ∀ {payload}, n.latest = some payload → payload ∈ n.saved
  copy_saved : ∀ {e}, e ∈ n.copies → e.state ∈ n.saved

namespace Anchored

variable {n n' : JournaledNode ρ} {e : JournalEvent ρ}

/-- A load keeps the last record, or repeats it. -/
theorem load (hn : Anchored D n) (l : JournalCircumstances)
    (running : Option (JournaledProcessor ρ)) :
    Anchored D { n with disk := (n.disk.load D l).2, running := running } := by
  refine ⟨fun {j r hmac} hj hlast => ?_, fun hl => ?_, hn.copied,
    fun h => hn.primary (n.disk.load_primary l h), hn.saved, hn.copy_saved⟩
  · rcases n.disk.load_recommits (D := D) l with hsame | ⟨j₀, r₀, w, hj₀, hlast₀, hwrite⟩
    · exact hn.last (hsame ▸ hj) hlast
    · rcases last_write (hwrite ▸ hj) hlast with hline | ⟨j', hj', hlast'⟩
      · -- the commit names the state that the prepared record named
        obtain ⟨payload, hlatest, hnames⟩ := hn.last hj₀ hlast₀
        obtain ⟨rfl, -⟩ : { r₀ with phase := .committed } = r ∧ _ := by
          simpa [line] using hline
        exact ⟨payload, hlatest, hnames⟩
      · exact hn.last hj' hlast'
  · rcases n.disk.load_recommits (D := D) l with hsame | ⟨j₀, r₀, w, hj₀, -, hwrite⟩
    · exact hsame ▸ hn.recorded hl
    · exact hwrite ▸ (hn.recorded hl).write _ _

theorem save (hn : Anchored D n) (p : JournaledProcessor ρ) (payload : AnchoredPayload ρ)
    (ending : SaveEnd) : Anchored D (n.save D p payload ending) := by
  have hrecord {phase : JournalPhase} {r : JournalRecord} {hmac : GoString}
      (hline : D.line (payload.record D phase) = .record r hmac) :
      names r payload (D.state payload) = true := by
    obtain ⟨rfl, -⟩ : payload.record D phase = r ∧ _ := by simpa [line] using hline
    simp [names, AnchoredPayload.record]
  have hself : payload ∈ n.saved ++ [payload] := List.mem_concat_self
  have hlatest {q : AnchoredPayload ρ} (hq : some payload = some q) : q ∈ n.saved ++ [payload] :=
    Option.some.inj hq ▸ hself
  have hcopies {e : StateEnvelope ρ} (he : e ∈ n.copies) : e.state ∈ n.saved ++ [payload] :=
    List.mem_append_left _ (hn.copy_saved he)
  have hplaced {e : StateEnvelope ρ} (he : e ∈ n.copies ++ [payload.envelope D]) :
      e.state ∈ n.saved ++ [payload] := by
    rcases of_mem_snoc he with he | rfl
    · exact hcopies he
    · exact hself
  unfold JournaledNode.save
  cases ending.cut with
  | prepare w =>
    by_cases hw : w = .unterminated ∨ w = .whole
    · have hrec : (SaveCut.prepare w).recorded = true := by rcases hw with rfl | rfl <;> rfl
      simp only [hrec, if_true]
      exact ⟨fun hj hlast => ⟨payload, rfl, hrecord (line_of_write hw hj hlast)⟩,
        fun _ => hasLine_write hw, fun _ => rfl, hn.primary, hlatest, hcopies⟩
    · have hcut : w = .unopened ∨ w = .opened ∨ w = .fragment := by cases w <;> simp_all
      have hrec : (SaveCut.prepare w).recorded = false := by
        rcases hcut with rfl | rfl | rfl <;> rfl
      simp only [hrec, Bool.false_eq_true, if_false]
      refine ⟨fun hj hlast => ?_, fun hl => (hn.recorded hl).write _ _, hn.copied, hn.primary,
        fun hq => List.mem_append_left _ (hn.saved hq), hcopies⟩
      obtain ⟨j₀, hj₀, hlast₀⟩ := last_of_write hcut hj hlast
      exact hn.last hj₀ hlast₀
  | renamed =>
    refine ⟨fun hj hlast => ⟨payload, rfl, hrecord (line_of_write (.inr rfl) hj hlast)⟩,
      fun _ => hasLine_write (.inr rfl), fun _ => rfl, fun h => ?_, hlatest, hplaced⟩
    cases h
    exact List.mem_concat_self
  | commit w =>
    refine ⟨fun hj hlast => ⟨payload, rfl, ?_⟩,
      fun _ => (hasLine_write (.inr rfl)).write _ _, fun _ => rfl, fun h => ?_, hlatest,
      hplaced⟩
    · rcases last_write hj hlast with hline | ⟨j₀, hj₀, hlast₀⟩
      · exact hrecord hline
      · exact hrecord (line_of_write (.inr rfl) hj₀ hlast₀)
    · cases h
      exact List.mem_concat_self

theorem step (hn : Anchored D n) (hst : JournalStep D n e n') : Anchored D n' := by
  cases hst with
  | restart l crashes => exact hn.load l _
  | save state rest ending hp => exact hn.save _ _ ending
  | putBack he =>
    refine ⟨hn.last, hn.recorded, hn.copied, fun h => ?_, hn.saved, hn.copy_saved⟩
    cases h
    exact he

end Anchored

variable {n : JournaledNode ρ}

theorem Anchored.run {tr : List (Transition (JournaledNode ρ) (JournalEvent ρ))}
    (h : Run (JournalStep D) {} tr n) : Anchored D n := by
  have hinit : Anchored D {} :=
    ⟨fun hj => by simp at hj, fun hl => by simp at hl, fun hc => absurd rfl hc,
      fun he => by simp at he, fun hl => by simp at hl, fun he => by simp at he⟩
  exact h.invariant (I := Anchored D) hinit fun _ _ _ hn hst => hn.step hst

variable {l : JournalCircumstances}

/-- A node without a state file that is not sealed has never brought a record into its journal. -/
theorem Anchored.load_fresh (hn : Anchored D n) (hd : n.disk.primary = none)
    (hopen : ¬ (n.disk.load D l).1.proc.Sealed) :
    n.latest = none ∧ (n.disk.load D l).1.proc = {} := by
  simp only [JournaledDisk.load, hd] at hopen ⊢
  split_ifs at hopen with hread
  · exact absurd (block_sealed (by simp)) hopen
  · have hdisk : (n.disk.disk l.marker).primary = none := by simp [disk, hd]
    obtain ⟨hjournal, hproc⟩ := Disk.load_not_sealed_none hdisk hopen
    refine ⟨?_, by rw [if_neg hread]; exact hproc⟩
    by_contra hlatest
    obtain ⟨j, hj, -⟩ := hn.recorded (Option.isSome_iff_ne_none.2 hlatest)
    simp [disk, hj] at hjournal

/-- The state that a load takes over. -/
def JournaledProcessor.Holds (p : JournaledProcessor ρ) (payload : AnchoredPayload ρ) : Prop :=
  p.proc.fences = payload.state.fences ∧ p.proc.pending = payload.state.pending ∧
    p.rest = some payload.rest

/-- A state file that does not seal the node holds the latest state. -/
theorem Anchored.load_latest (hn : Anchored D n)
    (hinj : Set.InjOn D.state {payload | payload ∈ n.saved}) {e : StateEnvelope ρ}
    (hd : n.disk.primary = some e) (hopen : ¬ (n.disk.load D l).1.proc.Sealed) :
    n.latest = some e.state ∧ (n.disk.load D l).1.Holds e.state ∧
      ∃ j r, n.disk.journal = some j ∧ j.lines.getLast? = some (D.line r) ∧
        names r e.state (D.state e.state) = true := by
  have hproc := n.disk.load_proc (D := D) l hd
  have hdisk : (n.disk.disk l.marker).primary = some e.state.state := by
    simp [disk, hd]
  rw [hproc] at hopen
  obtain ⟨hmarker, hread, hparses, hanchored, hfences, hpending, -⟩ :=
    Disk.load_not_sealed hdisk hopen
  have hsum : toLower e.checksum = D.state e.state := by
    have : l.parses = true ∧ toLower e.checksum = toLower (D.state e.state) := by
      simpa [circumstances] using hparses
    rw [this.2, D.toLower_state]
  have hreach : reachesJournal D e l = true := by
    simp only [reachesJournal, Bool.and_eq_true]
    exact ⟨⟨hmarker, hread⟩, by simpa [circumstances] using hparses⟩
  have hrest : (n.disk.load D l).1.rest = some e.state.rest := by
    simp only [JournaledDisk.load, hd, hreach, if_true]
    rfl
  rcases n.disk.checkJournal_true l hanchored with hempty | ⟨j, r, hj, hlast, hnames⟩
  · -- the state file came from a save, whose record is in the journal
    have hcopy : n.copies ≠ [] := List.ne_nil_of_mem (hn.primary hd)
    obtain ⟨j, hj, hlines⟩ := hn.recorded (hn.copied hcopy)
    exact absurd (hempty j hj) hlines
  · obtain ⟨payload, hlatest, hnames'⟩ := hn.last hj hlast
    simp only [names, Bool.and_eq_true, decide_eq_true_iff] at hnames hnames'
    have hsame : e.state = payload := by
      apply hinj (hn.copy_saved (hn.primary hd)) (hn.saved hlatest)
      rw [← hsum, ← hnames.1.2, hnames'.1.2, D.toLower_state]
    subst hsame
    refine ⟨hlatest, ⟨hproc ▸ hfences, hproc ▸ hpending, hrest⟩, j, r, hj, hlast, ?_⟩
    simp only [names, Bool.and_eq_true, decide_eq_true_iff]
    exact hnames'

/-- **A node never resumes from an older state.** With saves that fail or are cut, and earlier state
files put back, a load that does not seal the node finds the state that the last line of the journal
names. The digest need only be injective on the states that were saved. -/
theorem resumes_latest {n : JournaledNode ρ}
    {tr : List (Transition (JournaledNode ρ) (JournalEvent ρ))} (h : Run (JournalStep D) {} tr n)
    (hinj : Set.InjOn D.state {payload | payload ∈ n.saved}) (l : JournalCircumstances)
    (hopen : ¬ (n.disk.load D l).1.proc.Sealed) :
    (n.latest = none ∧ n.disk.primary = none ∧ (n.disk.load D l).1.proc = {}) ∨
      ∃ payload, n.latest = some payload ∧ (n.disk.load D l).1.Holds payload ∧
        ∃ j r, n.disk.journal = some j ∧ j.lines.getLast? = some (D.line r) ∧
          Digests.names r payload (D.state payload) = true := by
  have hn := Anchored.run h
  cases hd : n.disk.primary with
  | none => exact .inl ⟨(hn.load_fresh hd hopen).1, rfl, (hn.load_fresh hd hopen).2⟩
  | some e => exact .inr ⟨e.state, hn.load_latest hinj hd hopen⟩

/-! ### A rollback -/

/-- Digests that tell the first two states of a node apart. -/
def sampleDigests : Digests Unit where
  state payload := if payload.journalSequence = 1 then "a" else "b"
  record r := if r.sequence = 1 then "c" else "d"
  mac _ := "m"
  toLower_state payload := by split_ifs <;> decide

def sampleState (token : ℤ) : CommandStatePayload := ⟨(∅ : GoMap ℤ).insert "k" token, ∅, none⟩

/-- A node that was started and has saved a state. -/
def savedOnce : JournaledNode Unit :=
  JournaledNode.save sampleDigests { running := some {} } {}
    (JournaledProcessor.nextPayload {} (sampleState 1) ()) .completes

def savedOnceProcessor : JournaledProcessor Unit := { journalSequence := 1, journalHash := "c" }

/-- Then it has saved another state, and crashed before the append of the commit. -/
def savedTwice : JournaledNode Unit :=
  JournaledNode.save sampleDigests savedOnce savedOnceProcessor
    (savedOnceProcessor.nextPayload (sampleState 2) ()) (.crashes .renamed)

theorem savedTwice_run : ∃ tr, Run (JournalStep sampleDigests) {} tr savedTwice := by
  have hstart : JournalStep sampleDigests {} (.restart {} false) { running := some {} } :=
    .restart {} false
  have hfirst : JournalStep sampleDigests { running := some {} }
      (.save (sampleState 1) () .completes) savedOnce := .save _ _ _ rfl
  have hsecond : JournalStep sampleDigests savedOnce
      (.save (sampleState 2) () (.crashes .renamed)) savedTwice := .save _ _ _ rfl
  exact ⟨_, ((Run.nil.snoc hstart).snoc hfirst).snoc hsecond⟩

/-- **The first state put back.** The node is sealed with it, and comes up with the second one. -/
theorem first_state_refused : (∃ tr, Run (JournalStep sampleDigests) {} tr savedTwice) ∧
      (savedTwice.disk.load sampleDigests {}).1.proc.stateBlocked = false ∧
      (∃ e ∈ savedTwice.copies, (JournaledDisk.load sampleDigests
        { savedTwice.disk with primary := some e } {}).1.proc.stateBlocked = true) ∧
      ∃ payload, savedTwice.latest = some payload ∧
        (savedTwice.disk.load sampleDigests {}).1.Holds payload := by
  obtain ⟨tr, hrun⟩ := savedTwice_run
  have hblocked : (savedTwice.disk.load sampleDigests {}).1.proc.stateBlocked = false := by
    decide +kernel
  have hopen : ¬ (savedTwice.disk.load sampleDigests {}).1.proc.Sealed := fun h =>
    absurd (hblocked.symm.trans h.1) (by decide)
  have hinj : Set.InjOn sampleDigests.state {payload | payload ∈ savedTwice.saved} := by
    have hsaved : savedTwice.saved = [JournaledProcessor.nextPayload {} (sampleState 1) (),
        savedOnceProcessor.nextPayload (sampleState 2) ()] := rfl
    intro a ha b hb hab
    simp only [hsaved, Set.mem_ofPred_eq, List.mem_cons, List.not_mem_nil, or_false] at ha hb
    rcases ha with rfl | rfl <;> rcases hb with rfl | rfl
    · rfl
    · exact absurd hab (by decide +kernel)
    · exact absurd hab (by decide +kernel)
    · rfl
  refine ⟨⟨tr, hrun⟩, hblocked, ⟨_, List.mem_cons_self, by decide +kernel⟩, ?_⟩
  rcases resumes_latest hrun hinj {} hopen with ⟨hnone, -⟩ | ⟨payload, hlatest, hholds, -⟩
  · cases hnone
  · exact ⟨payload, hlatest, hholds⟩

end VramGovernor.NodeAgent
