import Mathlib.Algebra.Ring.Int.Defs
import LogMill.Run.Export
import LogMill.Proofs.Row.Identity
import LogMill.Proofs.Sink.ObjectBody

/-!
The file of a sink: which rows are read back from it after writes in any order, some of which may fail.
-/

namespace LogMill.FileSink

open Outcome

def IsPlain : Value → Prop
  | .text _ | .int _ => True
  | _ => False

def spelled : Value → List Char
  | .text s => s.toList
  | .int n => (toString n).toList
  | _ => []

def IsShort : Value → Prop
  | .int n => n.natAbs < Nat.pow 10 Whole.maxDigits
  | _ => True

def fits (h : Text.Halves) : Value → Bool
  | .text s => s.toList.all fun c => (h.unit? c).isNone
  | .int n => n.natAbs < Nat.pow 10 Whole.maxDigits
  | _ => false

def fitting (b : Batch) : List Cells := b.rows.takeWhile fun cells => cells.all (fits b.halves)

def Fits (b : Batch) : Prop := ∀ cells ∈ b.rows, ∀ v ∈ cells, fits b.halves v

structure Plain (b : Batch) : Prop where
  halves : ∀ first ∈ b.halves, first ∈ Text.halfPlaces
  cells : ∀ cells ∈ b.rows, cells ≠ [] ∧ ∀ v ∈ cells, IsPlain v

def recordsOf (rows : List Cells) : List (List (List Char)) := rows.map fun cells => cells.map spelled

section Rows

variable {h : Text.Halves} {cells : Cells} {text : List Char}

theorem cellText_eq_ok {v : Value} (hv : IsPlain v) : cellText v = .ok text ↔ IsShort v ∧ spelled v = text := by
  cases v with
  | text s => simp [cellText, Csv.cell, Value.plain, IsShort, spelled]
  | int n =>
    simp only [cellText, Whole.text, IsShort, spelled]
    split_ifs with hshort
    · simp only [Except.map, Except.ok.injEq, hshort, true_and]
    · simp only [Except.map, reduceCtorEq, hshort, false_and]
  | _ => exact hv.elim

theorem rowText_eq_ok (hc : ∀ v ∈ cells, IsPlain v) :
    rowText cells = .ok text ↔ (∀ v ∈ cells, IsShort v) ∧ Csv.record .file (cells.map spelled) = text := by
  have hcells {texts : List (List Char)} :
      cells.mapM cellText = .ok texts ↔ (∀ v ∈ cells, IsShort v) ∧ cells.map spelled = texts := by
    rw [mapM_eq_ok]
    induction cells generalizing texts with
    | nil => cases texts <;> simp
    | cons v cells ih =>
      have hv := hc v (by simp)
      have hrest {texts : List (List Char)} := @ih (fun u hu => hc u (List.mem_cons_of_mem _ hu)) texts
      rw [List.forall₂_cons_left_iff]
      constructor
      · rintro ⟨t, ts, ht, hts, rfl⟩
        obtain ⟨hshort, rfl⟩ := (cellText_eq_ok hv).mp ht
        obtain ⟨hall, rfl⟩ := hrest.mp hts
        exact ⟨by simpa [hshort] using hall, rfl⟩
      · rintro ⟨hall, rfl⟩
        exact ⟨_, _, (cellText_eq_ok hv).mpr ⟨hall v (by simp), rfl⟩,
          hrest.mpr ⟨fun u hu => hall u (List.mem_cons_of_mem _ hu), rfl⟩, rfl⟩
  simp only [rowText, mapError_eq_ok, map_eq_ok, hcells]
  constructor
  · rintro ⟨_, ⟨hshort, rfl⟩, rfl⟩
    exact ⟨hshort, rfl⟩
  · rintro ⟨hshort, rfl⟩
    exact ⟨_, ⟨hshort, rfl⟩, rfl⟩

theorem fits_iff (hh : ∀ first ∈ h, first ∈ Text.halfPlaces) {v : Value} (hv : IsPlain v) :
    fits h v ↔ IsShort v ∧ ∀ c ∈ spelled v, h.unit? c = none := by
  cases v with
  | text s => simp [fits, IsShort, spelled]
  | int n =>
    have hmarks : ∀ c ∈ (toString n).toList, h.unit? c = none := fun c hc =>
      Upload.unit?_eq_none hh (Whole.marks_toString n c hc).toNat_lt
    simp only [fits, IsShort, spelled, decide_eq_true_eq]
    exact ⟨fun hshort => ⟨hshort, hmarks⟩, And.left⟩
  | _ => exact hv.elim

theorem rowEncoded_eq_ok (hh : ∀ first ∈ h, first ∈ Text.halfPlaces) (hc : ∀ v ∈ cells, IsPlain v) :
    rowEncoded h cells = .ok text ↔
      cells.all (fits h) ∧ Csv.record .file (cells.map spelled) = text := by
  have hbytes : Text.Unencodable.find? h (Csv.record .file (cells.map spelled)) = none ↔
      ∀ v ∈ cells, ∀ c ∈ spelled v, h.unit? c = none := by
    have hrecord : (∀ c ∈ Csv.records .file [cells.map spelled], h.unit? c = none) ↔
        ∀ fs ∈ [cells.map spelled], ∀ s ∈ fs, ∀ c ∈ s, h.unit? c = none :=
      Csv.forall_mem_records (Upload.unit?_eq_none hh (by decide)) (Upload.unit?_eq_none hh (by decide))
        (by simp [Csv.Dialect.file, Upload.unit?_eq_none hh])
    simpa [Text.Unencodable.find?_eq_none, Csv.records] using hrecord
  have hall : cells.all (fits h) ↔ (∀ v ∈ cells, IsShort v) ∧ ∀ v ∈ cells, ∀ c ∈ spelled v, h.unit? c = none := by
    rw [List.all_eq_true, ← forall₂_and]
    exact forall₂_congr fun v hv => fits_iff hh (hc v hv)
  simp only [rowEncoded, bind_eq_ok, rowText_eq_ok hc]
  constructor
  · rintro ⟨_, ⟨hshort, rfl⟩, hrest⟩
    split at hrest
    · cases hrest
    · rename_i hnone
      exact ⟨hall.mpr ⟨hshort, hbytes.mp hnone⟩, Except.ok.inj hrest⟩
  · rintro ⟨hfits, rfl⟩
    obtain ⟨hshort, hhalves⟩ := hall.mp hfits
    refine ⟨_, ⟨hshort, rfl⟩, ?_⟩
    rw [hbytes.mpr hhalves]
    rfl

theorem rowsText_eq (hh : ∀ first ∈ h, first ∈ Text.halfPlaces) {rows : List Cells}
    (hrows : ∀ cells ∈ rows, ∀ v ∈ cells, IsPlain v) :
    (rowsText h rows).1 = Csv.records .file (recordsOf (rows.takeWhile fun cells => cells.all (fits h))) ∧
      ((rowsText h rows).2 = none ↔ ∀ cells ∈ rows, cells.all (fits h)) := by
  induction rows with
  | nil => simp [rowsText, recordsOf, Csv.records]
  | cons cells rows ih =>
    obtain ⟨htext, hnone⟩ := ih fun cells hcells => hrows cells (List.mem_cons_of_mem _ hcells)
    have hcells := hrows cells (by simp)
    by_cases hfits : cells.all (fits h)
    · have hrow := (rowEncoded_eq_ok hh hcells).mpr ⟨hfits, rfl⟩
      simp only [rowsText, hrow, htext, hnone, List.takeWhile_cons, hfits, if_true, List.forall_mem_cons, true_and]
      exact ⟨rfl, trivial⟩
    · obtain ⟨f, hrow⟩ : ∃ f, rowEncoded h cells = .error f := by
        cases hrow : rowEncoded h cells with
        | error f => exact ⟨f, rfl⟩
        | ok text => exact absurd ((rowEncoded_eq_ok hh hcells).mp hrow).1 hfits
      simp only [rowsText, hrow, List.takeWhile_cons, hfits]
      exact ⟨rfl, fun hnone => absurd hnone (by simp), fun hall => absurd (hall cells (by simp)) hfits⟩

end Rows

structure Attempt where
  before : FileSink
  batch : Batch
  answer : Except Fault Int
  after : FileSink

namespace Attempt

def returned (a : Attempt) : Bool := a.answer.isOk

@[simp] theorem returned_ok (s t : FileSink) (b : Batch) (n : Int) : (Attempt.mk s b (.ok n) t).returned = true := rfl

@[simp] theorem returned_error (s t : FileSink) (b : Batch) (f : Fault) :
    (Attempt.mk s b (.error f) t).returned = false := rfl

def kept (a : Attempt) : List Cells :=
  if a.returned then a.batch.rows else if a.before.isOpen then fitting a.batch else []

def counted (a : Attempt) : Int := if a.returned then a.batch.size else 0

/-- What a write does, and what it leaves as it was. -/
structure Settled (a : Attempt) : Prop where
  idle : a.batch.rows = [] → a.answer = .ok 0 ∧ a.after = a.before
  taken : a.before.isOpen → Fits a.batch → a.answer = .ok a.batch.size
  refused : a.before.isOpen → ¬ Fits a.batch → ∃ f, a.answer = .error f ∧ a.after.rowsWritten = a.before.rowsWritten
  closed : ¬ a.before.isOpen → a.batch.rows ≠ [] → ∃ f, a.answer = .error f ∧ f.kind = .value ∧ a.after = a.before

end Attempt

def attempt (s : FileSink) (b : Batch) : Attempt := ⟨s, b, (s.write b).1, (s.write b).2⟩

inductive Act where
  | write (b : Batch)
  | pass (n : Nat)

def Act.batches : Act → List Batch
  | write b => [b]
  | pass _ => []

inductive Step where
  | act (a : Act)
  | close
  | block (acts : List Act)

namespace Step

def batches : Step → List Batch
  | act a => a.batches
  | close => []
  | block acts => acts.flatMap Act.batches

def closes : Step → Bool
  | act _ => false
  | close | block _ => true

end Step

def actUntil (s : FileSink) : List Act → List Attempt × FileSink
  | [] => ([], s)
  | .pass n :: acts => actUntil (s.pass n) acts
  | .write b :: acts =>
    if (s.attempt b).returned then
      let (rest, s') := actUntil (s.attempt b).after acts
      (s.attempt b :: rest, s')
    else ([s.attempt b], (s.attempt b).after)

def perform (s : FileSink) : Step → List Attempt × FileSink
  | .act a => s.actUntil [a]
  | .close => ([], s.close)
  | .block acts =>
    let (attempts, s') := s.actUntil acts
    (attempts, s'.close)

def run (s : FileSink) : List Step → List Attempt × FileSink
  | [] => ([], s)
  | x :: xs =>
    let (first, s') := s.perform x
    let (rest, s'') := run s' xs
    (first ++ rest, s'')

@[simp] theorem actUntil_write (s : FileSink) (b : Batch) :
    s.actUntil [.write b] = ([s.attempt b], (s.attempt b).after) := by
  unfold actUntil
  split_ifs <;> rfl

@[simp] theorem actUntil_pass (s : FileSink) (n : Nat) : s.actUntil [.pass n] = ([], s.pass n) := rfl

structure Accounts (s : FileSink) (past : List Attempt) : Prop where
  text : s.text = Csv.records .file (Schema.names.map String.toList :: recordsOf (past.flatMap Attempt.kept))
  rowsWritten : s.rowsWritten = (past.map Attempt.counted).sum
  passed : ¬ s.isOpen → s.passed = s.bytes.size

variable {s : FileSink} {b : Batch} {past : List Attempt}

theorem attempt_of_nil (s : FileSink) (hrows : b.rows = []) : s.attempt b = ⟨s, b, .ok 0, s⟩ := by
  have hwrite : s.write b = (.ok 0, s) := by
    unfold write
    split
    · rfl
    · simp_all
  simp only [attempt, hwrite]

theorem attempt_closed (ho : ¬ s.isOpen) (hrows : b.rows ≠ []) :
    ∃ f, s.attempt b = ⟨s, b, .error f, s⟩ ∧ f.kind = .value := by
  obtain ⟨f, hwrite, hkind⟩ : ∃ f, s.write b = (.error f, s) ∧ f.kind = .value := by
    unfold write
    split
    · exact absurd ‹_› hrows
    · rename_i cells rows _
      simp only [ho]
      cases hrow : rowText cells with
      | ok text => exact ⟨.closed, rfl, rfl⟩
      | error f =>
        unfold rowText at hrow
        cases hcells : cells.mapM cellText with
        | ok texts => simp [hcells, Except.map, Except.mapError] at hrow
        | error n =>
          obtain rfl : Fault.number n = f := by simpa [hcells, Except.map, Except.mapError] using hrow
          exact ⟨.number n, rfl, rfl⟩
  exact ⟨f, by simp only [attempt, hwrite], hkind⟩

theorem write_open (ho : s.isOpen) : s.write b =
    match (rowsText b.halves b.rows).2 with
    | none => (.ok b.size,
        { s with text := s.text ++ (rowsText b.halves b.rows).1, rowsWritten := s.rowsWritten + b.size })
    | some f => (.error f, { s with text := s.text ++ (rowsText b.halves b.rows).1 }) := by
  obtain ⟨text, isOpen, rowsWritten, passed⟩ := s
  obtain rfl : isOpen = true := ho
  unfold write
  split
  · rename_i hrows
    simp [hrows, rowsText, Batch.size]
  · simp only [if_true]
    cases rowsText b.halves b.rows with
    | mk text fault => cases fault <;> rfl

theorem attempt_open (hb : Plain b) (ho : s.isOpen) :
    (Fits b ∧ s.attempt b = ⟨s, b, .ok b.size,
        { s with text := s.text ++ Csv.records .file (recordsOf b.rows), rowsWritten := s.rowsWritten + b.size }⟩) ∨
      ¬ Fits b ∧ ∃ f, s.attempt b =
        ⟨s, b, .error f, { s with text := s.text ++ Csv.records .file (recordsOf (fitting b)) }⟩ := by
  obtain ⟨htext, hnone⟩ := rowsText_eq hb.halves fun cells hc => (hb.cells cells hc).2
  have hfits : (rowsText b.halves b.rows).2 = none ↔ Fits b := by simp [hnone, Fits]
  have hwrite := write_open (b := b) ho
  by_cases hall : Fits b
  · have hwhole : b.rows.takeWhile (fun cells => cells.all (fits b.halves)) = b.rows := by
      rw [List.takeWhile_eq_self_iff]
      exact hnone.mp (hfits.mpr hall)
    rw [hfits.mpr hall, htext, hwhole] at hwrite
    exact .inl ⟨hall, by simp only [attempt, hwrite]⟩
  · obtain ⟨f, hf⟩ := Option.ne_none_iff_exists'.mp (mt hfits.mp hall)
    rw [hf, htext] at hwrite
    exact .inr ⟨hall, f, by simp only [attempt, hwrite, fitting]⟩

theorem attempt_settled (s : FileSink) (hb : Plain b) : (s.attempt b).Settled := by
  refine ⟨?_, ?_, ?_, ?_⟩
  · intro (hrows : b.rows = [])
    rw [attempt_of_nil s hrows]
    exact ⟨rfl, rfl⟩
  · intro (ho : s.isOpen) (hall : Fits b)
    obtain ⟨_, he⟩ | ⟨hmisfit, _⟩ := attempt_open hb ho
    · rw [he]
    · exact absurd hall hmisfit
  · intro (ho : s.isOpen) (hall : ¬ Fits b)
    obtain ⟨hfits, _⟩ | ⟨_, f, he⟩ := attempt_open hb ho
    · exact absurd hfits hall
    · rw [he]
      exact ⟨f, rfl, rfl⟩
  · intro (ho : ¬ s.isOpen) (hrows : b.rows ≠ [])
    obtain ⟨f, he, hkind⟩ := attempt_closed ho hrows
    rw [he]
    exact ⟨f, rfl, hkind, rfl⟩

theorem Accounts.append {a : Attempt} (h : s.Accounts past)
    (htext : a.after.text = s.text ++ Csv.records .file (recordsOf a.kept))
    (hrows : a.after.rowsWritten = s.rowsWritten + a.counted)
    (hpassed : ¬ a.after.isOpen → a.after.passed = a.after.bytes.size) : a.after.Accounts (past ++ [a]) where
  text := by simp [htext, h.text, recordsOf, Csv.records]
  rowsWritten := by simp [hrows, h.rowsWritten]
  passed := hpassed

theorem Accounts.attempt (h : s.Accounts past) (hb : Plain b) :
    (s.attempt b).after.Accounts (past ++ [s.attempt b]) := by
  by_cases hrows : b.rows = []
  · rw [attempt_of_nil s hrows]
    exact h.append (by simp [Attempt.kept, hrows, recordsOf, Csv.records])
      (by simp [Attempt.counted, Batch.size, hrows]) h.passed
  · by_cases ho : s.isOpen
    · obtain ⟨_, he⟩ | ⟨_, f, he⟩ := attempt_open hb ho
      · rw [he]
        exact h.append (by simp [Attempt.kept]) (by simp [Attempt.counted]) (absurd ho)
      · rw [he]
        exact h.append (by simp [Attempt.kept, ho]) (by simp [Attempt.counted]) (absurd ho)
    · obtain ⟨f, he, _⟩ := attempt_closed ho hrows
      rw [he]
      exact h.append (by simp [Attempt.kept, ho, recordsOf, Csv.records]) (by simp [Attempt.counted]) h.passed

theorem attempt_isOpen (s : FileSink) (b : Batch) : (s.attempt b).after.isOpen = s.isOpen := by
  by_cases hrows : b.rows = []
  · rw [attempt_of_nil s hrows]
  · by_cases ho : s.isOpen
    · simp only [attempt, write_open ho]
      split <;> simp [ho]
    · obtain ⟨f, he, _⟩ := attempt_closed ho hrows
      rw [he]

structure Ledger (s : FileSink) (past : List Attempt) : Prop where
  accounts : s.Accounts past
  each : ∀ before a, before ++ [a] <+: past → a.after.Accounts (before ++ [a])
  settled : ∀ a ∈ past, a.Settled

theorem Ledger.opened : opened.Ledger [] where
  accounts := ⟨by simp [FileSink.opened, header, recordsOf, Csv.records], rfl, by simp [FileSink.opened]⟩
  each := by simp
  settled := by simp

theorem Ledger.attempt (h : s.Ledger past) (hb : Plain b) :
    (s.attempt b).after.Ledger (past ++ [s.attempt b]) := by
  have haccounts := h.accounts.attempt hb
  refine ⟨haccounts, ?_, ?_⟩
  · apply forall_prefix_concat h.each
    exact haccounts
  · simpa [or_imp, forall_and] using ⟨h.settled, attempt_settled s hb⟩

theorem Ledger.close (h : s.Ledger past) : s.close.Ledger past where
  accounts := ⟨h.accounts.text, h.accounts.rowsWritten, fun _ => rfl⟩
  each := h.each
  settled := h.settled

theorem Ledger.pass (h : s.Ledger past) (n : Nat) : (s.pass n).Ledger past where
  accounts := by
    refine ⟨h.accounts.text, h.accounts.rowsWritten, fun ho => ?_⟩
    change min (s.passed + n) s.bytes.size = s.bytes.size
    rw [h.accounts.passed ho]
    omega
  each := h.each
  settled := h.settled

theorem Ledger.actUntil {acts : List Act} (h : s.Ledger past) (hacts : ∀ b ∈ acts.flatMap Act.batches, Plain b) :
    (s.actUntil acts).2.Ledger (past ++ (s.actUntil acts).1) := by
  induction acts generalizing s past with
  | nil => simpa [FileSink.actUntil] using h
  | cons a acts ih =>
    have hrest : ∀ b ∈ acts.flatMap Act.batches, Plain b := fun b hb => hacts b (by simp_all)
    cases a with
    | pass n => exact ih (h.pass n) hrest
    | write b =>
      have hb := h.attempt (hacts b (by simp [Act.batches]))
      unfold FileSink.actUntil
      split_ifs
      · simpa using ih hb hrest
      · exact hb

theorem Ledger.perform {x : Step} (h : s.Ledger past) (hx : ∀ b ∈ x.batches, Plain b) :
    (s.perform x).2.Ledger (past ++ (s.perform x).1) := by
  cases x with
  | act a => exact h.actUntil (by simpa [Step.batches] using hx)
  | close => simpa [FileSink.perform] using h.close
  | block acts => exact (h.actUntil hx).close

theorem Ledger.run {steps : List Step} (h : s.Ledger past) (hsteps : ∀ x ∈ steps, ∀ b ∈ x.batches, Plain b) :
    (s.run steps).2.Ledger (past ++ (s.run steps).1) := by
  induction steps generalizing s past with
  | nil => simpa [FileSink.run] using h
  | cons x xs ih =>
    have hrest := ih (h.perform (hsteps x (by simp))) fun y hy => hsteps y (List.mem_cons_of_mem _ hy)
    simpa [FileSink.run] using hrest

theorem actUntil_isOpen (s : FileSink) (acts : List Act) :
    (s.actUntil acts).2.isOpen = s.isOpen ∧ ∀ a ∈ (s.actUntil acts).1, a.before.isOpen = s.isOpen := by
  induction acts generalizing s with
  | nil => simp [actUntil]
  | cons a acts ih =>
    cases a with
    | pass n => exact ih (s.pass n)
    | write b =>
      have hafter := attempt_isOpen s b
      unfold actUntil
      split_ifs
      · obtain ⟨hopen, hall⟩ := ih (s.attempt b).after
        rw [hafter] at hopen hall
        exact ⟨hopen, by simpa [attempt] using hall⟩
      · exact ⟨hafter, by simp [attempt]⟩

theorem perform_isOpen (s : FileSink) (x : Step) :
    (s.perform x).2.isOpen = (s.isOpen && !x.closes) ∧ ∀ a ∈ (s.perform x).1, a.before.isOpen = s.isOpen := by
  cases x with
  | act a =>
    obtain ⟨hopen, hall⟩ := actUntil_isOpen s [a]
    exact ⟨by simpa [perform, Step.closes] using hopen, hall⟩
  | close => simp [perform, close, Step.closes]
  | block acts => exact ⟨by simp [perform, close, Step.closes], (actUntil_isOpen s acts).2⟩

theorem run_isOpen (s : FileSink) (steps : List Step) :
    (s.run steps).2.isOpen ↔ s.isOpen ∧ ∀ x ∈ steps, ¬ x.closes := by
  induction steps generalizing s with
  | nil => simp [run]
  | cons x xs ih =>
    have hfirst := (perform_isOpen s x).1
    simp only [run]
    rw [ih, hfirst]
    simp [and_assoc]

theorem run_append (s : FileSink) (xs ys : List Step) :
    s.run (xs ++ ys) = ((s.run xs).1 ++ ((s.run xs).2.run ys).1, ((s.run xs).2.run ys).2) := by
  induction xs generalizing s with
  | nil => simp [run]
  | cons x xs ih => simp [run, ih]

theorem mem_actUntil {acts : List Act} {a : Attempt} (h : a ∈ (s.actUntil acts).1) :
    a.batch ∈ acts.flatMap Act.batches := by
  induction acts generalizing s with
  | nil => simp [actUntil] at h
  | cons x acts ih =>
    cases x with
    | pass n => exact ih h
    | write b =>
      unfold actUntil at h
      split_ifs at h
      · rcases List.mem_cons.mp h with rfl | h
        · exact List.mem_cons_self
        · exact List.mem_cons_of_mem _ (ih h)
      · rw [List.mem_singleton.mp h]
        exact List.mem_cons_self

theorem mem_run {steps : List Step} {a : Attempt} (h : a ∈ (s.run steps).1) : ∃ x ∈ steps, a.batch ∈ x.batches := by
  induction steps generalizing s with
  | nil => simp [run] at h
  | cons x xs ih =>
    rcases List.mem_append.mp h with h | h
    · refine ⟨x, by simp, ?_⟩
      cases x with
      | act a => simpa [Step.batches] using mem_actUntil h
      | close => simp at h
      | block acts => exact mem_actUntil h
    · obtain ⟨y, hy, hb⟩ := ih h
      exact ⟨y, List.mem_cons_of_mem _ hy, hb⟩

theorem fill_eq_run (batches : List Batch) (course : Generator.Course) :
    (Export.fill batches course).1 = (opened.run [.block (batches.map .write)]).2 := by
  have hwrite (s : FileSink) : (Export.writeAll batches s).2 = (s.actUntil (batches.map .write)).2 := by
    induction batches generalizing s with
    | nil => rfl
    | cons b bs ih =>
      unfold Export.writeAll
      simp only [List.map_cons, actUntil]
      cases hw : s.write b with
      | mk answer s' => cases answer <;> simp [attempt, hw, ih]
  simp only [Export.fill, run, perform, hwrite]

theorem legible_file (t : List Char) : Csv.Legible .file t := by
  by_cases hends : ∀ c ∈ t, c ≠ '\r' ∧ c ≠ '\n'
  · exact .inr hends
  · refine .inl ?_
    push Not at hends
    obtain ⟨c, hc, hend⟩ := hends
    simp only [Csv.needsQuotes, List.any_eq_true]
    refine ⟨c, hc, ?_⟩
    by_cases hreturn : c = '\r'
    · simp [hreturn, Csv.Dialect.file]
    · simp [hend hreturn, Csv.Dialect.file]

theorem Attempt.Settled.kept_eq {a : Attempt} (h : a.Settled) (hfits : Fits a.batch) :
    a.kept = if a.returned then a.batch.rows else [] := by
  unfold Attempt.kept
  split_ifs with hreturned hopen
  · rfl
  · simp [Attempt.returned, h.taken hopen hfits, Except.isOk, Except.toBool] at hreturned
  · rfl

theorem Attempt.mem_rows_of_kept {a : Attempt} {cells : Cells} (h : cells ∈ a.kept) : cells ∈ a.batch.rows := by
  unfold kept at h
  split_ifs at h
  · exact h
  · exact (List.takeWhile_sublist _).subset h
  · simp at h

def reading (s : FileSink) : Option (List (List (List Char))) :=
  (String.fromUTF8? s.file).map fun text => Csv.read text.toList

theorem file_eq (h : s.passed = s.bytes.size) : s.file = s.bytes := by
  rw [file, h, ByteArray.extract_zero_size]

theorem reading_eq (h : s.passed = s.bytes.size) : s.reading = some (Csv.read s.text) := by
  have htext : String.fromUTF8? s.bytes = some (String.ofList s.text) := by
    rw [bytes, String.toUTF8_eq_toByteArray]
    exact dif_pos (String.ofList s.text).isValidUTF8
  rw [reading, file_eq h, htext, Option.map_some, String.toList_ofList]

/-- What the file of a sink holds: while the sink is open, the first bytes of a text that reads as the header and the
rows of the writes; once it is closed, all of that. -/
structure Holds (s : FileSink) (past : List Attempt) : Prop where
  beginning : ∃ (text : List Char) (n : Nat), s.file = (String.ofList text).toUTF8.extract 0 n ∧
    Csv.read text = Schema.names.map String.toList :: recordsOf (past.flatMap Attempt.kept)
  closed : ¬ s.isOpen →
    s.reading = some (Schema.names.map String.toList :: recordsOf (past.flatMap Attempt.kept))
  rowsWritten : s.rowsWritten = (past.map Attempt.counted).sum

theorem read_recordsOf {rows : List Cells} (h : ∀ cells ∈ rows, cells ≠ []) :
    Csv.read (Csv.records .file (Schema.names.map String.toList :: recordsOf rows)) =
      Schema.names.map String.toList :: recordsOf rows := by
  apply Csv.read_records (.inr rfl)
  intro fields hfields
  refine ⟨?_, fun t _ => legible_file t⟩
  rcases List.mem_cons.mp hfields with rfl | hfields
  · decide
  · obtain ⟨cells, hcells, rfl⟩ := List.mem_map.mp hfields
    simpa using h cells hcells

theorem Accounts.holds (h : s.Accounts past) (hplain : ∀ a ∈ past, Plain a.batch) : s.Holds past := by
  have hread : Csv.read s.text = Schema.names.map String.toList :: recordsOf (past.flatMap Attempt.kept) := by
    rw [h.text]
    apply read_recordsOf
    intro cells hcells
    obtain ⟨a, ha, hkept⟩ := List.mem_flatMap.mp hcells
    exact ((hplain a ha).cells cells (Attempt.mem_rows_of_kept hkept)).1
  refine ⟨⟨s.text, s.passed, rfl, hread⟩, fun ho => ?_, h.rowsWritten⟩
  rw [reading_eq (h.passed ho), hread]

/-- After writes, closes and blocks in any order, the file of a sink that is closed reads as the header and the rows
that the writes left in it: all rows if the write returned, the rows before the first that does not fit if it failed,
and none if the sink was closed before. As long as the sink is open, and after each of its writes, the file holds a
beginning of that, whatever bytes have reached it. The number of rows counts the writes that returned. -/
theorem file_reads_back (steps : List Step) (h : ∀ x ∈ steps, ∀ b ∈ x.batches, Plain b) :
    ∃ attempts s, opened.run steps = (attempts, s) ∧ s.Holds attempts ∧ (s.isOpen ↔ ∀ x ∈ steps, ¬ x.closes) ∧
      (∀ before a, before ++ [a] <+: attempts → a.after.Holds (before ++ [a])) ∧ (∀ a ∈ attempts, a.Settled) ∧
      (∀ before x after, steps = before ++ x :: after → ∀ a ∈ ((opened.run before).2.perform x).1,
        a ∈ attempts ∧ (a.before.isOpen ↔ ∀ y ∈ before, ¬ y.closes)) ∧
      ((∀ x ∈ steps, ∀ b ∈ x.batches, Fits b) →
        attempts.flatMap Attempt.kept = (attempts.filter Attempt.returned).flatMap fun a => a.batch.rows) := by
  have hledger := Ledger.opened.run h
  rw [List.nil_append] at hledger
  have hplain : ∀ a ∈ (opened.run steps).1, Plain a.batch := by
    intro a ha
    obtain ⟨x, hx, hb⟩ := mem_run ha
    exact h x hx _ hb
  refine ⟨_, _, rfl, hledger.accounts.holds hplain, by simp [run_isOpen, opened], ?_, hledger.settled, ?_, ?_⟩
  · intro before a hbefore
    exact (hledger.each before a hbefore).holds fun a' ha' => hplain a' (hbefore.subset ha')
  · rintro before x after rfl a ha
    have hopen := (perform_isOpen (opened.run before).2 x).2 a ha
    refine ⟨?_, ?_⟩
    · rw [run_append]
      exact List.mem_append_right _ (List.mem_append_left _ ha)
    · rw [hopen, run_isOpen]
      simp [opened]
  · intro hfits
    have hfilter (as : List Attempt) : (as.filter Attempt.returned).flatMap (fun a => a.batch.rows) =
        as.flatMap fun a => if a.returned then a.batch.rows else [] := by
      induction as with
      | nil => rfl
      | cons a as ih => by_cases hreturned : a.returned <;> simp [hreturned, ih]
    rw [hfilter]
    apply List.flatMap_congr
    intro a ha
    obtain ⟨x, hx, hb⟩ := mem_run ha
    exact (hledger.settled a ha).kept_eq (hfits x hx _ hb)

def quoting : Batch := { start := .int 0, rows := [[.text "a,\"b\"\r\n", .int (-7)], [.text ""]] }

theorem file_reads_back_quoting : ∃ attempts s,
    opened.run [.act (.write quoting), .act (.pass 9), .close, .act (.write quoting)] = (attempts, s) ∧
      s.reading = some
        [Schema.names.map String.toList, ["a,\"b\"\r\n".toList, "-7".toList], ["".toList]] ∧
      s.rowsWritten = 2 := by
  have hplain : Plain quoting := ⟨by simp [quoting], by simp [quoting, IsPlain]⟩
  have hfits : Fits quoting := by
    unfold Fits
    decide +kernel
  let shut := ((opened.attempt quoting).after.pass 9).close
  obtain ⟨attempts, s, hrun, hholds, hopen, _, hsettled, _⟩ :=
    file_reads_back [.act (.write quoting), .act (.pass 9), .close, .act (.write quoting)]
      (by simp [Step.batches, Act.batches, hplain])
  obtain rfl : attempts = [opened.attempt quoting, shut.attempt quoting] := by
    simpa [run, perform, shut] using (congrArg Prod.fst hrun).symm
  have htaken : (opened.attempt quoting).answer = .ok 2 := (hsettled _ (by simp)).taken rfl hfits
  obtain ⟨f, hclosed, _⟩ := (hsettled (shut.attempt quoting) (by simp)).closed
    (by simp [attempt, close, shut]) (by simp [attempt, quoting])
  have hreturned : (opened.attempt quoting).returned = true := by
    rw [Attempt.returned, htaken]
    rfl
  have hrefused : (shut.attempt quoting).returned = false := by
    rw [Attempt.returned, hclosed]
    rfl
  refine ⟨_, s, hrun, ?_, ?_⟩
  · rw [hholds.closed (by simp [hopen, Step.closes])]
    simp only [List.flatMap_cons, List.flatMap_nil, Attempt.kept, hreturned, hrefused]
    rfl
  · rw [hholds.rowsWritten]
    simp only [List.map_cons, List.map_nil, Attempt.counted, hreturned, hrefused]
    rfl

def overlong : Batch := { start := .int 0, rows := [[.int 1], [.int (Nat.pow 10 Whole.maxDigits)]] }

def halved : Batch where
  start := .int 0
  rows := [[.text "a"], [.text (String.ofList [Text.half 0x40000 0xD800])]]
  halves := some 0x40000

theorem failed_write_keeps_row :
    (∃ a s, opened.run [.act (.write overlong), .close] = ([a], s) ∧ a.returned = false ∧ s.rowsWritten = 0 ∧
      s.reading = some [Schema.names.map String.toList, ["1".toList]]) ∧
    ∃ a s, opened.run [.act (.write halved), .close] = ([a], s) ∧ a.returned = false ∧ s.rowsWritten = 0 ∧
      s.reading = some [Schema.names.map String.toList, ["a".toList]] := by
  have hkept (b : Batch) (hb : Plain b) (hfits : ¬ Fits b) :
      ∃ a s, opened.run [.act (.write b), .close] = ([a], s) ∧ a.returned = false ∧ s.rowsWritten = 0 ∧
        s.reading = some (Schema.names.map String.toList :: recordsOf (fitting b)) := by
    obtain ⟨hall, _⟩ | ⟨_, f, he⟩ := attempt_open (s := opened) hb rfl
    · exact absurd hall hfits
    · have hholds := (Ledger.opened.attempt hb).close.accounts.holds (by simpa [attempt] using hb)
      refine ⟨opened.attempt b, (opened.attempt b).after.close, by simp [run, perform], by rw [he]; rfl, ?_, ?_⟩
      · rw [he]
        rfl
      · rw [hholds.closed (by simp [close]), he]
        simp [Attempt.kept, opened]
  have hplain (n : Int) : Plain { start := .int 0, rows := [[.int 1], [.int n]] } := ⟨by simp, by simp [IsPlain]⟩
  constructor
  · obtain ⟨a, s, hrun, hreturned, hrows, hread⟩ := hkept overlong (hplain _) (by unfold Fits; decide +kernel)
    exact ⟨a, s, hrun, hreturned, hrows, hread.trans (by decide +kernel)⟩
  · obtain ⟨a, s, hrun, hreturned, hrows, hread⟩ := hkept halved
      ⟨by simp [halved, Text.halfPlaces]; decide +kernel, by simp [halved, IsPlain]⟩ (by unfold Fits; decide +kernel)
    exact ⟨a, s, hrun, hreturned, hrows, hread.trans (by decide +kernel)⟩

end LogMill.FileSink
