import LogMill.Row.Generator
import LogMill.Proofs.Outcome
import Mathlib.Algebra.GroupWithZero.Nat
import Mathlib.Data.List.Nodup

namespace LogMill

open Outcome

namespace Producer

theorem mem_numbers {n a b : Int} : n ∈ numbers a b ↔ a ≤ n ∧ n < b := by
  simp only [numbers, List.mem_map, List.mem_range]
  constructor
  · rintro ⟨i, hi, rfl⟩
    omega
  · intro h
    exact ⟨(n - a).toNat, by omega, by omega⟩

@[simp] theorem length_numbers (a b : Int) : (numbers a b).length = (b - a).toNat := by simp [numbers]

theorem numbers_eq_nil {a b : Int} (h : b ≤ a) : numbers a b = [] := by
  simp [numbers, Int.toNat_of_nonpos (by omega : b - a ≤ 0)]

theorem numbers_append {a b c : Int} (h : a ≤ b) (h' : b ≤ c) : numbers a b ++ numbers b c = numbers a c := by
  have hs : (c - a).toNat = (b - a).toNat + (c - b).toNat := by omega
  simp only [numbers, hs, List.range_add, List.map_append, List.map_map, Function.comp_def]
  congr 1
  apply List.map_congr_left
  intro i _
  omega

theorem getElem?_numbers {a b : Int} {i : Nat} (h : a + i < b) : (numbers a b)[i]? = some (a + i) := by
  have hi : i < (b - a).toNat := by omega
  simp [numbers, hi]

theorem nodup_numbers (a b : Int) : (numbers a b).Nodup := by
  apply List.Nodup.map _ List.nodup_range
  intro i j h
  dsimp only at h
  omega

theorem rows_eq_ok {p : Producer} {a b : Int} {rows : List Cells} :
    p.rows a b = .ok rows ↔ b - a ≤ Value.maxIndex ∧ b - a ≤ room ∧ (numbers a b).mapM p.row = .ok rows := by
  unfold Producer.rows
  split_ifs with h h'
  · simp only [false_iff]
    omega
  · simp only [false_iff]
    omega
  · simp only [mapError_eq_ok]
    exact ⟨fun h => ⟨by omega, by omega, h⟩, fun h => h.2.2⟩

theorem batch_eq_ok {p : Producer} {start count : Int} {b : Batch} (hs : 0 ≤ start) (hc : 0 ≤ count) :
    p.batch start count = .ok b ↔
      ∃ rows, p.rows start (min (start + count) p.rowCount) = .ok rows ∧ ⟨.int start, rows, p.halves⟩ = b := by
  have h : ¬(start < 0 ∨ count < 0) := by omega
  simp only [batch, h, ↓reduceIte, map_eq_ok]

theorem batch_halves {p : Producer} {start count : Int} {b : Batch} (h : p.batch start count = .ok b) :
    b.halves = p.halves := by
  unfold batch at h
  split_ifs at h
  simp only [map_eq_ok] at h
  obtain ⟨_, _, rfl⟩ := h
  rfl

end Producer

open Producer (numbers)

def Contiguous : Int → List Batch → Prop
  | _, [] => True
  | n, b :: bs => b.start = .int n ∧ Contiguous (n + b.size) bs

namespace Batch

def numbers (b : Batch) : List Int :=
  match b.start with
  | .int n => Producer.numbers n (n + b.size)
  | _ => []

def MadeBy (b : Batch) (p : Producer) : Prop := b.numbers.mapM p.row = .ok b.rows

theorem MadeBy.exists_start {p : Producer} {b : Batch} (h : b.MadeBy p) (hrows : b.rows ≠ []) :
    ∃ n, b.start = .int n ∧ n ∈ b.numbers := by
  have hlength : b.numbers.length = b.size := (mapM_length h).symm
  have hpos : 0 < b.size := List.length_pos_iff.mpr hrows
  unfold Batch.numbers at hlength ⊢
  split at hlength
  · rename_i n hn
    simp only [hn]
    exact ⟨n, rfl, Producer.mem_numbers.mpr (by omega)⟩
  · simp at hlength
    omega

end Batch

theorem Contiguous.numbers_eq {n : Int} {bs : List Batch} (h : Contiguous n bs) :
    bs.flatMap Batch.numbers = numbers n (n + (bs.map Batch.size).sum) := by
  induction bs generalizing n with
  | nil => simp [Producer.numbers_eq_nil]
  | cons b bs ih =>
    obtain ⟨hstart, hrest⟩ := h
    rw [List.flatMap_cons, ih hrest, List.map_cons, List.sum_cons, Batch.numbers, hstart]
    rw [Producer.numbers_append (by omega) (by omega)]
    congr 1
    push_cast
    omega

namespace Generator

structure Bounded (g : Generator) : Prop where
  start_nonneg : 0 ≤ g.start
  start_le_cursor : g.start ≤ g.cursor
  cursor_le_stop : g.cursor ≤ g.stop
  stop_le_rowCount : g.stop ≤ g.producer.rowCount
  batchSize_pos : 0 < g.batchSize

structure Reads (g : Generator) (b : Batch) (g' : Generator) : Prop where
  unread : g.cursor < g.stop
  start_eq : b.start = .int g.cursor
  size_eq : (b.size : Int) = min g.batchSize g.remaining
  rows_eq : (numbers g.cursor (g.cursor + b.size)).mapM g.producer.row = .ok b.rows
  after_eq : g' = { g with cursor := g.cursor + b.size }

variable {g g' : Generator}

theorem next_eq_none {x : Generator} (h : g.next = .ok (none, x)) : g.stop ≤ g.cursor ∧ x = g := by
  unfold next at h
  split_ifs at h with hs
  · simp only [Except.ok.injEq, Prod.mk.injEq, true_and] at h
    exact ⟨hs, h.symm⟩
  · split at h <;> simp at h

theorem next_of_exhausted (h : g.stop ≤ g.cursor) : g.next = .ok (none, g) := by simp [next, h]

theorem Bounded.count_eq (hg : g.Bounded) :
    min (g.cursor + min g.batchSize g.remaining) g.producer.rowCount =
      g.cursor + min g.batchSize g.remaining := by
  have := hg.stop_le_rowCount
  simp only [remaining]
  omega

theorem Bounded.reads (hg : g.Bounded) {b : Batch} (h : g.next = .ok (some b, g')) : g.Reads b g' := by
  have hpos := hg.batchSize_pos
  have hstart := hg.start_nonneg
  have hcursor := hg.start_le_cursor
  unfold next at h
  split_ifs at h with hs
  · simp at h
  · split at h
    · rename_i b' hb
      simp only [Except.ok.injEq, Prod.mk.injEq, Option.some.injEq] at h
      obtain ⟨rfl, rfl⟩ := h
      obtain ⟨rows, hrows, rfl⟩ := (Producer.batch_eq_ok (by omega) (by simp only [remaining]; omega)).mp hb
      rw [hg.count_eq] at hrows
      obtain ⟨_, _, hm⟩ := Producer.rows_eq_ok.mp hrows
      have hsize : (rows.length : Int) = min g.batchSize g.remaining := by
        rw [mapM_length hm, Producer.length_numbers]
        simp only [remaining]
        omega
      refine ⟨by omega, rfl, hsize, ?_, rfl⟩
      simpa only [Batch.size, hsize] using hm
    · simp at h

theorem Reads.size_pos {b : Batch} (hg : g.Bounded) (h : g.Reads b g') : 0 < b.size := by
  have := h.size_eq
  have := h.unread
  have := hg.batchSize_pos
  simp only [remaining] at *
  omega

theorem Reads.rows_ne_nil {b : Batch} (hg : g.Bounded) (h : g.Reads b g') : b.rows ≠ [] :=
  List.length_pos_iff.mp (h.size_pos hg)

theorem Reads.bounded {b : Batch} (hg : g.Bounded) (h : g.Reads b g') : g'.Bounded := by
  have hsize := h.size_eq
  have hcursor := hg.start_le_cursor
  have hunread := h.unread
  simp only [remaining] at hsize
  rw [h.after_eq]
  exact ⟨hg.start_nonneg, by dsimp only; omega, by dsimp only; omega, hg.stop_le_rowCount, hg.batchSize_pos⟩

theorem next_of_batch {b : Batch} (hs : g.cursor < g.stop)
    (hb : g.producer.batch g.cursor (min g.batchSize g.remaining) = .ok b) :
    g.next = .ok (some b, { g with cursor := g.cursor + b.size }) := by
  simp only [next, Int.not_le.mpr hs, ↓reduceIte, hb]

theorem Bounded.exists_next (hg : g.Bounded) (hs : g.cursor < g.stop)
    (hroom : min g.batchSize g.remaining ≤ Producer.room)
    (hrows : ∀ n, g.cursor ≤ n → n < g.stop → ∃ cells, g.producer.row n = .ok cells) :
    ∃ b g', g.next = .ok (some b, g') := by
  have hpos := hg.batchSize_pos
  have hstart := hg.start_nonneg
  have hcursor := hg.start_le_cursor
  have hlimit : Producer.room ≤ Value.maxIndex := by decide
  obtain ⟨rows, hm⟩ : ∃ rows, (numbers g.cursor (g.cursor + min g.batchSize g.remaining)).mapM g.producer.row =
      .ok rows := by
    apply exists_mapM_ok
    intro n hn
    rw [Producer.mem_numbers] at hn
    simp only [remaining] at hn
    exact hrows n hn.1 (by omega)
  have hb : g.producer.batch g.cursor (min g.batchSize g.remaining) =
      .ok ⟨.int g.cursor, rows, g.producer.halves⟩ := by
    apply (Producer.batch_eq_ok (by omega) (by simp only [remaining]; omega)).mpr
    refine ⟨rows, ?_, rfl⟩
    rw [hg.count_eq]
    exact Producer.rows_eq_ok.mpr ⟨by omega, by omega, hm⟩
  exact ⟨_, _, next_of_batch hs hb⟩

theorem Bounded.next_of_last (hg : g.Bounded) (hlast : g.cursor + 1 = g.stop)
    (hrow : ∃ cells, g.producer.row g.cursor = .ok cells) :
    ∃ b g', g.next = .ok (some b, g') ∧ g'.next = .ok (none, g') := by
  have hpos := hg.batchSize_pos
  have hone : (1 : Int) ≤ Producer.room := by decide
  have hrows : ∀ n, g.cursor ≤ n → n < g.stop → ∃ cells, g.producer.row n = .ok cells := by
    intro n hlow hhigh
    obtain rfl : n = g.cursor := by omega
    exact hrow
  obtain ⟨b, g', hnext⟩ := hg.exists_next (by omega) (by simp only [remaining]; omega) hrows
  have hr := hg.reads hnext
  have hsize := hr.size_eq
  have hafter := hr.after_eq
  refine ⟨b, g', hnext, next_of_exhausted ?_⟩
  subst hafter
  simp only [remaining] at hsize ⊢
  omega

theorem drain_of_none (h : g.next = .ok (none, g')) : g.drain = ([], .ended, g') := by
  rw [drain]
  split <;> simp_all

theorem drain_of_error {f : Producer.Fault} (h : g.next = .error f) : g.drain = ([], .failed f, g) := by
  rw [drain]
  split <;> simp_all

theorem drain_of_some {b : Batch} (h : g.next = .ok (some b, g')) (hb : b.rows ≠ []) :
    g.drain = (b :: g'.drain.1, g'.drain.2) := by
  rw [drain]
  split <;> simp_all

theorem drain_of_empty {b : Batch} (h : g.next = .ok (some b, g')) (hb : b.rows = []) : g.drain = ([], .stuck, g') := by
  rw [drain]
  split <;> simp_all

/-- Batches that hold the unread rows of a generator, each row once and all in order. -/
structure Covers (g : Generator) (bs : List Batch) : Prop where
  contiguous : Contiguous g.cursor bs
  full : ∀ b ∈ bs.dropLast, (b.size : Int) = g.batchSize
  sizes : ∀ b ∈ bs, 0 < b.size ∧ (b.size : Int) ≤ g.batchSize
  made : ∀ b ∈ bs, b.MadeBy g.producer
  rows : (numbers g.cursor g.stop).mapM g.producer.row = .ok (bs.flatMap Batch.rows)

theorem Covers.nil (h : g.stop ≤ g.cursor) : g.Covers [] where
  contiguous := trivial
  full := by simp
  sizes := by simp
  made := by simp
  rows := by rw [Producer.numbers_eq_nil h]; rfl

theorem Covers.eq_nil {bs : List Batch} (hc : g.Covers bs) (h : g.stop ≤ g.cursor) : bs = [] := by
  have hrows := hc.rows
  rw [Producer.numbers_eq_nil h] at hrows
  have hflat : bs.flatMap Batch.rows = [] := by simpa [pure, Except.pure] using hrows.symm
  cases bs with
  | nil => rfl
  | cons b bs =>
    have hb := (hc.sizes b (by simp)).1
    simp only [List.flatMap_cons, List.append_eq_nil_iff] at hflat
    simp [Batch.size, hflat.1] at hb

theorem Covers.size_eq {bs : List Batch} (hc : g.Covers bs) : (bs.map Batch.size).sum = (g.stop - g.cursor).toNat := by
  have hlength := mapM_length hc.rows
  rw [Producer.length_numbers, List.length_flatMap] at hlength
  exact hlength

theorem Covers.numbers_eq {bs : List Batch} (hc : g.Covers bs) (hle : g.cursor ≤ g.stop) :
    bs.flatMap Batch.numbers = numbers g.cursor g.stop := by
  rw [hc.contiguous.numbers_eq, hc.size_eq]
  congr 1
  omega

theorem Reads.covers {b : Batch} {bs : List Batch} (hg : g.Bounded) (hr : g.Reads b g') (hc : g'.Covers bs) :
    g.Covers (b :: bs) := by
  have hsize := hr.size_eq
  have hunread := hr.unread
  have hpos := hr.size_pos hg
  have hafter := hr.after_eq
  simp only [remaining] at hsize
  subst hafter
  refine ⟨⟨hr.start_eq, hc.contiguous⟩, ?_, ?_, ?_, ?_⟩
  · intro c hcb
    by_cases hs : g.stop ≤ g.cursor + b.size
    · simp [hc.eq_nil hs] at hcb
    · cases bs with
      | nil => simp at hcb
      | cons b' bs =>
        rcases List.mem_cons.mp hcb with rfl | h
        · omega
        · exact hc.full c h
  · intro c hcb
    rcases List.mem_cons.mp hcb with rfl | h
    · omega
    · exact hc.sizes c h
  · intro c hcb
    rcases List.mem_cons.mp hcb with rfl | h
    · simp only [Batch.MadeBy, Batch.numbers, hr.start_eq]
      exact hr.rows_eq
    · exact hc.made c h
  · rw [← Producer.numbers_append (b := g.cursor + b.size) (by omega) (by omega), List.flatMap_cons]
    exact mapM_append_ok hr.rows_eq hc.rows

theorem Bounded.covers_drain (hg : g.Bounded) (h : g.drain.2.1 = .ended) : g.Covers g.drain.1 := by
  induction g using drain.induct with
  | case1 g g' hn =>
    rw [drain_of_none hn]
    exact .nil (next_eq_none hn).1
  | case2 g f hn => simp [drain_of_error hn] at h
  | case3 g b g' hn hb => exact absurd hb ((hg.reads hn).rows_ne_nil hg)
  | case4 g b g' hn hb bs course last hd ih =>
    have hr := hg.reads hn
    rw [drain_of_some hn hb] at h ⊢
    exact hr.covers hg (ih (hr.bounded hg) h)

theorem Bounded.exists_rows_drain (hg : g.Bounded) : ∃ k, g.cursor ≤ k ∧ k ≤ g.stop ∧
    (numbers g.cursor k).mapM g.producer.row = .ok (g.drain.1.flatMap Batch.rows) := by
  have hcursor := hg.cursor_le_stop
  induction g using drain.induct with
  | case1 g g' hn =>
    rw [drain_of_none hn]
    exact ⟨g.cursor, Int.le_refl _, hcursor, by rw [Producer.numbers_eq_nil (Int.le_refl _)]; rfl⟩
  | case2 g f hn =>
    rw [drain_of_error hn]
    exact ⟨g.cursor, Int.le_refl _, hcursor, by rw [Producer.numbers_eq_nil (Int.le_refl _)]; rfl⟩
  | case3 g b g' hn hb => exact absurd hb ((hg.reads hn).rows_ne_nil hg)
  | case4 g b g' hn hb bs course last hd ih =>
    have hr := hg.reads hn
    have hg' := hr.bounded hg
    obtain ⟨k, hlow, hhigh, hrows⟩ := ih hg' hg'.cursor_le_stop
    have hafter := hr.after_eq
    subst hafter
    dsimp only at hlow hhigh
    refine ⟨k, by omega, hhigh, ?_⟩
    rw [drain_of_some hn hb, List.flatMap_cons, ← Producer.numbers_append (b := g.cursor + b.size) (by omega) hlow]
    exact mapM_append_ok hr.rows_eq hrows

theorem Bounded.exists_row_of_mem_drain (hg : g.Bounded) {cells : Cells} (h : cells ∈ g.drain.1.flatMap Batch.rows) :
    ∃ n, g.cursor ≤ n ∧ n < g.stop ∧ g.producer.row n = .ok cells := by
  obtain ⟨k, hlow, hhigh, hrows⟩ := hg.exists_rows_drain
  obtain ⟨n, hn, hrow⟩ := exists_of_mem_mapM hrows h
  rw [Producer.mem_numbers] at hn
  exact ⟨n, hn.1, by omega, hrow⟩

theorem Bounded.row_of_drain (hg : g.Bounded) {i : Nat} {cells : Cells}
    (h : (g.drain.1.flatMap Batch.rows)[i]? = some cells) : g.producer.row (g.cursor + i) = .ok cells := by
  obtain ⟨k, hlow, hhigh, hrows⟩ := hg.exists_rows_drain
  have hi := (List.getElem?_eq_some_iff.mp h).1
  rw [mapM_length hrows, Producer.length_numbers] at hi
  obtain ⟨cells', hcells', hrow⟩ := mapM_getElem? hrows (Producer.getElem?_numbers (i := i) (by omega))
  rwa [Option.some.inj (h.symm.trans hcells')]

theorem Bounded.exists_head_drain (hg : g.Bounded) (hs : g.cursor < g.stop) (h : g.drain.2.1 = .ended) :
    ∃ b bs, g.drain.1 = b :: bs ∧ (b.size : Int) = min g.batchSize g.remaining := by
  cases hn : g.next with
  | error f => simp [drain_of_error hn] at h
  | ok x =>
    obtain ⟨_ | b, g'⟩ := x
    · have := (next_eq_none hn).1
      omega
    · have hr := hg.reads hn
      exact ⟨b, g'.drain.1, by rw [drain_of_some hn (hr.rows_ne_nil hg)], hr.size_eq⟩

theorem Bounded.drain_ended (hg : g.Bounded) (hroom : min g.batchSize g.remaining ≤ Producer.room)
    (hrows : ∀ n, g.cursor ≤ n → n < g.stop → ∃ cells, g.producer.row n = .ok cells) :
    g.drain.2.1 = .ended := by
  induction g using drain.induct with
  | case1 g g' hn => rw [drain_of_none hn]
  | case2 g f hn =>
    by_cases hs : g.cursor < g.stop
    · obtain ⟨b, g', hn'⟩ := hg.exists_next hs hroom hrows
      simp [hn] at hn'
    · simp [next_of_exhausted (Int.not_lt.mp hs)] at hn
  | case3 g b g' hn hb => exact absurd hb ((hg.reads hn).rows_ne_nil hg)
  | case4 g b g' hn hb bs course last hd ih =>
    have hr := hg.reads hn
    have hpos := hr.size_pos hg
    rw [drain_of_some hn hb]
    have hafter := hr.after_eq
    subst hafter
    apply ih (hr.bounded hg)
    · simp only [remaining] at hroom ⊢
      omega
    · intro n hlow hhigh
      simp only at hlow hhigh
      exact hrows n (by omega) hhigh

theorem Bounded.drain (hg : g.Bounded) : g.drain.2.2.Bounded := by
  induction g using drain.induct with
  | case1 g g' hn => rw [drain_of_none hn, (next_eq_none hn).2]; exact hg
  | case2 g f hn => rw [drain_of_error hn]; exact hg
  | case3 g b g' hn hb => exact absurd hb ((hg.reads hn).rows_ne_nil hg)
  | case4 g b g' hn hb bs course last hd ih =>
    rw [drain_of_some hn hb]
    exact ih ((hg.reads hn).bounded hg)

theorem halves_of_next {b : Batch} (h : g.next = .ok (some b, g')) :
    b.halves = g.producer.halves ∧ g'.producer = g.producer := by
  unfold next at h
  split_ifs at h
  · simp at h
  · split at h
    · rename_i hb
      simp only [Except.ok.injEq, Prod.mk.injEq, Option.some.injEq] at h
      obtain ⟨rfl, rfl⟩ := h
      exact ⟨Producer.batch_halves hb, rfl⟩
    · simp at h

theorem mem_drain {b : Batch} (h : b ∈ g.drain.1) :
    b.rows ≠ [] ∧ b.halves = g.producer.halves := by
  induction g using drain.induct with
  | case1 g g' hn => simp [drain_of_none hn] at h
  | case2 g f hn => simp [drain_of_error hn] at h
  | case3 g b' g' hn hb => simp [drain_of_empty hn hb] at h
  | case4 g b' g' hn hb bs course last hd ih =>
    obtain ⟨hhalves, hproducer⟩ := halves_of_next hn
    rw [drain_of_some hn hb] at h
    rcases List.mem_cons.mp h with rfl | h
    · exact ⟨hb, hhalves⟩
    · rw [← hproducer]
      exact ih h

end Generator

end LogMill
