import LogMill.Proofs.Row.Fitting

/-!
Ranges that go beyond the run: iterating ends at the end of the range or, where no rows are left before that, stands
still and gives empty batches from then on.
-/

namespace LogMill

open Outcome
open Producer (numbers)

namespace Producer

variable {p : Producer} {start count : Int} {b : Batch}

theorem rows_eq_nil {low high : Int} (h : high ≤ low) (p : Producer) : p.rows low high = .ok [] := by
  have hroom : ¬ room < high - low := by
    have : (0 : Int) ≤ room := by decide
    omega
  have hindex : ¬ Value.maxIndex < high - low := by
    have : (0 : Int) ≤ Value.maxIndex := by decide
    omega
  simp only [rows, hindex, hroom, ↓reduceIte, numbers_eq_nil h]
  rfl

theorem batch_beyond (hstart : 0 ≤ start) (hcount : 0 ≤ count) (h : p.rowCount ≤ start) :
    p.batch start count = .ok ⟨.int start, [], p.halves⟩ :=
  (batch_eq_ok hstart hcount).mpr ⟨[], rows_eq_nil (by omega) p, rfl⟩

theorem size_of_batch (h : p.batch start count = .ok b) :
    (b.size : Int) = max 0 (min (start + count) p.rowCount - start) := by
  unfold batch at h
  split_ifs at h
  simp only [map_eq_ok] at h
  obtain ⟨rows, hrows, rfl⟩ := h
  obtain ⟨-, -, hm⟩ := rows_eq_ok.mp hrows
  rw [Batch.size, mapM_length hm, length_numbers]
  omega

theorem batch_congr {count' : Int} (hcount : 0 ≤ count) (hcount' : 0 ≤ count')
    (h : min (start + count) p.rowCount = min (start + count') p.rowCount) (hstart : 0 ≤ start) :
    p.batch start count = p.batch start count' := by
  have hvalid : ¬(start < 0 ∨ count < 0) := by omega
  have hvalid' : ¬(start < 0 ∨ count' < 0) := by omega
  simp only [batch, hvalid, hvalid', ↓reduceIte, h]

structure Yields (p : Producer) (batchSize low high : Int) : Prop where
  rows : ∀ n, low ≤ n → n < high → ∃ cells, p.row n = .ok cells
  room : min batchSize (high - low) ≤ room

structure Builtin (p : Producer) (pools : PoolSet) (base : Int) : Prop where
  size_pos : 0 < pools.size
  pools_eq : ∃ seed, pools.pools = Category.all.map (PoolSet.poolFor seed pools.size)
  feeds_eq : Feed.all pools .builtin (.int base) = .ok p.feeds

theorem Builtin.exists_row_iff {pools : PoolSet} {base : Int} (h : p.Builtin pools base) (n : Int) :
    (∃ cells, p.row n = .ok cells) ↔
      (base + n).natAbs < Nat.pow 10 Whole.maxDigits ∧ n.natAbs < Nat.pow 10 Whole.maxDigits := by
  obtain ⟨seed, hpools⟩ := h.pools_eq
  have hready : (Generator.ofRange { p with rowCount := 1 } pools 1 0 none).Ready .builtin (.int base) seed :=
    ⟨zero_lt_one, zero_lt_one, ⟨rfl, rfl, rfl⟩, h.size_pos, hpools, h.feeds_eq⟩
  constructor
  · rintro ⟨cells, hrow⟩
    obtain ⟨v, -, hvalue⟩ := hready.exists_own_cell hrow (c := ⟨"log_uid", .text 64⟩) (by decide) (by decide) rfl
    simp only [Rule.forUids, Rule.value, Rule.uidOf, mapError_eq_ok, map_eq_ok, bind_eq_ok] at hvalue
    obtain ⟨_, ⟨_, htime, _, hn, -⟩, -⟩ := hvalue
    exact ⟨Whole.lt_limit_of_text htime, Whole.lt_limit_of_text hn⟩
  · rintro ⟨htime, hn⟩
    exact hready.exists_short_row htime hn

theorem Builtin.yields_iff {pools : PoolSet} {base batchSize low high : Int} (h : p.Builtin pools base) :
    p.Yields batchSize low high ↔
      (∀ n, low ≤ n → n < high →
        (base + n).natAbs < Nat.pow 10 Whole.maxDigits ∧ n.natAbs < Nat.pow 10 Whole.maxDigits) ∧
      min batchSize (high - low) ≤ room := by
  constructor
  · intro hy
    exact ⟨fun n hlow hhigh => (h.exists_row_iff n).mp (hy.rows n hlow hhigh), hy.room⟩
  · rintro ⟨hshort, hroom⟩
    exact ⟨fun n hlow hhigh => (h.exists_row_iff n).mpr (hshort n hlow hhigh), hroom⟩

end Producer

namespace Generator

def nextFor : Nat → Generator → Except Producer.Fault (List (Option Batch) × Generator)
  | 0, g => .ok ([], g)
  | k + 1, g => do
    let (b, g) ← g.next
    let (bs, g) ← nextFor k g
    return (b :: bs, g)

def Ends (g : Generator) : Prop := ∃ k bs g', g.nextFor k = .ok (bs, g') ∧ none ∈ bs

variable {g g' : Generator} {b : Batch}

theorem Ready.builtin {base : Int} {seed : Value} (h : g.Ready .builtin (.int base) seed) :
    g.producer.Builtin g.pools base :=
  ⟨h.size_pos, ⟨seed, h.pools⟩, h.feeds⟩

theorem nextFor_succ {x : Option Batch} (h : g.next = .ok (x, g')) (k : Nat) :
    g.nextFor (k + 1) = (g'.nextFor k).map fun (bs, last) => (x :: bs, last) := by
  simp only [nextFor, h, bind, Except.bind]
  cases g'.nextFor k <;> rfl

theorem nextFor_of_still {x : Option Batch} (h : g.next = .ok (x, g)) (k : Nat) :
    g.nextFor k = .ok (List.replicate k x, g) := by
  induction k with
  | zero => rfl
  | succ k ih =>
    rw [nextFor_succ h, ih]
    rfl

theorem next_eq_some (h : g.next = .ok (some b, g')) : g.cursor < g.stop ∧
    g.producer.batch g.cursor (min g.batchSize g.remaining) = .ok b ∧ g' = { g with cursor := g.cursor + b.size } := by
  unfold next at h
  split_ifs at h with hs
  · simp at h
  · split at h
    · rename_i b' hb
      simp only [Except.ok.injEq, Prod.mk.injEq, Option.some.injEq] at h
      obtain ⟨rfl, rfl⟩ := h
      exact ⟨Int.not_le.mp hs, hb, rfl⟩
    · simp at h

theorem next_eq_self (h : g.next = .ok (some b, g')) (hb : b.rows = []) : g' = g := by
  rw [(next_eq_some h).2.2, Batch.size, hb]
  simp

theorem ends_of_none (h : g.next = .ok (none, g')) : g.Ends :=
  ⟨1, [none], g', by rw [nextFor_succ h]; rfl, List.mem_singleton_self _⟩

theorem not_ends_of_error {f : Producer.Fault} (h : g.next = .error f) : ¬ g.Ends := by
  rintro ⟨k, bs, last, hk, hmem⟩
  cases k with
  | zero =>
    cases hk
    simp at hmem
  | succ k => simp [nextFor, h, bind, Except.bind] at hk

theorem ends_iff_of_some (h : g.next = .ok (some b, g')) : g.Ends ↔ g'.Ends := by
  constructor
  · rintro ⟨k, bs, last, hk, hmem⟩
    cases k with
    | zero =>
      cases hk
      simp at hmem
    | succ k =>
      rw [nextFor_succ h] at hk
      simp only [map_eq_ok, Prod.mk.injEq] at hk
      obtain ⟨⟨cs, last'⟩, hcs, rfl, rfl⟩ := hk
      exact ⟨k, cs, last', hcs, by simpa using hmem⟩
  · rintro ⟨k, bs, last, hk, hmem⟩
    exact ⟨k + 1, some b :: bs, last, by rw [nextFor_succ h, hk]; rfl, List.mem_cons_of_mem _ hmem⟩

theorem ends_iff_drain (g : Generator) : g.Ends ↔ g.drain.2.1 = .ended := by
  induction g using drain.induct with
  | case1 g g' hn => simp [drain_of_none hn, ends_of_none hn]
  | case2 g f hn => simp [drain_of_error hn, not_ends_of_error hn]
  | case3 g b g' hn hb =>
    obtain rfl := next_eq_self hn hb
    simp only [drain_of_empty hn hb, reduceCtorEq, iff_false]
    rintro ⟨k, bs, last, hk, hmem⟩
    rw [nextFor_of_still hn, Except.ok.injEq, Prod.mk.injEq] at hk
    obtain ⟨rfl, -⟩ := hk
    simp at hmem
  | case4 g b g' hn hb bs course last hd ih => rw [ends_iff_of_some hn, drain_of_some hn hb, ih]

theorem nextFor_drain (g : Generator) : g.nextFor g.drain.1.length = .ok (g.drain.1.map some, g.drain.2.2) := by
  induction g using drain.induct with
  | case1 g g' hn =>
    rw [drain_of_none hn, (next_eq_none hn).2]
    rfl
  | case2 g f hn =>
    rw [drain_of_error hn]
    rfl
  | case3 g b g' hn hb =>
    rw [drain_of_empty hn hb, next_eq_self hn hb]
    rfl
  | case4 g b g' hn hb bs course last hd ih =>
    rw [drain_of_some hn hb, List.length_cons, nextFor_succ hn, ih]
    rfl

theorem stop_le_of_ends (h : g.Ends) : g.stop ≤ max g.cursor g.producer.rowCount := by
  rw [ends_iff_drain] at h
  induction g using drain.induct with
  | case1 g g' hn =>
    have := (next_eq_none hn).1
    omega
  | case2 g f hn => simp [drain_of_error hn] at h
  | case3 g b g' hn hb => simp [drain_of_empty hn hb] at h
  | case4 g b g' hn hb bs course last hd ih =>
    obtain ⟨hless, hbatch, rfl⟩ := next_eq_some hn
    have hsize := Producer.size_of_batch hbatch
    rw [drain_of_some hn hb] at h
    have := ih h
    dsimp only at this
    omega

theorem next_beyond (hcursor : 0 ≤ g.cursor) (hb : 0 ≤ g.batchSize) (hn : g.producer.rowCount ≤ g.cursor)
    (hs : g.cursor < g.stop) : g.next = .ok (some ⟨.int g.cursor, [], g.producer.halves⟩, g) := by
  have hcount : 0 ≤ min g.batchSize g.remaining := by
    simp only [remaining]
    omega
  rw [next_of_batch hs (Producer.batch_beyond hcursor hcount hn)]
  simp [Batch.size]

theorem Bounded.drain_ended_iff (hg : g.Bounded) :
    g.drain.2.1 = .ended ↔ g.producer.Yields g.batchSize g.cursor g.stop := by
  constructor
  · intro h
    refine ⟨fun n hlow hhigh => ?_, ?_⟩
    · exact exists_mapM_iff.mp ⟨_, (hg.covers_drain h).rows⟩ n (Producer.mem_numbers.mpr ⟨hlow, hhigh⟩)
    · by_cases hs : g.cursor < g.stop
      · have hpos := hg.batchSize_pos
        have hstart := hg.start_nonneg
        have hcursor := hg.start_le_cursor
        cases hn : g.next with
        | error f => simp [drain_of_error hn] at h
        | ok x =>
          obtain ⟨_ | b, g'⟩ := x
          · have := (next_eq_none hn).1
            omega
          · obtain ⟨-, hbatch, -⟩ := next_eq_some hn
            obtain ⟨rows, hrows, -⟩ := (Producer.batch_eq_ok (by omega) (by simp only [remaining]; omega)).mp hbatch
            rw [hg.count_eq] at hrows
            have := (Producer.rows_eq_ok.mp hrows).2.1
            simp only [remaining] at this
            omega
      · have : (0 : Int) ≤ Producer.room := by decide
        omega
  · intro h
    exact hg.drain_ended h.room h.rows

theorem Bounded.drain_beyond (hg : g.Bounded) (hn : g.stop = g.producer.rowCount) (h : g.drain.2.1 = .ended)
    {stop : Int} (hs : g.stop < stop) :
    ({ g with stop } : Generator).drain = (g.drain.1, .stuck, { g with stop, cursor := g.stop }) := by
  induction g using drain.induct with
  | case1 g g' hnext =>
    have hpos := hg.batchSize_pos
    have hstart := hg.start_nonneg
    have hlow := hg.start_le_cursor
    have hcursor : g.cursor = g.stop := le_antisymm hg.cursor_le_stop (next_eq_none hnext).1
    have hstill := next_beyond (g := { g with stop }) (by dsimp only; omega) (by dsimp only; omega)
      (by dsimp only; omega) (by dsimp only; omega)
    rw [drain_of_none hnext, drain_of_empty hstill rfl, ← hcursor]
  | case2 g f hnext => simp [drain_of_error hnext] at h
  | case3 g b g' hnext hb => exact absurd hb ((hg.reads hnext).rows_ne_nil hg)
  | case4 g b g' hnext hb bs course last hd ih =>
    have hpos := hg.batchSize_pos
    have hstart := hg.start_nonneg
    have hlow := hg.start_le_cursor
    have hr := hg.reads hnext
    obtain ⟨hless, hbatch, rfl⟩ := next_eq_some hnext
    have hnext' : ({ g with stop } : Generator).next = .ok (some b, { g with stop, cursor := g.cursor + b.size }) := by
      refine next_of_batch (g := { g with stop }) (by dsimp only; omega) ?_
      rw [← hbatch]
      apply Producer.batch_congr
      all_goals
        simp only [remaining]
        omega
    rw [drain_of_some hnext hb] at h
    rw [drain_of_some hnext' hb, drain_of_some hnext hb, ih (hr.bounded hg) hn h hs]

theorem next_drain (h : g.drain.2.1 = .ended) : g.drain.2.2.next = .ok (none, g.drain.2.2) := by
  induction g using drain.induct with
  | case1 g g' hn =>
    obtain ⟨-, rfl⟩ := next_eq_none hn
    rw [drain_of_none hn]
    exact hn
  | case2 g f hn => simp [drain_of_error hn] at h
  | case3 g b g' hn hb => simp [drain_of_empty hn hb] at h
  | case4 g b g' hn hb bs course last hd ih =>
    rw [drain_of_some hn hb] at h ⊢
    exact ih h

variable {p : Producer} {batchSize start stop : Int}

theorem bounded_ofRange (pools : PoolSet) (hb : 1 ≤ batchSize) (hs : 0 ≤ start) (hle : start ≤ stop)
    (hstop : stop ≤ p.rowCount) : (ofRange p pools batchSize start (some stop)).Bounded :=
  ⟨hs, le_refl _, hle, hstop, hb⟩

theorem ends_ofRange_iff (pools : PoolSet) (hb : 1 ≤ batchSize) (hs : 0 ≤ start) :
    (ofRange p pools batchSize start (some stop)).Ends ↔
      stop ≤ max start p.rowCount ∧ p.Yields batchSize start stop := by
  by_cases hle : stop ≤ start
  · have hends : (ofRange p pools batchSize start (some stop)).Ends := ends_of_none (next_of_exhausted hle)
    have hroom : (0 : Int) ≤ Producer.room := by decide
    exact iff_of_true hends ⟨by omega, fun n hlow hhigh => by omega, by omega⟩
  · by_cases hstop : stop ≤ p.rowCount
    · rw [ends_iff_drain, (bounded_ofRange pools hb hs (by omega) hstop).drain_ended_iff]
      exact (and_iff_right (by omega)).symm
    · refine iff_of_false (fun h => ?_) (by omega)
      have := stop_le_of_ends h
      simp only [ofRange, Option.getD_some] at this
      omega

theorem length_of_covers {bs : List Batch} (hg : g.Bounded) (hc : g.Covers bs) :
    (bs.length : Int) = -Int.fdiv (-max 0 (g.stop - g.cursor)) g.batchSize := by
  rw [max_eq_right (by have := hg.cursor_le_stop; omega)]
  exact hc.length_eq hg

theorem ofRange_within (pools : PoolSet) (hb : 1 ≤ batchSize) (hs : 0 ≤ start) (hstop : stop ≤ max start p.rowCount)
    (hy : p.Yields batchSize start (min stop p.rowCount)) :
    let g := ofRange p pools batchSize start (some stop)
    ∃ bs last, g.nextFor bs.length = .ok (bs.map some, last) ∧
      (ofRange p pools batchSize start (some (min stop p.rowCount))).Covers bs ∧
      g.drain = (bs, .ended, last) ∧ last.next = .ok (none, last) ∧
      (bs.length : Int) = -Int.fdiv (-max 0 (stop - start)) batchSize := by
  intro g
  rcases le_or_gt stop start with hnone | hsome
  · have hexhausted : g.next = .ok (none, g) := next_of_exhausted hnone
    refine ⟨[], g, rfl, Covers.nil (by simp only [ofRange, Option.getD_some]; omega), drain_of_none hexhausted,
      hexhausted, ?_⟩
    rw [max_eq_left (by omega)]
    simp
  · have hend : stop ≤ p.rowCount := by omega
    rw [min_eq_left hend] at hy ⊢
    have hg : g.Bounded := bounded_ofRange pools hb hs hsome.le hend
    have hended := hg.drain_ended_iff.mpr hy
    have hcovers := hg.covers_drain hended
    exact ⟨_, _, g.nextFor_drain, hcovers, by rw [← hended], next_drain hended, length_of_covers hg hcovers⟩

theorem ofRange_beyond (pools : PoolSet) (hb : 1 ≤ batchSize) (hs : 0 ≤ start) (hstop : max start p.rowCount < stop)
    (hy : p.Yields batchSize start p.rowCount) :
    let g := ofRange p pools batchSize start (some stop)
    ∃ bs last, g.nextFor bs.length = .ok (bs.map some, last) ∧
      (ofRange p pools batchSize start (some p.rowCount)).Covers bs ∧ g.drain = (bs, .stuck, last) ∧
      (bs.length : Int) = -Int.fdiv (-max 0 (p.rowCount - start)) batchSize ∧
      ∀ k, last.nextFor k =
        .ok (List.replicate k (some ⟨.int (max start p.rowCount), [], p.halves⟩), last) := by
  intro g
  obtain ⟨hstart, hend⟩ := max_lt_iff.mp hstop
  have hbatch : 0 ≤ batchSize := by omega
  rcases le_or_gt p.rowCount start with hnone | hsome
  · have hstill : g.next = _ := next_beyond hs hbatch hnone hstart
    refine ⟨[], g, rfl, Covers.nil hnone, drain_of_empty hstill rfl, ?_, ?_⟩
    · rw [max_eq_left (by omega)]
      simp
    · rw [max_eq_left hnone]
      exact nextFor_of_still hstill
  · have hc := bounded_ofRange pools hb hs hsome.le (le_refl p.rowCount)
    have hended := hc.drain_ended_iff.mpr hy
    have hcovers := hc.covers_drain hended
    have hdrain : g.drain = (_, .stuck, { g with cursor := p.rowCount }) := hc.drain_beyond rfl hended hend
    have hstill : ({ g with cursor := p.rowCount } : Generator).next = _ :=
      next_beyond (hs.trans hsome.le) hbatch le_rfl hend
    have hgives := g.nextFor_drain
    rw [hdrain] at hgives
    refine ⟨_, _, hgives, hcovers, hdrain, length_of_covers hc hcovers, ?_⟩
    rw [max_eq_right hsome.le]
    exact nextFor_of_still hstill

end Generator

open Generator

/-- Iterating a range comes to the end exactly if the range ends within the run, or before it begins, and its rows can
be made. It gives the rows up to the end of the range or of the run, in the least number of batches. Where the range
goes on after the run, every further call gives one and the same batch without rows. -/
theorem iterating_ends_iff (p : Producer) (pools : PoolSet) {batchSize start : Int} (hb : 1 ≤ batchSize)
    (hs : 0 ≤ start) (stop : Int) :
    let g := ofRange p pools batchSize start (some stop)
    (g.Ends ↔ stop ≤ max start p.rowCount ∧ p.Yields batchSize start stop) ∧
    (∀ base, p.Builtin pools base → ∀ high, p.Yields batchSize start high ↔
      (∀ n, start ≤ n → n < high →
        (base + n).natAbs < Nat.pow 10 Whole.maxDigits ∧ n.natAbs < Nat.pow 10 Whole.maxDigits) ∧
      min batchSize (high - start) ≤ Producer.room) ∧
    (p.Yields batchSize start (min stop p.rowCount) → ∃ bs last,
      g.nextFor bs.length = .ok (bs.map some, last) ∧
      (ofRange p pools batchSize start (some (min stop p.rowCount))).Covers bs ∧
      (stop ≤ max start p.rowCount →
        g.drain = (bs, .ended, last) ∧ last.next = .ok (none, last) ∧
        (bs.length : Int) = -Int.fdiv (-max 0 (stop - start)) batchSize) ∧
      (max start p.rowCount < stop →
        g.drain = (bs, .stuck, last) ∧
        (bs.length : Int) = -Int.fdiv (-max 0 (p.rowCount - start)) batchSize ∧
        (numbers start p.rowCount).mapM p.row = .ok (bs.flatMap Batch.rows) ∧
        ∀ k, last.nextFor k =
          .ok (List.replicate k (some ⟨.int (max start p.rowCount), [], p.halves⟩), last))) := by
  refine ⟨ends_ofRange_iff pools hb hs, fun base hbuiltin high => hbuiltin.yields_iff, fun hy => ?_⟩
  rcases le_or_gt stop (max start p.rowCount) with hwithin | hbeyond
  · obtain ⟨bs, last, hgives, hcovers, hends⟩ := ofRange_within pools hb hs hwithin hy
    exact ⟨bs, last, hgives, hcovers, fun _ => hends, fun h => absurd hwithin h.not_ge⟩
  · rw [min_eq_right (by omega)] at hy ⊢
    obtain ⟨bs, last, hgives, hcovers, hdrain, hlength, hstill⟩ := ofRange_beyond pools hb hs hbeyond hy
    exact ⟨bs, last, hgives, hcovers, fun h => absurd h hbeyond.not_ge,
      fun _ => ⟨hdrain, hlength, hcovers.rows, hstill⟩⟩

theorem iterating_ends_iff_beyond : ∃ g notes,
    ({ rowCount := .int 7, batchSize := .int 3 } : Settings).configure .idle = (.ok g, notes) ∧
      (ofRange g.producer g.pools 3 2 (some 7)).Ends ∧ ¬ (ofRange g.producer g.pools 3 2 (some 10)).Ends ∧
      ∃ (bs : List Batch) (last : Generator),
        (ofRange g.producer g.pools 3 2 (some 10)).nextFor 2 = .ok (bs.map some, last) ∧
        (numbers 2 7).mapM g.producer.row = .ok (bs.flatMap Batch.rows) ∧
        ∀ k, last.nextFor k = .ok (List.replicate k (some ⟨.int 7, [], g.producer.halves⟩), last) := by
  obtain ⟨g, notes, hs, hrows, -⟩ := Settings.exists_configure (w := .idle)
    (s := { rowCount := .int 7, batchSize := .int 3 }) rfl rfl World.ofSeconds_idle
  obtain ⟨table, seed, htable, hready⟩ := Settings.configure_eq_ok hs
  obtain rfl : Table.builtin = table := Except.ok.inj htable
  have hwithin := iterating_ends_iff g.producer g.pools (show 1 ≤ (3 : Int) by decide) (show 0 ≤ (2 : Int) by decide) 7
  have hbeyond := iterating_ends_iff g.producer g.pools (show 1 ≤ (3 : Int) by decide) (show 0 ≤ (2 : Int) by decide) 10
  simp only [hrows] at hwithin hbeyond
  have hyields : g.producer.Yields 3 2 7 := by
    refine (hwithin.2.1 1700000000000 hready.builtin 7).mpr ⟨fun n hlow hhigh => ⟨?_, ?_⟩, by decide⟩
    all_goals exact Whole.lt_limit (k := 13) (by omega) (by decide)
  obtain ⟨bs, last, hgives, -, -, hstill⟩ := hbeyond.2.2 hyields
  obtain ⟨-, hlength, hread, hrest⟩ := hstill (by decide)
  have htwo : bs.length = 2 := by
    have : -Int.fdiv (-max 0 (7 - 2)) 3 = 2 := by decide
    omega
  rw [htwo] at hgives
  refine ⟨g, notes, hs, hwithin.1.mpr ⟨by decide, hyields⟩, fun h => ?_, bs, last, hgives, hread, hrest⟩
  exact absurd (hbeyond.1.mp h).1 (by decide)

theorem vast_range_not_ended : ∃ g notes,
    ({ rowCount := .int 0x8000000000000000, batchSize := .int 1, seed := .int 1 } : Settings).configure .idle =
        (.ok g, notes) ∧
      g.producer.Builtin g.pools 1700000000000 ∧ 0x8000000000000000 ≤ max 0 g.producer.rowCount ∧
      ¬ (ofRange g.producer g.pools 0x8000000000000000 0 (some 0x8000000000000000)).Ends := by
  obtain ⟨g, notes, hs, hrows, -⟩ := Settings.exists_configure (w := .idle)
    (s := { rowCount := .int 0x8000000000000000, batchSize := .int 1, seed := .int 1 }) rfl rfl World.ofSeconds_idle
  obtain ⟨table, seed, htable, hready⟩ := Settings.configure_eq_ok hs
  obtain rfl : Table.builtin = table := Except.ok.inj htable
  refine ⟨g, notes, hs, hready.builtin, by omega, fun hends => ?_⟩
  have hroom := ((ends_ofRange_iff g.pools (by decide) le_rfl).mp hends).2.room
  exact absurd hroom (by decide)

end LogMill
