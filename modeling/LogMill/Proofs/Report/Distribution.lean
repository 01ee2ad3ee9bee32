import LogMill.Proofs.Number.Period
import LogMill.Proofs.Report.Summary

namespace LogMill

open Outcome
open Producer (numbers)

namespace Level

def count (l : Level) (s : Int) (n : Nat) : Nat := Window.count (fun row => ofRow row = l) s n

def counts (s : Int) (n : Nat) : List (Level × Nat) := (all.map fun l => (l, l.count s n)).filter fun x => 0 < x.2

theorem ofRow_repeats (l : Level) : Window.Repeats (fun row => ofRow row = l) 100 := by
  intro row
  have hslot : ((row + (100 : Nat)) * 37 + 11) % 100 = (row * 37 + 11) % 100 := by omega
  simp only [ofRow, hslot]

theorem count_hundred (l : Level) : Window.count (fun row => ofRow row = l) 0 100 = l.weight := by
  cases l <;> decide

theorem count_discrepancy (l : Level) (s : Int) (n : Nat) :
    |100 * (l.count s n : Int) - l.weight * n| ≤ l.weight * (100 - l.weight) := by
  have hbound := l.ofRow_repeats.discrepancy s n
  rwa [count_hundred] at hbound

theorem count_hundreds (l : Level) (s : Int) {n : Nat} (h : 100 ∣ n) : l.count s n = l.weight * n / 100 := by
  obtain ⟨k, rfl⟩ := h
  rw [count, Nat.mul_comm 100 k, l.ofRow_repeats.count_periods, count_hundred, ← Nat.mul_assoc,
    Nat.mul_div_cancel _ (by decide), Nat.mul_comm]

theorem name_injective : Function.Injective name := by
  intro l l'
  cases l <;> cases l' <;> decide

theorem count_eq_countP (l : Level) (s : Int) (n : Nat) :
    l.count s n = (numbers s (s + n)).countP fun row => ofRow row = l := by
  have hlength : (s + n - s).toNat = n := by omega
  rw [numbers, hlength, List.countP_map]
  rfl

theorem sum_countP {α : Type} (level : α → Level) (xs : List α) :
    (all.map fun l => xs.countP fun x => level x = l).sum = xs.length := by
  induction xs with
  | nil => rfl
  | cons x xs ih =>
    simp only [all, List.map_cons, List.map_nil, List.sum_cons, List.sum_nil, List.countP_cons, List.length_cons,
      decide_eq_true_eq] at ih ⊢
    cases level x <;> simp <;> omega

theorem sum_counts (s : Int) (n : Nat) : ((counts s n).map Prod.snd).sum = n := by
  have hpositive : (counts s n).map Prod.snd = (all.map fun l => l.count s n).filter (· != 0) := by
    rw [counts, List.filter_map, List.filter_map, List.map_map]
    congr 1
    apply List.filter_congr
    intro l _
    rw [Function.comp_apply, Function.comp_apply, Bool.eq_iff_iff, decide_eq_true_eq, bne_iff_ne, Nat.pos_iff_ne_zero]
  rw [hpositive, List.sum_filter_bne_zero]
  simp only [count_eq_countP]
  rw [sum_countP, Producer.length_numbers]
  omega

end Level

theorem Sample.ofCells_set (cells : Cells) (time : Value) : ofCells (cells.set 0 time) = ofCells cells := by
  have hlevel : Schema.indexOf? "log_level" = some 3 := by decide
  have huid : Schema.indexOf? "log_uid" = some 1 := by decide
  have htime : Schema.indexOf? "response_time_ms" = some 19 := by decide
  have hmessage : Schema.indexOf? "log_message" = some 2 := by decide
  simp [ofCells, hlevel, huid, htime, hmessage]

namespace LevelSummary

variable {samples : List Sample} {ss : List LevelSummary}

theorem mem_levels (h : ∀ s ∈ samples, ∃ l, s.level = .text l) {v : Value} :
    v ∈ levels samples ↔ ∃ s ∈ samples, s.level = v := by
  -- Of the levels found before a row, one equals its own only if it is the same, as all are texts.
  have hfold (vs : List Value) (hvs : ∀ v ∈ vs, ∃ l, v = .text l) (samples : List Sample)
      (h : ∀ s ∈ samples, ∃ l, s.level = .text l) : v ∈ samples.foldl (fun vs s =>
        if SeriesType.isMissing s.level || vs.any s.level.equals then vs else s.level :: vs) vs ↔
          v ∈ vs ∨ ∃ s ∈ samples, s.level = v := by
    induction samples generalizing vs with
    | nil => simp
    | cons s samples ih =>
      obtain ⟨⟨l, hl⟩, hrest⟩ := List.forall_mem_cons.mp h
      rw [List.foldl_cons, List.exists_mem_cons_iff, ← or_assoc]
      split_ifs with hfound
      · have hmem : s.level ∈ vs := by
          simp only [hl, SeriesType.isMissing, Bool.false_or, List.any_eq_true] at hfound
          obtain ⟨u, hu, hequals⟩ := hfound
          obtain ⟨l', rfl⟩ := hvs u hu
          simp only [Value.equals, decide_eq_true_eq] at hequals
          rwa [hl, hequals]
        rw [ih vs hvs hrest]
        exact or_congr_left (iff_self_or.mpr fun hv => hv ▸ hmem)
      · rw [ih _ (List.forall_mem_cons.mpr ⟨⟨l, hl⟩, hvs⟩) hrest, List.mem_cons]
        exact or_congr_left (by rw [or_comm, eq_comm])
  rw [levels, List.mem_mergeSort, hfold [] (by simp) samples h]
  simp

variable {start : Int} {n : Nat}

structure Follow (samples : List Sample) (start : Int) (n : Nat) : Prop where
  levels_eq : samples.map Sample.level = (numbers start (start + n)).map fun row => .text (Level.ofRow row).name
  uids : ∀ s ∈ samples, SeriesType.isMissing s.uid = false

theorem all_eq_ok (h : all samples = .ok ss) : ∃ found : List ((Value × List Sample) × Double × Double),
    found.map (fun x => x.1.1) = levels samples ∧ ss = Level.all.filterMap fun l =>
      (found.find? fun x => x.1.1.equals (.text l.name)).map fun x => summarize samples l x.2.1 x.2.2 := by
  simp only [all] at h
  split at h
  · cases h
  · split at h
    · cases h
    · simp only [bind_eq_ok] at h
      obtain ⟨means, hmeans, lengths, hlengths, h⟩ := h
      refine ⟨_, ?_, (Except.ok.inj h).symm⟩
      have hlength : ((levels samples).map fun v => (v, ofLevel samples v)).length ≤ (means.zip lengths).length := by
        rw [List.length_zip, mapM_length hmeans, mapM_length hlengths, Nat.min_self]
      have hfirst := congrArg (List.map Prod.fst) (List.map_fst_zip hlength)
      rw [List.map_map, List.map_map] at hfirst
      exact hfirst.trans (List.map_id _)

namespace Follow

theorem texts (h : Follow samples start n) : ∀ s ∈ samples, ∃ l, s.level = .text l := by
  intro s hs
  have hmem := List.mem_map_of_mem (f := Sample.level) hs
  rw [h.levels_eq] at hmem
  obtain ⟨row, -, hlevel⟩ := List.mem_map.mp hmem
  exact ⟨_, hlevel.symm⟩

theorem exists_level_iff (h : Follow samples start n) (l : Level) :
    (∃ v ∈ levels samples, v.equals (.text l.name)) ↔ 0 < l.count start n := by
  rw [l.count_eq_countP, List.countP_pos_iff]
  constructor
  · rintro ⟨v, hv, hequals⟩
    obtain ⟨s, hs, rfl⟩ := (mem_levels h.texts).mp hv
    have hmem := List.mem_map_of_mem (f := Sample.level) hs
    rw [h.levels_eq] at hmem
    obtain ⟨row, hrow, hlevel⟩ := List.mem_map.mp hmem
    rw [← hlevel, Value.equals, decide_eq_true_eq, Level.name_injective.eq_iff] at hequals
    exact ⟨row, hrow, decide_eq_true hequals⟩
  · rintro ⟨row, hrow, hlevel⟩
    have hmem := List.mem_map_of_mem (f := fun row => Value.text (Level.ofRow row).name) hrow
    rw [← h.levels_eq, of_decide_eq_true hlevel] at hmem
    exact ⟨_, (mem_levels h.texts).mpr (List.mem_map.mp hmem), by simp [Value.equals]⟩

theorem countRows_eq (h : Follow samples start n) (l : Level) :
    countRows (ofLevel samples (.text l.name)) = l.count start n := by
  have huids : (ofLevel samples (.text l.name)).filter (fun s => !SeriesType.isMissing s.uid) =
      ofLevel samples (.text l.name) := by
    rw [List.filter_eq_self]
    intro s hs
    rw [h.uids s (List.mem_filter.mp hs).1]
    rfl
  have hcount : (samples.map Sample.level).countP (Value.text l.name).equals = l.count start n := by
    rw [h.levels_eq, List.countP_map, l.count_eq_countP]
    apply List.countP_congr
    intro row _
    simp [Value.equals, Level.name_injective.eq_iff, eq_comm]
  rw [countRows, huids, ofLevel, ← hcount, List.countP_map, ← List.countP_eq_length_filter]
  rfl

theorem counts_of_all (hfollow : Follow samples start n) (h : all samples = .ok ss) :
    ss.map (fun s => (s.level, s.rows)) = Level.counts start n := by
  obtain ⟨found, hfound, rfl⟩ := all_eq_ok h
  have hoccurs (l : Level) : (found.find? fun x => x.1.1.equals (.text l.name)).isSome ↔ 0 < l.count start n := by
    rw [← hfollow.exists_level_iff, ← hfound]
    simp
  rw [List.map_filterMap, Level.counts, List.filter_map, ← List.filterMap_eq_map, ← List.filterMap_eq_filter,
    List.filterMap_filterMap]
  apply List.filterMap_congr
  intro l _
  rw [Option.map_map]
  cases hfind : found.find? fun x => x.1.1.equals (.text l.name) with
  | none =>
    have hnone := (hoccurs l).not.mp (by rw [hfind]; decide)
    simp [Option.guard, hnone]
  | some x =>
    have hsome := (hoccurs l).mp (by rw [hfind]; rfl)
    simp [Option.guard, hsome, summarize, hfollow.countRows_eq]

end Follow

end LevelSummary

theorem Sample.clear_timeless {cells : Cells}
    (h : List.Forall₂ (fun c v => c.type = .timestamp ∨ c.type.Takes v) Schema.columns cells) : (ofCells cells).Clear := by
  obtain ⟨rest, hcolumns, hrest⟩ := Schema.head_columns
  rw [hcolumns] at h
  cases h with
  | @cons _ time _ cells _ hcells =>
    have htakes := Frame.takes_of_timeless hrest hcells
    have hclear : (ofCells (Frame.framed Schema.columns (.int 0 :: cells))).Clear := by
      apply clear_framed
      rw [hcolumns]
      exact .cons (.inr (by decide)) htakes
    rw [hcolumns] at hclear
    have hframed : Frame.framed (⟨"ts", .timestamp⟩ :: rest) (.int 0 :: cells) = (time :: cells).set 0 (.int 0) :=
      congrArg (List.cons _) (Frame.framed_self hrest htakes)
    rwa [hframed, ofCells_set] at hclear

namespace Batch

variable {b : Batch}

theorem levels_timeless (hne : b.rows ≠ []) (h : ∀ cells ∈ b.rows,
    List.Forall₂ (fun c v => c.type = .timestamp ∨ c.type.Takes v) Schema.columns cells) {ss : List LevelSummary} :
    b.levels = .ok ss ↔
      (∃ frame, Frame.ofRows b.rows = .ok frame) ∧ LevelSummary.all (b.rows.map Sample.ofCells) = .ok ss := by
  rw [levels, Frame.ofRows_timeless hne h]
  cases hconvert : Frame.convert .timestamp (Frame.column 0 b.rows) with
  | error f => simp [Except.map, Except.mapError, bind, Except.bind]
  | ok times =>
    have hlength : times.length = b.rows.length := by
      rw [Frame.length_convert hconvert, Frame.column, List.length_map]
    have hsamples : (Frame.withColumn 0 times b.rows).map Sample.ofCells = b.rows.map Sample.ofCells := by
      rw [Frame.withColumn, List.map_zipWith]
      simp only [Sample.ofCells_set]
      conv_rhs => rw [← List.map_fst_zip (le_of_eq hlength.symm), List.map_map]
      exact List.map_uncurry_zip_eq_zipWith.symm
    simp only [Except.map, Except.mapError, bind, Except.bind, hsamples]
    simp

theorem exists_levels_iff_frame (hne : b.rows ≠ []) (h : ∀ cells ∈ b.rows,
    List.Forall₂ (fun c v => c.type = .timestamp ∨ c.type.Takes v) Schema.columns cells) :
    (∃ ss, b.levels = .ok ss) ↔ ∃ frame, Frame.ofRows b.rows = .ok frame := by
  simp only [levels_timeless hne h, exists_and_left, and_iff_left_iff_imp]
  intro _
  apply LevelSummary.exists_all (by simpa using hne)
  intro s hs
  obtain ⟨cells, hcells, rfl⟩ := List.mem_map.mp hs
  exact Sample.clear_timeless (h cells hcells)

end Batch

namespace Generator.Ready

variable {g : Generator} {table : Table} {base seed : Value} {n : Int} {cells : Cells}

theorem level_cell (h : g.Ready table base seed) (hrow : g.producer.row n = .ok cells) :
    cells.cell? "log_level" = some (.text (Level.ofRow n).name) :=
  h.own_cell_eq hrow (c := ⟨"log_level", .text 8⟩) (by decide) (by decide) rfl rfl

theorem follow (h : g.Ready table base seed) {start : Int} {count : Nat} {rows : List Cells}
    (hrows : (numbers start (start + count)).mapM g.producer.row = .ok rows) :
    LevelSummary.Follow (rows.map Sample.ofCells) start count where
  levels_eq := by
    rw [List.map_map]
    apply map_eq_of_mapM hrows
    intro row _ cells hrow
    have hcell := h.level_cell hrow
    simp only [Cells.cell?] at hcell
    simp only [Function.comp_apply, Sample.ofCells, hcell, Option.getD_some]
  uids := by
    intro s hs
    obtain ⟨cells, hcells, rfl⟩ := List.mem_map.mp hs
    obtain ⟨row, -, hrow⟩ := exists_of_mem_mapM hrows hcells
    obtain ⟨time, huid⟩ := h.uid_eq hrow
    have hindex : Schema.indexOf? "log_uid" = some 1 := by decide
    simp only [Sample.ofCells, hindex, Option.bind_some, huid, Option.getD_some, SeriesType.isMissing]

end Generator.Ready

/-- Of any `n` rows that follow each other, each level has its share but for a deviation of the share times its
complement, in hundredths, and exactly its share of whole hundreds. A summary of a batch tells these numbers, of the levels
that occur, if there is a frame of the batch; with a whole number as the time of row zero, there is one exactly if it takes
all times of the batch. -/
theorem levels_mixed :
    (∀ (l : Level) (s : Int) (n : Nat), |100 * (l.count s n : Int) - l.weight * n| ≤ l.weight * (100 - l.weight) ∧
      (100 ∣ n → l.count s n = l.weight * n / 100)) ∧
    ∀ {s : Settings} {w : World} {g₀ : Generator} {notes : Journal}, s.configure w = (.ok g₀, notes) →
      (∀ n cells, g₀.producer.row n = .ok cells → cells.cell? "log_level" = some (.text (Level.ofRow n).name)) ∧
      ∀ (moves : List Move), ∀ g ∈ Roster.run [g₀] moves, ∀ b g', g.next = .ok (some b, g') →
        b.start = .int g.cursor ∧
        (∀ ss, b.levels = .ok ss → ss.map (fun s => (s.level, s.rows)) = Level.counts g.cursor b.size ∧
          (ss.map LevelSummary.rows).sum = b.size) ∧
        ((∃ ss, b.levels = .ok ss) ↔ ∃ frame, Frame.ofRows b.rows = .ok frame) ∧
        ∀ base, s.base w.now = .int base → ((∃ ss, b.levels = .ok ss) ↔ ∀ cells ∈ b.rows, cells.Datable) := by
  refine ⟨fun l s n => ⟨l.count_discrepancy s n, l.count_hundreds s⟩, ?_⟩
  intro s w g₀ notes hs
  obtain ⟨table, seed, -, hready⟩ := Settings.configure_eq_ok hs
  refine ⟨fun n cells => hready.level_cell, ?_⟩
  intro moves g hg b g' hnext
  have hakin := hready.akin moves g hg
  have hreads := hakin.bounded.reads hnext
  have hne := hreads.rows_ne_nil hakin.bounded
  have hrows := hakin.producer_eq ▸ hreads.rows_eq
  have htimeless : ∀ cells ∈ b.rows,
      List.Forall₂ (fun c v => c.type = .timestamp ∨ c.type.Takes v) Schema.columns cells := by
    intro cells hcells
    obtain ⟨row, -, hrow⟩ := exists_of_mem_mapM hrows hcells
    exact hready.timeless hrow
  refine ⟨hreads.start_eq, ?_, Batch.exists_levels_iff_frame hne htimeless, ?_⟩
  · intro ss hss
    have hcounts := (hready.follow hrows).counts_of_all ((Batch.levels_timeless hne htimeless).mp hss).2
    refine ⟨hcounts, ?_⟩
    have hsum := Level.sum_counts g.cursor b.size
    rw [← hcounts, List.map_map] at hsum
    exact hsum
  · intro base hbase
    apply Batch.exists_levels_iff hne
    intro cells hcells
    obtain ⟨row, -, hrow⟩ := exists_of_mem_mapM hrows hcells
    exact ⟨_, (hbase ▸ hready).plain hrow⟩

theorem levels_mixed_seven : ∃ g notes b g' ss,
    ({ rowCount := .int 7, batchSize := .int 7 } : Settings).configure .idle = (.ok g, notes) ∧
      g.next = .ok (some b, g') ∧ b.levels = .ok ss ∧
      ss.map (fun s => (s.level, s.rows)) = [(.info, 5), (.debug, 1), (.warn, 1)] := by
  obtain ⟨g, notes, hs, hfeasible, hbatch, hcursor, hstop⟩ := Settings.exists_feasible .null (show 0 < (7 : Int) by decide)
    (by decide) (show 0 < (7 : Int) by decide)
  obtain ⟨table, seed, htable, hready⟩ := Settings.configure_eq_ok hs
  have hremaining : g.remaining = 7 := by simp [Generator.remaining, hcursor, hstop]
  obtain ⟨b, g', hnext⟩ := hready.bounded.exists_next (by rw [hcursor, hstop]; decide) (by rw [hbatch, hremaining]; decide)
    fun n hlow hhigh => hfeasible.exists_row htable hready (hcursor ▸ hlow) (hready.range.2.2 ▸ hhigh)
  obtain ⟨-, hcounts, -, hdatable⟩ := (levels_mixed.2 hs).2 [] g (List.mem_singleton_self g) b g' hnext
  have hreads := hready.bounded.reads hnext
  have hsize : b.size = 7 := by
    have := hreads.size_eq
    rw [hbatch, hremaining] at this
    omega
  have hall : ∀ cells ∈ b.rows, cells.Datable := by
    intro cells hcells
    obtain ⟨row, hrow, hmade⟩ := exists_of_mem_mapM hreads.rows_eq hcells
    rw [Producer.mem_numbers, hcursor, hsize] at hrow
    change g.Ready table (.int 1700000000000) seed at hready
    have hplain := hready.plain hmade
    exact (Cells.takes_iff hplain).mp (hplain.imp fun c v hv => hv.takes (by omega) (by omega))
  obtain ⟨ss, hss⟩ := (hdatable _ rfl).mpr hall
  refine ⟨g, notes, b, g', ss, hs, hnext, hss, ?_⟩
  rw [(hcounts ss hss).1, hcursor, hsize]
  decide

theorem far_levels_not_told : ∃ g notes b g',
    ({ rowCount := .int 1, batchSize := .int 1, seed := .int 1, baseTime := .int 100000000000000000 } :
        Settings).configure .idle = (.ok g, notes) ∧
      g.next = .ok (some b, g') ∧ b.rows ≠ [] ∧ Level.counts g.cursor b.size = [(.info, 1)] ∧
      ∀ ss, b.levels ≠ .ok ss := by
  obtain ⟨g, notes, hs, hrows, hbatch⟩ := Settings.exists_configure (w := .idle)
    (s := { rowCount := .int 1, batchSize := .int 1, seed := .int 1, baseTime := .int 100000000000000000 })
    rfl rfl World.ofSeconds_idle
  obtain ⟨table, seed, htable, hready⟩ := Settings.configure_eq_ok hs
  obtain rfl := Except.ok.inj htable
  change g.Ready _ (.int 100000000000000000) seed at hready
  obtain ⟨-, hcursor, hstop⟩ := hready.range
  rw [hrows] at hstop
  have hexists := hready.exists_builtin_row (by decide) (show (0 : Int) ≤ 0 by decide) (by decide)
  obtain ⟨b, g', hnext, -⟩ := hready.bounded.next_of_last (by rw [hcursor, hstop]; decide) (hcursor ▸ hexists)
  have hreads := hready.bounded.reads hnext
  have hsize : b.size = 1 := by
    have hsize := hreads.size_eq
    simp only [Generator.remaining, hbatch, hstop, hcursor] at hsize
    omega
  have hmade := hreads.rows_eq
  rw [hcursor, hsize] at hmade
  refine ⟨g, notes, b, g', hs, hnext, hreads.rows_ne_nil hready.bounded, ?_, ?_⟩
  · rw [hcursor, hsize]
    decide
  · intro ss hss
    have hne := hreads.rows_ne_nil hready.bounded
    have hplain : ∀ cells ∈ b.rows, ∃ moment, List.Forall₂ (fun c v => c.type.Plain moment v) Schema.columns cells := by
      intro cells hcells
      obtain ⟨row, -, hrow⟩ := exists_of_mem_mapM hmade hcells
      exact ⟨_, hready.plain hrow⟩
    obtain ⟨cells, hcells⟩ := List.exists_mem_of_ne_nil _ hne
    obtain ⟨row, hmem, hrow⟩ := exists_of_mem_mapM hmade hcells
    obtain ⟨hlow, -⟩ := Producer.mem_numbers.mp hmem
    have hdatable := (Batch.exists_levels_iff hne hplain).mp ⟨ss, hss⟩ cells hcells
    exact hready.not_datable hrow (by omega) hdatable

end LogMill
