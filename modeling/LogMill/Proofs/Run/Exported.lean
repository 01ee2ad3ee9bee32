import LogMill.Proofs.Directory
import LogMill.Proofs.Report.Summary
import LogMill.Proofs.Row.Growing
import LogMill.Proofs.Sink.FileBody

namespace LogMill

open Outcome
open Producer (numbers)

def Rule.Short (base rows : Int) : Prop := base.natAbs + rows.natAbs + maxShift.natAbs < Nat.pow 10 Whole.maxDigits

namespace FileSink

def textOf (rows : List Cells) : String :=
  String.ofList (Csv.records .file (Schema.names.map String.toList :: recordsOf rows))

theorem recordsOf_of_textOf {rows rows' : List Cells} (h : ∀ cells ∈ rows, cells ≠ [])
    (h' : ∀ cells ∈ rows', cells ≠ []) (htext : textOf rows = textOf rows') : recordsOf rows = recordsOf rows' := by
  have hrecords : Schema.names.map String.toList :: recordsOf rows =
      Schema.names.map String.toList :: recordsOf rows' := by
    rw [← read_recordsOf h, ← read_recordsOf h', String.ofList_injective htext]
  exact (List.cons.inj hrecords).2

theorem Attempt.kept_prefix (a : Attempt) : a.kept <+: a.batch.rows := by
  unfold kept
  split_ifs
  · exact List.prefix_rfl
  · exact List.takeWhile_prefix _
  · exact List.nil_prefix

def writeUntil (s : FileSink) (bs : List Batch) : List Attempt := (s.actUntil (bs.map .write)).1

theorem writeUntil_kept (s : FileSink) (bs : List Batch) :
    (s.writeUntil bs).flatMap Attempt.kept <+: bs.flatMap Batch.rows := by
  induction bs generalizing s with
  | nil => simp [writeUntil, actUntil]
  | cons b bs ih =>
    have hrest := ih (s.attempt b).after
    unfold writeUntil at hrest ⊢
    simp only [List.map_cons, actUntil]
    split_ifs with hreturned
    · have hkept : (s.attempt b).kept = b.rows := by rw [Attempt.kept, if_pos hreturned]; rfl
      simp only [List.flatMap_cons, hkept]
      exact (List.prefix_append_right_inj _).mpr hrest
    · simpa using (Attempt.kept_prefix (s.attempt b)).trans (List.prefix_append b.rows _)

end FileSink

namespace ColumnType

variable {c : ColumnType} {moment : Int} {v : Value}

theorem Takes.isPlain (h : c.Takes v) : FileSink.IsPlain v := by
  cases c <;> cases v <;> first | exact h.elim | trivial

theorem Plain.isPlain (h : c.Plain moment v) : FileSink.IsPlain v := by
  rcases h with ⟨-, n, rfl, -⟩ | h
  · trivial
  · exact h.isPlain

theorem Plain.fits (h : c.Plain moment v)
    (hmoment : moment.natAbs + Rule.maxShift.natAbs < Nat.pow 10 Whole.maxDigits) : FileSink.fits none v := by
  have hword : 0x8000000000000000 < Nat.pow 10 Whole.maxDigits := Whole.lt_limit (k := 19) (by decide) (by decide)
  rcases h with ⟨-, n, rfl, hlow, hhigh⟩ | h
  · simp only [Rule.maxShift] at hlow hhigh hmoment
    simp only [FileSink.fits, decide_eq_true_eq]
    omega
  · cases v with
    | int n =>
      simp only [FileSink.fits, decide_eq_true_eq]
      have hbounds : SeriesType.minWhole ≤ n ∧ n ≤ SeriesType.maxWhole := by
        cases c with
        | timestamp => exact Moment.bounds_of_takes h
        | integer => exact h
        | text width => exact h.elim
      simp only [SeriesType.minWhole, SeriesType.maxWhole] at hbounds
      omega
    | text s => simp [FileSink.fits, Text.Halves.unit?]
    | _ => cases c <;> exact h.elim

end ColumnType

namespace Export

variable {e : Export} {w : World} {g : Generator} {notes : Journal} {place : Place} {bs : List Batch}

def ofCounts (path seed : Value) (rows batch : Int) : Export := ⟨path, .int rows, .int batch, seed⟩

theorem settings_ofCounts (path seed : Value) (rows batch : Int) : (ofCounts path seed rows batch).settings =
    .ok { rowCount := .int rows, batchSize := .int (min batch rows), seed } := by
  have hless : (Value.int rows).less (.int batch) = .ok (decide (rows < batch)) := by
    simp only [Value.less, Value.before, Value.number?, Double.less, Double.toRat?, Option.getD_some, Int.cast_lt]
  have hsize : (ofCounts path seed rows batch).batchSizeOf = .ok (.int (min batch rows)) := by
    simp only [batchSizeOf, ofCounts, hless, decide_eq_true_eq]
    split_ifs with h
    · rw [min_eq_right (by omega)]
    · rw [min_eq_left (by omega)]
  simp only [settings, hsize]
  rfl

def refusalOf (rows batch : Int) : Setting.Fault :=
  if rows < 1 then .notPositive "row_count" (Value.int rows).shown
  else .notPositive "batch_size" (Value.int batch).shown

theorem run_refused {rows batch : Int} (h : rows < 1 ∨ batch < 1) (path seed : Value) (w : World) :
    (ofCounts path seed rows batch).run w = (.error (.setting (refusalOf rows batch)), [], w.directory) := by
  have hcounts : ({ rowCount := .int rows, batchSize := .int (min batch rows), seed } : Settings).counts =
      .error (refusalOf rows batch) := by
    unfold refusalOf
    split_ifs with hrows
    · have hnot : ¬ 0 < rows := by omega
      simp [Settings.counts, requirePositive, hnot, bind, Except.bind]
    · have hpos : 0 < rows := by omega
      have hnot : ¬ 0 < batch := by omega
      have hmin : min batch rows = batch := by omega
      simp [Settings.counts, requirePositive, hpos, hmin, hnot, bind, Except.bind]
  simp only [run, configure, settings_ofCounts, Settings.configure, Settings.checked, hcounts]
  rfl

theorem exists_ready {rows batch time : Int} (hrows : 1 ≤ rows) (hbatch : 1 ≤ batch) (path seed : Value)
    (htime : Duration.ofSeconds (w.clock 1 - w.clock 0) = .ok time) :
    ∃ g notes, (ofCounts path seed rows batch).configure w = (.ok g, notes) ∧
      g.pools.seed = PoolSet.seedOf seed w.drawn ∧ g.Ready .builtin (.int w.now) g.pools.seed ∧
      g.producer.rowCount = rows ∧ g.batchSize = min batch rows ∧
      g.pools.size = Pool.sizeFor rows Pool.defaultCap := by
  have hcounts : ({ rowCount := .int rows, batchSize := .int (min batch rows), seed } : Settings).counts =
      .ok (rows, min batch rows, none) := by
    have hpos : 0 < rows := by omega
    have hpos' : 0 < min batch rows := by omega
    simp [Settings.counts, requirePositive, requirePositive?, hpos, hpos', bind, Except.bind, pure, Except.pure]
  obtain ⟨g, notes, hs, hproduced, hsize⟩ := Settings.exists_configure (w := w) hcounts rfl htime
  obtain ⟨table, htable, hseed, hready⟩ := Settings.configure_ready hs
  obtain rfl := Except.ok.inj htable
  obtain ⟨-, -, hpools, -⟩ := Settings.configure_counts hs
  refine ⟨g, notes, ?_, hseed, hready, hproduced, hsize, hproduced ▸ hpools⟩
  simp only [configure, settings_ofCounts, hs]

theorem writeAll_of_fits {s : FileSink} (ho : s.isOpen) (h : ∀ b ∈ bs, FileSink.Plain b ∧ FileSink.Fits b) :
    ∃ t, writeAll bs s = (.ok t, t) ∧
      t.text = s.text ++ Csv.records .file (FileSink.recordsOf (bs.flatMap Batch.rows)) ∧
      t.rowsWritten = s.rowsWritten + (bs.flatMap Batch.rows).length := by
  induction bs generalizing s with
  | nil => exact ⟨s, rfl, by simp [FileSink.recordsOf, Csv.records], by simp⟩
  | cons b bs ih =>
    obtain ⟨hplain, hfits⟩ := h b (by simp)
    obtain ⟨-, he⟩ | ⟨hmisfit, -⟩ := FileSink.attempt_open hplain ho
    · obtain ⟨t, ht, htext, hrows⟩ := ih (s := { s with
        text := s.text ++ Csv.records .file (FileSink.recordsOf b.rows), rowsWritten := s.rowsWritten + b.size }) ho
        fun b hb => h b (List.mem_cons_of_mem _ hb)
      have hwrite : s.write b = (.ok b.size, { s with
          text := s.text ++ Csv.records .file (FileSink.recordsOf b.rows), rowsWritten := s.rowsWritten + b.size }) := by
        simp only [FileSink.attempt, FileSink.Attempt.mk.injEq, true_and] at he
        exact Prod.ext he.1 he.2
      refine ⟨t, ?_, ?_, ?_⟩
      · rw [writeAll, hwrite]
        exact ht
      · rw [htext]
        simp [FileSink.recordsOf, Csv.records]
      · rw [hrows]
        simp only [List.flatMap_cons, List.length_append, Batch.size]
        omega
    · exact absurd hfits hmisfit

theorem run_directory (hc : e.configure w = (.ok g, notes)) (hp : w.directory.target e.path = .ok place) :
    (e.run w).2.2 = w.directory.write place (String.ofList (fill g.drain.1 g.drain.2.1).1.text) := by
  simp only [run, hc, hp]
  cases (fill g.drain.1 g.drain.2.1).2 <;> rfl

theorem run_answer (hc : e.configure w = (.ok g, notes)) (hp : w.directory.target e.path = .ok place)
    (hfill : (fill g.drain.1 g.drain.2.1).2 = .ok ()) : (e.run w).1 =
      (e.summary g.pools.seed (fill g.drain.1 g.drain.2.1).1.rowsWritten g.drain.1).1.map fun _ =>
        (fill g.drain.1 g.drain.2.1).1.rowsWritten := by
  simp only [run, hc, hp, hfill]

end Export

def Generator.kept (g : Generator) : List Cells :=
  (FileSink.opened.writeUntil g.drain.1).flatMap FileSink.Attempt.kept

namespace Generator.Ready

variable {g : Generator} {base : Int} {seed : Value} {b : Batch}

theorem row_ne_nil (h : g.Ready .builtin (.int base) seed) {n : Int} {cells : Cells}
    (hrow : g.producer.row n = .ok cells) : cells ≠ [] := by
  rintro rfl
  cases h.plain hrow

theorem plain_of_mem_drain (h : g.Ready .builtin (.int base) seed) {cells : Cells}
    (hcells : cells ∈ g.drain.1.flatMap Batch.rows) {v : Value} (hv : v ∈ cells) :
    ∃ n c, 0 ≤ n ∧ n < g.producer.rowCount ∧ ColumnType.Plain c (base + n) v := by
  obtain ⟨-, hcursor, hstop⟩ := h.range
  obtain ⟨n, hlow, hhigh, hrow⟩ := h.bounded.exists_row_of_mem_drain hcells
  have hplain := h.plain hrow
  obtain ⟨i, hi, rfl⟩ := List.mem_iff_getElem.mp hv
  exact ⟨n, _, hcursor ▸ hlow, hstop ▸ hhigh, hplain.get (hplain.length_eq ▸ hi) hi⟩

theorem plain_drain (h : g.Ready .builtin (.int base) seed) (hb : b ∈ g.drain.1) : FileSink.Plain b where
  halves := by simp [(mem_drain hb).2, h.halves_eq_none]
  cells := by
    intro cells hcells
    have hmem : cells ∈ g.drain.1.flatMap Batch.rows := List.mem_flatMap.mpr ⟨b, hb, hcells⟩
    obtain ⟨n, -, -, hrow⟩ := h.bounded.exists_row_of_mem_drain hmem
    refine ⟨h.row_ne_nil hrow, fun v hv => ?_⟩
    obtain ⟨_, _, -, -, hplain⟩ := h.plain_of_mem_drain hmem hv
    exact hplain.isPlain

theorem fits_drain (h : g.Ready .builtin (.int base) seed) (hb : b ∈ g.drain.1)
    (hshort : Rule.Short base g.producer.rowCount) : FileSink.Fits b := by
  intro cells hcells v hv
  obtain ⟨n, c, hlow, hhigh, hplain⟩ := h.plain_of_mem_drain (List.mem_flatMap.mpr ⟨b, hb, hcells⟩) hv
  unfold Rule.Short at hshort
  rw [(mem_drain hb).2, h.halves_eq_none]
  exact hplain.fits (by omega)

theorem fill_drain (h : g.Ready .builtin (.int base) seed) (hshort : Rule.Short base g.producer.rowCount)
    (hroom : min g.batchSize g.producer.rowCount ≤ Producer.room) :
    (numbers 0 g.producer.rowCount).mapM g.producer.row = .ok (g.drain.1.flatMap Batch.rows) ∧
      g.drain.2.1 = .ended ∧ ∃ sink, Export.fill g.drain.1 g.drain.2.1 = (sink, .ok ()) ∧
        String.ofList sink.text = FileSink.textOf (g.drain.1.flatMap Batch.rows) ∧
        sink.rowsWritten = g.producer.rowCount := by
  have hcount := h.rowCount_pos
  have hended : g.drain.2.1 = .ended := by
    apply h.drain_ended hroom
    intro n hlow hhigh
    unfold Rule.Short at hshort
    exact h.exists_short_row (by omega) (by omega)
  have hrows := h.rows_drain hended
  obtain ⟨t, hwritten, htext, hnumber⟩ := Export.writeAll_of_fits (s := .opened) rfl fun b hb =>
    ⟨h.plain_drain hb, h.fits_drain hb hshort⟩
  refine ⟨hrows, hended, t.close, ?_, ?_, ?_⟩
  · simp only [Export.fill, hwritten, hended]
  · simp [FileSink.close, htext, FileSink.textOf, FileSink.opened, FileSink.header, Csv.records]
  · have hlength := mapM_length hrows
    rw [Producer.length_numbers] at hlength
    simp only [FileSink.close, hnumber, FileSink.opened]
    omega

theorem text_fill (h : g.Ready .builtin (.int base) seed) :
    String.ofList (Export.fill g.drain.1 g.drain.2.1).1.text = FileSink.textOf g.kept := by
  have hplain : ∀ x ∈ [FileSink.Step.block (g.drain.1.map .write)], ∀ b ∈ x.batches, FileSink.Plain b := by
    intro x hx b hb
    rw [List.mem_singleton.mp hx] at hb
    exact h.plain_drain (by simpa [FileSink.Step.batches, FileSink.Act.batches, List.flatMap_map] using hb)
  have hledger := FileSink.Ledger.opened.run hplain
  rw [List.nil_append] at hledger
  rw [FileSink.fill_eq_run, hledger.accounts.text]
  simp [FileSink.textOf, kept, FileSink.writeUntil, FileSink.run, FileSink.perform]

theorem row_of_kept (h : g.Ready .builtin (.int base) seed) {i : Nat} {cells : Cells} (hi : g.kept[i]? = some cells) :
    g.producer.row i = .ok cells := by
  obtain ⟨rest, hrest⟩ : g.kept <+: g.drain.1.flatMap Batch.rows := FileSink.writeUntil_kept .opened g.drain.1
  have hdrain : (g.drain.1.flatMap Batch.rows)[i]? = some cells := by
    rw [← hrest, List.getElem?_append_left (List.getElem?_eq_some_iff.mp hi).1]
    exact hi
  simpa [h.range.2.1] using h.bounded.row_of_drain hdrain

theorem ne_nil_of_mem_kept (h : g.Ready .builtin (.int base) seed) : ∀ cells ∈ g.kept, cells ≠ [] := by
  intro cells hcells
  obtain ⟨i, hi, rfl⟩ := List.mem_iff_getElem.mp hcells
  exact h.row_ne_nil (h.row_of_kept (List.getElem?_eq_getElem hi))

theorem length_kept (h : g.Ready .builtin (.int base) seed) (hshort : Rule.Short base g.producer.rowCount)
    (hroom : min g.batchSize g.producer.rowCount ≤ Producer.room) : (g.kept.length : Int) = g.producer.rowCount := by
  obtain ⟨hrows, -, sink, hfill, htext, -⟩ := h.fill_drain hshort hroom
  have hne : ∀ cells ∈ g.drain.1.flatMap Batch.rows, cells ≠ [] := by
    intro cells hcells
    obtain ⟨n, -, hrow⟩ := exists_of_mem_mapM hrows hcells
    exact h.row_ne_nil hrow
  have hsame : FileSink.textOf (g.drain.1.flatMap Batch.rows) = FileSink.textOf g.kept := by
    rw [← htext, ← h.text_fill, hfill]
  have hlength := congrArg List.length (FileSink.recordsOf_of_textOf hne h.ne_nil_of_mem_kept hsame)
  have hcount := h.rowCount_pos
  simp only [FileSink.recordsOf, List.length_map, mapM_length hrows, Producer.length_numbers] at hlength
  omega

end Generator.Ready

namespace Export

variable {e : Export} {w : World} {g : Generator} {notes : Journal} {place : Place} {base : Int} {seed : Value}

theorem exists_summary_iff (e : Export) (seed : Value) (n : Int) (b : Batch) (bs : List Batch) :
    (∃ u, (e.summary seed n (b :: bs)).1 = .ok u) ↔ ∃ l, b.levels = .ok l := by
  simp only [summary, List.head?_cons, Option.elim_some]
  cases b.levels <;> simp

theorem run_answer_iff (hc : e.configure w = (.ok g, notes)) (hp : w.directory.target e.path = .ok place)
    (h : g.Ready .builtin (.int base) seed) (hshort : Rule.Short base g.producer.rowCount)
    (hroom : min g.batchSize g.producer.rowCount ≤ Producer.room) :
    (e.run w).1 = .ok g.producer.rowCount ↔
      ∀ cells ∈ (g.drain.1.flatMap Batch.rows).take g.batchSize.toNat, cells.Datable := by
  obtain ⟨hrows, hended, sink, hfill, -, hnumber⟩ := h.fill_drain hshort hroom
  obtain ⟨_, hcursor, hstop⟩ := h.range
  have hcount := h.rowCount_pos
  obtain ⟨b, bs, hdrain, hsize⟩ := h.bounded.exists_head_drain (by omega) hended
  have hmem : b ∈ g.drain.1 := by simp [hdrain]
  have hfirst : (g.drain.1.flatMap Batch.rows).take g.batchSize.toNat = b.rows := by
    have hlength := mapM_length hrows
    rw [Producer.length_numbers, hdrain, List.flatMap_cons, List.length_append] at hlength
    rw [h.remaining_eq, Batch.size] at hsize
    rw [hdrain, List.flatMap_cons]
    by_cases hall : g.batchSize ≤ g.producer.rowCount
    · exact List.take_left' (by omega)
    · have hrest : bs.flatMap Batch.rows = [] := List.length_eq_zero_iff.mp (by omega)
      rw [hrest, List.append_nil, List.take_of_length_le (by omega)]
  have hplain : ∀ cells ∈ b.rows, ∃ moment,
      List.Forall₂ (fun c v => c.type.Plain moment v) Schema.columns cells := by
    intro cells hcells
    obtain ⟨n, -, -, hrow⟩ := h.bounded.exists_row_of_mem_drain (List.mem_flatMap.mpr ⟨b, hmem, hcells⟩)
    exact ⟨_, h.plain hrow⟩
  rw [hfirst, ← Batch.exists_levels_iff (Generator.mem_drain hmem).1 hplain,
    ← exists_summary_iff e g.pools.seed sink.rowsWritten b bs, run_answer hc hp (by rw [hfill]), hfill, hdrain,
    map_eq_ok]
  simp [hnumber]

end Export

/-- An export writes the header and all rows in their order into one file, which is the same for every size of the
batches, and tells the number of rows, but for a time in the first batch that no frame takes. Counts below one are
refused before any file is touched. -/
theorem export_writes_rows (path seed : Value) (rows : Int) (w : World) :
    (1 ≤ rows → ∀ place time, w.directory.target path = .ok place →
      Duration.ofSeconds (w.clock 1 - w.clock 0) = .ok time →
      Rule.Short w.now rows →
      ∃ cells : List Cells, ∀ batch : Int, 1 ≤ batch → min batch rows ≤ Producer.room →
        (∃ g notes, (Export.ofCounts path seed rows batch).configure w = (.ok g, notes) ∧
          (numbers 0 rows).mapM g.producer.row = .ok cells) ∧
        ((Export.ofCounts path seed rows batch).run w).2.2 = w.directory.write place (FileSink.textOf cells) ∧
        ((Export.ofCounts path seed rows batch).run w).2.2.read path = .ok (FileSink.textOf cells).toUTF8 ∧
        (∀ other, other ≠ place →
          ((Export.ofCounts path seed rows batch).run w).2.2.find? other = w.directory.find? other) ∧
        (((Export.ofCounts path seed rows batch).run w).1 = .ok rows ↔
          ∀ row ∈ cells.take batch.toNat, row.Datable)) ∧
    ∀ batch : Int, rows < 1 ∨ batch < 1 → (Export.ofCounts path seed rows batch).run w =
      (.error (.setting (Export.refusalOf rows batch)), [], w.directory) := by
  refine ⟨?_, fun batch h => Export.run_refused h path seed w⟩
  intro hrows place time hplace htime hshort
  obtain ⟨g₀, -, -, hseed₀, hready₀, hcount₀, -, hsize₀⟩ := Export.exists_ready hrows (Int.le_refl 1) path seed htime
  obtain ⟨cells, hcells⟩ : ∃ cells, (numbers 0 rows).mapM g₀.producer.row = .ok cells := by
    apply exists_mapM_ok
    intro n hn
    rw [Producer.mem_numbers] at hn
    unfold Rule.Short at hshort
    exact hready₀.exists_short_row (by omega) (by omega)
  refine ⟨cells, ?_⟩
  intro batch hbatch hroom
  obtain ⟨g, notes, hc, hseed, hready, hcount, hbatchSize, hsize⟩ := Export.exists_ready hrows hbatch path seed htime
  have hsame : ∀ n, g₀.producer.row n = g.producer.row n :=
    hready₀.row_congr hready (hsize₀.trans hsize.symm) (by rw [hseed₀, hseed])
  rw [funext hsame] at hcells
  have hshort' : Rule.Short w.now g.producer.rowCount := hcount ▸ hshort
  have hroom' : min g.batchSize g.producer.rowCount ≤ Producer.room := by omega
  obtain ⟨hall, -, sink, hfill, htext, -⟩ := hready.fill_drain hshort' hroom'
  rw [hcount] at hall
  obtain rfl := Except.ok.inj (hall.symm.trans hcells)
  have hdirectory : ((Export.ofCounts path seed rows batch).run w).2.2 =
      w.directory.write place (FileSink.textOf (g.drain.1.flatMap Batch.rows)) := by
    rw [Export.run_directory hc hplace, hfill, ← htext]
  have hanswer := Export.run_answer_iff hc hplace hready hshort' hroom'
  refine ⟨⟨g, notes, hc, hcells⟩, hdirectory, ?_, ?_, ?_⟩
  · rw [hdirectory]
    exact Directory.read_write hplace _
  · intro other hother
    rw [hdirectory]
    exact (Directory.target_eq_ok hplace).1.find?_write hother _
  · have htake : (g.drain.1.flatMap Batch.rows).take (min batch rows).toNat =
        (g.drain.1.flatMap Batch.rows).take batch.toNat := by
      rw [List.take_eq_take_iff, mapM_length hcells, Producer.length_numbers]
      omega
    rwa [hcount, hbatchSize, htake] at hanswer

theorem export_writes_rows_short : ∃ cells : List Cells, cells.length = 3 ∧
    ((Export.ofCounts (.text "out.csv") (.int 1) 3 2).run .idle).1 = .ok 3 ∧
    ((Export.ofCounts (.text "out.csv") (.int 1) 3 2).run .idle).2.2.read (.text "out.csv") =
      .ok (FileSink.textOf cells).toUTF8 ∧
    ((Export.ofCounts (.text "out.csv") (.int 1) 3 100).run .idle).2.2.read (.text "out.csv") =
      .ok (FileSink.textOf cells).toUTF8 ∧
    ((Export.ofCounts (.text "out.csv") (.int 1) 3 0).run .idle).2.2 = World.idle.directory := by
  have hplace : World.idle.directory.target (.text "out.csv") = .ok ⟨false, 0, ["out.csv".toList]⟩ := by decide +kernel
  have hnow : World.idle.now = 1700000000000 := rfl
  have hshort : Rule.Short World.idle.now 3 := Whole.lt_limit (k := 13) (by decide) (by decide)
  obtain ⟨hwrites, hrefused⟩ := export_writes_rows (.text "out.csv") (.int 1) 3 .idle
  obtain ⟨cells, hcells⟩ := hwrites (by decide) _ _ hplace World.ofSeconds_idle hshort
  obtain ⟨⟨g, notes, hc, hrows⟩, -, hread, -, hanswer⟩ := hcells 2 (by decide) (by decide)
  obtain ⟨-, -, hread', -⟩ := hcells 100 (by decide) (by decide)
  obtain ⟨g', notes', hc', -, hready, -⟩ := Export.exists_ready (w := .idle) (show (1 : Int) ≤ 3 by decide)
    (show (1 : Int) ≤ 2 by decide) (.text "out.csv") (.int 1) World.ofSeconds_idle
  obtain ⟨rfl, -⟩ : g = g' ∧ notes = notes' := by simpa using hc.symm.trans hc'
  refine ⟨cells, mapM_length hrows, hanswer.mpr ?_, hread, hread', congrArg (·.2.2) (hrefused 0 (.inr (by decide)))⟩
  intro row hrow
  obtain ⟨n, hn, hcells⟩ := exists_of_mem_mapM hrows (List.mem_of_mem_take hrow)
  rw [Producer.mem_numbers] at hn
  have hplain := hready.plain hcells
  exact (Cells.takes_iff hplain).mp (hplain.imp fun c v hv => hv.takes (by omega) (by omega))

theorem far_time_not_told : ∃ cells : List Cells, cells.length = 2 ∧
    ((Export.ofCounts (.text "o") (.int 1) 2 10000).run { World.idle with now := 100000000000000000 }).2.2.read
      (.text "o") = .ok (FileSink.textOf cells).toUTF8 ∧
    ((Export.ofCounts (.text "o") (.int 1) 2 10000).run { World.idle with now := 100000000000000000 }).1 ≠ .ok 2 := by
  have hplace : World.idle.directory.target (.text "o") = .ok ⟨false, 0, ["o".toList]⟩ := by decide +kernel
  obtain ⟨g, notes, hc, -, hready, hcount, hbatch, -⟩ := Export.exists_ready
    (w := { World.idle with now := 100000000000000000 }) (show (1 : Int) ≤ 2 by decide)
    (show (1 : Int) ≤ 10000 by decide) (.text "o") (.int 1) World.ofSeconds_idle
  have hshort : Rule.Short 100000000000000000 g.producer.rowCount := by
    rw [hcount]
    exact Whole.lt_limit (k := 18) (by decide) (by decide)
  have hroom : min g.batchSize g.producer.rowCount ≤ Producer.room := by
    rw [hcount, hbatch]
    decide
  obtain ⟨hrows, -, sink, hfill, htext, -⟩ := hready.fill_drain hshort hroom
  have hanswer := Export.run_answer_iff hc hplace hready hshort hroom
  refine ⟨g.drain.1.flatMap Batch.rows, ?_, ?_, ?_⟩
  · rw [mapM_length hrows, hcount]
    rfl
  · rw [Export.run_directory hc hplace, hfill, ← htext]
    exact Directory.read_write hplace _
  · intro htold
    rw [hcount] at hrows hanswer
    have hnumbers : numbers 0 2 = [0, 1] := by decide
    rw [hnumbers, mapM_eq_ok] at hrows
    cases hcells : g.drain.1.flatMap Batch.rows with
    | nil => simp [hcells] at hrows
    | cons row rest =>
      rw [hcells] at hrows hanswer
      have hrow : g.producer.row 0 = .ok row := (List.forall₂_cons.mp hrows).1
      exact hready.not_datable hrow (by decide) (hanswer.mp htold row (by simp [hbatch]))

end LogMill
