import LogMill.Proofs.Message.Synthesis
import LogMill.Proofs.Row.Roster
import LogMill.Proofs.Run.Configured
import LogMill.Proofs.Template.Phrases

/-!
Coverage: however the generators of a run were used before, what is left of each is read without loss and without
repetition, by itself or by streams that are read in any order.
-/

namespace LogMill

open Outcome
open Producer (numbers)

def Cells.cell? (cells : Cells) (column : String) : Option Value := (Schema.indexOf? column).bind fun i => cells[i]?

namespace Generator

variable {g₀ g : Generator} {table : Table} {base seed : Value}

theorem Ready.bounded (h : g.Ready table base seed) : g.Bounded := by
  obtain ⟨hstart, hcursor, hstop⟩ := h.range
  have := h.rowCount_pos
  exact ⟨by omega, by omega, by omega, by omega, h.batchSize_pos⟩

theorem Ready.drain_ended (h : g.Ready table base seed)
    (hroom : min g.batchSize g.producer.rowCount ≤ Producer.room)
    (hrows : ∀ n, 0 ≤ n → n < g.producer.rowCount → ∃ cells, g.producer.row n = .ok cells) :
    g.drain.2.1 = .ended := by
  obtain ⟨_, hcursor, hstop⟩ := h.range
  apply h.bounded.drain_ended
  · rwa [h.remaining_eq]
  · rwa [hcursor, hstop]

theorem Ready.rows_drain (h : g.Ready table base seed) (hended : g.drain.2.1 = .ended) :
    (numbers 0 g.producer.rowCount).mapM g.producer.row = .ok (g.drain.1.flatMap Batch.rows) := by
  obtain ⟨_, hcursor, hstop⟩ := h.range
  rw [← hcursor, ← hstop]
  exact (h.bounded.covers_drain hended).rows

theorem Ready.akin (h : g₀.Ready table base seed) (moves : List Move) :
    ∀ g ∈ Roster.run [g₀] moves, g₀.Akin g := by
  apply Roster.run_akin
  intro g hg
  rw [List.mem_singleton] at hg
  subst hg
  exact ⟨h.bounded, rfl, rfl⟩

theorem Ready.nodup_uids (h : g₀.Ready table base seed) {ns : List Int} (hn : ns.Nodup) {rows : List Cells}
    (hrows : ns.mapM g₀.producer.row = .ok rows) : (rows.map fun r => r.cell? "log_uid").Nodup := by
  have hindex : Schema.indexOf? "log_uid" = some 1 := by decide
  have huid {n : Int} {cells : Cells} (hc : g₀.producer.row n = .ok cells) :
      ∃ time, cells.cell? "log_uid" = some (.text (Rule.uidText time n)) := by
    simp only [Cells.cell?, hindex, Option.bind_some]
    exact h.uid_eq hc
  induction mapM_eq_ok.mp hrows with
  | nil => simp
  | @cons n cells ns rows hc hrest ih =>
    rw [List.nodup_cons] at hn
    rw [List.map_cons, List.nodup_cons]
    refine ⟨?_, ih hn.2 (mapM_eq_ok.mpr hrest)⟩
    intro hmem
    obtain ⟨cells', hmem', he⟩ := List.mem_map.mp hmem
    obtain ⟨m, hm, hc'⟩ := exists_of_mem_mapM (mapM_eq_ok.mpr hrest) hmem'
    obtain ⟨time, ht⟩ := huid hc
    obtain ⟨time', ht'⟩ := huid hc'
    simp only [ht, ht', Option.some.injEq, Value.text.injEq] at he
    exact hn.1 (Rule.uidText_injective he ▸ hm)

theorem Akin.drain_ended (h : g₀.Akin g) (hroom : min g₀.batchSize g₀.producer.rowCount ≤ Producer.room)
    (hrows : ∀ n, 0 ≤ n → n < g₀.producer.rowCount → ∃ cells, g₀.producer.row n = .ok cells) :
    g.drain.2.1 = .ended := by
  obtain ⟨hb, hp, hs⟩ := h
  have := hb.start_nonneg
  have := hb.start_le_cursor
  have := hb.stop_le_rowCount
  apply hb.drain_ended
  · rw [hp] at this
    simp only [remaining, hs]
    omega
  · intro n hlow hhigh
    rw [hp] at this ⊢
    exact hrows n (by omega) (by omega)

end Generator

namespace Roster

theorem covers_readings {r children : Roster} {order : List Nat} (hb : ∀ c ∈ children, c.Bounded)
    (hended : ∀ c ∈ children, c.drain.2.1 = .ended)
    (horder : ∀ k c, children[k]? = some c → c.drain.1.length ≤ order.count (r.length + k)) :
    List.Forall₂ Generator.Covers children ((List.range children.length).map fun k =>
      readOf (r.length + k) (readings (r ++ children) (order.map .next))) := by
  rw [List.forall₂_iff_get]
  refine ⟨by simp, ?_⟩
  intro k hk hk'
  have hc : children[k]? = some children[k] := List.getElem?_eq_getElem hk
  have hmem : children[k] ∈ children := List.getElem_mem hk
  have hplace : (r ++ children)[r.length + k]? = some children[k] := by
    rw [List.getElem?_append_right (Nat.le_add_right _ _), Nat.add_sub_cancel_left, hc]
  simp only [List.get_eq_getElem, List.getElem_map, List.getElem_range]
  rw [readings_next order hplace (hb _ hmem), List.take_of_length_le (horder k _ hc)]
  exact (hb _ hmem).covers_drain (hended _ hmem)

end Roster

/-- What the rows of a run need beside settings that are accepted: templates that can be filled, a time of row zero
that gives every row its times, and room for one batch. -/
structure Settings.Feasible (s : Settings) (w : World) (g : Generator) : Prop where
  fills : ∀ table, s.table w.directory = .ok table → ∀ n, 0 ≤ n → n < g.producer.rowCount →
    ∃ text, (table.choose (Level.ofRow n) n).fill (Placeholder.value n) = .ok text
  times : ∀ n, 0 ≤ n → n < g.producer.rowCount →
    (∃ v, (Rule.forTimestamps (s.base w.now) (.int g.pools.size)).value n = .ok v) ∧
      ∃ v, (Rule.forUids (s.base w.now)).value n = .ok v
  room : min g.batchSize g.producer.rowCount ≤ Producer.room

theorem Settings.Feasible.exists_row {s : Settings} {w : World} {g : Generator} (hf : s.Feasible w g) {table : Table}
    {seed : Value} (htable : s.table w.directory = .ok table) (hg : g.Ready table (s.base w.now) seed) {n : Int}
    (hlow : 0 ≤ n) (hhigh : n < g.producer.rowCount) : ∃ cells, g.producer.row n = .ok cells := by
  obtain ⟨htime, huid⟩ := hf.times n hlow hhigh
  exact hg.exists_row htime huid (Message.exists_messageOf_iff.mpr (hf.fills table htable n hlow hhigh))

theorem Rule.times_of_int {base spread n : Int} (hspread : spread ≠ 0)
    (htime : (base + n).natAbs < Nat.pow 10 Whole.maxDigits) (hrow : n.natAbs < Nat.pow 10 Whole.maxDigits) :
    (∃ v, (forTimestamps (.int base) (.int spread)).value n = .ok v) ∧ ∃ v, (forUids (.int base)).value n = .ok v := by
  constructor
  · exact ⟨_, by simp only [forTimestamps, value, timestampOf, slot?, hspread, ↓reduceIte]; rfl⟩
  · exact ⟨_, by simp only [forUids, value, uidOf, Whole.text_of_lt htime, Whole.text_of_lt hrow]; rfl⟩

theorem Settings.feasible_of_builtin {s : Settings} {w : World} {g : Generator} {notes : Journal}
    (hs : s.configure w = (.ok g, notes)) (htemplates : s.templatesPath = .null ∧ s.templates = .null) {base : Int}
    (hbase : s.base w.now = .int base)
    (htimes : ∀ n, 0 ≤ n → n < g.producer.rowCount →
      (base + n).natAbs < Nat.pow 10 Whole.maxDigits ∧ n.natAbs < Nat.pow 10 Whole.maxDigits)
    (hroom : min g.batchSize g.producer.rowCount ≤ Producer.room) : s.Feasible w g := by
  obtain ⟨table, seed, htable, hready⟩ := configure_eq_ok hs
  refine ⟨?_, ?_, hroom⟩
  · intro table' htable' n _ _
    simp only [Settings.table, htemplates, Except.ok.injEq] at htable'
    subst htable'
    exact Table.fill_builtin (List.get_mem _ _) _
  · intro n hlow hhigh
    have := hready.size_pos
    rw [hbase]
    exact Rule.times_of_int (by omega) (htimes n hlow hhigh).1 (htimes n hlow hhigh).2

theorem Settings.exists_feasible (seed : Value) {rows batch : Int} (hrows : 0 < rows) (hfew : rows ≤ 1000000)
    (hbatch : 0 < batch) :
    ∃ g notes, ({ rowCount := .int rows, batchSize := .int batch, seed } : Settings).configure .idle = (.ok g, notes) ∧
      ({ rowCount := .int rows, batchSize := .int batch, seed } : Settings).Feasible .idle g ∧ g.batchSize = batch ∧
      g.cursor = 0 ∧ g.stop = rows := by
  have hcounts : ({ rowCount := .int rows, batchSize := .int batch, seed } : Settings).counts =
      .ok (rows, batch, none) := by
    simp [counts, requirePositive, requirePositive?, hrows, hbatch, bind, Except.bind, pure, Except.pure]
  obtain ⟨g, notes, hs, hproduced, hsize⟩ := exists_configure (w := .idle) hcounts rfl World.ofSeconds_idle
  obtain ⟨table, _, htable, hready⟩ := configure_eq_ok hs
  obtain ⟨_, hcursor, hstop⟩ := hready.range
  refine ⟨g, notes, hs, ?_, hsize, hcursor, hstop.trans hproduced⟩
  apply feasible_of_builtin hs ⟨rfl, rfl⟩ rfl
  · intro n hlow hhigh
    have hnow : World.idle.now = 1700000000000 := rfl
    rw [hproduced] at hhigh
    exact ⟨Whole.lt_limit (k := 13) (by omega) (by decide), Whole.lt_limit (k := 13) (by omega) (by decide)⟩
  · have : (1000000 : Int) ≤ Producer.room := by decide
    omega

theorem Settings.exists_single_pieces (seed : Value) {rows : Int} (hrows : 0 < rows) (hfew : rows ≤ 1000000) :
    ∃ g notes, ({ rowCount := .int rows, batchSize := .int 1, seed } : Settings).configure .idle = (.ok g, notes) ∧
      g.remaining = rows ∧ g.pieces rows = (List.range rows.toNat).map (g.piece rows) ∧
      ∀ i < rows.toNat, ∃ b c, (g.piece rows i).next = .ok (some b, c) ∧ c.next = .ok (none, c) := by
  obtain ⟨g, notes, hs, hfeasible, hbatch, hcursor, hstop⟩ :=
    exists_feasible seed hrows hfew (show 0 < (1 : Int) by decide)
  obtain ⟨table, _, htable, hready⟩ := configure_eq_ok hs
  have hremaining : g.remaining = rows := by simp [Generator.remaining, hcursor, hstop]
  have hchunk : g.chunk rows = 1 := by
    simp only [Generator.chunk, hremaining]
    rw [ceilDiv_eq hrows (k := 1) (by omega) (by omega)]
    decide
  have hcount : g.pieceCount rows = rows.toNat := by simp [Generator.pieceCount, hchunk, hremaining]
  refine ⟨g, notes, hs, hremaining, by rw [Generator.pieces_eq, hcount], ?_⟩
  intro i hi
  have hmem : g.piece rows i ∈ g.pieces rows := by
    rw [Generator.pieces_eq, hcount]
    exact List.mem_map_of_mem (List.mem_range.mpr hi)
  apply (hready.bounded.pieces hmem).next_of_last
  · simp only [Generator.piece, Generator.ofRange, Option.getD_some, hchunk, hcursor, hstop]
    omega
  · have hall := hready.range.2.2
    apply hfeasible.exists_row htable hready
    all_goals
      simp only [Generator.piece, Generator.ofRange, hchunk, hcursor]
      omega

/-- Every generator that a run leads to keeps its cursor in its range, splits into ranges that tile its unread rows,
and gives each of these rows once and in order, by itself or through its streams in any order of reading. -/
theorem rows_covered {s : Settings} {w : World} {g₀ g : Generator} {notes : Journal}
    (hs : s.configure w = (.ok g₀, notes)) (moves : List Move) {place : Nat}
    (hg : (Roster.run [g₀] moves)[place]? = some g) :
    (0 ≤ g.start ∧ g.start ≤ g.cursor ∧ g.cursor ≤ g.stop ∧ g.stop ≤ g.producer.rowCount) ∧
    (∀ streams : Int, 1 ≤ streams → ∃ children,
      (Roster.run [g₀] moves).step (.split place (.int streams)) = Roster.run [g₀] moves ++ children ∧
      Generator.Tiles g.cursor g.stop children ∧ children.Pairwise fun c d => c.stop ≤ d.start) ∧
    (s.Feasible w g₀ →
      g.drain.2.1 = .ended ∧ g.Covers g.drain.1 ∧
      ∀ streams : Int, 1 ≤ streams → ∀ children,
        (Roster.run [g₀] moves).step (.split place (.int streams)) = Roster.run [g₀] moves ++ children →
        ∀ order : List Nat,
          (∀ k c, children[k]? = some c →
            c.drain.1.length ≤ order.count ((Roster.run [g₀] moves).length + k)) →
          ∃ rows, rows = ((List.range children.length).flatMap fun k =>
              Roster.readOf ((Roster.run [g₀] moves).length + k)
                (Roster.readings (Roster.run [g₀] moves ++ children) (order.map .next))).flatMap Batch.rows ∧
            (numbers g.cursor g.stop).mapM g.producer.row = .ok rows ∧
            (rows.map fun r => r.cell? "log_uid").Nodup) := by
  obtain ⟨table, seed, htable, hready⟩ := Settings.configure_eq_ok hs
  have hakin := hready.akin moves g (List.mem_of_getElem? hg)
  have hb := hakin.bounded
  have hsplit {streams : Int} (h : 1 ≤ streams) : (Roster.run [g₀] moves).step (.split place (.int streams)) =
      Roster.run [g₀] moves ++ g.pieces streams := by
    simp only [Roster.step, hg, Option.map_some, g.split_int h]
  refine ⟨⟨hb.start_nonneg, hb.start_le_cursor, hb.cursor_le_stop, hb.stop_le_rowCount⟩, ?_, ?_⟩
  · intro streams h
    have htiles := g.tiles_pieces streams hb.cursor_le_stop
    exact ⟨g.pieces streams, hsplit h, htiles, htiles.pairwise⟩
  · intro hf
    have hrows : ∀ n, 0 ≤ n → n < g₀.producer.rowCount → ∃ cells, g₀.producer.row n = .ok cells := fun n =>
      hf.exists_row htable hready
    have hended := hakin.drain_ended hf.room hrows
    refine ⟨hended, hb.covers_drain hended, ?_⟩
    intro streams h children hchildren order horder
    rw [hsplit h, List.append_cancel_left_eq] at hchildren
    subst hchildren
    have hchild : ∀ c ∈ g.pieces streams, g₀.Akin c := fun c hc => hakin.split (g.split_int h) hc
    have hcovers := Roster.covers_readings (fun c hc => (hchild c hc).bounded)
      (fun c hc => (hchild c hc).drain_ended hf.room hrows) horder
    have hall := (g.tiles_pieces streams hb.cursor_le_stop).rows
      (fun c hc => (Generator.mem_pieces hc).1) hcovers
    rw [← List.flatMap_def] at hall
    refine ⟨_, rfl, hall, ?_⟩
    rw [hakin.producer_eq] at hall
    exact hready.nodup_uids (Producer.nodup_numbers _ _) hall

theorem rows_covered_piece : ∃ g₀ g notes,
    ({ rowCount := .int 7, batchSize := .int 2 } : Settings).configure .idle = (.ok g₀, notes) ∧
      (Roster.run [g₀] [.next 1, .split 0 (.int 3)])[1]? = some g ∧ g.stop = 3 ∧ g.drain.2.1 = .ended ∧
      g.Covers g.drain.1 := by
  obtain ⟨g₀, notes, hs, hfeasible, _, hcursor, hstop⟩ := Settings.exists_feasible .null (show 0 < (7 : Int) by decide)
    (by decide) (show 0 < (2 : Int) by decide)
  have hremaining : g₀.remaining = 7 := by simp [Generator.remaining, hcursor, hstop]
  have hchunk : g₀.chunk 3 = 3 := by simp [Generator.chunk, hremaining]
  have hcount : g₀.pieceCount 3 = 3 := by simp [Generator.pieceCount, hchunk, hremaining]
  have hplace : (Roster.run [g₀] [.next 1, .split 0 (.int 3)])[1]? = some (g₀.piece 3 0) := by
    simp [Roster.run, Roster.step, g₀.split_int, Generator.pieces_eq, hcount, List.range_succ]
  have hend : (g₀.piece 3 0).stop = 3 := by simp [Generator.piece, Generator.ofRange, hchunk, hcursor, hstop]
  have hcovered := (rows_covered hs [.next 1, .split 0 (.int 3)] hplace).2.2 hfeasible
  exact ⟨g₀, _, notes, hs, hplace, hend, hcovered.1, hcovered.2.1⟩

theorem rows_uncovered_beyond_index : ∃ g notes,
    ({ rowCount := .int 0x8000000000000000, batchSize := .int 0x8000000000000000, seed := .int 1 } : Settings).configure
        .idle = (.ok g, notes) ∧
      (∀ level row, ∃ text, (Table.builtin.choose level row).fill (Placeholder.value row) = .ok text) ∧
      g.cursor = 0 ∧ g.stop = 0x8000000000000000 ∧ g.drain = ([], .failed .tooMany, g) ∧ ¬ g.Covers g.drain.1 := by
  obtain ⟨g, notes, hs, hrows, hbatch⟩ := Settings.exists_configure (w := .idle)
    (s := { rowCount := .int 0x8000000000000000, batchSize := .int 0x8000000000000000, seed := .int 1 }) rfl rfl
    World.ofSeconds_idle
  obtain ⟨table, seed, htable, hready⟩ := Settings.configure_eq_ok hs
  obtain ⟨hstart, hcursor, hstop⟩ := hready.range
  rw [hrows] at hstop
  have hnext : g.next = .error .tooMany := by
    simp [Generator.next, Producer.batch, Producer.rows, Generator.remaining, hstop, hcursor, hbatch, hrows,
      Value.maxIndex, Except.map]
  have hdrain := Generator.drain_of_error hnext
  refine ⟨g, notes, hs, fun level row => Table.fill_builtin (List.get_mem _ _) _, hcursor, hstop, hdrain, ?_⟩
  intro hcovers
  have hnil := hcovers.rows
  rw [hdrain, hcursor, hstop] at hnil
  have hlength := mapM_length hnil
  simp at hlength

end LogMill
