import LogMill.Proofs.Message.Composition
import LogMill.Proofs.Pool.Widths
import LogMill.Proofs.Row.Coverage

namespace LogMill

open Outcome Text

def ColumnType.Fits : ColumnType → Value → Prop
  | .text width, v => ∃ s, v = .text s ∧ Within isAscii width s
  | _, v => ∃ n, v = .int n

theorem ColumnType.fits_text {p : Char → Bool} {k width : Nat} {s : String} (h : Within p k s) (hk : k ≤ width)
    (hp : ∀ {c}, p c → isAscii c) : (ColumnType.text width).Fits (.text s) := ⟨s, rfl, h.weaken hk hp⟩

theorem Schema.pooled : ∀ c ∈ columns, (Category.ofColumn? c.name).isSome → c.type = .text 32 := by decide

theorem Schema.column_mem (c : Category) : ⟨c.column, .text 32⟩ ∈ columns := by
  cases c with
  | id r => cases r <;> decide
  | name r => cases r <;> decide
  | token k => cases k <;> decide

theorem Schema.unpooled : ∀ c ∈ columns, Category.ofColumn? c.name = none →
    c ∈ [⟨"ts", .timestamp⟩, ⟨"log_uid", .text 64⟩, ⟨"log_message", .text 2048⟩, ⟨"log_level", .text 8⟩,
      ⟨"user_id", .text 16⟩, ⟨"response_time_ms", .integer⟩, ⟨"log_source", .text 16⟩, ⟨"version", .text 16⟩] := by
  decide

theorem Schema.indexOf?_name : ∀ c ∈ columns, (indexOf? c.name).bind (fun i => columns[i]?) = some c := by decide

namespace Rule

variable {base spread n : Int} {v : Value}

theorem timestamp_value (h : (timestamp base spread).value n = .ok v) :
    ∃ shift, v = .int (base + n + shift) ∧ -1000 ≤ shift ∧ shift ≤ 999 := by
  simp only [value, mapError_eq_ok, map_eq_ok, timestampOf, bind_eq_ok, pure, Except.pure, Except.ok.injEq] at h
  obtain ⟨_, ⟨place, -, rfl⟩, rfl⟩ := h
  refine ⟨_, rfl, ?_⟩
  simp only [maxShift]
  omega

theorem uid_value (h : (uid base).value n = .ok v) :
    v = .text ("log_" ++ toString (base + n) ++ "_" ++ toString n) := by
  simp only [value, mapError_eq_ok, map_eq_ok, uidOf, bind_eq_ok, pure, Except.pure, Except.ok.injEq] at h
  obtain ⟨_, ⟨time, htime, number, hnumber, rfl⟩, rfl⟩ := h
  rw [Whole.text_eq_ok htime, Whole.text_eq_ok hnumber]

theorem within_uid (hbase : 0 ≤ base) (hn : 0 ≤ n) (hsum : base + n < 0x8000000000000000) :
    Within isInk 43 ("log_" ++ toString (base + n) ++ "_" ++ toString n) := by
  have hlead : Within isInk 4 "log_" := by decide
  have hbreak : Within isInk 1 "_" := by decide
  have htime : Within isInk 19 (toString (base + n)) := within_int (by decide) (by omega) (by omega)
  have hrow : Within isInk 19 (toString n) := within_int (by decide) hn (by omega)
  exact ((hlead.append htime).append hbreak).append hrow

theorem exists_user (n : Int) : ∃ number : Int, userOf n = "user_" ++ toString number ∧ 1 ≤ number ∧ number ≤ 9999 := by
  have hlow := slot_nonneg (by decide : 0 < userCount) n
  have hhigh := slot_lt (by decide : 0 < userCount) n
  rw [userCount] at hlow hhigh
  exact ⟨_, rfl, by simp only [userCount]; omega, by simp only [userCount]; omega⟩

theorem within_userOf (n : Int) : Within isInk 9 (userOf n) := by
  obtain ⟨number, huser, hlow, hhigh⟩ := exists_user n
  have hlead : Within isInk 5 "user_" := by decide
  have hnumber : Within isInk 4 (toString number) := within_int (by decide) (by omega) (by omega)
  rw [huser]
  exact hlead.append hnumber

theorem responseTimeOf_bounds (n : Int) : 1 ≤ responseTimeOf n ∧ responseTimeOf n ≤ 999 := by
  simp only [responseTimeOf, maxResponseTime]
  omega

theorem message_value (h : (message .builtin).value n = .ok v) :
    ∃ s, Message.synthesize .builtin (Level.ofRow n) n = .ok s ∧ v = .text s ∧ Within isPage 1599 s := by
  simp only [value, messageOf, mapError_eq_ok, map_eq_ok] at h
  obtain ⟨s, hs, rfl⟩ := h
  obtain ⟨_, hmessage, hwithin⟩ := Message.within_synthesize (Level.ofRow n) n
  obtain rfl := Except.ok.inj (hs.symm.trans hmessage)
  exact ⟨_, hs, rfl, hwithin⟩

end Rule

namespace Generator.Ready

variable {g : Generator} {base n : Int} {seed : Value} {cells : Cells}

theorem fits (h : g.Ready .builtin (.int base) seed) (hsize : g.pools.size ≤ 0x10000000000000000) (hbase : 0 ≤ base)
    (hn : 0 ≤ n) (hsum : base + n < 0x8000000000000000) (hrow : g.producer.row n = .ok cells) :
    List.Forall₂ (fun c v => c.type.Fits v) Schema.columns cells := by
  apply (h.cells_eq hrow).imp
  rintro c v ⟨hmem, feed, hf, hvalue⟩
  rw [h.forColumn_eq] at hf
  cases hc : Category.ofColumn? c.name with
  | some category =>
    simp only [hc, Except.ok.injEq] at hf
    subst hf
    simp only [Rule.value, mapError_eq_ok, map_eq_ok] at hvalue
    obtain ⟨s, hs, rfl⟩ := hvalue
    rw [Schema.pooled c hmem (by rw [hc]; rfl)]
    exact ColumnType.fits_text (PoolSet.within_poolFor hsize hs) (Nat.le_refl _) isAscii_of_isInk
  | none =>
    have hown := Schema.unpooled c hmem hc
    simp only [hc] at hf
    simp only [List.mem_cons, List.not_mem_nil, or_false] at hown
    -- The order is that of the columns: times, identifiers, messages, levels, users, response times, two constants.
    rcases hown with rfl | rfl | rfl | rfl | rfl | rfl | rfl | rfl <;>
      simp only [Rule.own?, List.lookup_cons, String.reduceBEq, Except.ok.injEq] at hf <;> subst hf
    · obtain ⟨_, rfl, -⟩ := Rule.timestamp_value hvalue
      exact ⟨_, rfl⟩
    · obtain rfl := Rule.uid_value hvalue
      exact ColumnType.fits_text (Rule.within_uid hbase hn hsum) (by decide) isAscii_of_isInk
    · obtain ⟨s, -, rfl, hs⟩ := Rule.message_value hvalue
      exact ColumnType.fits_text hs (by decide) isAscii_of_isPage
    · obtain rfl := Except.ok.inj hvalue
      have hname : Within isInk 5 (Level.ofRow n).name := by cases Level.ofRow n <;> decide
      exact ColumnType.fits_text hname (by decide) isAscii_of_isInk
    · obtain rfl := Except.ok.inj hvalue
      exact ColumnType.fits_text (Rule.within_userOf n) (by decide) isAscii_of_isInk
    · obtain rfl := Except.ok.inj hvalue
      exact ⟨_, rfl⟩
    · obtain rfl := Except.ok.inj hvalue
      exact ⟨_, rfl, by decide⟩
    · obtain rfl := Except.ok.inj hvalue
      exact ⟨_, rfl, by decide⟩

variable {table : Table} {base : Value}

theorem exists_cell (h : g.Ready table base seed) (hrow : g.producer.row n = .ok cells) {c : Column}
    (hmem : c ∈ Schema.columns) : ∃ feed v, Feed.forColumn g.pools table base (.int g.pools.size) c.name = .ok feed ∧
      cells.cell? c.name = some v ∧ feed.rule.value n = .ok v := by
  obtain ⟨i, hindex, hcolumn⟩ := Option.bind_eq_some_iff.mp (Schema.indexOf?_name c hmem)
  obtain ⟨hi, hci⟩ := List.getElem?_eq_some_iff.mp hcolumn
  have hcells := h.cells_eq hrow
  have hi' : i < cells.length := hcells.length_eq ▸ hi
  obtain ⟨-, feed, hf, hvalue⟩ := hcells.get hi hi'
  simp only [List.get_eq_getElem, hci] at hf hvalue
  refine ⟨feed, cells[i], hf, ?_, hvalue⟩
  simp only [Cells.cell?, hindex, Option.bind_some, List.getElem?_eq_getElem hi']

theorem exists_own_cell (h : g.Ready table base seed) (hrow : g.producer.row n = .ok cells) {c : Column}
    (hmem : c ∈ Schema.columns) (hc : Category.ofColumn? c.name = none) {rule : Rule}
    (hrule : Rule.own? table base (.int g.pools.size) c.name = some rule) :
    ∃ v, cells.cell? c.name = some v ∧ rule.value n = .ok v := by
  obtain ⟨feed, v, hf, hv, hvalue⟩ := h.exists_cell hrow hmem
  rw [h.forColumn_eq, hc, hrule] at hf
  obtain rfl := Except.ok.inj hf
  exact ⟨v, hv, hvalue⟩

theorem own_cell_eq (h : g.Ready table base seed) (hrow : g.producer.row n = .ok cells) {c : Column}
    (hmem : c ∈ Schema.columns) (hc : Category.ofColumn? c.name = none) {rule : Rule}
    (hrule : Rule.own? table base (.int g.pools.size) c.name = some rule) {v : Value} (hvalue : rule.value n = .ok v) :
    cells.cell? c.name = some v := by
  obtain ⟨v', hcell, hv'⟩ := h.exists_own_cell hrow hmem hc hrule
  rw [hcell, Except.ok.inj (hv'.symm.trans hvalue)]

theorem exists_pool_cell (h : g.Ready table base seed) (hrow : g.producer.row n = .ok cells) (c : Category) :
    ∃ p s, g.pools.find? c.column = some p ∧ p.ofRow n = .ok s ∧ cells.cell? c.column = some (.text s) := by
  have hc := c.ofColumn?_column
  have hmem := Schema.column_mem c
  obtain ⟨feed, v, hf, hv, hvalue⟩ := h.exists_cell hrow hmem
  rw [h.forColumn_eq, hc] at hf
  obtain rfl := Except.ok.inj hf
  simp only [Rule.value, mapError_eq_ok, map_eq_ok] at hvalue
  obtain ⟨s, hs, rfl⟩ := hvalue
  exact ⟨_, s, h.find?_eq c, hs, hv⟩

end Generator.Ready

theorem Pool.sizeFor_le {rows : Int} (cap : Int) (h : 0 < rows) : sizeFor rows cap ≤ 2 * rows := by
  simp only [sizeFor, Int.not_le.mpr h, ↓reduceIte]
  omega

/-- What the cells of a row are, where the time of row zero is a whole number and the templates are built in. -/
structure Cells.OfRow (cells : Cells) (g : Generator) (base n : Int) : Prop where
  fits : List.Forall₂ (fun c v => c.type.Fits v) Schema.columns cells
  time : ∃ t : Int, cells.cell? "ts" = some (.int t) ∧ |t - (base + n)| ≤ 1000 ∧ -0x8000000000000000 ≤ t ∧
    (base + n + 999 < 0x8000000000000000 → t < 0x8000000000000000)
  uid : cells.cell? "log_uid" = some (.text ("log_" ++ toString (base + n) ++ "_" ++ toString n))
  level : cells.cell? "log_level" = some (.text (Level.ofRow n).name)
  message : ∃ s, cells.cell? "log_message" = some (.text s) ∧ Message.synthesize .builtin (Level.ofRow n) n = .ok s
  pooled : ∀ c : Category, ∃ p s, g.pools.find? c.column = some p ∧ p.ofRow n = .ok s ∧
    cells.cell? c.column = some (.text s)
  user : ∃ k : Int, cells.cell? "user_id" = some (.text ("user_" ++ toString k)) ∧ 1 ≤ k ∧ k ≤ 9999
  responseTime : ∃ k : Int, cells.cell? "response_time_ms" = some (.int k) ∧ 1 ≤ k ∧ k ≤ 999
  source : cells.cell? "log_source" = some (.text "application")
  version : cells.cell? "version" = some (.text "v1.0.0")

theorem Generator.Ready.cells_ofRow {g : Generator} {base n : Int} {seed : Value} {cells : Cells}
    (h : g.Ready .builtin (.int base) seed) (hsize : g.pools.size ≤ 0x10000000000000000) (hbase : 0 ≤ base)
    (hn : 0 ≤ n) (hsum : base + n < 0x8000000000000000) (hrow : g.producer.row n = .ok cells) :
    cells.OfRow g base n where
  fits := h.fits hsize hbase hn hsum hrow
  time := by
    obtain ⟨_, hcell, hvalue⟩ := h.exists_own_cell hrow (c := ⟨"ts", .timestamp⟩) (by decide) (by decide) rfl
    obtain ⟨shift, rfl, hlow, hhigh⟩ := Rule.timestamp_value hvalue
    refine ⟨_, hcell, ?_, by omega, by omega⟩
    rw [abs_le]
    omega
  uid := by
    obtain ⟨_, hcell, hvalue⟩ := h.exists_own_cell hrow (c := ⟨"log_uid", .text 64⟩) (by decide) (by decide) rfl
    obtain rfl := Rule.uid_value hvalue
    exact hcell
  level := h.own_cell_eq hrow (c := ⟨"log_level", .text 8⟩) (by decide) (by decide) rfl rfl
  message := by
    obtain ⟨_, hcell, hvalue⟩ := h.exists_own_cell hrow (c := ⟨"log_message", .text 2048⟩) (by decide) (by decide) rfl
    obtain ⟨s, hs, rfl, -⟩ := Rule.message_value hvalue
    exact ⟨s, hcell, hs⟩
  pooled := h.exists_pool_cell hrow
  user := by
    obtain ⟨k, hk, hlow, hhigh⟩ := Rule.exists_user n
    refine ⟨k, ?_, hlow, hhigh⟩
    rw [← hk]
    exact h.own_cell_eq hrow (c := ⟨"user_id", .text 16⟩) (by decide) (by decide) rfl rfl
  responseTime := by
    refine ⟨_, ?_, Rule.responseTimeOf_bounds n⟩
    exact h.own_cell_eq hrow (c := ⟨"response_time_ms", .integer⟩) (by decide) (by decide) rfl rfl
  source := h.own_cell_eq hrow (c := ⟨"log_source", .text 16⟩) (by decide) (by decide) rfl rfl
  version := h.own_cell_eq hrow (c := ⟨"version", .text 16⟩) (by decide) (by decide) rfl rfl

theorem Generator.Ready.exists_short_row {g : Generator} {base n : Int} {seed : Value}
    (h : g.Ready .builtin (.int base) seed) (htime : (base + n).natAbs < Nat.pow 10 Whole.maxDigits)
    (hn : n.natAbs < Nat.pow 10 Whole.maxDigits) : ∃ cells, g.producer.row n = .ok cells := by
  obtain ⟨hts, huid⟩ := Rule.times_of_int (Int.ne_of_gt h.size_pos) htime hn
  exact h.exists_row hts huid (Message.exists_messageOf_iff.mpr (Table.fill_builtin (List.get_mem _ _) _))

theorem Generator.Ready.exists_builtin_row {g : Generator} {base n : Int} {seed : Value}
    (h : g.Ready .builtin (.int base) seed) (hbase : 0 ≤ base) (hn : 0 ≤ n) (hsum : base + n < 0x8000000000000000) :
    ∃ cells, g.producer.row n = .ok cells :=
  h.exists_short_row (Whole.lt_limit (k := 19) (by omega) (by decide)) (Whole.lt_limit (k := 19) (by omega) (by decide))

/-- With the built-in templates and times of 64 bits every row can be made, and every cell of it fits its column. A
time is shifted by up to a second, so that the last ones may be beyond 64 bits. -/
theorem rows_fit {s : Settings} {w : World} {g : Generator} {notes : Journal} (hs : s.configure w = (.ok g, notes))
    (htemplates : s.templatesPath = .null ∧ s.templates = .null) {base : Int} (hbase : s.base w.now = .int base)
    (hnonneg : 0 ≤ base) (hsum : base + g.producer.rowCount < 0x8000000000000000) {n : Int} (hn : 0 ≤ n)
    (hlast : n < g.producer.rowCount) :
    ∃ cells, g.producer.row n = .ok cells ∧ cells.length = 22 ∧ cells.OfRow g base n := by
  obtain ⟨table, seed, htable, hready⟩ := Settings.configure_eq_ok hs
  simp only [Settings.table, htemplates, Except.ok.injEq] at htable
  subst htable
  rw [hbase] at hready
  have hsize : g.pools.size ≤ 0x10000000000000000 := by
    obtain ⟨_, cap, -, hcap⟩ := Settings.exists_size_eq hs
    have := Pool.sizeFor_le (cap.getD Pool.defaultCap) hready.rowCount_pos
    omega
  obtain ⟨cells, hrow⟩ := hready.exists_builtin_row hnonneg hn (by omega)
  have hcells := hready.cells_ofRow hsize hnonneg hn (by omega) hrow
  exact ⟨cells, hrow, hcells.fits.length_eq.symm, hcells⟩

theorem rows_fit_last : ∃ g notes cells,
    ({ rowCount := .int 10, batchSize := .int 5, baseTime := .int 1700000000000 } : Settings).configure .idle =
        (.ok g, notes) ∧
      g.producer.row 9 = .ok cells ∧ cells.length = 22 ∧ cells.OfRow g 1700000000000 9 := by
  obtain ⟨g, notes, hs, hrows, -⟩ := Settings.exists_configure (w := .idle)
    (s := { rowCount := .int 10, batchSize := .int 5, baseTime := .int 1700000000000 }) rfl rfl World.ofSeconds_idle
  have hbase : Settings.base { rowCount := .int 10, batchSize := .int 5, baseTime := .int 1700000000000 }
      World.idle.now = .int 1700000000000 := rfl
  obtain ⟨cells, hrow, hlength, hcells⟩ := rows_fit hs ⟨rfl, rfl⟩ hbase (by decide) (by rw [hrows]; decide)
    (show (0 : Int) ≤ 9 by decide) (by rw [hrows]; decide)
  exact ⟨g, notes, cells, hs, hrow, hlength, hcells⟩

theorem last_time_beyond_bounds : ∃ g notes cells,
    ({ rowCount := .int 1000, batchSize := .int 100, seed := .int 1, baseTime := .int 9223372036854774807 } :
        Settings).configure .idle = (.ok g, notes) ∧
      g.producer.rowCount = 1000 ∧ (9223372036854774807 : Int) + 1000 < 0x8000000000000000 ∧
      g.producer.row 999 = .ok cells ∧ cells.cell? "ts" = some (.int 9223372036854775812) ∧
      ¬ (9223372036854775812 : Int) < 0x8000000000000000 := by
  obtain ⟨g, notes, hs, hrows, -⟩ := Settings.exists_configure (w := .idle)
    (s := { rowCount := .int 1000, batchSize := .int 100, seed := .int 1, baseTime := .int 9223372036854774807 })
    rfl rfl World.ofSeconds_idle
  obtain ⟨table, seed, htable, hready⟩ := Settings.configure_eq_ok hs
  obtain rfl := Except.ok.inj htable
  change g.Ready _ (.int 9223372036854774807) seed at hready
  have hsize : g.pools.size = 2000 := by
    obtain ⟨_, cap, hcounts, hsize⟩ := Settings.exists_size_eq hs
    obtain ⟨-, hcap⟩ := Prod.mk.inj (Except.ok.inj hcounts)
    obtain ⟨-, rfl⟩ := Prod.mk.inj hcap
    rw [hsize, hrows]
    decide
  obtain ⟨cells, hrow⟩ := hready.exists_builtin_row (by decide) (show (0 : Int) ≤ 999 by decide) (by decide)
  obtain ⟨_, hcell, hvalue⟩ := hready.exists_own_cell hrow (c := ⟨"ts", .timestamp⟩) (by decide) (by decide) rfl
  rw [hsize] at hvalue
  obtain rfl := Except.ok.inj hvalue
  exact ⟨g, notes, cells, hs, hrows, by decide, hrow, hcell, by decide⟩

end LogMill
