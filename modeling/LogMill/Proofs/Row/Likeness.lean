import LogMill.Proofs.Pool.Growth
import LogMill.Proofs.Row.Fitting

namespace LogMill

open Outcome

def Schema.drawn : List String :=
  ["host_id", "service_id", "container_id", "pod_id", "cluster_id", "trace_id", "span_id", "session_id", "request_id"]

theorem Category.column_of_ofColumn? {s : String} {c : Category} (h : ofColumn? s = some c) : c.column = s := by
  simpa using List.find?_some h

theorem Category.mem_drawn (c : Category) : c.column ∈ Schema.drawn ∨ ∃ r, c = name r := by
  cases c with
  | id r => exact .inl (by cases r <;> decide)
  | name r => exact .inr ⟨r, rfl⟩
  | token k => exact .inl (by cases k <;> decide)

namespace Settings

variable {s : Settings} {w : World} {g : Generator} {notes : Journal}

def cap (s : Settings) : Int :=
  match s.poolCap with
  | .int n => n
  | _ => Pool.defaultCap

theorem counts_parts {rows batch : Int} {cap : Option Int} (h : s.counts = .ok (rows, batch, cap)) :
    s.rowCount = .int rows ∧ s.batchSize = .int batch ∧ cap.getD Pool.defaultCap = s.cap ∧ 0 < s.cap := by
  simp only [counts, bind_eq_ok, pure, Except.pure, Except.ok.injEq, Prod.mk.injEq] at h
  obtain ⟨_, hrows, _, hbatch, _, hcap, rfl, rfl, rfl⟩ := h
  refine ⟨(requirePositive_eq_ok hrows).2, (requirePositive_eq_ok hbatch).2, ?_⟩
  unfold requirePositive? at hcap
  split at hcap
  · rename_i hnull
    obtain rfl := Except.ok.inj hcap
    simp only [Settings.cap, hnull, Option.getD_none, true_and]
    decide
  · obtain ⟨n, hn, rfl⟩ := map_eq_ok.mp hcap
    obtain ⟨hpos, hgiven⟩ := requirePositive_eq_ok hn
    simp only [Settings.cap, hgiven, Option.getD_some, true_and]
    exact hpos

theorem configure_counts (h : s.configure w = (.ok g, notes)) : s.rowCount = .int g.producer.rowCount ∧
    s.batchSize = .int g.batchSize ∧ g.pools.size = Pool.sizeFor g.producer.rowCount s.cap ∧ 0 < s.cap := by
  obtain ⟨rows, batch, cap, table, pools, feeds, hchecked, hbuilt, -, rfl⟩ := configure_parts h
  obtain ⟨hrows, hbatch, hcap, hpos⟩ := counts_parts (checked_eq_ok hchecked).1
  obtain ⟨_, _, hsize⟩ := PoolSet.ofSize_eq_ok hbuilt
  exact ⟨hrows, hbatch, hcap ▸ hsize, hpos⟩

end Settings

/-- What two rows of one number have in common: all cells but the times and what is drawn. -/
structure Cells.Alike (a b : Cells) : Prop where
  widths : a.length = Schema.columns.length ∧ b.length = Schema.columns.length
  same : ∀ column ∈ Schema.names, column ∉ "ts" :: "log_uid" :: Schema.drawn → a.cell? column = b.cell? column

theorem Rule.timestamp_apart {base₁ base₂ spread n : Int} {v₁ v₂ : Value}
    (h₁ : (timestamp base₁ spread).value n = .ok v₁) (h₂ : (timestamp base₂ spread).value n = .ok v₂) :
    ∃ t : Int, v₁ = .int t ∧ v₂ = .int (t + (base₂ - base₁)) := by
  simp only [value, mapError_eq_ok, map_eq_ok, timestampOf, bind_eq_ok, pure, Except.pure, Except.ok.injEq] at h₁ h₂
  obtain ⟨_, ⟨place, hplace, rfl⟩, rfl⟩ := h₁
  obtain ⟨_, ⟨_, hplace', rfl⟩, rfl⟩ := h₂
  obtain rfl := Except.ok.inj (hplace.symm.trans hplace')
  refine ⟨_, rfl, ?_⟩
  congr 1
  omega

theorem Rule.own?_congr (table : Table) (base₁ base₂ spread : Value) {column : String} (hts : column ≠ "ts")
    (huid : column ≠ "log_uid") : own? table base₁ spread column = own? table base₂ spread column := by
  simp only [own?, List.lookup_cons, beq_eq_false_iff_ne.mpr hts, beq_eq_false_iff_ne.mpr huid]

namespace Generator.Ready

variable {g₁ g₂ : Generator} {table : Table} {base base₁ base₂ seed₁ seed₂ : Value} {n : Int} {a b : Cells}

theorem forColumn_congr (h₁ : g₁.Ready table base₁ seed₁) (h₂ : g₂.Ready table base₂ seed₂)
    (hsize : g₁.pools.size = g₂.pools.size) {column : String}
    (htimes : base₁ = base₂ ∨ column ≠ "ts" ∧ column ≠ "log_uid")
    (hdrawn : seed₁.plain = seed₂.plain ∨ column ∉ Schema.drawn) :
    Feed.forColumn g₁.pools table base₁ (.int g₁.pools.size) column =
      Feed.forColumn g₂.pools table base₂ (.int g₂.pools.size) column := by
  rw [h₁.forColumn_eq, h₂.forColumn_eq, hsize]
  cases hc : Category.ofColumn? column with
  | some c =>
    have hpool : PoolSet.poolFor seed₁ g₂.pools.size c = PoolSet.poolFor seed₂ g₂.pools.size c := by
      rcases hdrawn with hseed | hdrawn
      · exact PoolSet.poolFor_congr hseed _ c
      · obtain hmem | ⟨r, rfl⟩ := c.mem_drawn
        · exact absurd (Category.column_of_ofColumn? hc ▸ hmem) hdrawn
        · exact PoolSet.poolFor_name _ _ _ r
    simp only [hpool]
  | none =>
    have hrule : Rule.own? table base₁ (.int g₂.pools.size) column =
        Rule.own? table base₂ (.int g₂.pools.size) column := by
      rcases htimes with rfl | ⟨hts, huid⟩
      · rfl
      · exact Rule.own?_congr table base₁ base₂ _ hts huid
    simp only [hrule]

theorem feeds_congr (h₁ : g₁.Ready table base seed₁) (h₂ : g₂.Ready table base seed₂)
    (hsize : g₁.pools.size = g₂.pools.size) (hseed : seed₁.plain = seed₂.plain) :
    g₁.producer.feeds = g₂.producer.feeds := by
  have hall : Feed.all g₁.pools table base = Feed.all g₂.pools table base := by
    simp only [Feed.all, Feed.allOver]
    congr 1
    funext column
    exact h₁.forColumn_congr h₂ hsize (.inl rfl) (.inl hseed)
  rw [h₁.feeds, h₂.feeds] at hall
  exact Except.ok.inj hall

theorem row_congr (h₁ : g₁.Ready table base seed₁) (h₂ : g₂.Ready table base seed₂)
    (hsize : g₁.pools.size = g₂.pools.size) (hseed : seed₁.plain = seed₂.plain) (n : Int) :
    g₁.producer.row n = g₂.producer.row n := by
  simp only [Producer.row, h₁.feeds_congr h₂ hsize hseed]

theorem cell_congr (h₁ : g₁.Ready table base₁ seed₁) (h₂ : g₂.Ready table base₂ seed₂)
    (hsize : g₁.pools.size = g₂.pools.size) (ha : g₁.producer.row n = .ok a) (hb : g₂.producer.row n = .ok b)
    {column : String} (hmem : column ∈ Schema.names) (htimes : column ≠ "ts" ∧ column ≠ "log_uid")
    (hdrawn : seed₁.plain = seed₂.plain ∨ column ∉ Schema.drawn) : a.cell? column = b.cell? column := by
  obtain ⟨c, hc, rfl⟩ := List.mem_map.mp hmem
  obtain ⟨feed, u, hf, hu, hvalue⟩ := h₁.exists_cell ha hc
  obtain ⟨feed', v, hf', hv, hvalue'⟩ := h₂.exists_cell hb hc
  rw [h₁.forColumn_congr h₂ hsize (.inr htimes) hdrawn] at hf
  obtain rfl := Except.ok.inj (hf.symm.trans hf')
  rw [hu, hv, Except.ok.inj (hvalue.symm.trans hvalue')]

theorem alike (h₁ : g₁.Ready table base₁ seed₁) (h₂ : g₂.Ready table base₂ seed₂)
    (hsize : g₁.pools.size = g₂.pools.size) (ha : g₁.producer.row n = .ok a) (hb : g₂.producer.row n = .ok b) :
    a.Alike b where
  widths := ⟨(h₁.cells_eq ha).length_eq.symm, (h₂.cells_eq hb).length_eq.symm⟩
  same := by
    intro column hmem hother
    simp only [List.mem_cons, not_or] at hother
    exact h₁.cell_congr h₂ hsize ha hb hmem ⟨hother.1, hother.2.1⟩ (.inr hother.2.2)

theorem times_apart {base₁ base₂ : Int} (h₁ : g₁.Ready table (.int base₁) seed₁)
    (h₂ : g₂.Ready table (.int base₂) seed₂) (hsize : g₁.pools.size = g₂.pools.size)
    (ha : g₁.producer.row n = .ok a) (hb : g₂.producer.row n = .ok b) :
    ∃ t : Int, a.cell? "ts" = some (.int t) ∧ b.cell? "ts" = some (.int (t + (base₂ - base₁))) := by
  obtain ⟨u, hu, hvalue⟩ := h₁.exists_own_cell ha (c := ⟨"ts", .timestamp⟩) (by decide) (by decide) rfl
  obtain ⟨v, hv, hvalue'⟩ := h₂.exists_own_cell hb (c := ⟨"ts", .timestamp⟩) (by decide) (by decide) rfl
  rw [hsize] at hvalue
  obtain ⟨t, rfl, rfl⟩ := Rule.timestamp_apart hvalue hvalue'
  exact ⟨t, hu, hv⟩

end Generator.Ready

/-- Rows of the same number, of two generators with the same number of rows, cap and templates: only times and what is
drawn can be different. Times are as far apart as those of row zero, what is drawn is the same for seeds of the same
text, and a number drawn by the system counts as the seed. -/
theorem rows_alike {s₁ s₂ : Settings} {w₁ w₂ : World} {g₁ g₂ : Generator} {notes₁ notes₂ : Journal}
    (h₁ : s₁.configure w₁ = (.ok g₁, notes₁)) (h₂ : s₂.configure w₂ = (.ok g₂, notes₂))
    (hrows : s₁.rowCount = s₂.rowCount) (hcap : s₁.cap = s₂.cap)
    (htable : s₁.table w₁.directory = s₂.table w₂.directory) :
    (∀ n a b, g₁.producer.row n = .ok a → g₂.producer.row n = .ok b → a.Alike b ∧
      (g₁.pools.seed.plain = g₂.pools.seed.plain → ∀ column ∈ Schema.drawn, a.cell? column = b.cell? column)) ∧
    (∀ base₁ base₂ : Int, s₁.base w₁.now = .int base₁ → s₂.base w₂.now = .int base₂ →
      ∀ n, (∀ table, s₁.table w₁.directory = .ok table →
          ∃ text, (table.choose (Level.ofRow n) n).fill (Placeholder.value n) = .ok text) →
        n.natAbs < Nat.pow 10 Whole.maxDigits → (base₁ + n).natAbs < Nat.pow 10 Whole.maxDigits →
        (base₂ + n).natAbs < Nat.pow 10 Whole.maxDigits →
        ∃ a b, g₁.producer.row n = .ok a ∧ g₂.producer.row n = .ok b ∧
          ∃ t : Int, a.cell? "ts" = some (.int t) ∧ b.cell? "ts" = some (.int (t + (base₂ - base₁)))) ∧
    (s₁.seed = .null → g₁.pools.seed = .int w₁.drawn ∧
      (s₂.seed = .int w₁.drawn → s₁.base w₁.now = s₂.base w₂.now →
        ∀ n, g₁.producer.row n = g₂.producer.row n)) := by
  obtain ⟨table, htable₁, hseed₁, hready₁⟩ := Settings.configure_ready h₁
  obtain ⟨table₂, htable₂, hseed₂, hready₂⟩ := Settings.configure_ready h₂
  obtain rfl : table = table₂ := Except.ok.inj (htable₁.symm.trans (htable.trans htable₂))
  obtain ⟨hcount₁, -, hsize₁, -⟩ := Settings.configure_counts h₁
  obtain ⟨hcount₂, -, hsize₂, -⟩ := Settings.configure_counts h₂
  have hcount : g₁.producer.rowCount = g₂.producer.rowCount := by
    simpa only [hcount₁, hcount₂, Value.int.injEq] using hrows
  have hsize : g₁.pools.size = g₂.pools.size := by rw [hsize₁, hsize₂, hcount, hcap]
  refine ⟨?_, ?_, ?_⟩
  · intro n a b ha hb
    refine ⟨hready₁.alike hready₂ hsize ha hb, fun hseed column hdrawn => ?_⟩
    have hplace : ∀ column ∈ Schema.drawn, column ∈ Schema.names ∧ column ≠ "ts" ∧ column ≠ "log_uid" := by decide
    obtain ⟨hmem, htimes⟩ := hplace column hdrawn
    exact hready₁.cell_congr hready₂ hsize ha hb hmem htimes (.inl hseed)
  · intro base₁ base₂ hbase₁ hbase₂ n hfills hn hn₁ hn₂
    rw [hbase₁] at hready₁
    rw [hbase₂] at hready₂
    have hmessage := Message.exists_messageOf_iff.mpr (hfills table htable₁)
    obtain ⟨hts₁, huid₁⟩ := Rule.times_of_int (Int.ne_of_gt hready₁.size_pos) hn₁ hn
    obtain ⟨hts₂, huid₂⟩ := Rule.times_of_int (Int.ne_of_gt hready₂.size_pos) hn₂ hn
    obtain ⟨a, ha⟩ := hready₁.exists_row hts₁ huid₁ hmessage
    obtain ⟨b, hb⟩ := hready₂.exists_row hts₂ huid₂ hmessage
    exact ⟨a, b, ha, hb, hready₁.times_apart hready₂ hsize ha hb⟩
  · intro hnull
    have hdrawn : g₁.pools.seed = .int w₁.drawn := by rw [hseed₁, hnull]; rfl
    refine ⟨hdrawn, fun hgiven hbase n => ?_⟩
    have hseed : g₁.pools.seed.plain = g₂.pools.seed.plain := by rw [hdrawn, hseed₂, hgiven]; rfl
    rw [← hbase] at hready₂
    exact hready₁.row_congr hready₂ hsize hseed n

theorem rows_alike_unseeded : ∃ g₁ g₂ notes₁ notes₂ a b,
    ({ rowCount := .int 10, batchSize := .int 5, baseTime := .int 1000 } : Settings).configure .idle =
        (.ok g₁, notes₁) ∧
      ({ rowCount := .int 10, batchSize := .int 3, baseTime := .int 61000, seed := .int 0 } : Settings).configure
        .idle = (.ok g₂, notes₂) ∧
      g₁.producer.row 9 = .ok a ∧ g₂.producer.row 9 = .ok b ∧ a.Alike b ∧ a.cell? "pod_id" = b.cell? "pod_id" ∧
      g₁.pools.seed = .int 0 ∧
      ∃ t : Int, a.cell? "ts" = some (.int t) ∧ b.cell? "ts" = some (.int (t + 60000)) := by
  obtain ⟨g₁, notes₁, h₁, -, -⟩ := Settings.exists_configure (w := .idle)
    (s := { rowCount := .int 10, batchSize := .int 5, baseTime := .int 1000 }) rfl rfl World.ofSeconds_idle
  obtain ⟨g₂, notes₂, h₂, -, -⟩ := Settings.exists_configure (w := .idle)
    (s := { rowCount := .int 10, batchSize := .int 3, baseTime := .int 61000, seed := .int 0 }) rfl rfl
    World.ofSeconds_idle
  obtain ⟨hsame, htimes, hdrawn⟩ := rows_alike h₁ h₂ rfl rfl rfl
  have hfills : ∀ table, Settings.table { rowCount := .int 10, batchSize := .int 5, baseTime := .int 1000 }
      World.idle.directory = .ok table →
      ∃ text, (table.choose (Level.ofRow 9) 9).fill (Placeholder.value 9) = .ok text := by
    intro table htable
    obtain rfl := Except.ok.inj htable
    exact Table.fill_builtin (List.get_mem _ _) _
  have hlimit {n : Nat} (h : n < 10 ^ 5) : n < Nat.pow 10 Whole.maxDigits := Whole.lt_limit h (by decide)
  obtain ⟨a, b, ha, hb, t, hts, hts'⟩ := htimes 1000 61000 rfl rfl 9 hfills (hlimit (by decide)) (hlimit (by decide))
    (hlimit (by decide))
  obtain ⟨halike, hpooled⟩ := hsame 9 a b ha hb
  have hseed₁ : g₁.pools.seed = .int 0 := (hdrawn rfl).1
  obtain ⟨_, -, hseed₂, -⟩ := Settings.configure_ready h₂
  exact ⟨g₁, g₂, notes₁, notes₂, a, b, h₁, h₂, ha, hb, halike,
    hpooled (by rw [hseed₁, hseed₂]; rfl) "pod_id" (by decide), hseed₁, t, hts, hts'⟩

theorem no_row_beyond_digits : ∃ g₁ g₂ notes₁ notes₂,
    ({ rowCount := .int 2, batchSize := .int 2, seed := .int 1, baseTime := .int 0 } : Settings).configure .idle =
        (.ok g₁, notes₁) ∧
      ({ rowCount := .int 2, batchSize := .int 2, seed := .int 1, baseTime := .int (Nat.pow 10 Whole.maxDigits - 1) } :
        Settings).configure .idle = (.ok g₂, notes₂) ∧
      (∀ level row, ∃ text, (Table.builtin.choose level row).fill (Placeholder.value row) = .ok text) ∧
      ¬ ∃ a b, g₁.producer.row 1 = .ok a ∧ g₂.producer.row 1 = .ok b ∧
        ∃ t : Int, a.cell? "ts" = some (.int t) ∧
          b.cell? "ts" = some (.int (t + (Nat.pow 10 Whole.maxDigits - 1))) := by
  obtain ⟨g₁, notes₁, h₁, -, -⟩ := Settings.exists_configure (w := .idle)
    (s := { rowCount := .int 2, batchSize := .int 2, seed := .int 1, baseTime := .int 0 }) rfl rfl World.ofSeconds_idle
  obtain ⟨g₂, notes₂, h₂, -, -⟩ := Settings.exists_configure (w := .idle)
    (s := {
      rowCount := .int 2
      batchSize := .int 2
      seed := .int 1
      baseTime := .int (Nat.pow 10 Whole.maxDigits - 1) }) rfl rfl World.ofSeconds_idle
  refine ⟨g₁, g₂, notes₁, notes₂, h₁, h₂, fun level row => Table.fill_builtin (List.get_mem _ _) _, ?_⟩
  rintro ⟨_, b, -, hb, -⟩
  obtain ⟨table, -, -, hready⟩ := Settings.configure_ready h₂
  obtain ⟨v, -, hvalue⟩ := hready.exists_own_cell hb (c := ⟨"log_uid", .text 64⟩) (by decide) (by decide) rfl
  have hlong : ¬ ((Nat.pow 10 Whole.maxDigits - 1 : Int) + 1).natAbs < Nat.pow 10 Whole.maxDigits := by
    rw [Int.sub_add_cancel, Int.natAbs_natCast]
    exact Nat.lt_irrefl _
  have huid : (Rule.forUids (.int (Nat.pow 10 Whole.maxDigits - 1))).value 1 = .ok v := hvalue
  simp only [Rule.forUids, Rule.value, Rule.uidOf, Whole.text, hlong, ↓reduceIte] at huid
  cases huid

end LogMill
