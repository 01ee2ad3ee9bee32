import LogMill.Run.Configure
import LogMill.Proofs.Pool.Slots
import LogMill.Proofs.Row.Drain
import LogMill.Proofs.Row.Identity

namespace LogMill

open Outcome

namespace Pool

theorem length_draw (c : Category) (count : Nat) (t : Twister) : (draw c count t).1.length = count := by
  cases c with
  | id r =>
    have length_identifiers : ∀ n i t, (identifiers r n i t).1.length = n := by
      intro n
      induction n with
      | zero => intros; rfl
      | succ n ih => intro i t; simp [identifiers, ih]
    exact length_identifiers count 0 t
  | name r => simp [draw, names]
  | token k =>
    have length_tokens : ∀ n t, (tokens k n t).1.length = n := by
      intro n
      induction n with
      | zero => intros; rfl
      | succ n ih => intro t; simp [tokens, ih]
    exact length_tokens count t

theorem size_ofSize (c : Category) (size : Int) (t : Twister) : (ofSize c size t).1.size = size.toNat := by
  change (draw c size.toNat t).1.toArray.size = _
  simp [length_draw]

end Pool

theorem Category.ofColumn?_column (c : Category) : ofColumn? c.column = some c := by
  cases c with
  | id r => cases r <;> decide
  | name r => cases r <;> decide
  | token k => cases k <;> decide

namespace PoolSet

theorem sizeFor_pos {rows : Int} (cap : Int) (h : 0 < rows) : 0 < Pool.sizeFor rows cap := by
  simp only [Pool.sizeFor, Int.not_le.mpr h, ↓reduceIte]
  omega

theorem find?_eq {s : PoolSet} {seed : Value} {size : Int} (h : s.pools = Category.all.map (poolFor seed size))
    (column : String) : s.find? column = (Category.ofColumn? column).map (poolFor seed size) := by
  simp only [find?, h, List.find?_map, Category.ofColumn?]
  rfl

def seedOf (seed : Value) (drawn : Int) : Value :=
  match seed with
  | .null => .int drawn
  | seed => seed

theorem ofSize_eq_ok {size : Int} {seed : Value} {drawn : Int} {clock : Clock} {s : PoolSet}
    (h : (ofSize size seed drawn clock).1 = .ok s) :
    s.seed = seedOf seed drawn ∧ s.pools = Category.all.map (poolFor s.seed size) ∧ s.size = size := by
  unfold ofSize at h
  split at h
  rename_i seed' notes hseed
  split at h
  · simp at h
  · simp only [Except.ok.injEq] at h
    subst h
    refine ⟨?_, rfl, rfl⟩
    cases seed <;> exact (congrArg Prod.fst hseed).symm

end PoolSet

def World.idle : World := ⟨1700000000000, 0, fun _ => .finite 0, ⟨[]⟩⟩

theorem World.ofSeconds_idle : Duration.ofSeconds (idle.clock 1 - idle.clock 0) = .ok 0 := by decide +kernel

structure Generator.Ready (g : Generator) (table : Table) (base seed : Value) : Prop where
  rowCount_pos : 0 < g.producer.rowCount
  batchSize_pos : 0 < g.batchSize
  range : g.start = 0 ∧ g.cursor = 0 ∧ g.stop = g.producer.rowCount
  size_pos : 0 < g.pools.size
  pools : g.pools.pools = Category.all.map (PoolSet.poolFor seed g.pools.size)
  feeds : Feed.all g.pools table base = .ok g.producer.feeds

theorem requirePositive_eq_ok {name : String} {v : Value} {n : Int} (h : requirePositive name v = .ok n) :
    0 < n ∧ v = .int n := by
  cases v with
  | int m =>
    simp only [requirePositive] at h
    split_ifs at h with hpos
    cases h
    exact ⟨hpos, rfl⟩
  | _ => simp [requirePositive] at h

theorem Schema.own_columns : ∀ column ∈ Schema.names, Category.ofColumn? column = none →
    column ∈ ["ts", "log_uid", "log_message", "log_level", "user_id", "response_time_ms", "log_source", "version"] := by
  decide

theorem Feed.exists_all {pools : PoolSet} {seed : Value} (h : pools.pools = Category.all.map (PoolSet.poolFor seed pools.size))
    (table : Table) (base : Value) : ∃ feeds, all pools table base = .ok feeds := by
  apply exists_mapM_ok
  intro column hcolumn
  unfold forColumn
  rw [PoolSet.find?_eq h]
  cases hc : Category.ofColumn? column with
  | some c => exact ⟨_, rfl⟩
  | none =>
    have hown := Schema.own_columns column hcolumn hc
    simp only [List.mem_cons, List.not_mem_nil, or_false] at hown
    rcases hown with rfl | rfl | rfl | rfl | rfl | rfl | rfl | rfl <;> exact ⟨_, rfl⟩

namespace Settings

variable {s : Settings} {w : World} {g : Generator} {notes : Journal}

theorem counts_eq_ok {rows batch : Int} {cap : Option Int} (h : s.counts = .ok (rows, batch, cap)) :
    0 < rows ∧ 0 < batch := by
  simp only [counts, bind_eq_ok, pure, Except.pure, Except.ok.injEq, Prod.mk.injEq] at h
  obtain ⟨r, hr, b, hb, c, hc, rfl, rfl, rfl⟩ := h
  exact ⟨(requirePositive_eq_ok hr).1, (requirePositive_eq_ok hb).1⟩

theorem configure_parts (h : s.configure w = (.ok g, notes)) : ∃ rows batch cap table pools feeds,
    s.checked w.directory = .ok ((rows, batch, cap), table) ∧
      (PoolSet.build rows (cap.getD Pool.defaultCap) s.seed w.drawn w.clock).1 = .ok pools ∧
      Feed.all pools table (s.base w.now) = .ok feeds ∧
      g = Generator.ofRange ⟨feeds, rows⟩ pools batch 0 none := by
  unfold configure at h
  split at h
  · simp at h
  · rename_i rows batch cap table hc
    split at h
    rename_i built journal hbuilt
    split at h
    · simp at h
    · rename_i pools
      split at h
      · simp at h
      · rename_i feeds hfeeds
        simp only [Prod.mk.injEq, Except.ok.injEq] at h
        exact ⟨rows, batch, cap, table, pools, feeds, hc, congrArg Prod.fst hbuilt, hfeeds, h.1.symm⟩

theorem checked_eq_ok {d : Directory} {rows batch : Int} {cap : Option Int} {table : Table}
    (h : s.checked d = .ok ((rows, batch, cap), table)) : s.counts = .ok (rows, batch, cap) ∧ s.table d = .ok table := by
  simp only [checked, bind_eq_ok, mapError_eq_ok, pure, Except.pure, Except.ok.injEq, Prod.mk.injEq] at h
  obtain ⟨_, hcounts, _, htable, rfl, rfl⟩ := h
  exact ⟨hcounts, htable⟩

theorem configure_ready (h : s.configure w = (.ok g, notes)) : ∃ table, s.table w.directory = .ok table ∧
    g.pools.seed = PoolSet.seedOf s.seed w.drawn ∧ g.Ready table (s.base w.now) g.pools.seed := by
  obtain ⟨rows, batch, cap, table, pools, feeds, hchecked, hbuilt, hfeeds, rfl⟩ := configure_parts h
  obtain ⟨hcounts, htable⟩ := checked_eq_ok hchecked
  obtain ⟨hrows, hbatch⟩ := counts_eq_ok hcounts
  obtain ⟨hseed, hpools, hsize⟩ := PoolSet.ofSize_eq_ok hbuilt
  have hpos := PoolSet.sizeFor_pos (cap.getD Pool.defaultCap) hrows
  exact ⟨table, htable, hseed, hrows, hbatch, ⟨rfl, rfl, rfl⟩, hsize ▸ hpos, hsize ▸ hpools, hfeeds⟩

theorem configure_eq_ok (h : s.configure w = (.ok g, notes)) :
    ∃ table seed, s.table w.directory = .ok table ∧ g.Ready table (s.base w.now) seed := by
  obtain ⟨table, htable, _, hready⟩ := configure_ready h
  exact ⟨table, _, htable, hready⟩

theorem exists_size_eq (h : s.configure w = (.ok g, notes)) : ∃ batch cap,
    s.counts = .ok (g.producer.rowCount, batch, cap) ∧
      g.pools.size = Pool.sizeFor g.producer.rowCount (cap.getD Pool.defaultCap) := by
  obtain ⟨rows, batch, cap, table, pools, feeds, hchecked, hbuilt, -, rfl⟩ := configure_parts h
  obtain ⟨_, _, hsize⟩ := PoolSet.ofSize_eq_ok hbuilt
  exact ⟨batch, cap, (checked_eq_ok hchecked).1, hsize⟩

theorem exists_configure {rows batch : Int} {cap : Option Int} {table : Table} {time : Int}
    (hcounts : s.counts = .ok (rows, batch, cap)) (htable : s.table w.directory = .ok table)
    (htime : Duration.ofSeconds (w.clock 1 - w.clock 0) = .ok time) :
    ∃ g notes, s.configure w = (.ok g, notes) ∧ g.producer.rowCount = rows ∧ g.batchSize = batch := by
  have hchecked : s.checked w.directory = .ok ((rows, batch, cap), table) := by
    simp [checked, hcounts, htable, bind, Except.bind, pure, Except.pure, Except.mapError]
  obtain ⟨pools, journal, hbuilt, seed, hpools⟩ : ∃ pools journal,
      PoolSet.build rows (cap.getD Pool.defaultCap) s.seed w.drawn w.clock = (.ok pools, journal) ∧
        ∃ seed, pools.pools = Category.all.map (PoolSet.poolFor seed pools.size) := by
    simp only [PoolSet.build, PoolSet.ofSize, htime]
    exact ⟨_, _, rfl, _, rfl⟩
  obtain ⟨feeds, hfeeds⟩ := Feed.exists_all hpools table (s.base w.now)
  refine ⟨Generator.ofRange ⟨feeds, rows⟩ pools batch 0 none, ?_⟩
  simp only [configure, hchecked, hbuilt, hfeeds]
  exact ⟨_, rfl, rfl, rfl⟩

theorem configure_eq_error {counts : Int × Int × Option Int} {table : Table} {f : Duration.Fault}
    (hcounts : s.counts = .ok counts) (htable : s.table w.directory = .ok table)
    (htime : Duration.ofSeconds (w.clock 1 - w.clock 0) = .error f) :
    ∃ notes, s.configure w = (.error (.duration f), notes) := by
  obtain ⟨rows, batch, cap⟩ := counts
  have hchecked : s.checked w.directory = .ok ((rows, batch, cap), table) := by
    simp [checked, hcounts, htable, bind, Except.bind, pure, Except.pure, Except.mapError]
  simp only [configure, hchecked, PoolSet.build, PoolSet.ofSize, htime]
  exact ⟨_, rfl⟩

end Settings

namespace Generator.Ready

variable {g : Generator} {table : Table} {base seed : Value}

theorem find?_eq (h : g.Ready table base seed) (c : Category) :
    g.pools.find? c.column = some (PoolSet.poolFor seed g.pools.size c) := by
  rw [PoolSet.find?_eq h.pools, Category.ofColumn?_column, Option.map_some]

theorem forColumn_eq (h : g.Ready table base seed) (column : String) :
    Feed.forColumn g.pools table base (.int g.pools.size) column =
      match Category.ofColumn? column with
      | some c => .ok ⟨column, .pool (PoolSet.poolFor seed g.pools.size c)⟩
      | none =>
        match Rule.own? table base (.int g.pools.size) column with
        | some rule => .ok ⟨column, rule⟩
        | none => .error (.noFeed column) := by
  unfold Feed.forColumn
  rw [PoolSet.find?_eq h.pools]
  cases Category.ofColumn? column <;> rfl

theorem exists_row (h : g.Ready table base seed) {n : Int}
    (htime : ∃ v, (Rule.forTimestamps base (.int g.pools.size)).value n = .ok v)
    (huid : ∃ v, (Rule.forUids base).value n = .ok v)
    (hmessage : ∃ v, (Rule.message table).value n = .ok v) : ∃ cells, g.producer.row n = .ok cells := by
  apply exists_mapM_ok
  intro feed hfeed
  obtain ⟨column, hcolumn, hf⟩ := exists_of_mem_mapM h.feeds hfeed
  rw [h.forColumn_eq] at hf
  cases hc : Category.ofColumn? column with
  | some c =>
    simp only [hc, Except.ok.injEq] at hf
    subst hf
    have hpos : 0 < (PoolSet.poolFor seed g.pools.size c).size := by
      have := h.size_pos
      simp only [PoolSet.poolFor, Pool.size_ofSize]
      omega
    obtain ⟨s, hs⟩ := Pool.exists_ofRow hpos n
    exact ⟨.text s, by simp [Rule.value, hs, Except.map, Except.mapError]⟩
  | none =>
    have hown := Schema.own_columns column hcolumn hc
    simp only [hc] at hf
    simp only [List.mem_cons, List.not_mem_nil, or_false] at hown
    rcases hown with rfl | rfl | rfl | rfl | rfl | rfl | rfl | rfl <;>
      simp only [Rule.own?, List.lookup_cons, String.reduceBEq, Except.ok.injEq] at hf <;> subst hf
    · exact htime
    · exact huid
    · exact hmessage
    all_goals exact ⟨_, rfl⟩

theorem cells_eq (h : g.Ready table base seed) {n : Int} {cells : Cells} (hrow : g.producer.row n = .ok cells) :
    List.Forall₂ (fun c v => c ∈ Schema.columns ∧ ∃ feed,
      Feed.forColumn g.pools table base (.int g.pools.size) c.name = .ok feed ∧ feed.rule.value n = .ok v)
      Schema.columns cells := by
  have hlength : cells.length = Schema.columns.length := by
    rw [mapM_length hrow, mapM_length h.feeds]
    simp [Schema.names]
  refine List.forall₂_iff_get.mpr ⟨hlength.symm, ?_⟩
  intro i hi hi'
  have hname : Schema.names[i]? = some Schema.columns[i].name := by
    rw [Schema.names, List.getElem?_map, List.getElem?_eq_getElem hi]
    rfl
  obtain ⟨feed, hfeed, hf⟩ := mapM_getElem? h.feeds hname
  obtain ⟨v, hv, hvalue⟩ := mapM_getElem? hrow hfeed
  rw [List.getElem?_eq_getElem hi'] at hv
  obtain rfl := Option.some.inj hv
  exact ⟨List.getElem_mem hi, feed, hf, hvalue⟩

theorem uid_eq (h : g.Ready table base seed) {n : Int} {cells : Cells} (hrow : g.producer.row n = .ok cells) :
    ∃ time, cells[1]? = some (.text (Rule.uidText time n)) := by
  have hname : Schema.names[1]? = some "log_uid" := rfl
  obtain ⟨feed, hfeed, hf⟩ := mapM_getElem? h.feeds hname
  obtain ⟨v, hv, hvalue⟩ := mapM_getElem? hrow hfeed
  rw [h.forColumn_eq] at hf
  have hnone : Category.ofColumn? "log_uid" = none := by decide
  simp only [hnone, Rule.own?, List.lookup_cons, String.reduceBEq, Except.ok.injEq] at hf
  subst hf
  obtain ⟨time, rfl⟩ := Rule.forUids_value hvalue
  exact ⟨time, hv⟩

theorem rowCount_eq (h : g.Ready table base seed) : g.rowCount = g.producer.rowCount := by
  obtain ⟨hstart, _, hstop⟩ := h.range
  simp [Generator.rowCount, hstart, hstop]

theorem remaining_eq (h : g.Ready table base seed) : g.remaining = g.producer.rowCount := by
  obtain ⟨_, hcursor, hstop⟩ := h.range
  simp [Generator.remaining, hcursor, hstop]

theorem halves_eq_none (h : g.Ready .builtin base seed) : g.producer.halves = none := by
  rw [Producer.halves, List.findSome?_eq_none_iff]
  intro feed hfeed
  obtain ⟨column, hcolumn, hf⟩ := exists_of_mem_mapM h.feeds hfeed
  rw [h.forColumn_eq] at hf
  cases hc : Category.ofColumn? column with
  | some c =>
    simp only [hc, Except.ok.injEq] at hf
    subst hf
    rfl
  | none =>
    have hown := Schema.own_columns column hcolumn hc
    simp only [hc] at hf
    simp only [List.mem_cons, List.not_mem_nil, or_false] at hown
    have htable : Table.builtin.halves = none := by decide
    rcases hown with rfl | rfl | rfl | rfl | rfl | rfl | rfl | rfl <;>
      simp only [Rule.own?, List.lookup_cons, String.reduceBEq, Except.ok.injEq] at hf <;> subst hf
    · cases base <;> rfl
    · cases base <;> rfl
    · exact htable
    all_goals rfl

end Generator.Ready

end LogMill
