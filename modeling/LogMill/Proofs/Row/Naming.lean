import LogMill.Proofs.Pool.Names
import LogMill.Proofs.Row.Likeness

namespace LogMill

open Finset Outcome

structure Generator.Pooled (g : Generator) (c : Category) (n : Int) (place : Nat) (v : String) : Prop where
  pool : ∃ p, g.pools.find? c.column = some p ∧ ⟨c.column, .pool p⟩ ∈ g.producer.feeds ∧
    (p.size : Int) = g.pools.size ∧ p.values[place]? = some v ∧ p.ofRow n = .ok v
  cell : ∀ cells, g.producer.row n = .ok cells → cells.cell? c.column = some (.text v)

namespace Generator.Ready

variable {g : Generator} {table : Table} {base seed : Value}

theorem feed_mem (h : g.Ready table base seed) (c : Category) :
    ⟨c.column, .pool (PoolSet.poolFor seed g.pools.size c)⟩ ∈ g.producer.feeds := by
  have hname : c.column ∈ Schema.names := List.mem_map_of_mem (Schema.column_mem c)
  obtain ⟨i, hi⟩ := List.mem_iff_getElem?.mp hname
  obtain ⟨feed, hfeed, hf⟩ := mapM_getElem? h.feeds hi
  rw [h.forColumn_eq, Category.ofColumn?_column] at hf
  obtain rfl := Except.ok.inj hf
  exact List.mem_of_getElem? hfeed

theorem pooled (h : g.Ready table base seed) {c : Category} {n : Int} {v : String}
    (hv : (PoolSet.poolFor seed g.pools.size c).ofRow n = .ok v) : g.Pooled c n (slot n g.pools.size).toNat v where
  pool := ⟨_, h.find?_eq c, h.feed_mem c, PoolSet.size_poolFor_of_nonneg h.size_pos.le,
    (PoolSet.ofRow_eq_ok h.size_pos).mp hv, hv⟩
  cell := by
    intro cells hrow
    obtain ⟨p, u, hp, hu, hcell⟩ := h.exists_pool_cell hrow c
    obtain rfl := Option.some.inj ((h.find?_eq c).symm.trans hp)
    rw [hcell, Except.ok.inj (hu.symm.trans hv)]

theorem exists_pooled (h : g.Ready table base seed) (c : Category) (n : Int) :
    ∃ v, g.Pooled c n (slot n g.pools.size).toNat v := by
  have hsize : ((PoolSet.poolFor seed g.pools.size c).size : Int) = g.pools.size :=
    PoolSet.size_poolFor_of_nonneg h.size_pos.le
  have hpos : 0 < (PoolSet.poolFor seed g.pools.size c).size := by
    have := h.size_pos
    omega
  obtain ⟨v, hv⟩ := Pool.exists_ofRow hpos n
  exact ⟨v, h.pooled hv⟩

theorem pooled_name (h : g.Ready table base seed) (r : Resource) (n : Int) :
    g.Pooled (.name r) n (slot n g.pools.size).toNat (nameOf (slot n g.pools.size + r.shift)) :=
  h.pooled (PoolSet.ofRow_name h.size_pos r n)

end Generator.Ready

/-- Names tell numbers apart up to 9000, so that a pool of names has that many different ones at most. In each row the
identifiers and the names come from one common place, and no two of its names are equal. -/
theorem names_apart :
    (∀ a b : Int, nameOf a = nameOf b ↔ a ≡ b [ZMOD 9000]) ∧
    (∀ (r : Resource) (size : Int) (t : Twister),
      ((Pool.ofSize (.name r) size t).1.values.toList.toFinset.card : Int) =
        min ((Pool.ofSize (.name r) size t).1.size : Int) 9000) ∧
    ∀ (s : Settings) (w : World) (g : Generator) (notes : Journal), s.configure w = (.ok g, notes) →
      (∀ r : Resource, ∃ p, g.pools.find? (Category.name r).column = some p ∧ (p.size : Int) = g.pools.size ∧
        (p.values.toList.toFinset.card : Int) = min (p.size : Int) 9000) ∧
      ∀ n, ∃ (place : Nat) (ids names : Resource → String), place < g.pools.size ∧
        (∀ r, g.Pooled (.id r) n place (ids r) ∧ g.Pooled (.name r) n place (names r)) ∧
        Function.Injective names := by
  refine ⟨nameOf_eq_iff, Pool.card_ofSize_name, ?_⟩
  intro s w g notes hs
  obtain ⟨table, seed, -, hready⟩ := Settings.configure_eq_ok hs
  have hpos := hready.size_pos
  constructor
  · intro r
    exact ⟨_, hready.find?_eq _, PoolSet.size_poolFor_of_nonneg hpos.le, Pool.card_ofSize_name r _ _⟩
  · intro n
    choose ids hids using fun r : Resource => hready.exists_pooled (.id r) n
    refine ⟨_, ids, fun r => nameOf (slot n g.pools.size + r.shift), ?_, fun r => ⟨hids r, hready.pooled_name r n⟩, ?_⟩
    · have := slot_nonneg hpos n
      have := slot_lt hpos n
      omega
    · exact nameOf_shift_injective _

theorem names_apart_pair : ∃ (g : Generator) (notes : Journal) (ids names : Resource → String),
    ({ rowCount := .int 2, batchSize := .int 2, seed := .int 1 } : Settings).configure .idle = (.ok g, notes) ∧
      (∃ p, g.pools.find? "pod_name" = some p ∧ p.values.toList.toFinset.card = 4) ∧
      (∃ place, ∀ r, g.Pooled (.id r) 1 place (ids r) ∧ g.Pooled (.name r) 1 place (names r)) ∧
      names .host ≠ names .cluster := by
  obtain ⟨g, notes, hs, hrows, -⟩ := Settings.exists_configure (w := .idle)
    (s := { rowCount := .int 2, batchSize := .int 2, seed := .int 1 }) rfl rfl World.ofSeconds_idle
  obtain ⟨-, -, hsize, -⟩ := Settings.configure_counts hs
  rw [hrows] at hsize
  obtain ⟨hnames, hplaces⟩ := names_apart.2.2 _ _ g notes hs
  obtain ⟨p, hp, hlength, hcard⟩ := hnames .pod
  obtain ⟨place, ids, names, -, hpooled, hinjective⟩ := hplaces 1
  refine ⟨g, notes, ids, names, hs, ⟨p, hp, ?_⟩, ⟨place, hpooled⟩, fun heq => ?_⟩
  · rw [hlength, hsize] at hcard
    exact Int.natCast_inj.mp (hcard.trans (by decide))
  · exact absurd (hinjective heq) (by decide)

theorem Pool.sizeFor_eq_seven_iff {rows cap : Int} : sizeFor rows cap = 7 ↔ cap = 7 ∧ 4 ≤ rows := by
  unfold sizeFor
  split_ifs <;> omega

theorem one_lt_card_slots_iff {rows size : Int} (hrows : 2 ≤ rows) (hsize : 2 ≤ size) :
    1 < ((Ico 0 rows).image fun n => slot n size).card ↔ size ≠ 7 := by
  have hcard := card_slots (by omega : 0 < size) 0 (by omega : 0 ≤ rows)
  rw [Int.zero_add, gcd_seven] at hcard
  split_ifs at hcard <;> omega

theorem first_hosts_differ {size : Int} (hsize : 2 ≤ size) (hseven : size ≠ 7) :
    nameOf (slot 0 size) ≠ nameOf (slot 1 size) := by
  have hpos : 0 < size := by omega
  intro heq
  have hmod := (nameOf_eq_iff _ _).mp heq
  have hlow := slot_nonneg hpos 0
  have hlow' := slot_nonneg hpos 1
  have hhigh := slot_le hpos (le_refl (0 : Int))
  have hhigh' := slot_le hpos (show (0 : Int) ≤ 1 by decide)
  have hsame : slot 0 size = slot 1 size := by
    simp only [Int.ModEq] at hmod
    omega
  have hone := Int.eq_one_of_dvd_one (Int.ediv_nonneg hpos.le (by omega)) ((slot_eq_slot_iff hpos 0 1).mp hsame).dvd
  rw [gcd_seven] at hone
  split_ifs at hone <;> omega

/-- Two rows and pools of two values are enough for hosts of two names, at two places, unless the pools have seven: a
step of seven leads back to the same place then, so that all rows are of one host. -/
theorem hosts_vary_iff {s : Settings} {w : World} {g : Generator} {notes : Journal}
    (hs : s.configure w = (.ok g, notes)) (hrows : 2 ≤ g.producer.rowCount) (hsize : 2 ≤ g.pools.size) :
    ∃ ids names : Int → String,
      (∀ n, g.Pooled (.id .host) n (slot n g.pools.size).toNat (ids n) ∧
        g.Pooled (.name .host) n (slot n g.pools.size).toNat (names n)) ∧
      (((Ico 0 g.producer.rowCount).image fun n => slot n g.pools.size).card : Int) ≤ g.pools.size ∧
      (1 < ((Ico 0 g.producer.rowCount).image fun n => slot n g.pools.size).card ↔ g.pools.size ≠ 7) ∧
      (1 < ((Ico 0 g.producer.rowCount).image names).card ↔ g.pools.size ≠ 7) ∧
      (g.pools.size = 7 ↔ s.cap = 7 ∧ 4 ≤ g.producer.rowCount) := by
  obtain ⟨table, seed, -, hready⟩ := Settings.configure_eq_ok hs
  obtain ⟨-, -, heffective, -⟩ := Settings.configure_counts hs
  have hslots := one_lt_card_slots_iff hrows hsize
  choose ids hids using fun n : Int => hready.exists_pooled (.id .host) n
  refine ⟨ids, fun n => nameOf (slot n g.pools.size), fun n => ⟨hids n, ?_⟩, ?_, hslots, ⟨?_, ?_⟩, ?_⟩
  · simpa [Resource.shift] using hready.pooled_name .host n
  · rw [← Int.zero_add g.producer.rowCount, card_slots hready.size_pos 0 (by omega)]
    exact (min_le_right _ _).trans (Int.ediv_le_self _ hready.size_pos.le)
  · intro hmany
    apply hslots.mp
    apply hmany.trans_le
    -- Names are told apart by their places at most.
    rw [← Function.comp_def nameOf, ← image_image]
    exact card_image_le
  · intro hseven
    have hfirst : (0 : Int) ∈ Ico 0 g.producer.rowCount := mem_Ico.mpr (by omega)
    have hsecond : (1 : Int) ∈ Ico 0 g.producer.rowCount := mem_Ico.mpr (by omega)
    apply one_lt_card.mpr
    exact ⟨_, mem_image_of_mem _ hfirst, _, mem_image_of_mem _ hsecond, first_hosts_differ hsize hseven⟩
  · rw [heffective]
    exact Pool.sizeFor_eq_seven_iff

theorem hosts_vary_iff_eight : ∃ (g : Generator) (notes : Journal) (names : Int → String),
    ({ rowCount := .int 4, batchSize := .int 4, poolCap := .int 8, seed := .int 1 } : Settings).configure .idle =
        (.ok g, notes) ∧
      (∀ n, g.Pooled (.name .host) n (slot n 8).toNat (names n)) ∧ 1 < ((Ico 0 4).image names).card := by
  obtain ⟨g, notes, hs, hrows, -⟩ := Settings.exists_configure (w := .idle)
    (s := { rowCount := .int 4, batchSize := .int 4, poolCap := .int 8, seed := .int 1 }) rfl rfl World.ofSeconds_idle
  obtain ⟨-, -, hsize, -⟩ := Settings.configure_counts hs
  rw [hrows] at hsize
  replace hsize : g.pools.size = 8 := hsize.trans (by decide)
  obtain ⟨_, names, hpooled, -, -, hnames, -⟩ := hosts_vary_iff hs (by omega) (by omega)
  rw [hrows, hsize] at hnames
  exact ⟨g, notes, names, hs, fun n => hsize ▸ (hpooled n).2, hnames.mpr (by decide)⟩

theorem one_host_of_seven : ∃ g notes,
    ({ rowCount := .int 4, batchSize := .int 4, poolCap := .int 7, seed := .int 1 } : Settings).configure .idle =
        (.ok g, notes) ∧
      g.producer.rowCount = 4 ∧ g.pools.size = 7 ∧
      ∀ n, 0 ≤ n → n < 4 → slot n g.pools.size = 6 ∧
        ∃ cells, g.producer.row n = .ok cells ∧ cells.cell? "host_name" = some (.text "eta6") := by
  obtain ⟨g, notes, hs, hrows, -⟩ := Settings.exists_configure (w := .idle)
    (s := { rowCount := .int 4, batchSize := .int 4, poolCap := .int 7, seed := .int 1 }) rfl rfl World.ofSeconds_idle
  obtain ⟨table, seed, htable, hready⟩ := Settings.configure_eq_ok hs
  obtain ⟨-, -, hsize, -⟩ := Settings.configure_counts hs
  rw [hrows] at hsize
  replace hsize : g.pools.size = 7 := hsize.trans (by decide)
  obtain rfl := Except.ok.inj htable
  change g.Ready _ (.int 1700000000000) seed at hready
  refine ⟨g, notes, hs, hrows, hsize, fun n hlow hhigh => ?_⟩
  have hslot : slot n 7 = 6 := by
    rw [slot_eq (by decide)]
    omega
  obtain ⟨cells, hrow⟩ := hready.exists_builtin_row (by decide) hlow (by omega)
  have hcell := (hready.pooled_name .host n).cell cells hrow
  rw [hsize, hslot] at hcell
  exact ⟨hsize ▸ hslot, cells, hrow, hcell⟩

end LogMill
