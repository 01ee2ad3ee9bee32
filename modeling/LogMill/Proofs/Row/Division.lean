import LogMill.Proofs.Row.Drain
import Mathlib.Tactic.Linarith
import Mathlib.Tactic.Ring

namespace LogMill

open Outcome
open Producer (numbers)

theorem ceilDiv_bounds (r : Int) {d : Int} (hd : 0 < d) :
    (-Int.fdiv (-r) d - 1) * d < r ∧ r ≤ -Int.fdiv (-r) d * d := by
  rw [Int.fdiv_eq_ediv_of_nonneg _ (by omega)]
  have hmod := Int.emod_nonneg (-r) (by omega : d ≠ 0)
  have hlt := Int.emod_lt_of_pos (-r) hd
  have hdiv := Int.mul_ediv_add_emod (-r) d
  constructor <;> linarith

theorem ceilDiv_eq {r d k : Int} (hd : 0 < d) (hlow : (k - 1) * d < r) (hhigh : r ≤ k * d) :
    -Int.fdiv (-r) d = k := by
  obtain ⟨hlow', hhigh'⟩ := ceilDiv_bounds r hd
  have hle : -Int.fdiv (-r) d - 1 < k := lt_of_mul_lt_mul_right (hlow'.trans_le hhigh) hd.le
  have hge : k - 1 < -Int.fdiv (-r) d := lt_of_mul_lt_mul_right (hlow.trans_le hhigh') hd.le
  omega

namespace Generator

def Tiles : Int → Int → List Generator → Prop
  | a, b, [] => a = b
  | a, b, g :: gs => g.start = a ∧ g.cursor = a ∧ a < g.stop ∧ Tiles g.stop b gs

variable {g : Generator}

theorem Tiles.le {a b : Int} {gs : List Generator} (h : Tiles a b gs) : a ≤ b := by
  induction gs generalizing a with
  | nil => exact le_of_eq h
  | cons g gs ih =>
    obtain ⟨_, _, hlt, hrest⟩ := h
    have := ih hrest
    omega

theorem Tiles.within {a b : Int} {gs : List Generator} (h : Tiles a b gs) :
    ∀ c ∈ gs, a ≤ c.start ∧ c.cursor = c.start ∧ c.start < c.stop ∧ c.stop ≤ b := by
  induction gs generalizing a with
  | nil => simp
  | cons g gs ih =>
    obtain ⟨hstart, hcursor, hlt, hrest⟩ := h
    intro c hc
    rcases List.mem_cons.mp hc with rfl | hc
    · exact ⟨by omega, by omega, by omega, hrest.le⟩
    · obtain ⟨hlow, hrest⟩ := ih hrest c hc
      exact ⟨by omega, hrest⟩

theorem Tiles.pairwise {a b : Int} {gs : List Generator} (h : Tiles a b gs) :
    gs.Pairwise fun c d => c.stop ≤ d.start := by
  induction gs generalizing a with
  | nil => exact .nil
  | cons g gs ih =>
    obtain ⟨_, _, _, hrest⟩ := h
    exact .cons (fun d hd => (hrest.within d hd).1) (ih hrest)

theorem Tiles.numbers_eq {a b : Int} {gs : List Generator} (h : Tiles a b gs) :
    gs.flatMap (fun c => numbers c.cursor c.stop) = numbers a b := by
  induction gs generalizing a with
  | nil => rw [Producer.numbers_eq_nil (ge_of_eq h), List.flatMap_nil]
  | cons g gs ih =>
    obtain ⟨hstart, hcursor, hlt, hrest⟩ := h
    rw [List.flatMap_cons, ih hrest, hcursor, Producer.numbers_append hlt.le hrest.le]

theorem sizes_bounds {d : Int} (hd : 0 < d) {bs : List Batch} (hfull : ∀ b ∈ bs.dropLast, (b.size : Int) = d)
    (hsizes : ∀ b ∈ bs, 0 < b.size ∧ (b.size : Int) ≤ d) :
    (bs.length - 1) * d < (bs.map Batch.size).sum ∧ ((bs.map Batch.size).sum : Int) ≤ bs.length * d := by
  induction bs with
  | nil => simpa using hd
  | cons b bs ih =>
    obtain ⟨hpos, hle⟩ := hsizes b (by simp)
    obtain ⟨hlow, hhigh⟩ := ih (fun c hc => hfull c (by cases bs <;> simp_all))
      (fun c hc => hsizes c (List.mem_cons_of_mem _ hc))
    rw [List.map_cons, List.sum_cons, List.length_cons]
    simp only [Nat.cast_add, Nat.cast_one]
    cases bs with
    | nil => simpa using ⟨hpos, hle⟩
    | cons b' bs =>
      have hb : (b.size : Int) = d := hfull b (by simp)
      constructor <;> linarith

theorem Covers.length_eq {bs : List Batch} (hc : g.Covers bs) (hg : g.Bounded) :
    (bs.length : Int) = -Int.fdiv (-g.remaining) g.batchSize := by
  obtain ⟨hlow, hhigh⟩ := sizes_bounds hg.batchSize_pos hc.full hc.sizes
  have hle := hg.cursor_le_stop
  have hsize : ((bs.map Batch.size).sum : Int) = g.remaining := by
    rw [hc.size_eq]
    simp only [remaining]
    omega
  rw [hsize] at hlow hhigh
  exact (ceilDiv_eq hg.batchSize_pos hlow hhigh).symm

theorem Tiles.rows {p : Producer} {a b : Int} {gs : List Generator} {read : List (List Batch)} (h : Tiles a b gs)
    (hp : ∀ c ∈ gs, c.producer = p) (hc : List.Forall₂ Covers gs read) :
    (numbers a b).mapM p.row = .ok (read.flatten.flatMap Batch.rows) := by
  induction hc generalizing a with
  | nil =>
    rw [Producer.numbers_eq_nil (ge_of_eq h)]
    rfl
  | @cons g bs gs read hg hrest ih =>
    obtain ⟨hstart, hcursor, hlt, htail⟩ := h
    have hrows := hg.rows
    rw [hcursor, hp g (by simp)] at hrows
    rw [← Producer.numbers_append hlt.le htail.le, List.flatten_cons, List.flatMap_append]
    exact mapM_append_ok hrows (ih htail fun c hc => hp c (List.mem_cons_of_mem _ hc))

theorem chunk_pos (g : Generator) (streams : Int) : 0 < g.chunk streams := by
  simp only [chunk]
  omega

def piece (g : Generator) (streams : Int) (i : Nat) : Generator :=
  ofRange g.producer g.pools g.batchSize (g.cursor + i * g.chunk streams)
    (some (min (g.cursor + i * g.chunk streams + g.chunk streams) g.stop))

def pieceCount (g : Generator) (streams : Int) : Nat := (-Int.fdiv (-g.remaining) (g.chunk streams)).toNat

theorem pieces_eq (g : Generator) (streams : Int) :
    g.pieces streams = (List.range (g.pieceCount streams)).map (g.piece streams) := rfl

theorem pieceCount_bounds (g : Generator) (streams : Int) (h : 0 ≤ g.remaining) :
    g.remaining ≤ g.pieceCount streams * g.chunk streams ∧
      ∀ i < g.pieceCount streams, i * g.chunk streams < g.remaining := by
  have hd := g.chunk_pos streams
  obtain ⟨hlow, hhigh⟩ := ceilDiv_bounds g.remaining hd
  have hq : 0 ≤ -Int.fdiv (-g.remaining) (g.chunk streams) := by
    by_contra hneg
    have := Int.mul_neg_of_neg_of_pos (Int.not_le.mp hneg) hd
    omega
  have hc : (g.pieceCount streams : Int) = -Int.fdiv (-g.remaining) (g.chunk streams) := Int.toNat_of_nonneg hq
  refine ⟨hc ▸ hhigh, ?_⟩
  intro i hi
  have hle : (i : Int) ≤ -Int.fdiv (-g.remaining) (g.chunk streams) - 1 := by omega
  have := Int.mul_le_mul_of_nonneg_right hle hd.le
  omega

theorem tiles_pieces_from (streams : Int) {i n : Nat} (hg : g.cursor ≤ g.stop)
    (hn : i + n = g.pieceCount streams) :
    Tiles (min (g.cursor + i * g.chunk streams) g.stop) g.stop ((List.range' i n).map (g.piece streams)) := by
  have hd := g.chunk_pos streams
  obtain ⟨hall, hfew⟩ := g.pieceCount_bounds streams (by simp only [remaining]; omega)
  simp only [remaining] at hall hfew
  induction n generalizing i with
  | zero =>
    simp only [List.range'_zero, List.map_nil, Tiles]
    rw [← hn] at hall
    simp only [Nat.add_zero] at hall
    omega
  | succ n ih =>
    have hi := hfew i (by omega)
    have hnext : g.cursor + (i + 1 : Nat) * g.chunk streams = g.cursor + i * g.chunk streams + g.chunk streams := by
      push_cast
      ring
    have htail := ih (i := i + 1) (by omega)
    rw [hnext] at htail
    simp only [List.range'_succ, List.map_cons, Tiles, piece, ofRange, Option.getD_some]
    exact ⟨by omega, by omega, by omega, htail⟩

theorem tiles_pieces (streams : Int) (hg : g.cursor ≤ g.stop) : Tiles g.cursor g.stop (g.pieces streams) := by
  have h := tiles_pieces_from streams hg (Nat.zero_add (g.pieceCount streams))
  simpa [pieces_eq, List.range_eq_range', hg] using h

theorem mem_pieces {c : Generator} {streams : Int} (h : c ∈ g.pieces streams) :
    c.producer = g.producer ∧ c.pools = g.pools ∧ c.batchSize = g.batchSize := by
  obtain ⟨i, _, rfl⟩ := List.mem_map.mp h
  exact ⟨rfl, rfl, rfl⟩

theorem Bounded.pieces (hg : g.Bounded) {c : Generator} {streams : Int} (h : c ∈ g.pieces streams) : c.Bounded := by
  obtain ⟨hlow, hcursor, hlt, hhigh⟩ := (tiles_pieces streams hg.cursor_le_stop).within c h
  obtain ⟨hp, _, hb⟩ := mem_pieces h
  have := hg.start_nonneg
  have := hg.start_le_cursor
  have := hg.stop_le_rowCount
  exact ⟨by omega, by omega, by omega, by rw [hp]; omega, by rw [hb]; exact hg.batchSize_pos⟩

end Generator

end LogMill
