import LogMill.Report.Ranking
import LogMill.Proofs.Number.Rounding
import LogMill.Proofs.Outcome
import Mathlib.Data.Prod.Lex

namespace LogMill

open Outcome

namespace Double

def height : Double → Int ×ₗ Rat
  | nan => toLex (-2, 0)
  | infinite true => toLex (-1, 0)
  | minusZero => toLex (0, 0)
  | finite x => toLex (0, x)
  | infinite false => toLex (1, 0)

theorem height_lt_of_less {x y : Double} (h : x.less y) : x.height < y.height := by
  rcases x with x | _ | (_ | _) | _ <;> rcases y with y | _ | (_ | _) | _ <;>
    simp [less, height, Prod.Lex.toLex_lt_toLex] at h ⊢
  all_goals simpa [toRat?] using h

end Double

theorem Ranking.leads_iff (x y : Double) : leads x y ↔ y.height ≤ x.height := by
  rcases x with x | _ | (_ | _) | _ <;> rcases y with y | _ | (_ | _) | _ <;>
    simp [leads, Double.less, Double.height, Prod.Lex.toLex_le_toLex]
  all_goals simp [Double.toRat?]

def ranked (results : List Result) : List Result := (ranking results).map Prod.fst

theorem ranked_eq (results : List Result) : ranked results =
    (results.filter Result.success).mergeSort fun a b => Ranking.leads a.rowsPerSecond b.rowsPerSecond := by
  simp only [ranked, ranking]
  split
  · rename_i h
    rw [h, List.map_nil]
  · rw [List.map_map]
    exact List.map_id _

theorem ranked_perm (results : List Result) : (ranked results).Perm (results.filter Result.success) := by
  rw [ranked_eq]
  exact List.mergeSort_perm _ _

theorem ranked_pairwise (results : List Result) :
    (ranked results).Pairwise fun a b => b.rowsPerSecond.height ≤ a.rowsPerSecond.height := by
  have htrans (a b c : Result) (hab : Ranking.leads a.rowsPerSecond b.rowsPerSecond)
      (hbc : Ranking.leads b.rowsPerSecond c.rowsPerSecond) : Ranking.leads a.rowsPerSecond c.rowsPerSecond := by
    rw [Ranking.leads_iff] at *
    exact le_trans hbc hab
  have htotal (a b : Result) :
      Ranking.leads a.rowsPerSecond b.rowsPerSecond || Ranking.leads b.rowsPerSecond a.rowsPerSecond := by
    rw [Bool.or_eq_true, Ranking.leads_iff, Ranking.leads_iff]
    exact le_total _ _
  rw [ranked_eq]
  exact (List.pairwise_mergeSort htrans htotal _).imp fun h => (Ranking.leads_iff _ _).mp h

theorem ranked_place_lt {results : List Result} {a b : Result} (h : b.rowsPerSecond.less a.rowsPerSecond) {i j : Nat}
    (hi : (ranked results)[i]? = some a) (hj : (ranked results)[j]? = some b) : i < j := by
  obtain ⟨hilt, rfl⟩ := List.getElem?_eq_some_iff.mp hi
  obtain ⟨hjlt, rfl⟩ := List.getElem?_eq_some_iff.mp hj
  have hheight := Double.height_lt_of_less h
  rcases Nat.lt_trichotomy i j with hlt | rfl | hgt
  · exact hlt
  · exact absurd hheight (lt_irrefl _)
  · exact absurd (List.pairwise_iff_getElem.mp (ranked_pairwise results) j i hjlt hilt hgt) hheight.not_ge

namespace Result

theorem seconds_int {durationMs : Int} {x : Double} (h : seconds (.int durationMs) = .ok x) :
    x = .ofRat (durationMs / (1000 : Rat)) := by
  simp only [seconds, Value.whole?, Option.getD_some] at h
  by_cases hx : (Double.ofRat (durationMs / (1000 : Rat))).toRat?.isNone
  · simp only [hx, ↓reduceIte, reduceCtorEq] at h
  · simpa only [hx, Bool.false_eq_true, ↓reduceIte, Except.ok.injEq, eq_comm] using h

theorem rate_of_rateOf {rows durationMs : Int} {x : Double} (h : rateOf (.int rows) (.int durationMs) = .ok x) :
    rate rows durationMs = .ok x := by
  have hless (sign : String) (m n : Int) : (Value.int m).before sign (.int n) = .ok (decide (m < n)) := by
    simp only [Value.before, Value.number?, Double.less, Double.toRat?, Option.getD_some, Int.cast_lt]
  simp only [rateOf, Value.less, hless, discard, Functor.discard, bind_eq_ok] at h
  obtain ⟨-, -, h⟩ := h
  by_cases hd : 0 < durationMs
  · simp only [hd, decide_true, Bool.not_true, Bool.false_eq_true, ↓reduceIte, bind_eq_ok, mapError_eq_ok] at h
    obtain ⟨s, hs, y, hy, h⟩ := h
    rw [seconds_int hs] at h
    simp only [Value.toReal, Value.whole?] at hy
    cases hrows : Double.ofInt? rows with
    | none => simp [hrows] at hy
    | some z =>
      simp only [hrows, Option.elim_some, Except.ok.injEq] at hy
      subst hy
      split_ifs at h
      · cases h
      · simpa [rate, hd, hrows, pure, Except.pure] using h
  · simpa [rate, hd, pure, Except.pure] using h

/-- A result that was set to a success over so many rows in such a time, by itself or at the end of a run. -/
inductive Succeeded (rows durationMs : Int) : Result → Prop
  | told {r r' : Result} {batchCount : Value} (hrows : r.totalRows = .int rows)
      (h : r.succeededWith (.int durationMs) batchCount = .ok r') : Succeeded rows durationMs r'
  | ended {r r' : Result} {batches : Int} (h : r.succeeded rows durationMs batches = .ok r') :
      Succeeded rows durationMs r'

variable {r : Result} {rows durationMs : Int}

theorem Succeeded.success_and_rate (h : r.Succeeded rows durationMs) :
    r.success ∧ rate rows durationMs = .ok r.rowsPerSecond := by
  cases h with
  | told hrows h =>
    simp only [succeededWith, hrows, bind_eq_ok, pure, Except.pure, Except.ok.injEq] at h
    obtain ⟨_, hrate, rfl⟩ := h
    exact ⟨rfl, rate_of_rateOf hrate⟩
  | ended h =>
    simp only [succeeded, bind_eq_ok, pure, Except.pure, Except.ok.injEq] at h
    obtain ⟨_, hrate, rfl⟩ := h
    exact ⟨rfl, hrate⟩

theorem Succeeded.mem_ranked (h : r.Succeeded rows durationMs) {results : List Result} (hmem : r ∈ results) :
    r ∈ ranked results :=
  (ranked_perm results).mem_iff.mpr (List.mem_filter.mpr ⟨hmem, h.success_and_rate.1⟩)

theorem rate_of_no_time {x : Double} (h : rate rows 0 = .ok x) : x = .finite 0 := (Except.ok.inj h).symm

open Double

theorem normal_rate (hrows : 0 < rows) (hshort : 1 ≤ durationMs) (hlong : durationMs < 2 ^ 31) :
    2 ^ (-1022 : Int) ≤ (rows : Rat) ∧ 2 ^ (-1022 : Int) ≤ (durationMs : Rat) / 1000 ∧
      2 ^ (-1022 : Int) ≤ rounded rows / rounded (durationMs / 1000) := by
  have hd : (1 : Rat) ≤ durationMs := by exact_mod_cast hshort
  have hd' : (durationMs : Rat) < 2 ^ 31 := by exact_mod_cast hlong
  have hr : (1 : Rat) ≤ rows := by exact_mod_cast hrows
  have hnormal : 2 ^ (-1022 : Int) ≤ (rows : Rat) := normal_of_le (by linarith)
  have hnormal' : 2 ^ (-1022 : Int) ≤ (durationMs : Rat) / 1000 := normal_of_le (by linarith)
  refine ⟨hnormal, hnormal', normal_of_le ?_⟩
  have hlow := (rounded_bounds hnormal).1
  have hhigh := (rounded_bounds hnormal').2
  rw [le_div_iff₀ (rounded_pos hnormal')]
  linarith

theorem rate_eq_ok {x : Double} (hrows : 0 < rows) (hshort : 1 ≤ durationMs) (hlong : durationMs < 2 ^ 31)
    (h : rate rows durationMs = .ok x) : x = ofRat (rounded rows / rounded (durationMs / 1000)) := by
  obtain ⟨hnormal, hnormal', -⟩ := normal_rate hrows hshort hlong
  have hd : (durationMs : Rat) < 2 ^ 31 := by exact_mod_cast hlong
  have hpos : 0 < durationMs := by omega
  simp only [rate, hpos, ↓reduceIte, ofRat_of_le hnormal' (by linarith)] at h
  cases hx : ofInt? rows with
  | none => simp only [hx, Option.elim_none, reduceCtorEq] at h
  | some y =>
    simp only [hx, Option.elim_some, Except.ok.injEq] at h
    rw [← h, eq_of_ofInt? hnormal hx]
    exact div_finite (rounded_pos hnormal) (rounded_pos hnormal')

theorem rate_pos {x : Double} (hrows : 0 < rows) (hshort : 1 ≤ durationMs) (hlong : durationMs < 2 ^ 31)
    (h : rate rows durationMs = .ok x) : (finite 0).less x := by
  rw [rate_eq_ok hrows hshort hlong h]
  exact zero_less_ofRat (normal_rate hrows hshort hlong).2.2

theorem rate_less {d e : Int} {x y : Double} (hrows : 0 < rows) (hd : 1 ≤ d) (hde : d < e) (he : e < 2 ^ 31)
    (hx : rate rows d = .ok x) (hy : rate rows e = .ok y) :
    y.less x ∨ y = .infinite false ∧ x = .infinite false := by
  obtain ⟨hnr, hnd, hnx⟩ := normal_rate hrows hd (by omega)
  obtain ⟨-, hne, hny⟩ := normal_rate hrows (by omega) he
  rw [rate_eq_ok hrows hd (by omega) hx, rate_eq_ok hrows (by omega) he hy]
  apply less_ofRat hny hnx
  have hd₁ : (1 : Rat) ≤ d := by exact_mod_cast hd
  have hde₁ : (d : Rat) + 1 ≤ e := by exact_mod_cast hde
  have he₁ : (e : Rat) < 2 ^ 31 := by exact_mod_cast he
  -- The times differ by more than all roundings together.
  have htimes : rounded (d / 1000) * (1 + 1 / 2 ^ 53) < rounded (e / 1000) * (1 - 1 / 2 ^ 53) := by
    have := (rounded_bounds hnd).2
    have := (rounded_bounds hne).1
    linarith
  calc rounded (rounded rows / rounded (e / 1000))
      ≤ rounded rows / rounded (e / 1000) * (1 + 1 / 2 ^ 53) := (rounded_bounds hny).2
    _ < rounded rows / rounded (d / 1000) * (1 - 1 / 2 ^ 53) := by
      rw [div_mul_eq_mul_div, div_mul_eq_mul_div, div_lt_div_iff₀ (rounded_pos hne) (rounded_pos hnd)]
      have := mul_lt_mul_of_pos_left htimes (rounded_pos hnr)
      linarith
    _ ≤ rounded (rounded rows / rounded (d / 1000)) := (rounded_bounds hnx).1

end Result

/-- Of two successes over as many rows the one that took less time is the faster one, and stands before the other in
every ranking, unless both rates are beyond all finite numbers. One that took no time that could be measured has no
rate, and stands behind the other. -/
theorem faster_ranked_first {results : List Result} {a b : Result} {rows d e : Int} (hrows : 0 < rows) (hd : 0 ≤ d)
    (hde : d < e) (he : e < 2 ^ 31) (ha : a.Succeeded rows d) (hb : b.Succeeded rows e) (hmem : a ∈ results)
    (hmem' : b ∈ results) :
    a ∈ ranked results ∧ b ∈ ranked results ∧
      (1 ≤ d →
        b.rowsPerSecond.less a.rowsPerSecond ∧
            (∀ i j : Nat, (ranked results)[i]? = some a → (ranked results)[j]? = some b → i < j) ∨
          b.rowsPerSecond = .infinite false ∧ a.rowsPerSecond = .infinite false) ∧
      (d = 0 →
        a.rowsPerSecond = .finite 0 ∧ (Double.finite 0).less b.rowsPerSecond ∧
          ∀ i j : Nat, (ranked results)[i]? = some a → (ranked results)[j]? = some b → j < i) := by
  obtain ⟨-, hrate⟩ := ha.success_and_rate
  obtain ⟨-, hrate'⟩ := hb.success_and_rate
  refine ⟨ha.mem_ranked hmem, hb.mem_ranked hmem', fun hpos => ?_, ?_⟩
  · exact (Result.rate_less hrows hpos hde he hrate hrate').imp_left fun hless =>
      ⟨hless, fun i j => ranked_place_lt hless⟩
  · rintro rfl
    have hzero := Result.rate_of_no_time hrate
    have hless := Result.rate_pos hrows (by omega) he hrate'
    exact ⟨hzero, hless, fun i j hi hj => ranked_place_lt (by rwa [hzero]) hj hi⟩

def Result.ofThousand (provider : String) : Result :=
  { provider := .text provider, table := .text "t", totalRows := .int 1000 }

theorem Result.succeededWith_eq_ok {r : Result} {d : Value} {x : Double} (h : rateOf r.totalRows d = .ok x) :
    r.succeededWith d (.int 0) =
      .ok { r with durationMs := d, batchCount := .int 0, rowsPerSecond := x, success := true } := by
  simp only [succeededWith, h]
  rfl

theorem faster_ranked_first_pair : ∃ slow fast : Result,
    (Result.ofThousand "slow").succeededWith (.int 1000) (.int 0) = .ok slow ∧
      (Result.ofThousand "fast").succeededWith (.int 250) (.int 0) = .ok fast ∧
      slow.rowsPerSecond.less fast.rowsPerSecond ∧
      ∀ i j : Nat, (ranked [slow, fast])[i]? = some fast → (ranked [slow, fast])[j]? = some slow → i < j := by
  have hslow := Result.succeededWith_eq_ok (r := Result.ofThousand "slow") (d := .int 1000) (x := .finite 1000)
    (by decide +kernel)
  have hfast := Result.succeededWith_eq_ok (r := Result.ofThousand "fast") (d := .int 250) (x := .finite 4000)
    (by decide +kernel)
  obtain ⟨-, -, hpos, -⟩ := faster_ranked_first (by decide) (by decide) (by decide) (by decide) (.told rfl hfast)
    (.told rfl hslow) (List.mem_cons_of_mem _ (List.mem_singleton_self _)) List.mem_cons_self
  obtain hfaster | ⟨hinfinite, -⟩ := hpos (by decide)
  · exact ⟨_, _, hslow, hfast, hfaster⟩
  · cases hinfinite

theorem unmeasured_ranked_last : ∃ quick slow : Result,
    (Result.ofThousand "quick").succeededWith (.int 0) (.int 0) = .ok quick ∧
      (Result.ofThousand "slow").succeededWith (.int 1) (.int 0) = .ok slow ∧
      quick.rowsPerSecond.less slow.rowsPerSecond ∧ ranked [quick, slow] = [slow, quick] := by
  have hquick := Result.succeededWith_eq_ok (r := Result.ofThousand "quick") (d := .int 0) (x := .finite 0)
    (by decide +kernel)
  have hslow := Result.succeededWith_eq_ok (r := Result.ofThousand "slow") (d := .int 1) (x := .finite 1000000)
    (by decide +kernel)
  have hbehind : Ranking.leads (.finite 0) (.finite 1000000) = false := by decide +kernel
  refine ⟨_, _, hquick, hslow, rfl, ?_⟩
  rw [ranked_eq]
  simp [List.mergeSort, hbehind]

end LogMill
