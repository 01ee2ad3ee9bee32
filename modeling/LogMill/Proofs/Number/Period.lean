import LogMill.Proofs.Number.Window
import Mathlib.Tactic.Linarith

namespace LogMill.Window

open Finset

def count (P : Int → Prop) [DecidablePred P] (s : Int) (n : Nat) : Nat := (List.range n).countP fun (i : Nat) => P (s + i)

def Repeats (P : Int → Prop) (period : Nat) : Prop := ∀ r, P (r + period) ↔ P r

variable {P : Int → Prop} [DecidablePred P]

theorem count_eq_card (s : Int) (n : Nat) : count P s n = ((Ico s (s + n)).filter P).card := by
  have hwindow : Ico s (s + n) = ((List.range n).map fun i : Nat => s + i).toFinset := by
    ext r
    simp only [mem_Ico, List.mem_toFinset, List.mem_map, List.mem_range]
    constructor
    · intro hr
      exact ⟨(r - s).toNat, by omega, by omega⟩
    · rintro ⟨i, hi, rfl⟩
      omega
  have hnodup : ((List.range n).map fun i : Nat => s + i).Nodup := by
    apply List.Nodup.map _ List.nodup_range
    intro i j hij
    simpa using hij
  have hfilter : (Ico s (s + n)).filter P =
      (((List.range n).map fun i : Nat => s + i).filter fun r => P r).toFinset := by
    rw [hwindow, List.toFinset_filter]
    simp only [decide_eq_true_eq]
  rw [hfilter, List.toFinset_card_of_nodup (hnodup.filter _), ← List.countP_eq_length_filter, List.countP_map]
  rfl

theorem count_add (s : Int) (m n : Nat) : count P s (m + n) = count P s m + count P (s + m) n := by
  simp only [count, List.range_add, List.countP_append, List.countP_map, Function.comp_def, Nat.cast_add, Int.add_assoc]

theorem count_le (s : Int) (n : Nat) : count P s n ≤ n := by
  have hle := List.countP_le_length (l := List.range n) (p := fun (i : Nat) => P (s + i))
  rwa [List.length_range] at hle

namespace Repeats

variable {period : Nat}

theorem count_later (h : Repeats P period) (s : Int) (k n : Nat) : count P (s + k * period) n = count P s n := by
  induction k with
  | zero => simp
  | succ k ih =>
    rw [← ih]
    apply List.countP_congr
    intro i _
    have hstep := h (s + k * period + i)
    have hnext : s + k * period + i + period = s + (k + 1 : Nat) * period + i := by
      push_cast
      ring
    rw [hnext] at hstep
    simpa using hstep

theorem count_period (h : Repeats P period) (s : Int) : count P s period = count P 0 period := by
  have hstep (s : Int) : count P (s + 1) period = count P s period := by
    have hfront := count_add (P := P) s 1 period
    have hend := count_add (P := P) s period 1
    have hlater := h.count_later s 1 1
    rw [Nat.cast_one, Int.one_mul] at hlater
    rw [hlater, Nat.add_comm period 1] at hend
    rw [Nat.cast_one] at hfront
    omega
  induction s using Int.induction_on with
  | zero => rfl
  | succ s ih => rw [hstep, ih]
  | pred s ih => rw [← ih, ← hstep, Int.sub_add_cancel]

theorem count_periods (h : Repeats P period) (s : Int) (k : Nat) :
    count P s (k * period) = k * count P 0 period := by
  induction k with
  | zero => simp [count]
  | succ k ih => rw [Nat.succ_mul, count_add, ih, h.count_period (s + (k * period : Nat)), Nat.succ_mul]

theorem count_eq (h : Repeats P period) (s : Int) (k n : Nat) :
    count P s (k * period + n) = k * count P 0 period + count P s n := by
  rw [count_add, h.count_periods, Nat.cast_mul, h.count_later]

theorem discrepancy (h : Repeats P period) (s : Int) (n : Nat) :
    |(period : Int) * count P s n - count P 0 period * n| ≤ count P 0 period * (period - count P 0 period : Int) := by
  by_cases hperiod : period = 0
  · simp [hperiod, count]
  obtain ⟨k, length, missing, rfl, hlength⟩ : ∃ k length missing, n = k * period + length ∧ period = length + missing := by
    have hlt := Nat.mod_lt n (Nat.pos_of_ne_zero hperiod)
    exact ⟨n / period, n % period, period - n % period, (Nat.div_add_mod' n period).symm, by omega⟩
  have hwhole := count_add (P := P) s length missing
  rw [← hlength, h.count_period] at hwhole
  have hle := count_le (P := P) s length
  have hle' := count_le (P := P) (s + length) missing
  have hdifference : (period : Int) * count P s (k * period + length) - count P 0 period * (k * period + length : Nat) =
      period * count P s length - count P 0 period * length := by
    rw [h.count_eq]
    push_cast
    ring
  rw [hdifference, hwhole, hlength, abs_le]
  zify at hle hle'
  push_cast
  constructor <;> nlinarith

end Repeats

end LogMill.Window
