import LogMill.Calendar
import Mathlib.Algebra.BigOperators.Intervals

namespace LogMill.Date

open Finset

def isLeap (year : Int) : Bool := year % 4 = 0 ∧ (year % 100 = 0 → year % 400 = 0)

def monthLength (leap : Bool) (month : Nat) : Nat :=
  if month = 2 then if leap then 29 else 28
  else if month ∈ [4, 6, 9, 11] then 30
  else 31

def monthStart (leap : Bool) (month : Nat) : Nat := ∑ m ∈ Ico 1 month, monthLength leap m

def yearLength (leap : Bool) : Nat := monthStart leap 13

def yearStart (year : Int) : Int :=
  ∑ i ∈ range (year - 1970).toNat, (yearLength (isLeap (1970 + i)) : Int) -
    ∑ i ∈ range (1970 - year).toNat, (yearLength (isLeap (year + i)) : Int)

structure Valid (d : Date) : Prop where
  month_pos : 1 ≤ d.month
  month_le : d.month ≤ 12
  day_pos : 1 ≤ d.day
  day_le : d.day ≤ monthLength (isLeap d.year) d.month

def number (d : Date) : Int := yearStart d.year + monthStart (isLeap d.year) d.month + (d.day - 1)

theorem yearLength_eq (leap : Bool) : yearLength leap = if leap then 366 else 365 := by
  cases leap <;> decide

theorem yearLength_le (leap : Bool) : yearLength leap ≤ 366 := by
  cases leap <;> decide

theorem monthStart_add_le : ∀ leap, ∀ month < 13, 1 ≤ month →
    monthStart leap month + monthLength leap month ≤ yearLength leap := by
  decide

theorem monthStart_add_le_monthStart : ∀ leap, ∀ month < 13, ∀ month' < 13, month < month' → 1 ≤ month →
    monthStart leap month + monthLength leap month ≤ monthStart leap month' := by
  decide

theorem yearStart_succ (year : Int) : yearStart (year + 1) = yearStart year + yearLength (isLeap year) := by
  unfold yearStart
  rcases le_or_gt 1970 year with h | h
  · have hlast : (year + 1 - 1970).toNat = (year - 1970).toNat + 1 := by omega
    have hyear : 1970 + ((year - 1970).toNat : Int) = year := by omega
    have hnone : (1970 - (year + 1)).toNat = 0 ∧ (1970 - year).toNat = 0 := by omega
    rw [hlast, sum_range_succ, hyear, hnone.1, hnone.2, sum_range_zero, sum_range_zero]
    omega
  · have hfirst : (1970 - year).toNat = (1970 - (year + 1)).toNat + 1 := by omega
    have hnone : (year + 1 - 1970).toNat = 0 ∧ (year - 1970).toNat = 0 := by omega
    have hshift (i : Nat) : year + (i + 1 : Nat) = year + 1 + i := by omega
    have hzero : year + (0 : Nat) = year := Int.add_zero year
    rw [hfirst, sum_range_succ', hnone.1, hnone.2, sum_range_zero, hzero]
    simp only [hshift]
    omega

theorem yearStart_lt_iff {a b : Int} : yearStart a < yearStart b ↔ a < b := by
  have hmono : StrictMono yearStart := by
    apply strictMono_int_of_lt_succ
    intro year
    rw [yearStart_succ, yearLength_eq]
    split <;> omega
  exact hmono.lt_iff_lt

theorem yearStart_mono {a b : Int} (h : a ≤ b) : yearStart a ≤ yearStart b := by
  rw [← Int.not_lt, yearStart_lt_iff]
  omega

section Order

variable {d d' : Date}

theorem Valid.yearStart_le (h : d.Valid) : yearStart d.year ≤ d.number := by
  have := h.day_pos
  simp only [number]
  omega

theorem Valid.number_lt (h : d.Valid) : d.number < yearStart (d.year + 1) := by
  have := h.day_le
  have := monthStart_add_le (isLeap d.year) d.month (Nat.lt_succ_of_le h.month_le) h.month_pos
  rw [yearStart_succ, number]
  omega

theorem Valid.lt_of_before (h : d.Valid) (h' : d'.Valid) (hbefore : d.year < d'.year ∨
    d.year = d'.year ∧ (d.month < d'.month ∨ d.month = d'.month ∧ d.day < d'.day)) : d.number < d'.number := by
  rcases hbefore with hyear | ⟨hyear, hmonth | ⟨hmonth, hday⟩⟩
  · calc d.number < yearStart (d.year + 1) := h.number_lt
      _ ≤ yearStart d'.year := yearStart_mono (Int.add_one_le_of_lt hyear)
      _ ≤ d'.number := h'.yearStart_le
  · have hstart := monthStart_add_le_monthStart (isLeap d.year) d.month (Nat.lt_succ_of_le h.month_le) d'.month
      (Nat.lt_succ_of_le h'.month_le) hmonth h.month_pos
    have := h.day_le
    have := h'.day_pos
    rw [number, number, ← hyear]
    omega
  · rw [number, number, ← hyear, ← hmonth]
    omega

theorem Valid.lt_iff (h : d.Valid) (h' : d'.Valid) : d.number < d'.number ↔ d.year < d'.year ∨
    d.year = d'.year ∧ (d.month < d'.month ∨ d.month = d'.month ∧ d.day < d'.day) := by
  have hbefore := h.lt_of_before h'
  have hafter := h'.lt_of_before h
  refine ⟨fun hlt => ?_, hbefore⟩
  have hne : ¬ (d.year = d'.year ∧ d.month = d'.month ∧ d.day = d'.day) := by
    rintro ⟨hyear, hmonth, hday⟩
    simp only [number, hyear, hmonth, hday] at hlt
    omega
  omega

end Order

end LogMill.Date
