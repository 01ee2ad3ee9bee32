import LogMill.Proofs.Calendar.March
import LogMill.Proofs.Number.Padding
import Mathlib.Data.String.Basic

namespace LogMill

open Date (yearStart)

theorem Date.valid_iff {d : Date} : d.Valid ↔
    (1 ≤ d.month ∧ d.month ≤ 12) ∧ 1 ≤ d.day ∧ d.day ≤ monthLength (isLeap d.year) d.month :=
  ⟨fun h => ⟨⟨h.month_pos, h.month_le⟩, h.day_pos, h.day_le⟩, fun h => ⟨h.1.1, h.1.2, h.2.1, h.2.2⟩⟩

instance : DecidablePred Date.Valid := fun _ => decidable_of_iff _ Date.valid_iff.symm

theorem Date.year_bounds {n first last : Int} (hfirst : yearStart first ≤ n) (hlast : n < yearStart last) :
    first ≤ (ofDay n).year ∧ (ofDay n).year < last := by
  have hlow := (ofDay_valid n).yearStart_le
  have hhigh := (ofDay_valid n).number_lt
  rw [number_ofDay] at hlow hhigh
  constructor
  · exact Int.lt_add_one_iff.mp (yearStart_lt_iff.mp (hfirst.trans_lt hhigh))
  · exact yearStart_lt_iff.mp (hlow.trans_lt hlast)

namespace Calendar

def stamp : Form := [(4, ['-']), (2, ['-']), (2, [' ']), (2, [':']), (2, [':']), (2, ['.']), (6, [])]

def instant? : List Nat → Option Int
  | [year, month, day, hour, minute, second, micro] =>
    let date : Date := ⟨year, month, day⟩
    if date.Valid ∧ hour < 24 ∧ minute < 60 ∧ second < 60 then
      some ((((date.number * 24 + hour) * 60 + minute) * 60 + second) * 1000000 + micro)
    else none
  | _ => none

def denoted? (s : String) : Option Int := (stamp.read? s.toList).bind instant?

def clock (t : Nat) : List Nat := [t / 3600000, t / 60000 % 60, t / 1000 % 60, t % 1000 * 1000]

def numbers (moment : Int) : List Nat :=
  let date := Date.ofDay (moment / dayMillis)
  date.year.toNat :: date.month :: date.day :: clock (moment % dayMillis).toNat

def InReach (moment : Int) : Prop :=
  0 ≤ (Date.ofDay (moment / dayMillis)).year ∧ (Date.ofDay (moment / dayMillis)).year < 10000

variable {moment a b : Int}

theorem clock_lt_iff {t t' : Nat} (h : t < 86400000) (h' : t' < 86400000) : clock t < clock t' ↔ t < t' := by
  simp only [clock, List.cons_lt_cons_iff, List.lt_irrefl, or_false, and_false]
  omega

theorem millis_lt (moment : Int) : (moment % dayMillis).toNat < 86400000 := by
  simp only [dayMillis]
  omega

theorem inReach_of_bounds (hlow : -9223372036854 < moment) (hhigh : moment < 9223372036854) : InReach moment := by
  have hfirst : yearStart 0 = -719528 := by
    rw [Date.yearStart_eq]
    decide
  have hlast : yearStart 10000 = 2932897 := by
    rw [Date.yearStart_eq]
    decide
  apply Date.year_bounds
  · rw [hfirst, dayMillis]
    omega
  · rw [hlast, dayMillis]
    omega

namespace InReach

theorem toList_text (h : InReach moment) : (text moment).toList = stamp.write (numbers moment) := by
  have hyear := Int.toNat_of_nonneg h.1
  have hmillis := Whole.padded_append_zeros (n := (moment % dayMillis).toNat % 1000) 3 (show 0 < 3 by decide)
    (Nat.mod_lt _ (by decide))
  have hdash : "-".toList = ['-'] := by decide
  have hspace : " ".toList = [' '] := by decide
  have hcolon : ":".toList = [':'] := by decide
  have hdot : ".".toList = ['.'] := by decide
  have hzeros : "000".toList = List.replicate 3 '0' := by decide
  simp only [text, String.toList_append, stamp, numbers, clock, Form.write, hyear, List.append_assoc, hdash, hspace, hcolon,
    hdot, hzeros, List.append_nil]
  push_cast at hmillis ⊢
  rw [hmillis]

theorem fits (h : InReach moment) : stamp.Fits (numbers moment) := by
  obtain ⟨hlow, hhigh⟩ := h
  have hvalid := Date.ofDay_valid (moment / dayMillis)
  have hmonth := hvalid.month_le
  have hday : (Date.ofDay (moment / dayMillis)).day ≤ 31 := by
    apply hvalid.day_le.trans
    unfold Date.monthLength
    split_ifs <;> decide
  have hmillis := millis_lt moment
  simp only [Form.Fits, stamp, numbers, clock, List.forall₂_cons, List.Forall₂.nil, and_true]
  omega

theorem instant?_numbers (h : InReach moment) : instant? (numbers moment) = some (1000 * moment) := by
  have hyear := Int.toNat_of_nonneg h.1
  have hmillis := millis_lt moment
  have hvalid : Date.Valid ⟨(Date.ofDay (moment / dayMillis)).year.toNat, (Date.ofDay (moment / dayMillis)).month,
      (Date.ofDay (moment / dayMillis)).day⟩ ∧ (moment % dayMillis).toNat / 3600000 < 24 ∧
      (moment % dayMillis).toNat / 60000 % 60 < 60 ∧ (moment % dayMillis).toNat / 1000 % 60 < 60 := by
    rw [hyear]
    exact ⟨Date.ofDay_valid _, by omega, by omega, by omega⟩
  simp only [instant?, numbers, clock]
  rw [if_pos hvalid, hyear]
  have hnumber := Date.number_ofDay (moment / dayMillis)
  have hsplit : moment / dayMillis * dayMillis + (moment % dayMillis).toNat = moment := by
    simp only [dayMillis]
    omega
  change some ((((((Date.ofDay (moment / dayMillis)).number * 24 + _) * 60 + _) * 60 + _) * 1000000 + _)) = _
  rw [hnumber, Option.some.injEq]
  simp only [dayMillis] at *
  omega

theorem denoted?_text (h : InReach moment) : denoted? (text moment) = some (1000 * moment) := by
  rw [denoted?, h.toList_text, h.fits.read?_write, Option.bind_some, h.instant?_numbers]

theorem numbers_lt_iff (ha : InReach a) (hb : InReach b) : numbers a < numbers b ↔ a < b := by
  have hbefore (a b : Int) := (Date.ofDay_valid (a / dayMillis)).lt_iff (Date.ofDay_valid (b / dayMillis))
  simp only [Date.number_ofDay] at hbefore
  have hyears := ha.1
  have hyears' := hb.1
  simp only [numbers, List.cons_lt_cons_iff, clock_lt_iff (millis_lt a) (millis_lt b)]
  rcases lt_trichotomy (a / dayMillis) (b / dayMillis) with h | h | h
  · have := (hbefore _ _).mp h
    exact iff_of_true (by omega) (by simp only [dayMillis] at h; omega)
  · rw [h]
    simp only [lt_self_iff_false, true_and, false_or, dayMillis] at h ⊢
    omega
  · have := (hbefore _ _).mp h
    exact iff_of_false (by omega) (by simp only [dayMillis] at h; omega)

theorem text_lt_iff (ha : InReach a) (hb : InReach b) : text a < text b ↔ a < b := by
  rw [String.lt_iff_toList_lt, ha.toList_text, hb.toList_text, ha.fits.write_lt_iff hb.fits, ha.numbers_lt_iff hb]

theorem length_text (h : InReach moment) : (text moment).length = 26 := by
  rw [← String.length_toList, h.toList_text, h.fits.length_write]
  rfl

end InReach

example : text (-1) = "1969-12-31 23:59:59.999000" := by decide

end Calendar

end LogMill
