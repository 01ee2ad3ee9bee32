import Mathlib.Data.Int.CardIntervalMod
import Mathlib.Data.Int.ConditionallyCompleteOrder
import Mathlib.Tactic.FieldSimp
import Mathlib.Tactic.LinearCombination

namespace LogMill.Window

open Finset

theorem emod_le {a b : Int} (ha : 0 ≤ a) (hb : 0 < b) : a % b ≤ a := by
  have hsplit := Int.mul_ediv_add_emod a b
  have hwhole := Int.mul_nonneg hb.le (Int.ediv_nonneg ha hb.le)
  omega

theorem card_modEq {period : Int} (h : 0 < period) (times : Nat) (s v : Int) :
    ((Ico s (s + times * period)).filter fun r => r ≡ v [ZMOD period]).card = times := by
  have hnz : (period : Rat) ≠ 0 := by exact_mod_cast h.ne'
  have hend : ((s + times * period : Int) - v : Rat) / period = (s - v) / period + times := by
    push_cast
    field_simp
    ring
  have hcard := Int.Ico_filter_modEq_card s (s + times * period) h v
  rw [hend, Int.ceil_add_natCast] at hcard
  omega

theorem card_image {α : Type} [DecidableEq α] {f : Int → α} {period : Int} (h : 0 < period)
    (hf : ∀ a b, f a = f b ↔ a ≡ b [ZMOD period]) (s : Int) {n : Int} (hn : 0 ≤ n) :
    (((Ico s (s + n)).image f).card : Int) = min n period := by
  -- The numbers after the first period have no values of their own.
  have hfirst : (Ico s (s + n)).image f = (Ico s (s + min n period)).image f := by
    apply subset_antisymm
    · intro v hv
      obtain ⟨a, ha, rfl⟩ := mem_image.mp hv
      rw [mem_Ico] at ha
      have hlow := Int.emod_nonneg (a - s) h.ne'
      have hhigh := Int.emod_lt_of_pos (a - s) h
      have hle := emod_le (by omega : 0 ≤ a - s) h
      have hsame : f (s + (a - s) % period) = f a := by
        apply (hf _ _).mpr
        simpa using (Int.mod_modEq (a - s) period).add_left s
      rw [← hsame]
      apply mem_image_of_mem
      exact mem_Ico.mpr (by omega)
    · apply image_subset_image
      exact Ico_subset_Ico_right (by omega)
  have hapart : Set.InjOn f (Ico s (s + min n period)) := by
    intro a ha b hb heq
    rw [mem_coe, mem_Ico] at ha hb
    have hclose : |b - a| < period := by
      rw [abs_lt]
      omega
    have := Int.eq_zero_of_abs_lt_dvd ((hf a b).mp heq).dvd hclose
    omega
  rw [hfirst, card_image_of_injOn hapart, Int.card_Ico]
  omega

variable {length : Int} (stride offset : Int)

theorem modEq_stride_iff (h : 0 < length) (a b : Int) :
    a * stride + offset ≡ b * stride + offset [ZMOD length] ↔ a ≡ b [ZMOD length / Int.gcd stride length] := by
  have hgcd : (Int.gcd stride length : Int) ∣ length := Int.gcd_dvd_right _ _
  have hnz : (Int.gcd stride length : Int) ≠ 0 := fun hzero => h.ne' (by simpa [hzero] using hgcd)
  have hsub : b * stride + offset - (a * stride + offset) = stride * (b - a) := by ring
  calc a * stride + offset ≡ b * stride + offset [ZMOD length]
    _ ↔ length ∣ Int.gcd length stride * (b - a) := by
      rw [Int.modEq_iff_dvd, hsub, Int.dvd_gcd_mul_iff_dvd_mul]
    _ ↔ Int.gcd stride length * (length / Int.gcd stride length) ∣ Int.gcd stride length * (b - a) := by
      rw [Int.mul_ediv_cancel' hgcd, Int.gcd_comm]
    _ ↔ a ≡ b [ZMOD length / Int.gcd stride length] := by
      rw [Int.mul_dvd_mul_iff_left hnz, Int.modEq_iff_dvd]

theorem exists_stride_iff (k : Int) : (∃ a, a * stride + offset ≡ k [ZMOD length]) ↔
    k ≡ offset [ZMOD Int.gcd stride length] := by
  constructor
  · rintro ⟨a, ha⟩
    have hstride : a * stride + offset ≡ offset [ZMOD Int.gcd stride length] := by
      simpa using ((Int.modEq_zero_iff_dvd.mpr (Int.gcd_dvd_left stride length)).mul_left a).add_right offset
    exact (ha.of_dvd (Int.gcd_dvd_right stride length)).symm.trans hstride
  · intro hk
    obtain ⟨c, hc⟩ := hk.dvd
    have hbezout := Int.gcd_eq_gcd_ab stride length
    refine ⟨-(Int.gcdA stride length * c), Int.modEq_of_dvd ⟨-(Int.gcdB stride length * c), ?_⟩⟩
    linear_combination -hc - c * hbezout

theorem card_stride (h : 0 < length) (s k : Int) :
    ((Ico s (s + length)).filter fun r => r * stride + offset ≡ k [ZMOD length]).card =
      if k ≡ offset [ZMOD Int.gcd stride length] then Int.gcd stride length else 0 := by
  split_ifs with hk
  · obtain ⟨a, ha⟩ := (exists_stride_iff stride offset k).mpr hk
    have hgcd : (Int.gcd stride length : Int) ∣ length := Int.gcd_dvd_right _ _
    have hpos : 0 < length / Int.gcd stride length := Int.ediv_pos_of_pos_of_dvd h (by omega) hgcd
    have hsame (r : Int) : r * stride + offset ≡ k [ZMOD length] ↔ r ≡ a [ZMOD length / Int.gcd stride length] := by
      rw [← modEq_stride_iff stride offset h]
      exact ⟨fun hr => hr.trans ha.symm, fun hr => hr.trans ha⟩
    have hcard := card_modEq hpos (Int.gcd stride length) s a
    rw [Int.mul_ediv_cancel' hgcd] at hcard
    simpa only [hsame] using hcard
  · rw [card_eq_zero, filter_eq_empty_iff]
    intro r _ hr
    exact hk ((exists_stride_iff stride offset k).mp ⟨r, hr⟩)

end LogMill.Window
