import LogMill.Row.Rule
import LogMill.Proofs.Number.Window
import Mathlib.Data.Nat.Prime.Basic
import Std.Data.String.ToInt

namespace LogMill

open Finset

section

variable {length : Int}

theorem slot_eq (h : 0 < length) (row : Int) : slot row length = (row * 7 + 13) % length :=
  Int.fmod_eq_emod_of_nonneg _ h.le

theorem slot_nonneg (h : 0 < length) (row : Int) : 0 ≤ slot row length := by
  rw [slot_eq h]
  exact Int.emod_nonneg _ h.ne'

theorem slot_lt (h : 0 < length) (row : Int) : slot row length < length := by
  rw [slot_eq h]
  exact Int.emod_lt_of_pos _ h

theorem slot_le (h : 0 < length) {row : Int} (hrow : 0 ≤ row) : slot row length ≤ row * 7 + 13 := by
  rw [slot_eq h]
  exact Window.emod_le (by omega) h

theorem slot_eq_iff {k : Int} (hlow : 0 ≤ k) (hhigh : k < length) (row : Int) :
    slot row length = k ↔ row * 7 + 13 ≡ k [ZMOD length] := by
  rw [slot_eq (by omega), Int.ModEq, Int.emod_eq_of_lt hlow hhigh]

theorem slot_eq_slot_iff (h : 0 < length) (a b : Int) :
    slot a length = slot b length ↔ a ≡ b [ZMOD length / Int.gcd 7 length] := by
  rw [slot_eq h, slot_eq h]
  exact Window.modEq_stride_iff 7 13 h a b

theorem gcd_seven (length : Int) : Int.gcd 7 length = if 7 ∣ length then 7 else 1 := by
  split_ifs with hdvd
  · exact Int.natCast_inj.mp (Int.gcd_eq_left (by decide) hdvd)
  · have hseven : Nat.Prime 7 := by decide
    exact (hseven.coprime_iff_not_dvd).mpr fun hnat => hdvd (Int.natCast_dvd.mpr hnat)

theorem card_slot_eq {k : Int} (hlow : 0 ≤ k) (hhigh : k < length) (s : Int) :
    ((Ico s (s + length)).filter fun row => slot row length = k).card =
      if k ≡ 13 [ZMOD Int.gcd 7 length] then Int.gcd 7 length else 0 := by
  simp only [slot_eq_iff hlow hhigh]
  exact Window.card_stride 7 13 (by omega) s k

theorem card_slots (h : 0 < length) (s : Int) {n : Int} (hn : 0 ≤ n) :
    (((Ico s (s + n)).image fun row => slot row length).card : Int) = min n (length / Int.gcd 7 length) := by
  have hgcd : (Int.gcd 7 length : Int) ∣ length := Int.gcd_dvd_right _ _
  have hpos : 0 < length / Int.gcd 7 length := Int.ediv_pos_of_pos_of_dvd h (by omega) hgcd
  exact Window.card_image hpos (slot_eq_slot_iff h) s hn

theorem exists_mem_Ico_slot (h : 0 < length) (s row : Int) :
    ∃ row' ∈ Ico s (s + length), slot row' length = slot row length := by
  obtain ⟨z, hlow, hhigh, hz⟩ := Int.existsUnique_equiv (row - s) h
  refine ⟨z + s, mem_Ico.mpr (by omega), (slot_eq_slot_iff h _ _).mpr ?_⟩
  have hsame : z + s ≡ row [ZMOD length] := by simpa using hz.add_right s
  exact hsame.of_dvd (Int.ediv_dvd_of_dvd (Int.gcd_dvd_right _ _))

theorem existsUnique_slot_iff {k : Int} (hlow : 0 ≤ k) (hhigh : k < length) (s : Int) :
    (∃! row, row ∈ Ico s (s + length) ∧ slot row length = k) ↔ ¬ 7 ∣ length := by
  have hone : (∃! row, row ∈ Ico s (s + length) ∧ slot row length = k) ↔
      ((Ico s (s + length)).filter fun row => slot row length = k).card = 1 := by
    simp only [card_eq_one, singleton_iff_unique_mem, mem_filter]
  rw [hone, card_slot_eq hlow hhigh, gcd_seven]
  by_cases hdvd : 7 ∣ length
  · simp only [hdvd, ↓reduceIte, not_true_eq_false, iff_false]
    split_ifs <;> decide
  · have hone : k ≡ 13 [ZMOD 1] := Int.modEq_one
    simp [hdvd, hone]

end

namespace Pool

variable {p : Pool}

theorem ofRow_eq_ok (hp : 0 < p.size) {row : Int} {v : String} :
    p.ofRow row = .ok v ↔ p.values[(slot row p.size).toNat]? = some v := by
  have hnz : (p.size : Int) ≠ 0 := by omega
  have hlow := slot_nonneg (by omega : 0 < (p.size : Int)) row
  have hhigh := slot_lt (by omega : 0 < (p.size : Int)) row
  have hplace : place? p.size (slot row p.size) = some (slot row p.size).toNat := by
    simp only [place?, Int.not_lt.mpr hlow, ↓reduceIte, hlow, hhigh, and_self]
  simp only [ofRow, slot?, hnz, ↓reduceIte, bind, Except.bind, get, hplace, Option.bind_some]
  cases p.values[(slot row p.size).toNat]? <;> simp

theorem exists_place (hp : 0 < p.size) (row : Int) : ∃ v, p.values[(slot row p.size).toNat]? = some v := by
  have hhigh := slot_lt (by omega : 0 < (p.size : Int)) row
  have hlt : (slot row p.size).toNat < p.values.size := by
    change _ < p.size
    omega
  exact ⟨_, Array.getElem?_eq_getElem hlt⟩

theorem exists_ofRow (hp : 0 < p.size) (row : Int) : ∃ v, p.ofRow row = .ok v := by
  obtain ⟨v, hv⟩ := exists_place hp row
  exact ⟨v, (ofRow_eq_ok hp).mpr hv⟩

end Pool

theorem Rule.user_value_iff {row m : Int} : user.value row = .ok (.text ("user_" ++ toString m)) ↔
    slot row userCount + 1 = m := by
  simp only [value, userOf, Except.ok.injEq, Value.text.injEq, String.append_right_inj]
  exact ⟨fun h => Int.repr_injective h, fun h => h ▸ rfl⟩

/-- As many consecutive rows as a pool has places use those that are congruent to 13, modulo the common divisor of seven
and the size, as many times as this divisor says, and no others. So each place is used once, unless seven divides the
size and only a seventh of the places is ever used. Seven does not divide the number of users. -/
theorem slots_evenly_used {length : Int} (h : 1 ≤ length) :
    (∀ s k, 0 ≤ k → k < length → ((Ico s (s + length)).filter fun row => slot row length = k).card =
      if k ≡ 13 [ZMOD Int.gcd 7 length] then Int.gcd 7 length else 0) ∧
    (∀ s, (∀ k, 0 ≤ k → k < length → ∃! row, row ∈ Ico s (s + length) ∧ slot row length = k) ↔ ¬ 7 ∣ length) ∧
    (7 ∣ length → ∀ s, (((Ico s (s + length)).image fun row => slot row length).card : Int) = length / 7 ∧
      ∀ row, slot row length ∈ (Ico s (s + length)).image fun row => slot row length) ∧
    (∀ p : Pool, (p.size : Int) = length → ∀ row, 0 ≤ slot row length ∧ slot row length < length ∧
      ∃ v, p.values[(slot row length).toNat]? = some v ∧ p.ofRow row = .ok v) ∧
    ∀ (s m : Int), 1 ≤ m → m ≤ 9999 →
      ∃! row, row ∈ Ico s (s + 9999) ∧ Rule.user.value row = .ok (.text ("user_" ++ toString m)) := by
  refine ⟨fun s k hlow hhigh => card_slot_eq hlow hhigh s, fun s => ⟨?_, ?_⟩, fun hdvd s => ⟨?_, ?_⟩, ?_, ?_⟩
  · intro honce
    apply (existsUnique_slot_iff (le_refl 0) h s).mp
    exact honce 0 (le_refl 0) h
  · intro hndvd k hlow hhigh
    exact (existsUnique_slot_iff hlow hhigh s).mpr hndvd
  · rw [card_slots h s (by omega), gcd_seven, if_pos hdvd]
    omega
  · intro row
    obtain ⟨row', hmem, heq⟩ := exists_mem_Ico_slot h s row
    exact mem_image.mpr ⟨row', hmem, heq⟩
  · rintro p rfl row
    have hp : 0 < p.size := by omega
    obtain ⟨v, hv⟩ := Pool.exists_place hp row
    exact ⟨slot_nonneg h row, slot_lt h row, v, hv, (Pool.ofRow_eq_ok hp).mpr hv⟩
  · intro s m hlow hhigh
    have hplace (row : Int) : slot row Rule.userCount + 1 = m ↔ slot row 9999 = m - 1 := by
      simp only [Rule.userCount]
      omega
    simp only [Rule.user_value_iff, hplace]
    exact (existsUnique_slot_iff (by omega) (by omega) s).mpr (by decide)

theorem slots_evenly_used_fourteen :
    ((Ico (-3) (-3 + 14)).filter fun row => slot row 14 = 6).card = 7 ∧
      ((Ico (-3) (-3 + 14)).filter fun row => slot row 14 = 7).card = 0 ∧
      (¬ ∀ k, 0 ≤ k → k < 14 → ∃! row, row ∈ Ico (-3) (-3 + 14) ∧ slot row 14 = k) ∧
      (((Ico (-3) (-3 + 14)).image fun row => slot row 14).card : Int) = 2 ∧
      (∃ v, (Pool.mk "host_name" (Pool.names .host 14).toArray).ofRow 1000 = .ok v) ∧
      ∃! row, row ∈ Ico (-3) (-3 + 9999) ∧ Rule.user.value row = .ok (.text ("user_" ++ toString (9999 : Int))) := by
  obtain ⟨hcount, honce, himage, hpool, huser⟩ := slots_evenly_used (show (1 : Int) ≤ 14 by decide)
  refine ⟨?_, ?_, ?_, ?_, ?_, huser (-3) 9999 (by decide) (by decide)⟩
  · rw [hcount (-3) 6 (by decide) (by decide)]
    decide
  · rw [hcount (-3) 7 (by decide) (by decide)]
    decide
  · exact fun hall => (honce (-3)).mp hall (by decide)
  · exact (himage (by decide) (-3)).1
  · obtain ⟨-, -, v, -, hv⟩ := hpool ⟨"host_name", (Pool.names .host 14).toArray⟩ (by simp [Pool.size, Pool.names]) 1000
    exact ⟨v, hv⟩

end LogMill
