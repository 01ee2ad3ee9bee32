import LogMill.Proofs.Pool.Growth
import LogMill.Proofs.Scatter
import LogMill.Proofs.Text.Width

namespace LogMill

open Finset

theorem takeWhile_append_digits {a x : List Char} (ha : ∀ c ∈ a, ¬ c.isDigit) (hx : ∀ c ∈ x, c.isDigit) :
    (a ++ x).takeWhile (fun c => !c.isDigit) = a := by
  rw [List.takeWhile_append_of_pos (by simpa using ha)]
  cases x with
  | nil => simp
  | cons c x => simp [hx c (by simp)]

theorem append_digits_inj {a b x y : List Char} (ha : ∀ c ∈ a, ¬ c.isDigit) (hb : ∀ c ∈ b, ¬ c.isDigit)
    (hx : ∀ c ∈ x, c.isDigit) (hy : ∀ c ∈ y, c.isDigit) : a ++ x = b ++ y ↔ a = b ∧ x = y := by
  constructor
  · intro h
    have hab : a = b := by rw [← takeWhile_append_digits ha hx, h, takeWhile_append_digits hb hy]
    subst hab
    exact ⟨rfl, List.append_cancel_left h⟩
  · rintro ⟨rfl, rfl⟩
    rfl

theorem suffixes_nodup : suffixes.toList.Nodup := by decide

theorem not_isDigit_of_mem_suffix (n : Nat) : ∀ c ∈ (pick suffixes n).toList, ¬ c.isDigit := by
  have hall : (pick suffixes n).toList.all fun c => !c.isDigit := by
    apply pick_of_forall (P := fun s : String => s.toList.all fun c => !c.isDigit)
    decide
  simpa using hall

theorem nameOf_eq_iff (a b : Int) : nameOf a = nameOf b ↔ a ≡ b [ZMOD 9000] := by
  have hdigits (n : Int) : ∀ c ∈ (toString (n % 1000)).toList, c.isDigit := by
    obtain ⟨m, hm⟩ := Int.eq_ofNat_of_zero_le (by omega : 0 ≤ n % 1000)
    intro c hc
    rw [hm] at hc
    exact Text.isDigit_of_mem_toString hc
  have hparts : nameOf a = nameOf b ↔
      pick suffixes (a % 36).toNat = pick suffixes (b % 36).toNat ∧ toString (a % 1000) = toString (b % 1000) := by
    rw [nameOf, nameOf, ← String.toList_inj, String.toList_append, String.toList_append,
      append_digits_inj (not_isDigit_of_mem_suffix _) (not_isDigit_of_mem_suffix _) (hdigits a) (hdigits b),
      String.toList_inj, String.toList_inj]
  have hnumber : toString (a % 1000) = toString (b % 1000) ↔ a % 1000 = b % 1000 := Int.repr_inj
  rw [hparts, pick_eq_iff suffixes_nodup, hnumber, Int.ModEq]
  omega

theorem Resource.shift_inj {r r' : Resource} : (r.shift : Int) ≡ r'.shift [ZMOD 9000] ↔ r = r' := by
  cases r <;> cases r' <;> decide

theorem nameOf_shift_injective (place : Int) : Function.Injective fun r : Resource => nameOf (place + r.shift) := by
  intro r r' h
  exact Resource.shift_inj.mp (Int.ModEq.add_left_cancel' place ((nameOf_eq_iff _ _).mp h))

theorem Pool.card_names (r : Resource) (count : Nat) : ((names r count).toFinset.card : Int) = min (count : Int) 9000 := by
  have himage : (names r count).toFinset = (Ico 0 (0 + count : Int)).image fun i => nameOf (i + r.shift) := by
    ext v
    simp only [names, List.mem_toFinset, List.mem_map, List.mem_range, mem_image, mem_Ico]
    constructor
    · rintro ⟨i, hi, rfl⟩
      exact ⟨i, by omega, rfl⟩
    · rintro ⟨i, hi, rfl⟩
      exact ⟨i.toNat, by omega, by rw [Int.toNat_of_nonneg hi.1]⟩
  have hperiod (a b : Int) : nameOf (a + r.shift) = nameOf (b + r.shift) ↔ a ≡ b [ZMOD 9000] := by
    rw [nameOf_eq_iff]
    exact ⟨Int.ModEq.add_right_cancel' _, fun h => h.add_right _⟩
  rw [himage]
  exact Window.card_image (by decide) hperiod 0 (Int.natCast_nonneg count)

theorem Pool.card_ofSize_name (r : Resource) (size : Int) (t : Twister) :
    ((ofSize (.name r) size t).1.values.toList.toFinset.card : Int) =
      min ((ofSize (.name r) size t).1.size : Int) 9000 := by
  rw [size_ofSize]
  exact card_names r size.toNat

namespace PoolSet

variable {seed : Value} {size : Int}

theorem ofRow_eq_ok (h : 0 < size) {c : Category} {row : Int} {v : String} :
    (poolFor seed size c).ofRow row = .ok v ↔ (poolFor seed size c).values[(slot row size).toNat]? = some v := by
  have hsize : ((poolFor seed size c).size : Int) = size := size_poolFor_of_nonneg h.le
  rw [Pool.ofRow_eq_ok (by omega), hsize]

theorem ofRow_name (h : 0 < size) (r : Resource) (row : Int) :
    (poolFor seed size (.name r)).ofRow row = .ok (nameOf (slot row size + r.shift)) := by
  have hlow := slot_nonneg h row
  have hhigh := slot_lt h row
  rw [ofRow_eq_ok h]
  change (Pool.names r size.toNat).toArray[(slot row size).toNat]? = _
  rw [List.getElem?_toArray, Pool.names, List.getElem?_map, List.getElem?_range (by omega), Option.map_some,
    Int.toNat_of_nonneg hlow]

end PoolSet

end LogMill
