import Mathlib.Data.String.Basic
import LogMill.Proofs.Sink.Placement

namespace LogMill

theorem Text.trim_surrounded {p : Char → Bool} {before after : List Char} (hbefore : before.all p) (hafter : after.all p)
    (s : List Char) : trim p (before ++ s ++ after) = trim p s := by
  change ((before ++ s ++ after).dropWhile p).rdropWhile p = (s.dropWhile p).rdropWhile p
  rw [List.append_assoc, List.dropWhile_append_of_pos (List.all_eq_true.mp hbefore), List.dropWhile_append]
  split_ifs with hs
  · rw [List.isEmpty_iff.mp hs, List.dropWhile_eq_nil_iff.mpr (List.all_eq_true.mp hafter)]
  · rw [List.rdropWhile, List.reverse_append, List.dropWhile_append_of_pos (by simpa using hafter)]
    rfl

def slashes (n : Nat) : String := String.ofList (List.replicate n '/')

theorem trim_slashes (m n : Nat) (s : String) :
    Text.trim (· = '/') (slashes m ++ s ++ slashes n).toList = Text.trim (· = '/') s.toList := by
  rw [String.toList_append, String.toList_append]
  apply Text.trim_surrounded <;> simp [slashes]

theorem tablePrefix_slashes (m n : Nat) (keyPrefix table : String) :
    tablePrefix (slashes m ++ keyPrefix ++ slashes n) table = tablePrefix keyPrefix table := by
  rw [tablePrefix, trim_slashes, ← tablePrefix]

theorem eq_of_append_slash {s t x y : List Char} (hs : '/' ∉ s) (ht : '/' ∉ t) (h : s ++ '/' :: x = t ++ '/' :: y) :
    s = t := by
  have hbefore {u z : List Char} (hu : '/' ∉ u) : (u ++ '/' :: z).takeWhile (· ≠ '/') = u := by
    have hall : ∀ c ∈ u, decide (c ≠ '/') = true := by
      rintro c hc
      rw [decide_eq_true_eq]
      rintro rfl
      exact hu hc
    rw [List.takeWhile_append_of_pos hall, List.takeWhile_cons_of_neg (by decide), List.append_nil]
  have hfront := congrArg (List.takeWhile (· ≠ '/')) h
  rwa [hbefore hs, hbefore ht] at hfront

namespace Upload

theorem opened_slashes (bucket : Value) (m n : Nat) (keyPrefix table : String) :
    opened bucket (slashes m ++ keyPrefix ++ slashes n) table = opened bucket keyPrefix table := by
  rw [opened, trim_slashes, ← opened]

theorem keyFor_opened (bucket : Value) (keyPrefix table : String) (start : Int) :
    (opened bucket keyPrefix table).keyFor start = partKey (tablePrefix keyPrefix table) start := by
  rw [keyFor_eq, place_opened]

theorem table_of_partKey {keyPrefix table table' rest : String} {start : Int} (h : '/' ∉ table.toList)
    (h' : '/' ∉ table'.toList)
    (hkey : partKey (tablePrefix keyPrefix table') start = tablePrefix keyPrefix table ++ rest) : table = table' := by
  have htexts := congrArg String.toList hkey
  have hslash : "/".toList = ['/'] := rfl
  simp only [partKey, tablePrefix, String.toList_append, hslash, List.append_assoc, List.append_cancel_left_eq,
    List.cons_append, List.nil_append, List.cons.injEq, true_and] at htexts
  exact (String.toList_injective (eq_of_append_slash h' h htexts)).symm

theorem partKey_lt_iff {place : String} {m n : Int} (hm : 0 ≤ m ∧ m < 10 ^ 12) (hn : 0 ≤ n ∧ n < 10 ^ 12) :
    partKey place m < partKey place n ↔ m < n := by
  obtain ⟨hm, hm'⟩ := hm
  obtain ⟨hn, hn'⟩ := hn
  lift m to Nat using hm
  lift n to Nat using hn
  have hwidth {k : Nat} (hk : (k : Int) < 10 ^ 12) : k < 10 ^ 12 := by omega
  have hlength : (Whole.padded 12 m).toList.length = (Whole.padded 12 n).toList.length := by
    rw [Whole.length_padded (by decide) (hwidth hm'), Whole.length_padded (by decide) (hwidth hn')]
  rw [String.lt_iff_toList_lt]
  simp only [partKey, String.toList_append, List.append_assoc]
  rw [append_lt_append_iff rfl, append_lt_append_iff rfl, append_lt_append_iff hlength,
    Whole.padded_lt_iff (by decide) (hwidth hm') (hwidth hn')]
  simp only [List.lt_irrefl, false_or, true_and, and_false, or_false, Int.ofNat_lt]

/-- Whether a sink puts its objects below a place, each where the first row of its batch tells. -/
structure Keyed (u : Upload) (place : String) : Prop where
  below : ∀ start, ∃ rest, u.keyFor start = place ++ rest
  injective : ∀ start start', 0 ≤ start → 0 ≤ start' → u.keyFor start = u.keyFor start' → start = start'
  ordered : ∀ start start', 0 ≤ start ∧ start < 10 ^ 12 → 0 ≤ start' ∧ start' < 10 ^ 12 →
    (u.keyFor start < u.keyFor start' ↔ start < start')
  puts : ∀ b client calls, ∃ asked, (u.write b client calls).2.2.1 = calls ++ asked ∧
    ∀ c ∈ asked, ∃ start text refusal, b.start.start = .ok start ∧ c = .put u.bucket (u.keyFor start) text refusal

theorem keyed (u : Upload) : u.Keyed u.place where
  below start := ⟨"part-" ++ Whole.padded 12 start ++ ".csv", by simp only [keyFor, String.append_assoc]⟩
  injective _ _ hlow hlow' h := partKey_injective hlow hlow' h
  ordered _ _ hrange hrange' := partKey_lt_iff hrange hrange'
  puts b client calls := by
    obtain ⟨asked, hcalls, hanswers, -⟩ := u.write_answers b client calls
    refine ⟨asked, hcalls, ?_⟩
    intro c hc
    obtain ⟨start, text, refusal, hmakes, hput⟩ := hanswers.exists_put c hc
    exact ⟨start, text, refusal, hmakes.start, hput⟩

end Upload

end LogMill
