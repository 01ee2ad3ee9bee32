import LogMill.Number.Whole
import Mathlib.Data.List.DropRight
import Mathlib.Data.Nat.Digits.Defs

namespace LogMill

namespace Text

variable {p : Char → Bool}

theorem exists_trim (p : Char → Bool) (s : List Char) :
    ∃ before after, s = before ++ trim p s ++ after ∧ before.all p ∧ after.all p := by
  refine ⟨s.takeWhile p, (s.dropWhile p).rtakeWhile p, ?_, List.all_takeWhile, ?_⟩
  · change s = s.takeWhile p ++ (s.dropWhile p).rdropWhile p ++ (s.dropWhile p).rtakeWhile p
    rw [List.append_assoc, List.rdropWhile_append_rtakeWhile, List.takeWhile_append_dropWhile]
  · exact List.all_eq_true.mpr fun c hc => List.mem_rtakeWhile_imp hc

theorem dropWhile_append_of_none {s t : List Char} (hs : s ≠ []) (hnone : ∀ c ∈ s, p c = false) :
    (s ++ t).dropWhile p = s ++ t := by
  cases s with
  | nil => exact absurd rfl hs
  | cons c s => exact List.dropWhile_cons_of_neg (by simp [hnone c])

theorem trim_append {before s after : List Char} (hbefore : before.all p) (hafter : after.all p) (hs : s ≠ [])
    (hnone : ∀ c ∈ s, p c = false) : trim p (before ++ s ++ after) = s := by
  have hreverse : (s.reverse ++ []).dropWhile p = s.reverse ++ [] :=
    dropWhile_append_of_none (by simpa using hs) (by simpa using hnone)
  rw [trim, List.append_assoc, List.dropWhile_append_of_pos (List.all_eq_true.mp hbefore),
    dropWhile_append_of_none hs hnone, List.reverse_append,
    List.dropWhile_append_of_pos (by simpa using hafter), ← List.append_nil s.reverse, hreverse, List.append_nil,
    List.reverse_reverse]

theorem isBlank_of_digit {c : Char} (hc : (digit? c).isSome) : isBlank c = false := by
  have hapart : ∀ z ∈ digitZeros, ∀ r ∈ blankRanges, z + 9 < r.1 ∨ r.2 < z := by decide
  simp only [digit?, Option.isSome_map, List.find?_isSome, Bool.and_eq_true, decide_eq_true_eq] at hc
  obtain ⟨z, hz, hlow, hhigh⟩ := hc
  simp only [isBlank, List.any_eq_false, Bool.and_eq_true, decide_eq_true_eq, not_and, Nat.not_le]
  intro r hr hr'
  rcases hapart z hz r hr with h | h <;> omega

end Text

namespace Whole

open Text

def positional (digits : List Char) : Nat := Nat.ofDigits 10 (digits.map fun c => (digit? c).getD 0).reverse

theorem digitsValue_eq {s : List Char} (hs : ∀ c ∈ s, (digit? c).isSome) : digitsValue s = some (positional s) := by
  have hfold (n : Nat) : s.foldlM (fun n c => (digit? c).map (10 * n + ·)) n =
      some (10 ^ s.length * n + positional s) := by
    induction s generalizing n with
    | nil => simp [positional]
    | cons c s ih =>
      obtain ⟨d, hd⟩ := Option.isSome_iff_exists.mp (hs c (by simp))
      have hcons : positional (c :: s) = positional s + 10 ^ s.length * d := by
        simp [positional, hd, Nat.ofDigits_append]
      rw [List.foldlM_cons, hd]
      simp only [Option.map_some, Option.bind_eq_bind, Option.bind_some]
      rw [ih fun c hc => hs c (List.mem_cons_of_mem _ hc), hcons, List.length_cons]
      congr 1
      ring
  rw [digitsValue, hfold, Nat.mul_zero, Nat.zero_add]

theorem digitsOf_eq_some {s ds : List Char} (hs : '_' ∉ s) :
    digitsOf s = some ds ↔ s ≠ [] ∧ (∀ c ∈ s, (digit? c).isSome) ∧ ds = s := by
  simp only [digitsOf, List.splitOn_eq_singleton hs, List.any_cons, List.any_nil, Bool.or_false, List.flatten_singleton]
  split_ifs with h
  · simp only [false_iff]
    rintro ⟨hne, hdigits, -⟩
    simp only [Bool.or_eq_true, List.isEmpty_iff, hne, List.any_eq_true, false_or] at h
    obtain ⟨c, hc, hnone⟩ := h
    exact absurd (hdigits c hc) (by simpa using hnone)
  · simp only [Bool.or_eq_true, List.isEmpty_iff, List.any_eq_true, not_or, not_exists, not_and] at h
    simp only [Option.some.injEq]
    constructor
    · rintro rfl
      exact ⟨h.1, fun c hc => by simpa [Option.isSome_iff_ne_none] using h.2 c hc, rfl⟩
    · rintro ⟨-, -, rfl⟩
      rfl

theorem readDigits_eq_some {s : List Char} (hs : '_' ∉ s) {n : Nat} : readDigits s = some n ↔
    s ≠ [] ∧ (∀ c ∈ s, (digit? c).isSome) ∧ s.length ≤ maxDigits ∧ n = positional s := by
  simp only [readDigits, Option.bind_eq_some_iff, Option.filter_eq_some_iff, decide_eq_true_eq, digitsOf_eq_some hs]
  constructor
  · rintro ⟨_, ⟨⟨hne, hdigits, rfl⟩, hlength⟩, hn⟩
    rw [digitsValue_eq hdigits] at hn
    exact ⟨hne, hdigits, hlength, (Option.some.inj hn).symm⟩
  · rintro ⟨hne, hdigits, hlength, rfl⟩
    exact ⟨s, ⟨⟨hne, hdigits, rfl⟩, hlength⟩, digitsValue_eq hdigits⟩

theorem exists_sign (s : List Char) : ∃ sign ∈ [[], ['+'], ['-']], s = sign ++ (signed s).2 ∧
    ((signed s).1 ↔ sign = ['-']) := by
  unfold signed
  split
  · exact ⟨['-'], by simp, rfl, by simp⟩
  · exact ⟨['+'], by simp, rfl, by simp⟩
  · exact ⟨[], by simp, rfl, by simp⟩

theorem signed_append {sign digits : List Char} (hsign : sign ∈ [[], ['+'], ['-']])
    (hdigits : ∀ c ∈ digits, (digit? c).isSome) : signed (sign ++ digits) = (decide (sign = ['-']), digits) := by
  simp only [List.mem_cons, List.not_mem_nil, or_false] at hsign
  rcases hsign with rfl | rfl | rfl
  · unfold signed
    split
    · exact absurd (hdigits '-' (by simp_all)) (by decide)
    · exact absurd (hdigits '+' (by simp_all)) (by decide)
    · rfl
  · rfl
  · rfl

/-- A whole number in text: a sign or none and digits of any script, with blanks around them. -/
structure Numeral where
  before : List Char
  sign : List Char
  digits : List Char
  after : List Char
  isBlank_before : before.all isBlank
  isSign : sign ∈ [[], ['+'], ['-']]
  isDigit : ∀ c ∈ digits, (digit? c).isSome
  digits_ne_nil : digits ≠ []
  isBlank_after : after.all isBlank

namespace Numeral

def text (m : Numeral) : List Char := m.before ++ (m.sign ++ m.digits) ++ m.after

def value (m : Numeral) : Int := if m.sign = ['-'] then -(positional m.digits : Int) else positional m.digits

theorem length_digits_le (m : Numeral) : m.digits.length ≤ m.text.length := by
  simp only [text, List.length_append]
  omega

theorem trim_text (m : Numeral) : trim isBlank m.text = m.sign ++ m.digits := by
  apply trim_append m.isBlank_before m.isBlank_after
  · simp [m.digits_ne_nil]
  · intro c hc
    rcases List.mem_append.mp hc with hc | hc
    · have hsign := m.isSign
      simp only [List.mem_cons, List.not_mem_nil, or_false] at hsign
      rcases hsign with h | h | h
      all_goals rw [h] at hc
      · cases hc
      · obtain rfl := List.mem_singleton.mp hc
        rfl
      · obtain rfl := List.mem_singleton.mp hc
        rfl
    · exact isBlank_of_digit (m.isDigit c hc)

end Numeral

theorem read_eq_some {s : List Char} (hs : '_' ∉ s) {n : Int} :
    read s = some n ↔ ∃ m : Numeral, m.text = s ∧ m.digits.length ≤ maxDigits ∧ m.value = n := by
  simp only [read, readSigned, Option.map_eq_some_iff, Option.bind_eq_bind, Option.bind_eq_some_iff, pure,
    Option.some.injEq]
  constructor
  · rintro ⟨_, ⟨k, hk, rfl⟩, rfl⟩
    obtain ⟨before, after, htrim, hbefore, hafter⟩ := exists_trim isBlank s
    obtain ⟨sign, hsign, hsplit, hnegative⟩ := exists_sign (trim isBlank s)
    have hunder : '_' ∉ (signed (trim isBlank s)).2 := by
      intro hmem
      rw [htrim, hsplit] at hs
      simp [hmem] at hs
    obtain ⟨hne, hdigits, hlength, rfl⟩ := (readDigits_eq_some hunder).mp hk
    refine ⟨⟨before, sign, _, after, hbefore, hsign, hdigits, hne, hafter⟩, ?_, hlength, ?_⟩
    · rw [Numeral.text, ← hsplit, ← htrim]
    · simp [Numeral.value, hnegative]
  · rintro ⟨m, rfl, hlength, rfl⟩
    have hunder : '_' ∉ m.digits := fun hmem => absurd (m.isDigit _ hmem) (by decide)
    rw [m.trim_text, signed_append m.isSign m.isDigit]
    refine ⟨_, ⟨_, (readDigits_eq_some hunder).mpr ⟨m.digits_ne_nil, m.isDigit, hlength, rfl⟩, rfl⟩, ?_⟩
    simp [Numeral.value]

example : read [' ', '+', '1', '\u0660', '\u00a0'] = some 10 := by decide

end Whole

end LogMill
