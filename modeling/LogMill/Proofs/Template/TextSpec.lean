import LogMill.Template.Spec
import LogMill.Proofs.Outcome

namespace LogMill.Spec

open Outcome Text

def IsDigits (s : List Char) : Prop := ∀ c ∈ s, (digit? c).isSome

def NoDigit (s : List Char) : Prop := ∀ c ∈ s.head?, digit? c = none

def valueFrom (n : Nat) (s : List Char) : Nat := s.foldl (fun n c => 10 * n + (digit? c).getD 0) n

theorem le_valueFrom (n : Nat) (s : List Char) : n ≤ valueFrom n s := by
  induction s generalizing n with
  | nil => exact Nat.le_refl n
  | cons c s ih =>
    have := ih (10 * n + (digit? c).getD 0)
    simp only [valueFrom, List.foldl_cons] at this ⊢
    omega

theorem number_eq_ok {s : List Char} {read n : Option Nat} {rest : List Char} :
    number read s = .ok (n, rest) ↔ ∃ ds, s = ds ++ rest ∧ IsDigits ds ∧ NoDigit rest ∧
      (ds = [] ∧ n = read ∨
        ds ≠ [] ∧ n = some (valueFrom (read.getD 0) ds) ∧ valueFrom (read.getD 0) ds ≤ maxNumber) := by
  induction s generalizing read with
  | nil =>
    simp only [number, Except.ok.injEq, Prod.mk.injEq]
    constructor
    · rintro ⟨rfl, rfl⟩
      exact ⟨[], by simp, by simp [IsDigits], by simp [NoDigit], .inl ⟨rfl, rfl⟩⟩
    · rintro ⟨ds, hs, _, _, h⟩
      obtain ⟨rfl, rfl⟩ := List.append_eq_nil_iff.mp hs.symm
      simpa [eq_comm] using h
  | cons c s ih =>
    rw [number]
    cases hc : digit? c with
    | none =>
      simp only [Except.ok.injEq, Prod.mk.injEq]
      constructor
      · rintro ⟨rfl, rfl⟩
        exact ⟨[], rfl, by simp [IsDigits], by simp [NoDigit, hc], .inl ⟨rfl, rfl⟩⟩
      · rintro ⟨ds, hs, hdigits, _, h⟩
        cases ds with
        | nil => exact ⟨by simpa [eq_comm] using h, hs⟩
        | cons d ds =>
          obtain ⟨rfl, _⟩ := List.cons.inj hs
          simpa [hc] using hdigits c (by simp)
    | some d =>
      have hvalue (ds : List Char) : valueFrom (read.getD 0) (c :: ds) = valueFrom (10 * read.getD 0 + d) ds := by
        simp [valueFrom, hc]
      simp only
      split_ifs with hlarge
      · simp only [false_iff]
        rintro ⟨ds, hs, hdigits, hrest, h⟩
        cases ds with
        | nil =>
          obtain rfl : c :: s = rest := hs
          simpa [hc] using hrest c rfl
        | cons d' ds =>
          obtain ⟨rfl, _⟩ := List.cons.inj hs
          have hle := le_valueFrom (10 * read.getD 0 + d) ds
          rw [hvalue] at h
          simp only [reduceCtorEq, false_and, ne_eq, not_false_eq_true, true_and, false_or] at h
          omega
      · rw [ih]
        constructor
        · rintro ⟨ds, rfl, hdigits, hrest, h⟩
          refine ⟨c :: ds, rfl, ?_, hrest, .inr ⟨by simp, ?_⟩⟩
          · intro x hx
            rcases List.mem_cons.mp hx with rfl | hx
            · simp [hc]
            · exact hdigits x hx
          · rw [hvalue]
            rcases h with ⟨rfl, rfl⟩ | ⟨_, rfl, hle⟩
            · exact ⟨rfl, by simpa [valueFrom] using hlarge⟩
            · exact ⟨rfl, hle⟩
        · rintro ⟨ds, hs, hdigits, hrest, h⟩
          cases ds with
          | nil =>
            obtain rfl : c :: s = rest := hs
            simpa [hc] using hrest c rfl
          | cons d' ds =>
            obtain ⟨rfl, rfl⟩ := List.cons.inj hs
            simp only [hvalue, reduceCtorEq, false_and, ne_eq, not_false_eq_true, true_and, false_or] at h
            obtain ⟨rfl, hle⟩ := h
            refine ⟨ds, rfl, fun x hx => hdigits x (List.mem_cons_of_mem _ hx), hrest, ?_⟩
            cases ds with
            | nil => exact .inl ⟨rfl, rfl⟩
            | cons e es => exact .inr ⟨by simp, rfl, hle⟩

theorem number_none_eq_ok {s : List Char} {n : Option Nat} {rest : List Char} :
    number none s = .ok (n, rest) ↔ ∃ ds, s = ds ++ rest ∧ IsDigits ds ∧ NoDigit rest ∧
      n = (if ds = [] then none else some (valueFrom 0 ds)) ∧ valueFrom 0 ds ≤ maxNumber := by
  rw [number_eq_ok]
  refine exists_congr fun ds => and_congr_right fun _ => and_congr_right fun _ => and_congr_right fun _ => ?_
  by_cases h : ds = []
  · simp [h, valueFrom]
  · simp [h]

def IsAlignment (s : List Char) : Prop := s = [] ∨ ∃ a ∈ ['<', '>', '^'], s = [a] ∨ ∃ c, s = [c, a]

def IsWidth (s : List Char) : Prop := IsDigits s ∧ valueFrom 0 s ≤ room

def IsPrecision (s : List Char) : Prop :=
  s = [] ∨ ∃ ds, s = '.' :: ds ∧ ds ≠ [] ∧ IsDigits ds ∧ valueFrom 0 ds ≤ maxNumber

/-- A specification that a text takes. -/
def FitsText (s : List Char) : Prop := ∃ alignment width precision type,
  s = alignment ++ (width ++ (precision ++ type)) ∧ IsAlignment alignment ∧ IsWidth width ∧ IsPrecision precision ∧
    (type = [] ∨ type = ['s'])

theorem signMark_eq {s rest : List Char} (h : signMark s = (none, rest)) : s = rest := by
  cases s with
  | nil => simpa [signMark] using h
  | cons c s =>
    by_cases hc : c = ' ' ∨ c = '+' ∨ c = '-'
    · simp [signMark, hc] at h
    · simpa [signMark, hc] using h

theorem flag_eq {c : Char} {b : Bool} {s rest : List Char} (h : flag c s = (b, rest)) :
    s = (if b then [c] else []) ++ rest := by
  cases s with
  | nil =>
    obtain ⟨rfl, rfl⟩ := Prod.mk.inj h
    rfl
  | cons d s =>
    by_cases hd : d = c
    · obtain ⟨rfl, rfl⟩ : true = b ∧ s = rest := by simpa [flag, hd] using h
      simp [hd]
    · obtain ⟨rfl, rfl⟩ : false = b ∧ d :: s = rest := by simpa [flag, hd] using h
      simp

theorem separators_eq {s rest : List Char} (h : separators s = .ok (none, rest)) : s = rest := by
  unfold separators at h
  rcases hc : flag ',' s with ⟨comma, s'⟩
  rcases hu : flag '_' s' with ⟨underscore, s''⟩
  simp only [hc, hu] at h
  split_ifs at h with hboth hunder hcomma
  all_goals simp only [Except.ok.injEq, Prod.mk.injEq, reduceCtorEq, false_and, true_and] at h
  subst h
  simp only [Bool.not_eq_true] at hunder hcomma
  rw [flag_eq hc, flag_eq hu, hcomma, hunder]
  rfl

theorem alignment_eq {s rest : List Char} {fill align : Option Char} (h : alignment s = (fill, align, rest))
    (ha : align ≠ some '=') : ∃ head, s = head ++ rest ∧ IsAlignment head := by
  have hmark {a : Char} (hm : isAlign a) (hne : some a ≠ some '=') : a ∈ ['<', '>', '^'] := by
    simp only [isAlign, Bool.or_eq_true, decide_eq_true_eq] at hm
    simp only [ne_eq, Option.some.injEq] at hne
    simp only [List.mem_cons, List.not_mem_nil, or_false]
    tauto
  unfold alignment at h
  split at h
  · rename_i c a s
    split_ifs at h with h₁ h₂
    all_goals
      simp only [Prod.mk.injEq] at h
      obtain ⟨rfl, rfl, rfl⟩ := h
    · exact ⟨[c, a], rfl, .inr ⟨a, hmark h₁ ha, .inr ⟨c, rfl⟩⟩⟩
    · exact ⟨[c], rfl, .inr ⟨c, hmark h₂ ha, .inl rfl⟩⟩
    · exact ⟨[], rfl, .inl rfl⟩
  · rename_i c
    split_ifs at h with h₁
    all_goals
      simp only [Prod.mk.injEq] at h
      obtain ⟨rfl, rfl, rfl⟩ := h
    · exact ⟨[c], rfl, .inr ⟨c, hmark h₁ ha, .inl rfl⟩⟩
    · exact ⟨[], rfl, .inl rfl⟩
  · simp only [Prod.mk.injEq] at h
    obtain ⟨rfl, rfl, rfl⟩ := h
    exact ⟨[], rfl, .inl rfl⟩

theorem precisionPart_eq {s rest : List Char} {n : Option Nat} (h : precisionPart s = .ok (n, rest)) :
    ∃ precision, s = precision ++ rest ∧ IsPrecision precision := by
  unfold precisionPart at h
  split at h
  · rename_i s
    obtain ⟨⟨m, s'⟩, hnumber, h⟩ := bind_eq_ok.mp h
    obtain ⟨ds, rfl, hdigits, _, rfl, hle⟩ := number_none_eq_ok.mp hnumber
    by_cases hds : ds = []
    · simp [hds] at h
    · obtain ⟨rfl, rfl⟩ : some (valueFrom 0 ds) = n ∧ s' = rest := by simpa [hds, pure, Except.pure] using h
      exact ⟨'.' :: ds, rfl, .inr ⟨ds, rfl, hds, hdigits, hle⟩⟩
  · obtain ⟨rfl, rfl⟩ : none = n ∧ s = rest := by simpa using h
    exact ⟨[], rfl, .inl rfl⟩

theorem check_eq_ok {spec : Spec} : check spec = .ok () ↔
    spec.type = 's' ∧ spec.sign = none ∧ spec.noMinusZero = false ∧ spec.alternate = false ∧ spec.align ≠ '=' := by
  obtain ⟨fill, align, sign, noMinusZero, alternate, width, separator, precision, type⟩ := spec
  by_cases htype : type = 's' <;> cases sign <;> cases noMinusZero <;> cases alternate <;> by_cases halign : align = '=' <;>
    simp [check, htype, halign, bind, Except.bind, pure, Except.pure, throw, throwThe, MonadExceptOf.throw]

theorem fitsText_of_read {s : List Char} {spec : Spec} (hread : read .text s = .ok spec) (hcheck : check spec = .ok ())
    (hroom : spec.width.getD 0 ≤ room) : FitsText s := by
  obtain ⟨htype, hsign, hzero, halternate, halign⟩ := check_eq_ok.mp hcheck
  rcases ha : alignment s with ⟨fill, align, s₁⟩
  rcases hsg : signMark s₁ with ⟨sign, s₂⟩
  rcases hz : flag 'z' s₂ with ⟨noMinusZero, s₃⟩
  rcases hal : flag '#' s₃ with ⟨alternate, s₄⟩
  rcases hze : (if fill.isNone then flag '0' s₄ else (false, s₄)) with ⟨zero, s₅⟩
  simp only [read, ha, hsg, hz, hal, hze, bind_eq_ok] at hread
  obtain ⟨⟨width, s₆⟩, hwidth, ⟨separator, s₇⟩, hseparator, ⟨precision, type⟩, hprecision, hread⟩ := hread
  simp only at hseparator hprecision hread
  have hshort : ¬1 < type.length := by
    intro hlong
    simp [hlong, bind, Except.bind, throw, throwThe, MonadExceptOf.throw] at hread
  have hnone : separator = none := by
    cases separator with
    | none => rfl
    | some c =>
      exfalso
      cases htakes : takesSeparator c (type.head?.getD Subject.text.type) with
      | false => simp [hshort, htakes, bind, Except.bind, throw, throwThe, MonadExceptOf.throw] at hread
      | true =>
        simp only [hshort, htakes, Bool.not_true, Bool.false_eq_true, ↓reduceIte, pure, Except.pure,
          Except.ok.injEq] at hread
        subst hread
        simp only at htype
        rw [htype] at htakes
        simp [takesSeparator] at htakes
  subst hnone
  simp only [hshort, ↓reduceIte, pure, Except.pure, Except.ok.injEq] at hread
  subst hread
  simp only at htype hsign hzero halternate halign hroom
  subst hsign hzero halternate
  obtain ⟨head, hhead, halignment⟩ := alignment_eq ha (by rintro rfl; exact halign rfl)
  obtain ⟨ds, hds, hdigits, _, rfl, hle⟩ := number_none_eq_ok.mp hwidth
  obtain ⟨point, hpoint, hprecise⟩ := precisionPart_eq hprecision
  have hzeros : ∃ zeros, s₄ = zeros ++ s₅ ∧ IsDigits zeros ∧ valueFrom 0 zeros = 0 := by
    split_ifs at hze with hfill
    · refine ⟨_, flag_eq hze, ?_⟩
      cases zero with
      | true => exact ⟨by simp [IsDigits]; decide, by decide⟩
      | false => exact ⟨by simp [IsDigits], rfl⟩
    · obtain ⟨rfl, rfl⟩ : false = zero ∧ s₄ = s₅ := by simpa using hze
      exact ⟨[], rfl, by simp [IsDigits], rfl⟩
  obtain ⟨zeros, hs₄, hzeros, hvalue⟩ := hzeros
  refine ⟨head, zeros ++ ds, point, type, ?_, halignment, ⟨?_, ?_⟩, hprecise, ?_⟩
  · rw [hhead, signMark_eq hsg, flag_eq hz, flag_eq hal, hs₄, hds, separators_eq hseparator, hpoint]
    simp
  · intro c hc
    rcases List.mem_append.mp hc with hc | hc
    · exact hzeros c hc
    · exact hdigits c hc
  · have hsplit : valueFrom 0 (zeros ++ ds) = valueFrom (valueFrom 0 zeros) ds := by simp [valueFrom]
    rw [hsplit, hvalue]
    by_cases hempty : ds = []
    · simp [hempty, valueFrom]
    · simpa [hempty] using hroom
  · cases type with
    | nil => exact .inl rfl
    | cons c type =>
      have hempty : type = [] := List.length_eq_zero_iff.mp (by simp only [List.length_cons] at hshort; omega)
      right
      simpa [hempty] using htype

def IsBody (c : Char) : Prop := (digit? c).isSome ∨ c = '.' ∨ c = 's'

theorem IsBody.not_mark {c : Char} (h : IsBody c) :
    c ∉ ['<', '>', '=', '^', ' ', '+', '-', 'z', '#', ',', '_'] := by
  have hmarks : ∀ m ∈ ['<', '>', '=', '^', ' ', '+', '-', 'z', '#', ',', '_'], digit? m = none := by
    simp only [List.forall_mem_cons, List.not_mem_nil, false_implies, implies_true, and_true]
    decide
  rcases h with h | rfl | rfl
  · intro hm
    simp [hmarks c hm] at h
  · decide
  · decide

theorem isBody_of_mem {width precision type : List Char} (hwidth : IsDigits width) (hprecision : IsPrecision precision)
    (htype : type = [] ∨ type = ['s']) : ∀ c ∈ width ++ (precision ++ type), IsBody c := by
  intro c hc
  rcases List.mem_append.mp hc with hc | hc
  · exact .inl (hwidth c hc)
  rcases List.mem_append.mp hc with hc | hc
  · rcases hprecision with rfl | ⟨ds, rfl, _, hdigits, _⟩
    · simp at hc
    · rcases List.mem_cons.mp hc with rfl | hc
      · exact .inr (.inl rfl)
      · exact .inl (hdigits c hc)
  · rcases htype with rfl | rfl
    · simp at hc
    · exact .inr (.inr (List.mem_singleton.mp hc))

theorem alignment_append {head body : List Char} (hhead : IsAlignment head) (hbody : ∀ c ∈ body, IsBody c) :
    ∃ fill align, alignment (head ++ body) = (fill, align, body) ∧ align ≠ some '=' := by
  have hplain {c : Char} (hc : c ∈ body) : isAlign c = false := by
    have := (hbody c hc).not_mark
    simp only [List.mem_cons, List.not_mem_nil, or_false, not_or] at this
    simp [isAlign, this]
  rcases hhead with rfl | ⟨a, ha, rfl | ⟨c, rfl⟩⟩
  · refine ⟨none, none, ?_, by simp⟩
    match body with
    | [] => rfl
    | [c] => simp [alignment, hplain (c := c)]
    | c :: b :: s => simp [alignment, hplain (c := c), hplain (c := b)]
  all_goals
    have hmark : isAlign a = true ∧ some a ≠ some '=' := by
      simp only [List.mem_cons, List.not_mem_nil, or_false] at ha
      rcases ha with rfl | rfl | rfl <;> decide
  · refine ⟨none, some a, ?_, hmark.2⟩
    match body with
    | [] => simp [alignment, hmark.1]
    | b :: s => simp [alignment, hmark.1, hplain (c := b)]
  · exact ⟨some c, some a, by simp [alignment, hmark.1], hmark.2⟩

theorem flag_of_body {body : List Char} (hbody : ∀ c ∈ body, IsBody c) {m : Char}
    (hm : m ∈ ['<', '>', '=', '^', ' ', '+', '-', 'z', '#', ',', '_']) : flag m body = (false, body) := by
  cases body with
  | nil => rfl
  | cons c s =>
    have hne : c ≠ m := by
      rintro rfl
      exact (hbody c (by simp)).not_mark hm
    simp [flag, hne]

theorem signMark_of_body {body : List Char} (hbody : ∀ c ∈ body, IsBody c) : signMark body = (none, body) := by
  cases body with
  | nil => rfl
  | cons c s =>
    have := (hbody c (by simp)).not_mark
    simp only [List.mem_cons, List.not_mem_nil, or_false, not_or] at this
    simp [signMark, this]

theorem separators_of_body {body : List Char} (hbody : ∀ c ∈ body, IsBody c) : separators body = .ok (none, body) := by
  simp [separators, flag_of_body hbody]

theorem noDigit_append {precision type : List Char} (hprecision : IsPrecision precision)
    (htype : type = [] ∨ type = ['s']) : NoDigit (precision ++ type) := by
  have hmarks : digit? '.' = none ∧ digit? 's' = none := by decide
  rcases hprecision with rfl | ⟨ds, rfl, _⟩
  · rcases htype with rfl | rfl <;> simp [NoDigit, hmarks]
  · simp [NoDigit, hmarks]

theorem width_append {width rest : List Char} (hwidth : IsWidth width) (hrest : NoDigit rest) (isFirst : Bool) :
    ∃ zero s n, (if isFirst then flag '0' (width ++ rest) else (false, width ++ rest)) = (zero, s) ∧
      number none s = .ok (n, rest) ∧ n.getD 0 ≤ room := by
  obtain ⟨hdigits, hroom⟩ := hwidth
  have hlimit : room ≤ maxNumber := by decide
  have hnumber {ds : List Char} (hds : IsDigits ds) (hle : valueFrom 0 ds ≤ room) :
      ∃ n, number none (ds ++ rest) = .ok (n, rest) ∧ n.getD 0 ≤ room := by
    refine ⟨_, number_none_eq_ok.mpr ⟨ds, rfl, hds, hrest, rfl, by omega⟩, ?_⟩
    split_ifs
    · exact Nat.zero_le _
    · exact hle
  by_cases hzero : isFirst = true ∧ width.head? = some '0'
  · obtain ⟨ds, rfl⟩ : ∃ ds, width = '0' :: ds := List.head?_eq_some_iff.mp hzero.2
    have hds : IsDigits ds := fun c hc => hdigits c (List.mem_cons_of_mem _ hc)
    obtain ⟨n, hn, hle⟩ := hnumber hds hroom
    exact ⟨true, ds ++ rest, n, by simp [hzero.1, flag], hn, hle⟩
  · obtain ⟨n, hn, hle⟩ := hnumber hdigits hroom
    refine ⟨false, width ++ rest, n, ?_, hn, hle⟩
    split_ifs with hfirst
    · have hother : ∀ c ∈ (width ++ rest).head?, c ≠ '0' := by
        rintro c hc rfl
        cases width with
        | nil => exact absurd (hrest '0' hc) (by decide)
        | cons d ds => exact hzero ⟨hfirst, hc⟩
      cases hs : width ++ rest with
      | nil => rfl
      | cons c s => simp [flag, hother c (by simp [hs])]
    · rfl

theorem precisionPart_append {precision type : List Char} (hprecision : IsPrecision precision)
    (htype : type = [] ∨ type = ['s']) : ∃ n, precisionPart (precision ++ type) = .ok (n, type) := by
  have hrest : NoDigit type := noDigit_append (.inl rfl) htype
  rcases hprecision with rfl | ⟨ds, rfl, hne, hdigits, hle⟩
  · rcases htype with rfl | rfl <;> exact ⟨none, rfl⟩
  · have hnumber : number none (ds ++ type) = .ok (some (valueFrom 0 ds), type) :=
      number_none_eq_ok.mpr ⟨ds, rfl, hdigits, hrest, by simp [hne], hle⟩
    exact ⟨_, by simp only [List.cons_append, precisionPart, hnumber, bind, Except.bind]; rfl⟩

theorem exists_apply_iff {s : List Char} (value : List Char) : (∃ t, apply s value = .ok t) ↔ FitsText s := by
  constructor
  · rintro ⟨t, h⟩
    by_cases hs : s = []
    · exact ⟨[], [], [], [], hs, .inl rfl, ⟨by simp [IsDigits], Nat.zero_le _⟩, .inl rfl, .inl rfl⟩
    · simp only [apply, List.isEmpty_iff, hs, ↓reduceIte, bind_eq_ok] at h
      obtain ⟨spec, hread, _, hcheck, hroom⟩ := h
      apply fitsText_of_read hread hcheck
      by_contra hlarge
      rw [if_pos (Nat.not_le.mp hlarge)] at hroom
      cases hroom
  · rintro ⟨head, width, precision, type, rfl, hhead, ⟨hwidth, hroom⟩, hprecision, htype⟩
    have hbody := isBody_of_mem hwidth hprecision htype
    obtain ⟨fill, align, halignment, halign⟩ := alignment_append hhead hbody
    obtain ⟨zero, s, n, hzero, hnumber, hwide⟩ := width_append ⟨hwidth, hroom⟩ (noDigit_append hprecision htype)
      fill.isNone
    obtain ⟨m, hprecise⟩ := precisionPart_append hprecision htype
    have hrest : ∀ c ∈ precision ++ type, IsBody c := fun c hc => hbody c (List.mem_append_right _ hc)
    have htyped : type.head?.getD Subject.text.type = 's' ∧ ¬1 < type.length := by
      rcases htype with rfl | rfl <;> exact ⟨rfl, by simp⟩
    by_cases hempty : (head ++ (width ++ (precision ++ type))).isEmpty
    · exact ⟨value, by simp only [apply, hempty, ↓reduceIte]⟩
    · have hleft : align.getD '<' ≠ '=' := by
        cases align with
        | none => decide
        | some a => simpa using halign
      obtain ⟨spec, hread, hcheck, hn⟩ : ∃ spec, read .text (head ++ (width ++ (precision ++ type))) = .ok spec ∧
          check spec = .ok () ∧ spec.width = n := by
        simp only [read, halignment, signMark_of_body hbody, flag_of_body hbody (m := 'z') (by decide),
          flag_of_body hbody (m := '#') (by decide), hzero, hnumber, separators_of_body hrest, hprecise, bind,
          Except.bind, htyped, ↓reduceIte, pure, Except.pure]
        exact ⟨_, rfl, check_eq_ok.mpr ⟨rfl, rfl, rfl, rfl, by simpa [Subject.text] using hleft⟩, rfl⟩
      subst hn
      simp [apply, hempty, hread, hcheck, bind, Except.bind, Nat.not_lt.mpr hwide, pure, Except.pure]

end LogMill.Spec
