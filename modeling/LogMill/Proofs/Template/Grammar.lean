import LogMill.Proofs.Template.Phrases

/-!
The grammar of templates: a text has no fault exactly if it is a sequence of characters, doubled braces and
fields, and then these are its pieces.
-/

namespace LogMill

open Outcome

namespace Markup

def Closes (depth : Nat) (s : List Char) : Prop :=
  s.count '}' = s.count '{' + depth ∧ ∀ p, p <+: s → p.count '}' ≤ p.count '{' + depth

abbrev Balanced (s : List Char) : Prop := Closes 0 s

variable {d : Nat} {c : Char} {s t r : List Char}

theorem closes_nil : Closes d [] ↔ d = 0 := by
  simp [Closes, eq_comm]

theorem forall_prefix_cons {p : List Char → Prop} (hnil : p []) :
    (∀ q, q <+: c :: s → p q) ↔ ∀ q, q <+: s → p (c :: q) := by
  constructor
  · intro h q hq
    exact h _ (List.cons_prefix_cons.mpr ⟨rfl, hq⟩)
  · intro h q hq
    rcases List.prefix_cons_iff.mp hq with rfl | ⟨q', rfl, hq'⟩
    · exact hnil
    · exact h q' hq'

theorem closes_plain (hc : isPlain c) : Closes d (c :: s) ↔ Closes d s := by
  simp only [isPlain, Bool.and_eq_true, decide_eq_true_eq] at hc
  rw [Closes, forall_prefix_cons (by simp)]
  simp [Closes, hc]

theorem closes_opening : Closes d ('{' :: s) ↔ Closes (d + 1) s := by
  rw [Closes, forall_prefix_cons (by simp)]
  simp [Closes, Nat.add_assoc, Nat.add_comm 1]

theorem closes_closing : Closes (d + 1) ('}' :: s) ↔ Closes d s := by
  rw [Closes, forall_prefix_cons (by simp)]
  simp only [Closes, List.count_cons_self, List.count_cons_of_ne (show '}' ≠ '{' by decide)]
  constructor
  · rintro ⟨h, hp⟩
    exact ⟨by omega, fun p hq => by have := hp p hq; omega⟩
  · rintro ⟨h, hp⟩
    exact ⟨by omega, fun p hq => by have := hp p hq; omega⟩

theorem not_closes : ¬Closes 0 ('}' :: s) := by
  rintro ⟨_, h⟩
  simpa using h ['}'] (by simp)

theorem spec_eq_ok : spec d s = .ok (t, r) ↔ s = t ++ '}' :: r ∧ Closes d t := by
  induction s generalizing d t with
  | nil => simp [spec]
  | cons c s ih =>
    have hcons {d' : Nat} (hc : ∀ t', Closes d (c :: t') ↔ Closes d' t') (hnil : Closes d [] → c ≠ '}') :
        (spec d' s).map (fun x => (c :: x.1, x.2)) = .ok (t, r) ↔ c :: s = t ++ '}' :: r ∧ Closes d t := by
      rw [map_eq_ok]
      constructor
      · rintro ⟨⟨t', r'⟩, h, he⟩
        cases he
        obtain ⟨rfl, ht'⟩ := ih.mp h
        exact ⟨rfl, (hc t').mpr ht'⟩
      · rintro ⟨he, ht⟩
        cases t with
        | nil => exact absurd (List.cons.inj he).1 (hnil ht)
        | cons c' t' =>
          obtain ⟨rfl, rfl⟩ := List.cons.inj he
          exact ⟨(t', r), ih.mpr ⟨rfl, (hc t').mp ht⟩, rfl⟩
    rw [spec]
    split_ifs with hopen hother hzero
    · subst hopen
      exact hcons (fun _ => closes_opening) (fun _ => by decide)
    · exact hcons (fun _ => closes_plain (by simpa [isPlain, hopen] using hother)) fun _ => by simpa using hother
    · obtain rfl : c = '}' := by simpa using hother
      subst hzero
      simp only [Except.ok.injEq, Prod.mk.injEq]
      constructor
      · rintro ⟨rfl, rfl⟩
        exact ⟨rfl, closes_nil.mpr rfl⟩
      · rintro ⟨he, ht⟩
        cases t with
        | nil => exact ⟨rfl, (List.cons.inj he).2⟩
        | cons c' t' =>
          obtain ⟨rfl, -⟩ := List.cons.inj he
          exact absurd ht not_closes
    · obtain rfl : c = '}' := by simpa using hother
      obtain ⟨d, rfl⟩ := Nat.exists_eq_succ_of_ne_zero hzero
      exact hcons (fun _ => closes_closing) fun h => absurd (closes_nil.mp h) hzero

theorem name_eq_ok {b : Bool} {n : List Char} {e : Char} (h : name b s = .ok (n, e, r)) :
    s = n ++ e :: r ∧ e ∈ ['}', ':', '!'] := by
  induction s generalizing b n with
  | nil => simp [name] at h
  | cons c s ih =>
    have hmap {b' : Bool} (h : (name b' s).map (fun x => (c :: x.1, x.2.1, x.2.2)) = .ok (n, e, r)) :
        c :: s = n ++ e :: r ∧ e ∈ ['}', ':', '!'] := by
      obtain ⟨⟨n', e', r'⟩, h', he⟩ := map_eq_ok.mp h
      cases he
      obtain ⟨rfl, he⟩ := ih h'
      exact ⟨rfl, he⟩
    rw [name] at h
    split_ifs at h with hb hopen hend
    · exact hmap h
    · cases h
      exact ⟨rfl, by simpa using hend⟩
    · exact hmap h

end Markup

def Field.body (f : Field) : List Char :=
  f.name ++ f.conversion.elim [] (fun c => ['!', c]) ++ f.spec.elim [] (fun s => ':' :: s)

namespace Markup

variable {f : Field} {s r : List Char}

theorem field_eq_ok (h : field s = .ok (f, r)) : s = f.body ++ '}' :: r ∧ ∀ t ∈ f.spec, Balanced t := by
  simp only [field, bind_eq_ok, Prod.exists] at h
  obtain ⟨n, e, s', hname, h⟩ := h
  obtain ⟨rfl, he⟩ := name_eq_ok hname
  split_ifs at h with hclose hspec
  · cases h
    simp [Field.body, hclose]
  · simp only [bind_eq_ok, Prod.exists] at h
    obtain ⟨t, r', hs, h⟩ := h
    cases h
    obtain ⟨rfl, ht⟩ := spec_eq_ok.mp hs
    exact ⟨by simp [Field.body, hspec], by simpa using ht⟩
  · obtain rfl : e = '!' := by simpa [hclose, hspec] using he
    split at h
    · cases h
    · cases h
    · cases h
      simp [Field.body]
    · simp only [bind_eq_ok, Prod.exists] at h
      obtain ⟨t, r', hs, h⟩ := h
      cases h
      obtain ⟨rfl, ht⟩ := spec_eq_ok.mp hs
      exact ⟨by simp [Field.body], by simpa using ht⟩
    · cases h

theorem field_body (hn : ∀ c ∈ f.name, c ∉ ['{', '}', ':', '!', '[']) (hs : ∀ t ∈ f.spec, Balanced t)
    (r : List Char) : field (f.body ++ '}' :: r) = .ok (f, r) := by
  obtain ⟨n, conversion, spec?⟩ := f
  have hspec : ∀ t ∈ spec?, spec 0 (t ++ '}' :: r) = .ok (t, r) := fun t ht => spec_eq_ok.mpr ⟨rfl, hs t ht⟩
  cases conversion <;> cases spec? <;>
    simp_all [Field.body, field, name_append hn, bind, Except.bind, pure, Except.pure]

/-- What a template without fault is made of: characters, doubled braces, and fields of placeholders. -/
inductive Symbol where
  | plain (c : Char) (isPlain : isPlain c)
  | doubled (c : Char) (isBrace : c = '{' ∨ c = '}')
  | field (p : Placeholder) (conversion : Option Char) (spec : Option { s : List Char // Balanced s })

namespace Symbol

def fieldOf (p : Placeholder) (conversion : Option Char) (spec : Option { s : List Char // Balanced s }) : Field :=
  ⟨p.name.toList, conversion, spec.map Subtype.val⟩

def source : Symbol → List Char
  | plain c _ => [c]
  | doubled c _ => [c, c]
  | field p conversion spec => '{' :: (fieldOf p conversion spec).body ++ ['}']

def piece : Symbol → Piece
  | plain c _ => .text c
  | doubled c _ => .text c
  | field p conversion spec => .field (fieldOf p conversion spec)

theorem read_source (x : Symbol) (s : List Char) : read (x.source ++ s) = (read s).cons x.piece := by
  cases x with
  | plain c hc => exact read_plain hc s
  | doubled c hc => rcases hc with rfl | rfl <;> exact read.eq_def _
  | field p conversion spec =>
    have hspec : ∀ t ∈ (fieldOf p conversion spec).spec, Balanced t := by
      intro t ht
      obtain ⟨t', -, rfl⟩ := Option.map_eq_some_iff.mp ht
      exact t'.property
    have hsource : (field p conversion spec).source ++ s = '{' :: ((fieldOf p conversion spec).body ++ '}' :: s) := by
      simp [source]
    rw [hsource, read_opening (field_body p.name_plain hspec s)]
    rfl

end Symbol

def source (xs : List Symbol) : List Char := xs.flatMap Symbol.source

theorem read_source (xs : List Symbol) : read (source xs) = ⟨xs.map Symbol.piece, none⟩ := by
  induction xs with
  | nil => simp [source, read]
  | cons x xs ih =>
    rw [source, List.flatMap_cons, Symbol.read_source, ← source, ih]
    rfl

def IsSound (m : Markup) : Prop := m.fault = none ∧ ∀ n ∈ m.names, ∃ p, Placeholder.ofName? n = some p

theorem isSound_cons {p : Piece} {m : Markup} : (m.cons p).IsSound ↔
    (∀ f, p = .field f → ∃ q, Placeholder.ofName? (String.ofList f.name) = some q) ∧ m.IsSound := by
  cases p with
  | text c => simp [IsSound, cons, names]
  | field f =>
    simp only [IsSound, cons, names, List.filterMap_cons, List.forall_mem_cons, Piece.field.injEq, forall_eq']
    tauto

theorem Symbol.isSound_source (x : Symbol) {s : List Char} :
    (read (x.source ++ s)).IsSound ↔ (read s).IsSound := by
  rw [x.read_source, isSound_cons, and_iff_right_iff_imp]
  rintro - f hf
  cases x with
  | plain c hc => cases hf
  | doubled c hc => cases hf
  | field p conversion spec =>
    cases hf
    exact ⟨p, by rw [fieldOf, String.ofList_toList, Placeholder.ofName?_name]⟩

theorem exists_source {s : List Char} (h : (read s).IsSound) : ∃ xs, s = source xs := by
  -- Each step of the reading takes one symbol off the text.
  have grow (x : Symbol) {r : List Char} (ih : (read r).IsSound → ∃ xs, r = source xs)
      (h : (read (x.source ++ r)).IsSound) : ∃ xs, x.source ++ r = source xs := by
    obtain ⟨xs, rfl⟩ := ih (x.isSound_source.mp h)
    exact ⟨x :: xs, rfl⟩
  induction s using read.induct with
  | case1 => exact ⟨[], rfl⟩
  | case2 s ih => exact grow (.doubled '{' (.inl rfl)) ih h
  | case3 => simp [IsSound, read] at h
  | case4 s hnext hne f rest hfield ih =>
    rw [read_opening hfield, isSound_cons] at h
    obtain ⟨q, hq⟩ := h.1 f rfl
    obtain ⟨rfl, hspec⟩ := field_eq_ok hfield
    have hname : f.name = q.name.toList := by rw [← Placeholder.ofName?_eq_some hq, String.toList_ofList]
    obtain ⟨spec, hs⟩ : ∃ spec : Option { s : List Char // Balanced s }, spec.map Subtype.val = f.spec := by
      cases hs : f.spec with
      | none => exact ⟨none, rfl⟩
      | some t => exact ⟨some ⟨t, hspec t hs⟩, rfl⟩
    have hf : Symbol.fieldOf q f.conversion spec = f := by rw [Symbol.fieldOf, ← hname, hs]
    obtain ⟨xs, rfl⟩ := ih h.2
    exact ⟨.field q f.conversion spec :: xs, by simp [source, Symbol.source, hf]⟩
  | case5 s hnext hne e hfield =>
    simp [IsSound, read_brace hne hnext, hfield] at h
  | case6 s ih => exact grow (.doubled '}' (.inr rfl)) ih h
  | case7 s hnext =>
    rw [read.eq_def] at h
    simp_all [IsSound]
  | case8 c s _ _ hopen _ hclose ih =>
    exact grow (.plain c (by simpa [isPlain] using ⟨hopen, hclose⟩)) ih h

theorem isSound_iff {s : List Char} : (read s).IsSound ↔ ∃ xs, s = source xs := by
  refine ⟨exists_source, ?_⟩
  rintro ⟨xs, rfl⟩
  induction xs with
  | nil => simp [source, read, IsSound, names]
  | cons x xs ih => exact x.isSound_source.mpr ih

namespace Symbol

def isBare : Symbol → Bool
  | field _ conversion spec => conversion.isNone && spec.isNone
  | _ => true

def filled (values : Placeholder → String) : Symbol → List Char
  | plain c _ => [c]
  | doubled c _ => [c]
  | field p _ _ => (values p).toList

theorem fill_piece {x : Symbol} (hx : x.isBare) (values : Placeholder → String)
    (expand : List Char → Except Fill.Fault (List Char)) :
    Fill.piece values expand x.piece = .ok (x.filled values) := by
  cases x with
  | plain c hc => rfl
  | doubled c hc => rfl
  | field p conversion spec =>
    simp only [isBare, Bool.and_eq_true, Option.isNone_iff_eq_none] at hx
    obtain ⟨rfl, rfl⟩ := hx
    exact Fill.field_name values expand p

end Symbol

end Markup

theorem Template.fill_of_bare {t : Template} {xs : List Markup.Symbol} (ht : t.text.toList = Markup.source xs)
    (hxs : ∀ x ∈ xs, x.isBare) (values : Placeholder → String) :
    t.fill values = .ok (String.ofList (xs.flatMap (Markup.Symbol.filled values))) := by
  have hparts : (xs.map Markup.Symbol.piece).mapM (Fill.piece values (Fill.text values 1)) =
      .ok (xs.map (Markup.Symbol.filled values)) := by
    rw [mapM_eq_ok, List.forall₂_map_left_iff, List.forall₂_map_right_iff, List.forall₂_same]
    exact fun x hx => Markup.Symbol.fill_piece (hxs x hx) values _
  simp only [Template.fill, t.markup_eq, ht, Markup.read_source, Fill.markup, hparts, bind, Except.bind, pure,
    Except.pure, Except.map, Except.mapError, List.flatMap_def]

end LogMill
