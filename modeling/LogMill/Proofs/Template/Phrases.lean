import LogMill.Template.Table
import LogMill.Proofs.Outcome
import LogMill.Proofs.Text.Width
import Mathlib.Data.List.Flatten

namespace LogMill

open Outcome

def isPlain (c : Char) : Bool := c ≠ '{' && c ≠ '}'

namespace Markup

theorem read_plain {c : Char} (hc : isPlain c) (s : List Char) : read (c :: s) = (read s).cons (.text c) := by
  simp only [isPlain, Bool.and_eq_true, decide_eq_true_eq] at hc
  rw [read.eq_def]
  split <;> simp_all

theorem name_append {n : List Char} (hn : ∀ c ∈ n, c ∉ ['{', '}', ':', '!', '[']) {e : Char}
    (he : e ∈ ['}', ':', '!']) (s : List Char) : name false (n ++ e :: s) = .ok (n, e, s) := by
  induction n with
  | nil =>
    simp only [List.mem_cons, List.not_mem_nil, or_false] at he
    rcases he with rfl | rfl | rfl <;> simp [name]
  | cons c n ih =>
    have hc := hn c (by simp)
    simp only [List.mem_cons, List.not_mem_nil, or_false, not_or] at hc
    have hb : (c == '[') = false := by simp [hc]
    simp only [List.cons_append, name, Bool.false_eq_true, ↓reduceIte, hc, or_self, hb,
      ih fun d hd => hn d (List.mem_cons_of_mem _ hd), Except.map]

theorem read_brace {s : List Char} (hne : s ≠ []) (hnext : ∀ t, s ≠ '{' :: t) : read ('{' :: s) =
    match field s with
    | .ok (f, r) => (read r).cons (.field f)
    | .error e => ⟨[], some e⟩ := by
  rw [read.eq_def]
  split
  · rename_i he
    cases he
  · rename_i t he
    exact absurd (List.cons.inj he).2 (hnext t)
  · rename_i he
    exact absurd (List.cons.inj he).2 hne
  · rename_i he
    obtain rfl := (List.cons.inj he).2
    split <;> rename_i h <;> rw [h]
  · rename_i he
    exact absurd (List.cons.inj he).1 (by decide)
  · rename_i he
    exact absurd (List.cons.inj he).1 (by decide)
  · rename_i hopen _ _ he
    exact absurd (List.cons.inj he).1.symm hopen

theorem read_opening {s r : List Char} {f : Field} (h : field s = .ok (f, r)) :
    read ('{' :: s) = (read r).cons (.field f) := by
  have hne : s ≠ [] := by
    rintro rfl
    simp [field, name, bind, Except.bind] at h
  have hnext (t : List Char) : s ≠ '{' :: t := by
    rintro rfl
    simp [field, name, bind, Except.bind] at h
  rw [read_brace hne hnext, h]

theorem read_field {n : List Char} (hn : ∀ c ∈ n, c ∉ ['{', '}', ':', '!', '[']) (s : List Char) :
    read ('{' :: n ++ '}' :: s) = (read s).cons (.field ⟨n, none, none⟩) :=
  read_opening (by simp [field, name_append hn, bind, Except.bind, pure, Except.pure])

end Markup

def Chunk.pieces : Chunk → List Piece
  | text s => s.toList.map .text
  | slot p => [.field ⟨p.name.toList, none, none⟩]

def Chunk.isPlain : Chunk → Bool
  | text s => s.toList.all LogMill.isPlain
  | slot _ => true

theorem Markup.read_texts {t : List Char} (ht : t.all LogMill.isPlain) (s : List Char) :
    read (t ++ s) = ⟨t.map .text ++ (read s).pieces, (read s).fault⟩ := by
  induction t with
  | nil => rfl
  | cons c t ih =>
    simp only [List.all_cons, Bool.and_eq_true] at ht
    rw [List.cons_append, read_plain ht.1, ih ht.2]
    rfl

theorem Placeholder.name_plain (p : Placeholder) : ∀ c ∈ p.name.toList, c ∉ ['{', '}', ':', '!', '['] := by
  cases p <;> simp [name]

theorem Chunk.read_source {c : Chunk} (hc : c.isPlain) (s : List Char) :
    Markup.read (c.source.toList ++ s) = ⟨c.pieces ++ (Markup.read s).pieces, (Markup.read s).fault⟩ := by
  cases c with
  | text t => exact Markup.read_texts hc s
  | slot p =>
    have h := Markup.read_field p.name_plain s
    have hs : (Chunk.slot p).source.toList ++ s = '{' :: p.name.toList ++ '}' :: s := by
      simp [Chunk.source, String.toList_append]
    rw [hs, h]
    rfl

namespace Phrase

theorem toList_source (p : Phrase) : p.source.toList = p.flatMap fun c => c.source.toList := by
  simp [source, String.toList_join, List.flatMap_map]

theorem read_source {p : Phrase} (hp : p.all Chunk.isPlain) :
    Markup.read p.source.toList = ⟨p.flatMap Chunk.pieces, none⟩ := by
  rw [toList_source]
  induction p with
  | nil => simp [Markup.read]
  | cons c p ih =>
    simp only [List.all_cons, Bool.and_eq_true] at hp
    rw [List.flatMap_cons, Chunk.read_source hp.1, ih hp.2]
    rfl

end Phrase

theorem Placeholder.ofName?_name (p : Placeholder) : ofName? p.name = some p := by cases p <;> decide

theorem Placeholder.ofName?_eq_some {s : String} {p : Placeholder} (h : ofName? s = some p) : s = p.name := by
  unfold ofName? at h
  have hname := List.find?_some h
  exact (of_decide_eq_true hname).symm

namespace Fill

theorem index?_name (p : Placeholder) : index? p.name.toList = .ok none := by cases p <;> decide

theorem takeWhile_name (p : Placeholder) :
    p.name.toList.takeWhile (fun c => c ≠ '.' && c ≠ '[') = p.name.toList := by cases p <;> decide

theorem resolve_name (values : Placeholder → String) (p : Placeholder) :
    resolve values p.name.toList = .ok (.ofText (values p)) := by
  have hne : p.name.toList.isEmpty = false := by cases p <;> rfl
  simp only [resolve, takeWhile_name, index?_name, hne, String.ofList_toList, Placeholder.ofName?_name,
    List.drop_length, bind, Except.bind, Option.isSome_none, Bool.false_eq_true, or_self, ↓reduceIte]
  simp [follow]

theorem field_name (values : Placeholder → String) (expand : List Char → Except Fault (List Char))
    (p : Placeholder) : field values expand ⟨p.name.toList, none, none⟩ = .ok (values p).toList := by
  simp [field, resolve_name, convert, form, Member.ofText, Member.plain, bind, Except.bind]

theorem mapM_pieces (values : Placeholder → String) (expand : List Char → Except Fault (List Char)) (c : Chunk) :
    ∃ parts, c.pieces.mapM (piece values expand) = .ok parts ∧ parts.flatten = (c.fill values).toList := by
  cases c with
  | text s =>
    refine ⟨s.toList.map fun c => [c], ?_, ?_⟩
    · rw [mapM_eq_ok]
      simp only [Chunk.pieces, List.forall₂_map_left_iff, List.forall₂_map_right_iff, piece, List.forall₂_same,
        implies_true]
    · rw [← List.flatMap_def]
      simp [Chunk.fill]
  | slot p =>
    refine ⟨[(values p).toList], ?_, ?_⟩
    · rw [mapM_eq_ok]
      exact .cons (field_name values expand p) .nil
    · simp [Chunk.fill]

theorem mapM_phrase (values : Placeholder → String) (expand : List Char → Except Fault (List Char)) (p : Phrase) :
    ∃ parts, (p.flatMap Chunk.pieces).mapM (piece values expand) = .ok parts ∧
      parts.flatten = (p.fill values).toList := by
  induction p with
  | nil => exact ⟨[], rfl, rfl⟩
  | cons c p ih =>
    obtain ⟨first, hf, hfirst⟩ := mapM_pieces values expand c
    obtain ⟨rest, hr, hrest⟩ := ih
    refine ⟨first ++ rest, mapM_append_ok hf hr, ?_⟩
    simp [hfirst, hrest, Phrase.fill, String.toList_append]

end Fill

theorem Template.fill_source {t : Template} {p : Phrase} (ht : t.text = p.source) (hp : p.all Chunk.isPlain)
    (values : Placeholder → String) : t.fill values = .ok (p.fill values) := by
  obtain ⟨parts, hparts, hflat⟩ := Fill.mapM_phrase values (Fill.text values 1) p
  simp only [Template.fill, t.markup_eq, ht, Phrase.read_source hp, Fill.markup, hparts, bind, Except.bind,
    pure, Except.pure, Except.map, Except.mapError, hflat, String.ofList_toList]

def Chunk.isLine : Chunk → Bool
  | text s => s.toList.all Text.isLine
  | slot _ => true

theorem Chunk.isPlain_of_isLine {c : Chunk} (hc : c.isLine) : c.isPlain := by
  cases c with
  | text s =>
    apply List.all_eq_true.mpr
    intro d hd
    have hline := List.all_eq_true.mp hc d hd
    simp only [LogMill.isPlain, Bool.and_eq_true, decide_eq_true_eq]
    constructor
    all_goals
      rintro rfl
      exact absurd hline (by decide)
  | slot q => rfl

namespace Builtin

def ofLevel : Level → List Phrase
  | .info => info
  | .debug => debug
  | .warn => warn
  | .error => error

variable {level : Level} {p : Phrase}

theorem isLine (hp : p ∈ ofLevel level) : p.all Chunk.isLine := by
  have hall : ∀ level ∈ Level.all, ∀ p ∈ ofLevel level, p.all Chunk.isLine := by decide +kernel
  exact hall level (by cases level <;> decide) p hp

theorem isPlain (hp : p ∈ ofLevel level) : p.all Chunk.isPlain := by
  apply List.all_eq_true.mpr
  intro c hc
  exact Chunk.isPlain_of_isLine (List.all_eq_true.mp (isLine hp) c hc)

end Builtin

namespace Table

theorem ofLevel_builtin (level : Level) :
    builtin.ofLevel level = (Builtin.ofLevel level).map fun p => { text := p.source } := by
  cases level <;> rfl

theorem fill_builtin {level : Level} {t : Template} (ht : t ∈ builtin.ofLevel level) (values : Placeholder → String) :
    ∃ s, t.fill values = .ok s := by
  rw [ofLevel_builtin] at ht
  obtain ⟨p, hp, rfl⟩ := List.mem_map.mp ht
  exact ⟨_, Template.fill_source rfl (Builtin.isPlain hp) values⟩

theorem choose_builtin (level : Level) (row : Int) : ∃ phrase,
    (Builtin.ofLevel level)[scatter row 10 % (Builtin.ofLevel level).length]? = some phrase ∧
      (builtin.choose level row).text = phrase.source ∧
      ∀ values, (builtin.choose level row).fill values = .ok (phrase.fill values) := by
  have hlength : (builtin.ofLevel level).length = (Builtin.ofLevel level).length := by
    rw [ofLevel_builtin, List.length_map]
  have hchosen : (builtin.ofLevel level)[scatter row 10 % (Builtin.ofLevel level).length]? =
      some (builtin.choose level row) := by
    rw [← hlength]
    exact List.getElem?_eq_getElem _
  rw [ofLevel_builtin, List.getElem?_map] at hchosen
  obtain ⟨phrase, hphrase, htemplate⟩ := Option.map_eq_some_iff.mp hchosen
  have htext : (builtin.choose level row).text = phrase.source := by rw [← htemplate]
  exact ⟨phrase, hphrase, htext, Template.fill_source htext (Builtin.isPlain (List.mem_of_getElem? hphrase))⟩

end Table

end LogMill
