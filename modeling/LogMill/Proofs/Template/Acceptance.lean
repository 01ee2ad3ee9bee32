import LogMill.Proofs.Message.Synthesis
import LogMill.Proofs.Template.TextSpec
import LogMill.Proofs.Template.Validation

namespace LogMill

open Outcome

namespace Table

variable {h : Text.Halves} {level : Level}

theorem ofFields_eq_ok {fields : List (String × Value)} {table : Table} (htable : ofFields h fields = .ok table) :
    ∀ t ∈ table.ofLevel level, t.markup.fault = none ∧ ∀ n ∈ t.markup.names, ∃ p, Placeholder.ofName? n = some p := by
  intro t ht
  rw [t.markup_eq]
  exact Markup.isSound_iff.mpr (source_of_mem htable ht)

end Table

def Field.Fits (values : Placeholder → String) (f : Field) : Prop :=
  (∀ c ∈ f.conversion, c ∈ ['s', 'r', 'a', '\x00']) ∧
    ∃ s, (if (f.spec.getD []).contains '{' then Fill.text values 1 (f.spec.getD []) = .ok s else s = f.spec.getD []) ∧
      Spec.FitsText s

namespace Fill

variable {values : Placeholder → String}

theorem convert_eq_ok {conversion : Option Char} {s : List Char} {m : Member}
    (h : convert conversion (.text s) = .ok m) :
    (∃ t, m = .text t) ∧ ∀ c ∈ conversion, c ∈ ['s', 'r', 'a', '\x00'] := by
  unfold convert at h
  split at h
  · cases h
    exact ⟨⟨s, rfl⟩, by simp⟩
  · rename_i c
    split_ifs at h with hs hr ha <;> cases h
    · exact ⟨⟨_, rfl⟩, by simpa using by tauto⟩
    · exact ⟨⟨_, rfl⟩, by simp [hr]⟩
    · exact ⟨⟨_, rfl⟩, by simp [ha]⟩

theorem exists_convert {conversion : Option Char} (h : ∀ c ∈ conversion, c ∈ ['s', 'r', 'a', '\x00']) (s : List Char) :
    ∃ t, convert conversion (.text s) = .ok (.text t) := by
  cases conversion with
  | none => exact ⟨s, rfl⟩
  | some c =>
    have hc := h c rfl
    simp only [List.mem_cons, List.not_mem_nil, or_false] at hc
    rcases hc with rfl | rfl | rfl | rfl <;> exact ⟨_, rfl⟩

theorem exists_form_iff {spec s : List Char} : (∃ t, form spec (.text s) = .ok t) ↔ Spec.FitsText spec := by
  rw [← Spec.exists_apply_iff s]
  unfold form Spec.apply
  split_ifs with hempty
  · exact ⟨fun _ => ⟨s, rfl⟩, fun _ => ⟨_, rfl⟩⟩
  · simp only [mapError_eq_ok]

theorem exists_field_iff {f : Field} {p : Placeholder} (hp : String.ofList f.name = p.name) :
    (∃ t, field values (text values 1) f = .ok t) ↔ f.Fits values := by
  have hname : f.name = p.name.toList := by rw [← hp, String.toList_ofList]
  have hresolve : resolve values f.name = .ok (.text (values p).toList) := hname ▸ resolve_name values p
  have hspec {spec : List Char} : (if (f.spec.getD []).contains '{' then text values 1 (f.spec.getD []) = .ok spec
      else spec = f.spec.getD []) ↔ (if (f.spec.getD []).contains '{' then text values 1 (f.spec.getD [])
      else .ok (f.spec.getD [])) = .ok spec := by
    split_ifs
    · rfl
    · simp [eq_comm]
  have hfield : field values (text values 1) f = (do
      let m ← convert f.conversion (.text (values p).toList)
      let spec ← (if (f.spec.getD []).contains '{' then text values 1 (f.spec.getD []) else .ok (f.spec.getD []))
      form spec m) := by
    simp only [field, hresolve, bind, Except.bind]
    cases convert f.conversion (.text (values p).toList) <;> split_ifs <;> rfl
  simp only [hfield, Field.Fits, hspec, bind_eq_ok]
  constructor
  · rintro ⟨t, m, hm, spec, hs, ht⟩
    obtain ⟨⟨s, rfl⟩, hconversion⟩ := convert_eq_ok hm
    exact ⟨hconversion, spec, hs, exists_form_iff.mp ⟨t, ht⟩⟩
  · rintro ⟨hconversion, spec, hs, hfits⟩
    obtain ⟨s, hm⟩ := exists_convert hconversion (values p).toList
    obtain ⟨t, ht⟩ := (exists_form_iff (s := s)).mpr hfits
    exact ⟨t, _, hm, spec, hs, ht⟩

end Fill

def Table.single (text : String) : List (String × Value) :=
  [("INFO", .list [.text text]), ("DEBUG", .list [.text "x"]), ("WARN", .list [.text "x"]), ("ERROR", .list [.text "x"])]

/-- A row gets a message from an accepted table exactly if each field of the template that it uses can be filled. -/
theorem synthesized_iff_fits {h : Text.Halves} {fields : List (String × Value)} {table : Table}
    (htable : Table.ofFields h fields = .ok table) (level : Level) (row : Int) :
    (∃ s, Message.synthesize table level row = .ok s) ↔
      ∀ f, .field f ∈ (table.choose level row).markup.pieces → f.Fits (Placeholder.value row) := by
  obtain ⟨hfault, hnames⟩ := Table.ofFields_eq_ok htable (table.choose level row) (List.get_mem _ _)
  rw [Message.exists_synthesize_iff]
  have hfill : (∃ body, (table.choose level row).fill (Placeholder.value row) = .ok body) ↔
      ∃ parts, (table.choose level row).markup.pieces.mapM
        (Fill.piece (Placeholder.value row) (Fill.text (Placeholder.value row) 1)) = .ok parts := by
    simp only [Template.fill, Fill.markup, hfault, mapError_eq_ok, map_eq_ok, bind_eq_ok, pure, Except.pure]
    constructor
    · rintro ⟨_, _, ⟨parts, hparts, _⟩, _⟩
      exact ⟨parts, hparts⟩
    · rintro ⟨parts, hparts⟩
      exact ⟨_, _, ⟨parts, hparts, rfl⟩, rfl⟩
  rw [hfill, exists_mapM_iff]
  constructor
  · intro hall f hf
    obtain ⟨p, hp⟩ := hnames (String.ofList f.name) (List.mem_filterMap.mpr ⟨_, hf, rfl⟩)
    exact (Fill.exists_field_iff (Placeholder.ofName?_eq_some hp)).mp (hall _ hf)
  · intro hall x hx
    cases x with
    | text c => exact ⟨[c], rfl⟩
    | field f =>
      obtain ⟨p, hp⟩ := hnames (String.ofList f.name) (List.mem_filterMap.mpr ⟨_, hx, rfl⟩)
      exact (Fill.exists_field_iff (Placeholder.ofName?_eq_some hp)).mpr (hall f hx)

theorem synthesized_with_width : ∃ table, Table.ofFields none (Table.single "{USER!r:*>30.12s}") = .ok table ∧
    ∃ s, Message.synthesize table .info 0 = .ok s := by
  have h : (match Table.ofFields none (Table.single "{USER!r:*>30.12s}") with
    | .ok table => decide ((table.choose .info 0).markup.pieces =
        [.field ⟨"USER".toList, some 'r', some ['*', '>', '3', '0', '.', '1', '2', 's']⟩])
    | .error _ => false) = true := by decide +kernel
  split at h
  · rename_i table htable
    refine ⟨table, htable, (synthesized_iff_fits htable .info 0).mpr ?_⟩
    have hdigits (c d : Char) (hc : (Text.digit? c).isSome) (hd : (Text.digit? d).isSome) : Spec.IsDigits [c, d] := by
      simp [Spec.IsDigits, hc, hd]
    intro f hf
    rw [of_decide_eq_true h, List.mem_singleton, Piece.field.injEq] at hf
    subst hf
    refine ⟨by simp, ['*', '>', '3', '0', '.', '1', '2', 's'], by decide, ?_⟩
    refine ⟨['*', '>'], ['3', '0'], ['.', '1', '2'], ['s'], rfl, ?_, ⟨?_, by decide⟩, ?_, .inr rfl⟩
    · exact .inr ⟨'>', by decide, .inr ⟨'*', rfl⟩⟩
    · exact hdigits '3' '0' (by decide) (by decide)
    · exact .inr ⟨['1', '2'], rfl, by decide, hdigits '1' '2' (by decide) (by decide), by decide⟩
  · cases h

theorem accepted_not_synthesized : ∃ table, Table.ofFields none (Table.single "{USER:d}") = .ok table ∧
    Message.synthesize table .info 0 = .error ⟨.spec (.unknownType 'd' "str"), none⟩ := by
  have h : (match Table.ofFields none (Table.single "{USER:d}") with
    | .ok table => decide (Message.synthesize table .info 0 = .error ⟨.spec (.unknownType 'd' "str"), none⟩)
    | .error _ => false) = true := by decide +kernel
  split at h
  · rename_i table htable
    exact ⟨table, htable, of_decide_eq_true h⟩
  · cases h

end LogMill
