import LogMill.Proofs.Template.Grammar

namespace LogMill

open Outcome

theorem Template.ext {t t' : Template} (htext : t.text = t'.text) (hhalves : t.halves = t'.halves) : t = t' := by
  obtain ⟨text, halves, markup, rfl⟩ := t
  obtain ⟨text', halves', markup', rfl⟩ := t'
  obtain rfl : text = text' := htext
  obtain rfl : halves = halves' := hhalves
  rfl

namespace Table

variable {h : Text.Halves} {level : Level} {fields : List (String × Value)}

theorem unknownNames_isEmpty {m : Markup} :
    (unknownNames h m).isEmpty ↔ ∀ n ∈ m.names, ∃ p, Placeholder.ofName? n = some p := by
  simp [unknownNames, List.eq_nil_iff_forall_not_mem, List.mem_mergeSort, ← Option.ne_none_iff_exists']

theorem readTemplate_eq_ok {text : String} {t : Template} : readTemplate h level text = .ok t ↔
    t.text = text ∧ (∃ xs, t.text.toList = Markup.source xs) ∧ t.halves = h := by
  simp only [readTemplate]
  constructor
  · intro ht
    split at ht
    · simp at ht
    · rename_i hfault
      split_ifs at ht with hnames
      cases ht
      exact ⟨rfl, Markup.isSound_iff.mp ⟨hfault, unknownNames_isEmpty.mp hnames⟩, rfl⟩
  · rintro ⟨rfl, hsource, rfl⟩
    obtain ⟨hfault, hnames⟩ := Markup.isSound_iff.mpr hsource
    rw [← unknownNames_isEmpty (h := t.halves)] at hnames
    simp only [hfault, hnames, ↓reduceIte, Except.ok.injEq]
    exact Template.ext rfl rfl

theorem readTemplate_eq_error {text : String} {f : Fault} (hf : readTemplate h level text = .error f) :
    f.kind = .preparation := by
  simp only [readTemplate] at hf
  split at hf
  · cases hf
    rfl
  · split_ifs at hf
    cases hf
    rfl

theorem texts?_eq_some {v : Value} {texts : List String} :
    texts? v = some texts ↔ v = .list (texts.map .text) ∧ ∀ text ∈ texts, text ≠ "" := by
  cases v with
  | list items =>
    simp only [texts?, Value.list.injEq]
    induction items generalizing texts with
    | nil => cases texts <;> simp
    | cons v items ih =>
      have hv {text : String} : v.text?.filter (· ≠ "") = some text ↔ v = .text text ∧ text ≠ "" := by
        cases v <;> simp [Value.text?, Option.filter_eq_some_iff]
      rw [List.mapM_cons]
      simp only [bind, Option.bind_eq_some_iff, hv, ih, pure, Option.some.injEq]
      constructor
      · rintro ⟨text, ⟨rfl, htext⟩, texts, ⟨rfl, htexts⟩, rfl⟩
        exact ⟨rfl, List.forall_mem_cons.mpr ⟨htext, htexts⟩⟩
      · rintro ⟨he, hne⟩
        cases texts with
        | nil => cases he
        | cons text texts =>
          obtain ⟨rfl, rfl⟩ := List.cons.inj he
          obtain ⟨htext, htexts⟩ := List.forall_mem_cons.mp hne
          exact ⟨text, ⟨rfl, htext⟩, texts, ⟨rfl, htexts⟩, rfl⟩
  | _ => simp [texts?]

theorem readLevel_eq_ok {entries : Option Value} {ts : { ts : List Template // ts ≠ [] }} :
    readLevel h level entries = .ok ts ↔ ∃ texts : List String, entries = some (.list (texts.map .text)) ∧
      (∀ text ∈ texts, text ≠ "") ∧ texts.mapM (readTemplate h level) = .ok ts.val := by
  simp only [readLevel]
  constructor
  · intro hts
    split at hts
    · rename_i v hv
      obtain ⟨hentries, -⟩ := Option.filter_eq_some_iff.mp hv
      split at hts
      · simp [throw, throwThe, MonadExceptOf.throw] at hts
      · simp [throw, throwThe, MonadExceptOf.throw] at hts
      · rename_i first rest htexts
        obtain ⟨rfl, hne⟩ := texts?_eq_some.mp htexts
        simp only [bind_eq_ok, pure, Except.pure, Except.ok.injEq] at hts
        obtain ⟨t, hfirst, ts, hrest, rfl⟩ := hts
        exact ⟨first :: rest, hentries, hne, mapM_eq_ok.mpr (.cons hfirst (mapM_eq_ok.mp hrest))⟩
    · simp [throw, throwThe, MonadExceptOf.throw] at hts
  · rintro ⟨texts, rfl, hne, hmap⟩
    obtain ⟨ts, hts⟩ := ts
    cases texts with
    | nil =>
      cases hmap
      exact absurd rfl hts
    | cons first rest =>
      have htexts : texts? (.list ((first :: rest).map .text)) = some (first :: rest) := texts?_eq_some.mpr ⟨rfl, hne⟩
      rw [List.mapM_cons] at hmap
      simp only [bind_eq_ok, pure, Except.pure, Except.ok.injEq] at hmap
      obtain ⟨t, hfirst, ts', hrest, rfl⟩ := hmap
      have hpresent : Option.filter Value.isPresent (some (.list ((first :: rest).map .text))) =
          some (.list ((first :: rest).map .text)) := rfl
      simp only [hpresent, htexts, hfirst, hrest, bind, Except.bind, pure, Except.pure]

theorem readLevel_eq_error {entries : Option Value} {f : Fault} (hf : readLevel h level entries = .error f) :
    f.kind = .preparation := by
  simp only [readLevel] at hf
  split at hf
  · split at hf
    · cases hf
      rfl
    · cases hf
      rfl
    · simp only [bind_eq_error, pure, Except.pure, reduceCtorEq, and_false, exists_false, or_false] at hf
      obtain hfirst | ⟨_, -, hrest⟩ := hf
      · exact readTemplate_eq_error hfirst
      · obtain ⟨_, -, htext⟩ := exists_of_mapM_error hrest
        exact readTemplate_eq_error htext
  · cases hf
    rfl

def Gives (fields : List (String × Value)) (level : Level) (texts : List String) : Prop :=
  fields.lookup level.name = some (.list (texts.map .text)) ∧ texts ≠ [] ∧
    ∀ text ∈ texts, text ≠ "" ∧ ∃ xs, text.toList = Markup.source xs

theorem Gives.unique {texts texts' : List String} (ht : Gives fields level texts) (ht' : Gives fields level texts') :
    texts = texts' := by
  have hlist : Value.list (texts.map .text) = .list (texts'.map .text) := Option.some.inj (ht.1.symm.trans ht'.1)
  have hinjective : Function.Injective Value.text := fun _ _ => Value.text.inj
  exact List.map_injective_iff.mpr hinjective (Value.list.inj hlist)

theorem readLevel_iff_gives {ts : { ts : List Template // ts ≠ [] }} :
    readLevel h level (fields.lookup level.name) = .ok ts ↔
      Gives fields level (ts.val.map Template.text) ∧ ∀ t ∈ ts.val, t.halves = h := by
  simp only [readLevel_eq_ok, mapM_eq_ok_inverse fun _ _ => readTemplate_eq_ok, Gives, List.forall_mem_map, forall_and]
  constructor
  · rintro ⟨_, hentries, hne, rfl, hsource, hhalves⟩
    exact ⟨⟨hentries, by simpa using ts.property, fun t ht => hne _ (List.mem_map_of_mem ht), hsource⟩, hhalves⟩
  · rintro ⟨⟨hentries, -, hne, hsource⟩, hhalves⟩
    exact ⟨_, hentries, List.forall_mem_map.mpr hne, rfl, hsource, hhalves⟩

theorem ofFields_eq_ok_iff {table : Table} : ofFields h fields = .ok table ↔
    ∀ level, readLevel h level (fields.lookup level.name) = .ok (table.templates.get level) := by
  simp only [ofFields]
  constructor
  · intro htable
    split_ifs at htable
    · cases htable
    · simp only [bind_eq_ok, pure, Except.pure, Except.ok.injEq] at htable
      obtain ⟨info, hinfo, debug, hdebug, warn, hwarn, error, herror, rfl⟩ := htable
      rintro (_ | _ | _ | _)
      · exact hinfo
      · exact hdebug
      · exact hwarn
      · exact herror
  · intro hall
    have hne : ¬fields.isEmpty := by
      intro hempty
      obtain ⟨⟨hlookup, -⟩, -⟩ := readLevel_iff_gives.mp (hall .info)
      rw [List.isEmpty_iff.mp hempty] at hlookup
      cases hlookup
    rw [if_neg hne]
    simp only [bind_eq_ok, pure, Except.pure]
    exact ⟨_, hall .info, _, hall .debug, _, hall .warn, _, hall .error, rfl⟩

theorem ofFields_eq_error {f : Fault} (hf : ofFields h fields = .error f) : f.kind = .preparation := by
  simp only [ofFields] at hf
  split_ifs at hf
  · cases hf
    rfl
  · simp only [bind_eq_error, pure, Except.pure, reduceCtorEq, and_false, exists_false, or_false] at hf
    obtain hinfo | ⟨_, -, hdebug | ⟨_, -, hwarn | ⟨_, -, herror⟩⟩⟩ := hf
    · exact readLevel_eq_error hinfo
    · exact readLevel_eq_error hdebug
    · exact readLevel_eq_error hwarn
    · exact readLevel_eq_error herror

theorem ofFields_iff_gives {table : Table} : ofFields h fields = .ok table ↔
    ∀ level, Gives fields level ((table.ofLevel level).map Template.text) ∧ ∀ t ∈ table.ofLevel level, t.halves = h := by
  rw [ofFields_eq_ok_iff]
  exact forall_congr' fun level => readLevel_iff_gives

theorem exists_ofFields_iff :
    (∃ table, ofFields h fields = .ok table) ↔ ∀ level, ∃ texts, Gives fields level texts := by
  simp only [ofFields_iff_gives]
  constructor
  · rintro ⟨table, hall⟩ level
    exact ⟨_, (hall level).1⟩
  · intro hall
    choose texts htexts using hall
    have htemplates (level : Level) : ∃ ts : { ts : List Template // ts ≠ [] },
        ts.val.map Template.text = texts level ∧ ∀ t ∈ ts.val, t.halves = h := by
      refine ⟨⟨(texts level).map fun text => { text, halves := h }, ?_⟩, ?_, ?_⟩
      · simpa using (htexts level).2.1
      · simp [Function.comp_def]
      · simp
    choose ts hts using htemplates
    refine ⟨⟨⟨ts .info, ts .debug, ts .warn, ts .error⟩⟩, fun level => ?_⟩
    have hlevel : (ofLevel ⟨⟨ts .info, ts .debug, ts .warn, ts .error⟩⟩ level) = (ts level).val := by
      cases level <;> rfl
    rw [hlevel, (hts level).1]
    exact ⟨htexts level, (hts level).2⟩

theorem source_of_mem {table : Table} (htable : ofFields h fields = .ok table) {t : Template}
    (ht : t ∈ table.ofLevel level) : ∃ xs, t.text.toList = Markup.source xs := by
  obtain ⟨⟨-, -, htexts⟩, -⟩ := ofFields_iff_gives.mp htable level
  exact (List.forall_mem_map.mp htexts t ht).2

theorem lookup_toFields (table : Table) (level : Level) : table.toFields.lookup level.name =
    some (.list (((table.ofLevel level).map Template.text).map .text)) := by
  rw [List.map_map]
  cases level <;> rfl

theorem toFields_eq {table : Table} (htable : ofFields h fields = .ok table) :
    table.toFields = Level.all.filterMap fun l => (fields.lookup l.name).map fun v => (l.name, v) := by
  have hlookup (level : Level) : (fields.lookup level.name).map (fun v => (level.name, v)) =
      some (level.name, .list ((table.ofLevel level).map fun t => .text t.text)) := by
    rw [(ofFields_iff_gives.mp htable level).1.1, List.map_map]
    rfl
  simp only [hlookup, List.filterMap_eq_map']
  rfl

theorem ofFields_toFields {table : Table} (htable : ofFields h fields = .ok table) :
    ofFields h table.toFields = .ok table := by
  rw [ofFields_iff_gives] at htable ⊢
  intro level
  obtain ⟨⟨-, hgives⟩, hhalves⟩ := htable level
  exact ⟨⟨lookup_toFields table level, hgives⟩, hhalves⟩

end Table

/-- The fields of an object are a table exactly if they give texts for every level, and these are all that the table
takes from them. A template of it whose fields are names is filled with the values of any row. -/
theorem table_validated (h : Text.Halves) (fields : List (String × Value)) :
    ((∃ table, Table.ofFields h fields = .ok table) ↔ ∀ level, ∃ texts, Table.Gives fields level texts) ∧
    (∀ f, Table.ofFields h fields = .error f → f.kind = .preparation) ∧
    ∀ table, Table.ofFields h fields = .ok table →
      table.toFields = Level.all.filterMap (fun l => (fields.lookup l.name).map fun v => (l.name, v)) ∧
      Table.ofFields h table.toFields = .ok table ∧
      ∀ level, ∀ t ∈ table.ofLevel level, (∃ xs, t.text.toList = Markup.source xs) ∧
        ∀ xs, t.text.toList = Markup.source xs → (∀ x ∈ xs, x.isBare) → ∀ row,
          t.fill (Placeholder.value row) =
            .ok (String.ofList (xs.flatMap (Markup.Symbol.filled (Placeholder.value row)))) := by
  refine ⟨Table.exists_ofFields_iff, fun f => Table.ofFields_eq_error, fun table htable => ?_⟩
  refine ⟨Table.toFields_eq htable, Table.ofFields_toFields htable, ?_⟩
  intro level t ht
  exact ⟨Table.source_of_mem htable ht, fun xs hxs hbare row => Template.fill_of_bare hxs hbare _⟩

end LogMill
