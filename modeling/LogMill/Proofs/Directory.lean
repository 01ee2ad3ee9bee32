import LogMill.Directory
import LogMill.Proofs.Outcome

namespace LogMill

open Outcome

theorem not_mem_of_mem_splitOn {part s : List Char} {c : Char} (h : part ∈ s.splitOn c) : c ∉ part := by
  induction s generalizing part with
  | nil =>
    rw [List.splitOn_nil, List.mem_singleton] at h
    simp [h]
  | cons x s ih =>
    rw [List.splitOn_cons_eq_if_modifyHead] at h
    split_ifs at h with hx
    · rcases List.mem_cons.mp h with rfl | h
      · simp
      · exact ih h
    · obtain ⟨first, rest, hparts⟩ := List.exists_cons_of_ne_nil (List.splitOn_ne_nil c s)
      rw [hparts, List.modifyHead_cons] at h
      rcases List.mem_cons.mp h with rfl | h
      · have hfirst : c ∉ first := ih (by simp [hparts])
        simpa [hfirst] using fun he => hx (beq_iff_eq.mpr he.symm)
      · exact ih (by simp [hparts, h])

namespace Place

structure Sound (p : Place) : Prop where
  names : ∀ part ∈ p.parts, '/' ∉ part ∧ isStep part = false
  root : p.isRooted → p.levels = 0

variable {p q : Place} {part : List Char}

theorem step_name (h : isStep part = false) (p : Place) : p.step part = { p with parts := part :: p.parts } := by
  have hup : part ≠ ['.', '.'] := by
    rintro rfl
    simp [isStep] at h
  simp [step, hup, h]

theorem step_eq_of_isStep (h : isStep part) (p : Place) : p.step part = p ∨ p.step part = p.up := by
  unfold step
  split_ifs
  · exact .inr rfl
  · exact .inl rfl

theorem Sound.up (h : p.Sound) : p.up.Sound := by
  obtain ⟨rooted, n, parts⟩ := p
  cases parts with
  | cons part parts => exact ⟨fun q hq => h.names q (List.mem_cons_of_mem _ hq), h.root⟩
  | nil =>
    cases rooted with
    | true => exact h
    | false => exact ⟨by simp [Place.up], by simp [Place.up]⟩

theorem Sound.step (h : p.Sound) (hpart : '/' ∉ part) : (p.step part).Sound := by
  by_cases hs : isStep part
  · rcases step_eq_of_isStep hs p with he | he <;> rw [he]
    · exact h
    · exact h.up
  · rw [Bool.not_eq_true] at hs
    rw [step_name hs]
    exact ⟨by simpa [hpart, hs] using h.names, h.root⟩

theorem sound_start (path : List Char) : (start path).Sound := by
  unfold start
  split_ifs
  · exact ⟨by simp, by simp⟩
  · exact ⟨by simp [here], by simp [here]⟩

def segments (p : Place) : List (List Char) :=
  (if p.isRooted then [[]] else List.replicate p.levels ['.', '.']) ++ p.parts.reverse

theorem toList_path (h : p.parts ≠ []) : p.path.toList = ['/'].intercalate p.segments := by
  have hnil : p.parts.reverse ≠ [] := by simpa using h
  have hup (n : Nat) : ['/'].intercalate (List.replicate n ['.', '.'] ++ p.parts.reverse) =
      (List.replicate n "../").flatMap String.toList ++ ['/'].intercalate p.parts.reverse := by
    induction n with
    | zero => simp
    | succ n ih =>
      rw [List.replicate_succ, List.cons_append, List.intercalate_cons_of_ne_nil (by simp [hnil]), ih]
      simp [List.replicate_succ]
  have hnames : (p.parts.reverse.map String.ofList).map String.toList = p.parts.reverse := by
    simp [Function.comp_def]
  simp only [path, segments, String.toList_append, String.toList_intercalate, hnames]
  by_cases hr : p.isRooted
  · simp [hr, List.intercalate_cons_of_ne_nil hnil]
  · simp only [hr, Bool.false_eq_true, ↓reduceIte, hup, String.toList_join]
    rfl

theorem foldl_step_up (n k : Nat) : (List.replicate n ['.', '.']).foldl step ⟨false, k, []⟩ = ⟨false, k + n, []⟩ := by
  induction n generalizing k with
  | zero => rfl
  | succ n ih =>
    rw [List.replicate_succ, List.foldl_cons]
    refine (ih (k + 1)).trans ?_
    rw [Nat.add_assoc, Nat.add_comm 1 n]

theorem foldl_step_names {parts : List (List Char)} (h : ∀ part ∈ parts, isStep part = false) (p : Place) :
    parts.foldl step p = { p with parts := parts.reverse ++ p.parts } := by
  induction parts generalizing p with
  | nil => rfl
  | cons part parts ih =>
    rw [List.foldl_cons, ih fun q hq => h q (List.mem_cons_of_mem _ hq), step_name (h part (by simp))]
    simp

theorem Sound.ofPath_path (h : p.Sound) (hne : p.parts ≠ []) : ofPath p.path = p := by
  have hsegments : ∀ segment ∈ p.segments, '/' ∉ segment := by
    intro segment hs
    simp only [segments, List.mem_append, List.mem_reverse] at hs
    rcases hs with hs | hs
    · split_ifs at hs
      · simp_all
      · simp [List.eq_of_mem_replicate hs]
    · exact (h.names segment hs).1
  have hnames : ∀ part ∈ p.parts.reverse, isStep part = false := fun part hpart =>
    (h.names part (List.mem_reverse.mp hpart)).2
  rw [ofPath, toList_path hne, List.splitOn_intercalate '/' hsegments (by simp [segments, hne])]
  obtain ⟨rooted, n, parts⟩ := p
  cases rooted with
  | true =>
    obtain rfl : n = 0 := h.root rfl
    have hstart : start (['/'].intercalate (segments ⟨true, 0, parts⟩)) = ⟨true, 0, []⟩ := by
      simp [segments, start, List.intercalate_cons_of_ne_nil (by simpa using hne : parts.reverse ≠ [])]
    rw [hstart, segments, List.foldl_append, foldl_step_names hnames]
    simp [Place.step, isStep]
  | false =>
    have hstart : start (['/'].intercalate (segments ⟨false, n, parts⟩)) = here := by
      obtain ⟨first, rest, hfirst⟩ : ∃ first rest, segments ⟨false, n, parts⟩ = first :: rest :=
        List.exists_cons_of_ne_nil (by simp [segments, hne])
      have hhead : first ≠ [] := by
        rintro rfl
        have hmem : [] ∈ segments ⟨false, n, parts⟩ := by simp [hfirst]
        simp only [segments, Bool.false_eq_true, ↓reduceIte, List.mem_append] at hmem
        rcases hmem with hmem | hmem
        · simp at hmem
        · simpa [isStep] using hnames _ hmem
      obtain ⟨c, cs, rfl⟩ := List.exists_cons_of_ne_nil hhead
      have hc : c ≠ '/' := by
        rintro rfl
        exact hsegments ('/' :: cs) (by simp [hfirst]) (by simp)
      rw [hfirst]
      cases rest <;> simp [start, List.intercalate_cons_cons, hc]
    rw [hstart, segments, List.foldl_append, foldl_step_names hnames]
    simp only [here, Bool.false_eq_true, ↓reduceIte, foldl_step_up, Nat.zero_add, List.reverse_reverse, List.append_nil]

theorem holds_iff : p.holds q ↔
    p.isRooted = q.isRooted ∧ p.levels = q.levels ∧ p.parts <:+ q.parts ∧ p ≠ q := by
  simp [holds, and_assoc]

theorem holds_cons {rooted : Bool} {n : Nat} {parts : List (List Char)} (h : p.holds ⟨rooted, n, part :: parts⟩) :
    p = ⟨rooted, n, parts⟩ ∨ p.holds ⟨rooted, n, parts⟩ := by
  obtain ⟨hrooted, hlevels, hparts, hne⟩ := holds_iff.mp h
  obtain ⟨_, _, own⟩ := p
  dsimp only at hrooted hlevels hparts
  subst hrooted hlevels
  rcases List.suffix_cons_iff.mp hparts with rfl | hparts
  · exact absurd rfl hne
  · by_cases he : own = parts
    · exact .inl (by rw [he])
    · exact .inr (holds_iff.mpr ⟨rfl, rfl, hparts, by simpa using he⟩)

theorem holds_of_cons {rooted : Bool} {n : Nat} {parts : List (List Char)} (h : p.holds ⟨rooted, n, parts⟩) :
    p.holds ⟨rooted, n, part :: parts⟩ := by
  obtain ⟨hrooted, hlevels, hparts, -⟩ := holds_iff.mp h
  refine holds_iff.mpr ⟨hrooted, hlevels, List.suffix_cons_iff.mpr (.inr hparts), ?_⟩
  rintro rfl
  have hlength := hparts.length_le
  simp only [List.length_cons] at hlength
  omega

theorem not_holds_nil {rooted : Bool} {n : Nat} : ¬ p.holds ⟨rooted, n, []⟩ := by
  intro h
  obtain ⟨hrooted, hlevels, hparts, hne⟩ := holds_iff.mp h
  obtain ⟨_, _, own⟩ := p
  dsimp only at hrooted hlevels hparts
  subst hrooted hlevels
  exact hne (by rw [List.suffix_nil.mp hparts])

end Place

namespace Directory

variable {d : Directory} {p q place : Place} {parts : List (List Char)} {text : String}

structure Entered (d : Directory) (p : Place) : Prop where
  sound : p.Sound
  folder : d.find? p = some .folder
  above : ∀ q : Place, q.holds p → d.find? q = some .folder

structure Writable (d : Directory) (p : Place) : Prop where
  sound : p.Sound
  named : p.parts ≠ []
  above : ∀ q : Place, q.holds p → d.find? q = some .folder
  free : d.find? p ≠ some .folder

theorem entered_of_nil (hp : p.Sound) (h : p.parts = []) : d.Entered p where
  sound := hp
  folder := by simp [find?, h]
  above := by
    obtain ⟨rooted, n, parts⟩ := p
    dsimp only at h
    subst h
    exact fun q hq => absurd hq Place.not_holds_nil

theorem Entered.up (h : d.Entered p) : d.Entered p.up := by
  have hup := h.sound.up
  obtain ⟨rooted, n, parts⟩ := p
  cases parts with
  | nil => cases rooted <;> exact entered_of_nil hup rfl
  | cons part parts =>
    refine ⟨hup, h.above _ ?_, fun q hq => h.above q (Place.holds_of_cons hq)⟩
    exact Place.holds_iff.mpr ⟨rfl, rfl, List.suffix_cons _ _, by simp [Place.up]⟩

theorem Entered.above_name (h : d.Entered p) {part : List Char} (hs : Place.isStep part = false) :
    ∀ q : Place, q.holds (p.step part) → d.find? q = some .folder := by
  intro q hq
  rw [Place.step_name hs] at hq
  rcases Place.holds_cons hq with rfl | hq
  · exact h.folder
  · exact h.above q hq

theorem look_eq_ok {part : List Char} {item : Option Item} (h : d.look p part = .ok item) :
    d.find? (p.step part) = item := by
  unfold look at h
  split_ifs at h
  exact Except.ok.inj h

theorem walk_entered (h : d.walk p parts = .ok q) (hp : d.Entered p) (hparts : ∀ part ∈ parts, '/' ∉ part) :
    d.Entered q := by
  induction parts generalizing p with
  | nil => exact Except.ok.inj h ▸ hp
  | cons part parts ih =>
    have hrest : ∀ part ∈ parts, '/' ∉ part := fun part hpart => hparts part (List.mem_cons_of_mem _ hpart)
    unfold walk at h
    split_ifs at h with hs
    · refine ih h ?_ hrest
      rcases Place.step_eq_of_isStep hs p with he | he <;> rw [he]
      · exact hp
      · exact hp.up
    · rw [Bool.not_eq_true] at hs
      split at h
      · cases h
      · rename_i hlook
        exact ih h ⟨hp.sound.step (hparts part (by simp)), look_eq_ok hlook, hp.above_name hs⟩ hrest
      · cases h
      · cases h

theorem follow_eq_ok {path : List Char} {e : End} (h : d.follow path = .ok e) : ∃ parts,
    d.walk (Place.start path) parts = .ok e.folder ∧ (∀ part ∈ parts, '/' ∉ part) ∧ '/' ∉ e.name ∧
      ∀ d' : Directory, d'.walk (Place.start path) parts = .ok e.folder → d'.follow path = .ok e := by
  have hparts : ∀ part ∈ (path.splitOn '/').reverse.dropWhile List.isEmpty, '/' ∉ part := fun part hpart =>
    not_mem_of_mem_splitOn (List.mem_reverse.mp ((List.dropWhile_sublist _).subset hpart))
  unfold follow at h
  by_cases hnil : path = []
  · simp [hnil, bind, Except.bind, throw, throwThe, MonadExceptOf.throw] at h
  by_cases hlong : maxPath < (String.ofList path).utf8ByteSize
  · simp [hnil, hlong, bind, Except.bind, throw, throwThe, MonadExceptOf.throw] at h
  simp only [hnil, hlong, ↓reduceIte, bind_eq_ok, pure, Except.pure, Except.ok.injEq] at h
  obtain ⟨folder, hwalk, rfl⟩ := h
  refine ⟨_, hwalk, ?_, ?_, fun d' hd' => ?_⟩
  · intro part hpart
    exact hparts part (List.mem_of_mem_drop (List.mem_reverse.mp hpart))
  · cases hnamed : (path.splitOn '/').reverse.dropWhile List.isEmpty with
    | nil => simp
    | cons name rest => exact hparts name (by simp [hnamed])
  · simp only [follow, hnil, hlong, ↓reduceIte, hd', bind, Except.bind, pure, Except.pure]

theorem find?_eq (d : Directory) (hq : q.parts ≠ []) : d.find? q =
    ((d.items.find? fun x => Place.ofPath x.1 = q).map Prod.snd).or
      (if ∃ x ∈ d.items, q.holds (Place.ofPath x.1) then some .folder else none) := by
  have hbelow : (d.items.any fun x => q.holds (Place.ofPath x.1)) = true ↔ ∃ x ∈ d.items, q.holds (Place.ofPath x.1) :=
    List.any_eq_true
  simp only [← hbelow, find?, hq, ↓reduceIte]
  split <;> rename_i hlisted <;> simp [hlisted]

theorem items_write (d : Directory) (p : Place) (text : String) : (d.write p text).items =
    (d.items.filter fun x => decide (Place.ofPath x.1 ≠ p)) ++ [(p.path, .file text.toUTF8)] := rfl

theorem Writable.find?_write_self (hp : d.Writable p) (text : String) :
    (d.write p text).find? p = some (.file text.toUTF8) := by
  have hnone : (d.items.filter fun x => decide (Place.ofPath x.1 ≠ p)).find? (fun x => Place.ofPath x.1 = p) =
      none := by
    simp only [List.find?_eq_none, List.mem_filter]
    rintro x ⟨-, hx⟩
    simpa using hx
  rw [find?_eq _ hp.named, items_write, List.find?_append, hnone]
  simp [hp.sound.ofPath_path hp.named]

theorem Writable.find?_write (hp : d.Writable p) (hq : q ≠ p) (text : String) :
    (d.write p text).find? q = d.find? q := by
  by_cases hnil : q.parts = []
  · simp only [find?, hnil, ↓reduceIte]
  have hnew : Place.ofPath p.path = p := hp.sound.ofPath_path hp.named
  have hlisted : (d.write p text).items.find? (fun x => Place.ofPath x.1 = q) =
      d.items.find? fun x => Place.ofPath x.1 = q := by
    have hkept : (fun x : String × Item => decide (decide (Place.ofPath x.1 ≠ p) = true ∧
        decide (Place.ofPath x.1 = q) = true)) = fun x => decide (Place.ofPath x.1 = q) := by
      funext x
      by_cases he : Place.ofPath x.1 = q <;> simp [he, hq]
    rw [items_write, List.find?_append, List.find?_filter, hkept]
    simp [hnew, hq.symm]
  rw [find?_eq _ hnil, find?_eq _ hnil, hlisted]
  by_cases habove : q.holds p
  · -- A folder above the file is there before and after, be it listed or not.
    have hfolder := hp.above q habove
    have hbelow : ∃ x ∈ (d.write p text).items, q.holds (Place.ofPath x.1) := by
      refine ⟨(p.path, .file text.toUTF8), by rw [items_write]; simp, ?_⟩
      rw [hnew]
      exact habove
    rw [find?_eq _ hnil] at hfolder
    rw [hfolder, if_pos hbelow]
    cases hlist : d.items.find? fun x => decide (Place.ofPath x.1 = q) with
    | none => rfl
    | some x => simpa [hlist] using hfolder
  · have hbelow : (∃ x ∈ (d.write p text).items, q.holds (Place.ofPath x.1)) ↔
        ∃ x ∈ d.items, q.holds (Place.ofPath x.1) := by
      simp only [items_write, List.mem_append, List.mem_filter, List.mem_singleton, decide_eq_true_eq]
      constructor
      · rintro ⟨x, ⟨hx, -⟩ | rfl, hholds⟩
        · exact ⟨x, hx, hholds⟩
        · rw [hnew] at hholds
          exact absurd hholds habove
      · rintro ⟨x, hx, hholds⟩
        exact ⟨x, .inl ⟨hx, fun he => habove (he ▸ hholds)⟩, hholds⟩
    simp only [hbelow]

theorem Writable.walk_write (hw : d.Writable place) (text : String) (h : d.walk p parts = .ok q) :
    (d.write place text).walk p parts = .ok q := by
  induction parts generalizing p with
  | nil => exact h
  | cons part parts ih =>
    unfold walk at h ⊢
    split_ifs at h ⊢ with hs
    · exact ih h
    · split at h
      · cases h
      · rename_i hlook
        have hfolder := look_eq_ok hlook
        have hne : p.step part ≠ place := by
          rintro rfl
          exact hw.free hfolder
        have hlook' : (d.write place text).look p part = .ok (some .folder) := by
          unfold look at hlook ⊢
          split_ifs at hlook ⊢
          rw [hw.find?_write hne, hfolder]
        simp only [hlook']
        exact ih h
      · cases h
      · cases h

theorem target_eq_ok {path : Value} (h : d.target path = .ok place) : d.Writable place ∧ ∃ s e,
    pathOf path = .ok s ∧ d.follow s.toList = .ok e ∧ e.isStep = false ∧ e.hasSlash = false ∧
      ¬ maxName < (String.ofList e.name).utf8ByteSize ∧ place = e.folder.step e.name := by
  simp only [target, bind_eq_ok, mapError_eq_ok, newFile] at h
  obtain ⟨s, hs, e, he, h⟩ := h
  by_cases hform : (e.isStep || e.hasSlash) = true
  · simp [hform, bind, Except.bind, throw, throwThe, MonadExceptOf.throw] at h
  rw [if_neg hform, bind_eq_ok] at h
  obtain ⟨item, hlook, h⟩ := h
  simp only [Bool.or_eq_true, not_or, Bool.not_eq_true] at hform
  obtain ⟨parts, hwalk, hparts, hname, -⟩ := follow_eq_ok he
  have hentered := walk_entered hwalk (entered_of_nil (Place.sound_start _) (by unfold Place.start; split_ifs <;> rfl))
    hparts
  have hplace : item ≠ some .folder ∧ e.folder.step e.name = place := by
    split at h
    · cases h
    · exact ⟨by assumption, Except.ok.inj h⟩
  have hlong : ¬ maxName < (String.ofList e.name).utf8ByteSize := by
    intro hlong
    simp [look, hlong] at hlook
  obtain ⟨hitem, rfl⟩ := hplace
  refine ⟨⟨hentered.sound.step hname, ?_, hentered.above_name hform.1, ?_⟩, s, e, hs, he, hform.1, hform.2, hlong, rfl⟩
  · simp [Place.step_name hform.1]
  · rw [look_eq_ok hlook]
    exact hitem

theorem read_write {path : Value} (h : d.target path = .ok place) (text : String) :
    (d.write place text).read path = .ok text.toUTF8 := by
  obtain ⟨hw, s, e, hs, he, hstep, hslash, hname, rfl⟩ := target_eq_ok h
  obtain ⟨parts, hwalk, -, -, hfollow⟩ := follow_eq_ok he
  have hlook : (d.write (e.folder.step e.name) text).look e.folder e.name = .ok (some (.file text.toUTF8)) := by
    simp only [look, hname, ↓reduceIte, hw.find?_write_self]
  simp [read, readFile, hs, hfollow _ (hw.walk_write text hwalk), hstep, hlook, hslash, bind, Except.bind, pure,
    Except.pure, Except.mapError]

end Directory

end LogMill
