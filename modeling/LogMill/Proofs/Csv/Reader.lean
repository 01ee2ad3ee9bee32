import Mathlib.Data.List.Basic
import LogMill.Csv

namespace LogMill.Csv

inductive Place where
  | start
  | returned
  | fresh
  | plain
  | quoted
  | closed
deriving DecidableEq

structure Reading where
  done : List (List (List Char)) := []
  fields : List (List Char) := []
  text : List Char := []
  place : Place := .start

namespace Reading

def push (r : Reading) (c : Char) (place : Place) : Reading := { r with text := r.text ++ [c], place }

def finish (r : Reading) (record : List (List Char)) (place : Place) : Reading :=
  { done := r.done ++ [record], place }

def record (r : Reading) : List (List Char) := r.fields ++ [r.text]

def bare (r : Reading) (c : Char) : Reading :=
  if c = ',' then { r with fields := r.record, text := [], place := .fresh }
  else if c = '\n' then r.finish r.record .start
  else if c = '\r' then r.finish r.record .returned
  else r.push c .plain

def first (r : Reading) (c : Char) : Reading :=
  if c = '"' then { r with place := .quoted }
  else if c = '\n' then r.finish [] .start
  else if c = '\r' then r.finish [] .returned
  else r.bare c

def step (r : Reading) (c : Char) : Reading :=
  match r.place with
  | .start => r.first c
  | .returned => if c = '\n' then { r with place := .start } else r.first c
  | .fresh => if c = '"' then { r with place := .quoted } else r.bare c
  | .plain => r.bare c
  | .quoted => if c = '"' then { r with place := .closed } else r.push c .quoted
  | .closed => if c = '"' then r.push c .quoted else r.bare c

def run (r : Reading) (s : List Char) : Reading := s.foldl step r

@[simp]
theorem run_nil (r : Reading) : r.run [] = r := rfl

@[simp]
theorem run_cons (r : Reading) (c : Char) (s : List Char) : r.run (c :: s) = (r.step c).run s := rfl

@[simp]
theorem run_append (r : Reading) (s t : List Char) : r.run (s ++ t) = (r.run s).run t := List.foldl_append

def records (r : Reading) : List (List (List Char)) :=
  match r.place with
  | .start | .returned => r.done
  | _ => r.done ++ [r.record]

end Reading

def read (s : List Char) : List (List (List Char)) := (Reading.run {} s).records

example : read "a,\"b\"\"\n\"\n\n\r,".toList = [["a".toList, "b\"\n".toList], [], [], [[], []]] := by decide

namespace Reading

theorem finish_prefix (r : Reading) (record : List (List Char)) (place : Place) : r.done <+: (r.finish record place).done :=
  List.prefix_append _ _

theorem bare_prefix (r : Reading) (c : Char) : r.done <+: (r.bare c).done := by
  unfold bare
  split_ifs
  · exact List.prefix_rfl
  · exact r.finish_prefix _ _
  · exact r.finish_prefix _ _
  · exact List.prefix_rfl

theorem first_prefix (r : Reading) (c : Char) : r.done <+: (r.first c).done := by
  unfold first
  split_ifs
  · exact List.prefix_rfl
  · exact r.finish_prefix _ _
  · exact r.finish_prefix _ _
  · exact r.bare_prefix c

theorem step_prefix (r : Reading) (c : Char) : r.done <+: (r.step c).done := by
  unfold step
  split
  · exact r.first_prefix c
  · split_ifs
    · exact List.prefix_rfl
    · exact r.first_prefix c
  · split_ifs
    · exact List.prefix_rfl
    · exact r.bare_prefix c
  · exact r.bare_prefix c
  · split_ifs <;> exact List.prefix_rfl
  · split_ifs
    · exact List.prefix_rfl
    · exact r.bare_prefix c

theorem run_prefix (r : Reading) (s : List Char) : r.done <+: (r.run s).done := by
  induction s generalizing r with
  | nil => exact List.prefix_rfl
  | cons c s ih => exact (r.step_prefix c).trans (ih (r.step c))

theorem records_prefix (r : Reading) : r.done <+: r.records := by
  unfold records
  split
  · exact List.prefix_rfl
  · exact List.prefix_rfl
  · exact List.prefix_append _ _

def Holds (r : Reading) (done : List (List (List Char))) (fields : List (List Char)) (s : List Char) : Prop :=
  r.done = done ∧ r.fields = fields ∧ r.text = s ∧ (r.place = .fresh ∨ r.place = .plain ∨ r.place = .closed)

variable {done : List (List (List Char))} {fields : List (List Char)} {s : List Char} {d : Dialect}

theorem run_doubled (t : List Char) :
    (Reading.mk done fields s .quoted).run (doubled t) = ⟨done, fields, s ++ t, .quoted⟩ := by
  induction t generalizing s with
  | nil => simp [doubled]
  | cons c t ih =>
    rw [doubled]
    split_ifs with hc
    · simp only [run_cons, step, hc, if_true, push]
      rw [ih]
      simp
    · simp only [run_cons, step, hc, if_false, push]
      rw [ih]
      simp

theorem run_plain {t : List Char} (h : ∀ c ∈ t, c ≠ ',' ∧ c ≠ '"' ∧ c ≠ '\r' ∧ c ≠ '\n') :
    (Reading.mk done fields s .plain).run t = ⟨done, fields, s ++ t, .plain⟩ := by
  induction t generalizing s with
  | nil => simp
  | cons c t ih =>
    obtain ⟨h1, _, h3, h4⟩ := h c (by simp)
    have hstep : (Reading.mk done fields s .plain).step c = ⟨done, fields, s ++ [c], .plain⟩ := by
      simp [step, bare, push, h1, h3, h4]
    rw [run_cons, hstep, ih fun c hc => h c (List.mem_cons_of_mem _ hc)]
    simp

end Reading

def Legible (d : Dialect) (s : List Char) : Prop := needsQuotes d s = true ∨ ∀ c ∈ s, c ≠ '\r' ∧ c ≠ '\n'

theorem not_comma_quote {d : Dialect} {s : List Char} (h : needsQuotes d s = false) :
    ∀ c ∈ s, c ≠ ',' ∧ c ≠ '"' := by
  intro c hc
  simp only [needsQuotes, List.any_eq_false] at h
  have := h c hc
  simp_all

namespace Reading

variable {done : List (List (List Char))} {fields : List (List Char)} {s : List Char} {d : Dialect}

theorem Holds.step_comma {r : Reading} (h : r.Holds done fields s) :
    r.step ',' = ⟨done, fields ++ [s], [], .fresh⟩ := by
  obtain ⟨rfl, rfl, rfl, hplace | hplace | hplace⟩ := h <;> simp [step, bare, record, hplace]

theorem Holds.run_lineEnd {r : Reading} (h : r.Holds done fields s)
    (hd : d.lineEnd = ['\n'] ∨ d.lineEnd = ['\r', '\n']) :
    r.run d.lineEnd = ⟨done ++ [fields ++ [s]], [], [], .start⟩ := by
  obtain ⟨rfl, rfl, rfl, hplace | hplace | hplace⟩ := h <;>
    rcases hd with hd | hd <;> simp [hd, step, bare, finish, record, hplace]

theorem holds_of_bare (h : ∀ c ∈ s, c ≠ ',' ∧ c ≠ '"' ∧ c ≠ '\r' ∧ c ≠ '\n') :
    ((Reading.mk done fields [] .fresh).run s).Holds done fields s := by
  cases s with
  | nil => simp [Holds]
  | cons c s =>
    obtain ⟨h1, h2, h3, h4⟩ := h c (by simp)
    have hopen : (Reading.mk done fields [] .fresh).step c = ⟨done, fields, [c], .plain⟩ := by
      simp [step, bare, push, h1, h2, h3, h4]
    rw [run_cons, hopen, run_plain fun c hc => h c (List.mem_cons_of_mem _ hc)]
    simp [Holds]

theorem holds_of_legible (h : Legible d s) : ((Reading.mk done fields [] .fresh).run (field d s)).Holds done fields s := by
  unfold field
  split_ifs with hq
  · have hopen : (Reading.mk done fields [] .fresh).step '"' = ⟨done, fields, [], .quoted⟩ := rfl
    rw [List.cons_append, run_cons, hopen, run_append, run_doubled]
    simp [step, Holds]
  · replace hq : needsQuotes d s = false := by simpa using hq
    have hends := h.resolve_left (by simp [hq])
    apply holds_of_bare
    intro c hc
    obtain ⟨h1, h2⟩ := not_comma_quote hq c hc
    exact ⟨h1, h2, hends c hc⟩

abbrev line (d : Dialect) (fs : List (List Char)) : List Char := List.intercalate [','] (fs.map (field d))

theorem line_cons {fs : List (List Char)} (h : fs ≠ []) : line d (s :: fs) = field d s ++ ',' :: line d fs := by
  obtain ⟨t, fs, rfl⟩ := List.exists_cons_of_ne_nil h
  simp [line, List.intercalate]

theorem run_line {before : List (List Char)} (h : ∀ t ∈ before, Legible d t) {rest : List (List Char)} (hrest : rest ≠ []) :
    (Reading.mk done fields [] .fresh).run (line d (before ++ rest)) =
      (Reading.mk done (fields ++ before) [] .fresh).run (line d rest) := by
  induction before generalizing fields with
  | nil => simp
  | cons t before ih =>
    rw [List.cons_append, line_cons (by simp [hrest]), run_append, run_cons,
      (holds_of_legible (h t (by simp))).step_comma, ih fun t ht => h t (List.mem_cons_of_mem _ ht)]
    simp

theorem holds_line {before : List (List Char)} (h : ∀ t ∈ before ++ [s], Legible d t) :
    ((Reading.mk done [] [] .fresh).run (line d (before ++ [s]))).Holds done before s := by
  have hlast : line d [s] = field d s := by simp [line, List.intercalate]
  rw [run_line (fun t ht => h t (by simp [ht])) (by simp), hlast]
  exact holds_of_legible (h s (by simp))

theorem run_start {c : Char} {t : List Char} (h : c ≠ '\r' ∧ c ≠ '\n') :
    (Reading.mk done [] [] .start).run (c :: t) = (Reading.mk done [] [] .fresh).run (c :: t) := by
  simp [step, first, bare, push, record, h.1, h.2]

theorem line_head {fs : List (List Char)} (hs : Legible d s) (h : s :: fs ≠ [[]]) :
    ∃ c t, line d (s :: fs) = c :: t ∧ c ≠ '\r' ∧ c ≠ '\n' := by
  have hfield : s ≠ [] → ∃ c t, field d s = c :: t ∧ c ≠ '\r' ∧ c ≠ '\n' := by
    intro hne
    unfold field
    split_ifs with hq
    · exact ⟨'"', _, rfl, by decide⟩
    · obtain ⟨c, t, rfl⟩ := List.exists_cons_of_ne_nil hne
      exact ⟨c, t, rfl, hs.resolve_left hq c (by simp)⟩
  by_cases hfs : fs = []
  · subst hfs
    have hline : line d [s] = field d s := by simp [line, List.intercalate]
    rw [hline]
    exact hfield (by simpa using h)
  · rw [line_cons hfs]
    by_cases hne : s = []
    · subst hne
      exact ⟨',', _, by simp [field, needsQuotes]; rfl, by decide⟩
    · obtain ⟨c, t, ht, hc⟩ := hfield hne
      exact ⟨c, _, by rw [ht]; rfl, hc⟩

theorem run_record (hd : d.lineEnd = ['\n'] ∨ d.lineEnd = ['\r', '\n']) {fs : List (List Char)} (hne : fs ≠ [])
    (h : ∀ s ∈ fs, Legible d s) :
    (Reading.mk done [] [] .start).run (Csv.record d fs) = ⟨done ++ [fs], [], [], .start⟩ := by
  unfold Csv.record
  split_ifs with hempty
  · subst hempty
    have hclosed : ((Reading.mk done [] [] .start).run ['"', '"']).Holds done [] [] := by
      simp [step, first, Holds]
    rw [run_append, hclosed.run_lineEnd hd]
    rfl
  · obtain ⟨c, t, hline, hc⟩ : ∃ c t, line d fs = c :: t ∧ c ≠ '\r' ∧ c ≠ '\n' := by
      obtain ⟨s, rest, rfl⟩ := List.exists_cons_of_ne_nil hne
      exact line_head (h s (by simp)) hempty
    obtain ⟨before, s, rfl⟩ := (List.eq_nil_or_concat' fs).resolve_left hne
    rw [run_append]
    change Reading.run (Reading.run _ (line d (before ++ [s]))) d.lineEnd = _
    rw [hline, run_start hc, ← hline, (holds_line h).run_lineEnd hd]

end Reading

theorem run_records {d : Dialect} (hd : d.lineEnd = ['\n'] ∨ d.lineEnd = ['\r', '\n']) {rows : List (List (List Char))}
    (h : ∀ fs ∈ rows, fs ≠ [] ∧ ∀ s ∈ fs, Legible d s) (done : List (List (List Char))) :
    (Reading.mk done [] [] .start).run (records d rows) = ⟨done ++ rows, [], [], .start⟩ := by
  induction rows generalizing done with
  | nil => simp [records]
  | cons fs rows ih =>
    obtain ⟨hne, hlegible⟩ := h fs (by simp)
    have hrest := ih (fun fs hfs => h fs (List.mem_cons_of_mem _ hfs)) (done ++ [fs])
    simp only [records, List.flatMap_cons] at hrest ⊢
    rw [Reading.run_append, Reading.run_record hd hne hlegible, hrest]
    simp

theorem read_records {d : Dialect} (hd : d.lineEnd = ['\n'] ∨ d.lineEnd = ['\r', '\n'])
    {rows : List (List (List Char))} (h : ∀ fs ∈ rows, fs ≠ [] ∧ ∀ s ∈ fs, Legible d s) : read (records d rows) = rows := by
  rw [read, run_records hd h []]
  rfl

theorem exists_first {α : Type} {p : α → Prop} {xs : List α} (h : ¬ ∀ x ∈ xs, p x) :
    ∃ before x after, xs = before ++ x :: after ∧ (∀ y ∈ before, p y) ∧ ¬ p x := by
  induction xs with
  | nil => exact absurd (by simp) h
  | cons x xs ih =>
    by_cases hx : p x
    · obtain ⟨before, y, after, rfl, hbefore, hy⟩ := ih fun hxs => h (by simpa [hx] using hxs)
      exact ⟨x :: before, y, after, rfl, by simpa [hx] using hbefore, hy⟩
    · exact ⟨[], x, xs, rfl, by simp, hx⟩

namespace Reading

variable {done : List (List (List Char))} {fields : List (List Char)} {s : List Char} {d : Dialect}

theorem run_illegible (done : List (List (List Char))) (fields : List (List Char)) (hs : ¬ Legible d s)
    (more : List Char) :
    ∃ t, t.length < s.length ∧
      done ++ [fields ++ [t]] <+: ((Reading.mk done fields [] .fresh).run (field d s ++ more)).done := by
  have hq : needsQuotes d s = false := by simpa using fun hq => hs (.inl hq)
  obtain ⟨t, c, u, rfl, ht, hc⟩ := exists_first fun h => hs (.inr h)
  have hbare := not_comma_quote hq
  have hholds : ((Reading.mk done fields [] .fresh).run t).Holds done fields t := by
    apply holds_of_bare
    intro c hc
    obtain ⟨h1, h2⟩ := hbare c (by simp [hc])
    exact ⟨h1, h2, ht c hc⟩
  refine ⟨t, by simp, ?_⟩
  have hend : (((Reading.mk done fields [] .fresh).run t).step c).done = done ++ [fields ++ [t]] := by
    have hc' : c = '\r' ∨ c = '\n' := by
      by_contra hne
      exact hc ⟨fun h => hne (.inl h), fun h => hne (.inr h)⟩
    obtain ⟨hdone, hfields, htext, hplace | hplace | hplace⟩ := hholds <;> rcases hc' with rfl | rfl <;>
      simp [step, bare, finish, record, hplace, hdone, hfields, htext]
  rw [field, hq, if_neg Bool.false_ne_true, List.append_assoc, run_append, List.cons_append, run_cons, ← hend]
  exact run_prefix _ _

theorem run_cut (done : List (List (List Char))) {before : List (List Char)} (after : List (List Char))
    (hne : before ≠ []) (hbefore : ∀ t ∈ before, Legible d t)
    (hs : ¬ Legible d s) (more : List Char) :
    ∃ t, t.length < s.length ∧ done ++ [before ++ [t]] <+:
      ((Reading.mk done [] [] .start).run (Csv.record d (before ++ s :: after) ++ more)).done := by
  obtain ⟨c, u, hline, hc⟩ : ∃ c u, line d (before ++ s :: after) = c :: u ∧ c ≠ '\r' ∧ c ≠ '\n' := by
    obtain ⟨first, rest, rfl⟩ := List.exists_cons_of_ne_nil hne
    exact line_head (hbefore first (by simp)) (by simp)
  obtain ⟨end', hend⟩ : ∃ end', line d (s :: after) = field d s ++ end' := by
    cases after with
    | nil => exact ⟨[], by simp [line, List.intercalate]⟩
    | cons t after => exact ⟨_, line_cons (by simp)⟩
  have hrecord : Csv.record d (before ++ s :: after) = line d (before ++ s :: after) ++ d.lineEnd := by
    obtain ⟨first, rest, rfl⟩ := List.exists_cons_of_ne_nil hne
    simp [Csv.record, line]
  obtain ⟨t, hshort, hprefix⟩ := run_illegible done before hs (end' ++ (d.lineEnd ++ more))
  refine ⟨t, hshort, ?_⟩
  rw [hrecord, List.append_assoc, run_append, hline, run_start hc, ← hline, run_line hbefore (by simp), hend,
    ← run_append, List.nil_append, List.append_assoc]
  exact hprefix

end Reading

theorem legible_of_read {d : Dialect} (hd : d.lineEnd = ['\n'] ∨ d.lineEnd = ['\r', '\n'])
    {rows : List (List (List Char))} (hfirst : ∀ fs ∈ rows, ∃ s rest, fs = s :: rest ∧ Legible d s)
    (h : ∀ (i : Nat) fs, rows[i]? = some fs → ∃ r, (read (records d rows))[i]? = some r ∧
      ∀ (k : Nat) s, fs[k]? = some s → ¬ Legible d s → r[k]? = some s) :
    ∀ fs ∈ rows, ∀ s ∈ fs, Legible d s := by
  by_contra hall
  -- The first record with such a field, and the first such field of it, since all before them is read as it is.
  obtain ⟨good, fs, rest, rfl, hgood, hfs⟩ := exists_first hall
  obtain ⟨before, s, after, rfl, hbefore, hs⟩ := exists_first hfs
  obtain ⟨first, fields, hsplit, hlegible⟩ := hfirst (before ++ s :: after) (by simp)
  obtain ⟨before, rfl⟩ : ∃ rest, before = first :: rest := by
    cases before with
    | nil => exact absurd ((List.cons.inj hsplit).1 ▸ hlegible) hs
    | cons t rest => exact ⟨rest, by rw [(List.cons.inj hsplit).1]⟩
  have hrun : (Reading.mk [] [] [] .start).run (records d good) = ⟨good, [], [], .start⟩ := by
    apply run_records hd
    intro fs hmem
    obtain ⟨s, rest, rfl, _⟩ := hfirst fs (by simp [hmem])
    exact ⟨by simp, hgood _ hmem⟩
  obtain ⟨t, hshort, hcut⟩ := Reading.run_cut good after (by simp) hbefore hs (records d rest)
  have hread : good ++ [first :: before ++ [t]] <+: read (records d (good ++ (first :: before ++ s :: after) :: rest)) := by
    refine List.IsPrefix.trans ?_ (Reading.records_prefix _)
    rw [records, List.flatMap_append, List.flatMap_cons, Reading.run_append]
    change _ <+: ((Reading.run _ (records d good)).run _).done
    rw [hrun]
    exact hcut
  obtain ⟨r, hr, hback⟩ := h good.length (first :: before ++ s :: after) (by simp)
  obtain ⟨end', hend⟩ := hread
  rw [← hend] at hr
  obtain rfl : first :: before ++ [t] = r := by simpa using hr
  have hcell : t = s := by simpa using hback (first :: before).length s (by simp) hs
  exact absurd hshort (by simp [hcell])

end LogMill.Csv
