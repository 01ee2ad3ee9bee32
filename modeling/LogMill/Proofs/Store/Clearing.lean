import LogMill.Store

namespace LogMill

namespace Call

def deleted? : Call → Option (List String × Option String)
  | delete _ keys refusal => some (keys, refusal)
  | _ => none

def deletedKeys (calls : List Call) : List String :=
  calls.flatMap fun
    | delete _ keys none => keys
    | _ => []

end Call

namespace Store

namespace Page

def listed : Page → List String
  | keys ks => ks
  | empty | failure _ => []

def failure? : Page → Option String
  | failure reason => some reason
  | keys _ | empty => none

end Page

def deletions (bucket : Value) (pages : List Page) : List Call :=
  ((pages.map Page.listed).filter (· ≠ [])).map fun ks => .delete bucket ks none

def Answered (c : Client) : (calls asked : List Call) → Prop
  | _, [] => True
  | calls, a :: asked =>
    (∀ keys refusal, a.deleted? = some (keys, refusal) → c.deletion calls = refusal) ∧ Answered c (calls ++ [a]) asked

inductive Stops (bucket : Value) : (left : List Page) → (last : List Call) → Option String → Prop where
  | never : Stops bucket [] [] none
  | unread (reason : String) (later : List Page) : Stops bucket (.failure reason :: later) [] (some reason)
  | kept (ks : List String) (reason : String) (later : List Page) :
    ks ≠ [] → Stops bucket (.keys ks :: later) [.delete bucket ks (some reason)] (some reason)

structure Empties (c : Client) (bucket : Value) (calls : List Call) (pages emptied : List Page) (asked : List Call)
    (stop : Option String) : Prop where
  read : ∀ p ∈ emptied, p.failure? = none
  stops : ∃ left last, pages = emptied ++ left ∧ asked = deletions bucket emptied ++ last ∧ Stops bucket left last stop
  answered : Answered c calls asked

variable {c : Client} {bucket : Value} {calls asked : List Call} {page : Page} {pages emptied : List Page}
  {stop : Option String}

theorem deletions_of_idle (h : page.listed = []) : deletions bucket (page :: pages) = deletions bucket pages := by
  simp [deletions, h]

theorem deletions_of_keys (k : String) (ks : List String) :
    deletions bucket (.keys (k :: ks) :: pages) = .delete bucket (k :: ks) none :: deletions bucket pages := by
  simp [deletions, Page.listed]

theorem clearPages_of_idle (hread : page.failure? = none) (hlisted : page.listed = []) (deleted : Nat) :
    clearPages c bucket (page :: pages) deleted calls = clearPages c bucket pages deleted calls := by
  cases page with
  | failure reason => simp [Page.failure?] at hread
  | empty => simp only [clearPages]
  | keys ks =>
    obtain rfl : ks = [] := hlisted
    simp only [clearPages]

theorem Empties.idle (h : Empties c bucket calls pages emptied asked stop) (hread : page.failure? = none)
    (hlisted : page.listed = []) : Empties c bucket calls (page :: pages) (page :: emptied) asked stop := by
  obtain ⟨hemptied, ⟨left, last, rfl, rfl, hstops⟩, hanswered⟩ := h
  refine ⟨by simpa [hread] using hemptied, ⟨left, last, rfl, ?_, hstops⟩, hanswered⟩
  rw [deletions_of_idle hlisted]

theorem Empties.keys {k : String} {ks : List String} (hrefusal : c.deletion calls = none)
    (h : Empties c bucket (calls ++ [.delete bucket (k :: ks) none]) pages emptied asked stop) :
    Empties c bucket calls (.keys (k :: ks) :: pages) (.keys (k :: ks) :: emptied)
      (.delete bucket (k :: ks) none :: asked) stop := by
  obtain ⟨hemptied, ⟨left, last, rfl, rfl, hstops⟩, hanswered⟩ := h
  refine ⟨by simpa [Page.failure?] using hemptied, ⟨left, last, rfl, ?_, hstops⟩, ?_, hanswered⟩
  · rw [deletions_of_keys, List.cons_append]
  · simpa [Call.deleted?] using hrefusal

theorem exists_empties (c : Client) (bucket : Value) (pages : List Page) (deleted : Nat) (calls : List Call) :
    ∃ emptied asked stop, Empties c bucket calls pages emptied asked stop ∧
      clearPages c bucket pages deleted calls =
        (stop.elim (.ok (deleted + (emptied.flatMap Page.listed).length)) .error, calls ++ asked) := by
  induction pages generalizing deleted calls with
  | nil => exact ⟨[], [], none, ⟨by simp, ⟨[], [], rfl, rfl, .never⟩, trivial⟩, by simp [clearPages]⟩
  | cons page pages ih =>
    by_cases hlisted : page.listed = []
    · cases hread : page.failure? with
      | some reason =>
        obtain rfl : page = .failure reason := by
          cases page <;> simp_all [Page.failure?]
        exact ⟨[], [], some reason, ⟨by simp, ⟨_, [], rfl, rfl, .unread reason pages⟩, trivial⟩, by simp [clearPages]⟩
      | none =>
        obtain ⟨emptied, asked, stop, hempties, heq⟩ := ih deleted calls
        refine ⟨page :: emptied, asked, stop, hempties.idle hread hlisted, ?_⟩
        rw [clearPages_of_idle hread hlisted, heq, List.flatMap_cons, hlisted, List.nil_append]
    · obtain ⟨k, ks, rfl⟩ : ∃ k ks, page = .keys (k :: ks) := by
        cases page with
        | keys ks =>
          obtain ⟨k, ks, rfl⟩ := List.exists_cons_of_ne_nil hlisted
          exact ⟨k, ks, rfl⟩
        | _ => exact absurd rfl hlisted
      cases hrefusal : c.deletion calls with
      | some reason =>
        refine ⟨[], _, some reason, ⟨by simp, ⟨_, _, rfl, rfl, .kept (k :: ks) reason pages (by simp)⟩, ?_⟩, ?_⟩
        · simp [deletions, Answered, Call.deleted?, hrefusal]
        · simp [clearPages, deletions, hrefusal]
      | none =>
        obtain ⟨emptied, asked, stop, hempties, heq⟩ :=
          ih (deleted + (ks.length + 1)) (calls ++ [.delete bucket (k :: ks) none])
        refine ⟨_, _, stop, hempties.keys hrefusal, ?_⟩
        have hcount : deleted + ((Page.keys (k :: ks) :: emptied).flatMap Page.listed).length =
            deleted + (ks.length + 1) + (emptied.flatMap Page.listed).length := by
          rw [List.flatMap_cons, List.length_append, Nat.add_assoc]
          rfl
        rw [List.append_assoc, List.singleton_append] at heq
        rw [clearPages, hrefusal, hcount]
        exact heq

theorem mem_deletions {a : Call} :
    a ∈ deletions bucket pages ↔ ∃ p ∈ pages, p.listed ≠ [] ∧ a = .delete bucket p.listed none := by
  simp only [deletions, List.mem_map, List.mem_filter, decide_eq_true_eq]
  constructor
  · rintro ⟨_, ⟨⟨p, hp, rfl⟩, hne⟩, rfl⟩
    exact ⟨p, hp, hne, rfl⟩
  · rintro ⟨p, hp, hne, rfl⟩
    exact ⟨_, ⟨⟨p, hp, rfl⟩, hne⟩, rfl⟩

theorem deletedKeys_deletions (bucket : Value) (pages : List Page) :
    Call.deletedKeys (deletions bucket pages) = pages.flatMap Page.listed := by
  induction pages with
  | nil => rfl
  | cons page pages ih =>
    by_cases hlisted : page.listed = []
    · rw [deletions_of_idle hlisted, ih, List.flatMap_cons, hlisted, List.nil_append]
    · have hcons : deletions bucket (page :: pages) = .delete bucket page.listed none :: deletions bucket pages := by
        simp [deletions, hlisted]
      rw [hcons, List.flatMap_cons, ← ih]
      rfl

theorem Empties.exists_delete (h : Empties c bucket calls pages emptied asked stop) {a : Call} (ha : a ∈ asked) :
    ∃ keys refusal, keys ≠ [] ∧ a = .delete bucket keys refusal := by
  obtain ⟨left, last, -, rfl, hstops⟩ := h.stops
  rcases List.mem_append.mp ha with ha | ha
  · obtain ⟨p, -, hne, rfl⟩ := mem_deletions.mp ha
    exact ⟨_, _, hne, rfl⟩
  · cases hstops with
    | kept ks reason later hne =>
      obtain rfl := List.mem_singleton.mp ha
      exact ⟨_, _, hne, rfl⟩
    | _ => simp at ha

theorem Empties.stop_eq_none_iff (h : Empties c bucket calls pages emptied asked stop) :
    stop = none ↔ (∀ p ∈ pages, p.failure? = none) ∧
      ∀ b keys refusal, .delete b keys refusal ∈ asked → refusal = none := by
  obtain ⟨left, last, rfl, rfl, hstops⟩ := h.stops
  cases hstops with
  | never =>
    simp only [List.append_nil, true_iff]
    refine ⟨h.read, fun b keys refusal hmem => ?_⟩
    obtain ⟨p, -, -, heq⟩ := mem_deletions.mp hmem
    exact (Call.delete.inj heq).2.2
  | unread reason later =>
    simp only [reduceCtorEq, false_iff, not_and]
    intro hread
    exact absurd (hread (.failure reason) (by simp)) (by simp [Page.failure?])
  | kept ks reason later hne =>
    simp only [reduceCtorEq, false_iff, not_and]
    intro _ hnone
    exact absurd (hnone bucket ks (some reason) (by simp)) (by simp)

theorem Empties.eq_of_stop (h : Empties c bucket calls pages emptied asked none) :
    emptied = pages ∧ asked = deletions bucket pages := by
  obtain ⟨left, last, rfl, rfl, hstops⟩ := h.stops
  cases hstops
  simp

theorem clear_of_unlisted {reason : String} (h : c.paginator = some reason) (bucket keyPrefix : Value)
    (calls : List Call) : ∃ journal, clear c bucket keyPrefix calls =
      (.error (.clearing bucket.plain keyPrefix.plain reason), calls, journal) := by
  simp only [clear, h]
  exact ⟨_, rfl⟩

theorem clear_of_listed (h : c.paginator = none) (bucket keyPrefix : Value) (calls : List Call) :
    ∃ emptied asked stop journal,
      Empties c bucket (calls ++ [.paginator "list_objects_v2", .list bucket keyPrefix]) c.pages emptied asked stop ∧
      clear c bucket keyPrefix calls =
        (stop.elim (.ok (emptied.flatMap Page.listed).length)
            fun reason => .error (.clearing bucket.plain keyPrefix.plain reason),
          calls ++ .paginator "list_objects_v2" :: .list bucket keyPrefix :: asked, journal) := by
  obtain ⟨emptied, asked, stop, hempties, heq⟩ := exists_empties c bucket c.pages 0
    (calls ++ [.paginator "list_objects_v2", .list bucket keyPrefix])
  rw [List.append_assoc, List.cons_append, List.cons_append, List.nil_append] at heq
  simp only [clear, h, heq]
  cases stop with
  | none => exact ⟨emptied, asked, none, _, hempties, by simp only [Option.elim, Nat.zero_add]; rfl⟩
  | some reason => exact ⟨emptied, asked, some reason, _, hempties, rfl⟩

/-- Clearing asks for the listing, and deletes what each page lists by one call for the page, in the order of the
pages, until it is done or a page cannot be read or a call is refused. It returns exactly if nothing fails; then every
key that is listed was deleted, and the number of keys is returned. -/
theorem listing_cleared (c : Client) (bucket keyPrefix : Value) (calls : List Call) :
    ∃ outcome asked journal, clear c bucket keyPrefix calls = (outcome, calls ++ asked, journal) ∧
      Answered c calls asked ∧ (∀ b keys refusal, .delete b keys refusal ∈ asked → b = bucket ∧ keys ≠ []) ∧
      (∀ reason, c.paginator = some reason →
        outcome = .error (.clearing bucket.plain keyPrefix.plain reason) ∧ asked = []) ∧
      (c.paginator = none → ∃ emptied left last stop, c.pages = emptied ++ left ∧ (∀ p ∈ emptied, p.failure? = none) ∧
        asked = .paginator "list_objects_v2" :: .list bucket keyPrefix :: (deletions bucket emptied ++ last) ∧
        Stops bucket left last stop ∧
        outcome = stop.elim (.ok (emptied.flatMap Page.listed).length)
          fun reason => .error (.clearing bucket.plain keyPrefix.plain reason)) ∧
      ((∃ n, outcome = .ok n) ↔ c.paginator = none ∧ (∀ p ∈ c.pages, p.failure? = none) ∧
        ∀ b keys refusal, .delete b keys refusal ∈ asked → refusal = none) ∧
      (∀ n, outcome = .ok n →
        n = (c.pages.flatMap Page.listed).length ∧ Call.deletedKeys asked = c.pages.flatMap Page.listed) ∧
      ∀ f, outcome = .error f → Explained.kind f = .delivery := by
  cases hpaginator : c.paginator with
  | some reason =>
    obtain ⟨journal, heq⟩ := clear_of_unlisted hpaginator bucket keyPrefix calls
    refine ⟨_, [], journal, by rw [heq, List.append_nil], trivial, ?_, ?_, ?_, ?_, ?_, fun _ _ => rfl⟩
    · simp
    · rintro _ ⟨⟩
      exact ⟨rfl, rfl⟩
    · simp
    · simp
    · simp
  | none =>
    obtain ⟨emptied, asked, stop, journal, hempties, heq⟩ := clear_of_listed hpaginator bucket keyPrefix calls
    obtain ⟨left, last, hpages, hasked, hstops⟩ := hempties.stops
    have hmem {b : Value} {keys : List String} {refusal : Option String} :
        .delete b keys refusal ∈ .paginator "list_objects_v2" :: .list bucket keyPrefix :: asked ↔
          .delete b keys refusal ∈ asked := by simp
    refine ⟨_, _, journal, heq, ⟨by simp [Call.deleted?], by simp [Call.deleted?], ?_⟩, ?_, by simp, ?_, ?_, ?_,
      fun _ _ => rfl⟩
    · rw [List.append_assoc]
      exact hempties.answered
    · intro b keys refusal hdelete
      obtain ⟨_, _, hne, hcall⟩ := hempties.exists_delete (hmem.mp hdelete)
      obtain ⟨rfl, rfl, -⟩ := Call.delete.inj hcall
      exact ⟨rfl, hne⟩
    · intro _
      exact ⟨emptied, left, last, stop, hpages, hempties.read, by rw [hasked], hstops, rfl⟩
    · simp only [hmem, true_and, ← hempties.stop_eq_none_iff]
      cases stop <;> simp
    · intro n hn
      obtain rfl : stop = none := by
        cases stop with
        | none => rfl
        | some reason => simp at hn
      obtain ⟨rfl, rfl⟩ := hempties.eq_of_stop
      refine ⟨(Except.ok.inj hn).symm, ?_⟩
      rw [← deletedKeys_deletions bucket]
      rfl

end Store

end LogMill
