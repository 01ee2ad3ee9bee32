import LogMill.Warehouse

namespace LogMill

namespace Warehouse

def pendingStatuses : List String := ["STARTED", "SUBMITTED", "PICKED"]

def Tells (statuses : List String) (reply : Reply) : Prop :=
  ∃ description status, reply = .ok description ∧ item description "Status" = .ok (.text status) ∧ status ∈ statuses

def TakenAs (id : Value) (reply : Reply) : Prop := ∃ answer, reply = .ok answer ∧ item answer "Id" = .ok id

/-- What an answer that is not pending comes to, and how many pauses follow it. -/
inductive Concludes : Reply → Except Fault Value → Nat → Prop where
  | unanswered (reason : String) : Concludes (.error reason) (.error (.broken reason)) 0
  | unclear (description : Value) (reason : String) :
    item description "Status" = .error reason → Concludes (.ok description) (.error (.broken reason)) 0
  | finished (description : Value) :
    item description "Status" = .ok (.text "FINISHED") → Concludes (.ok description) (.ok description) 0
  | unsuccessful (description : Value) (status : String) :
    item description "Status" = .ok (.text status) → status ∈ ["FAILED", "ABORTED"] →
      Concludes (.ok description) (.error (refusal description)) 0
  | unknown (description status : Value) :
    item description "Status" = .ok status →
      (∀ s ∈ pendingStatuses ++ ["FINISHED", "FAILED", "ABORTED"], status ≠ .text s) →
      Concludes (.ok description) (.error (refusal description)) 1

def Finishes (script pending : List Reply) (description : Value) : Prop :=
  (∀ r ∈ pending, Tells pendingStatuses r) ∧ Tells ["FINISHED"] (.ok description) ∧
    ∃ rest, script = pending ++ .ok description :: rest

variable {description status id : Value} {reply last : Reply} {pending script rest : List Reply}
  {outcome : Except Fault Value} {pauses : Nat}

theorem isPending_iff : isPending status ↔ ∃ s ∈ pendingStatuses, status = .text s := by
  cases status <;> simp [isPending, Value.text?, pendingStatuses]

theorem isFinal_iff : isFinal status ↔ ∃ s ∈ ["FINISHED", "FAILED", "ABORTED"], status = .text s := by
  cases status <;> simp [isFinal, Value.text?]

theorem isFinished_iff : isFinished status ↔ status = .text "FINISHED" := by
  cases status <;> simp [isFinished, Value.text?]

theorem concludes_of_final (hitem : item description "Status" = .ok status) (hfinal : isFinal status) :
    Concludes (.ok description) (settled description status) 0 := by
  obtain ⟨s, hs, rfl⟩ := isFinal_iff.mp hfinal
  by_cases hfinished : s = "FINISHED"
  · subst hfinished
    exact .finished description hitem
  · rw [settled, if_neg (by simpa [isFinished_iff] using hfinished)]
    exact .unsuccessful description s hitem (by simpa [hfinished] using hs)

theorem concludes_of_unknown (hitem : item description "Status" = .ok status) (hfinal : ¬ isFinal status)
    (hpending : ¬ isPending status) : Concludes (.ok description) (settled description status) 1 := by
  rw [isFinal_iff] at hfinal
  rw [isPending_iff] at hpending
  rw [settled, if_neg (by rw [isFinished_iff]; rintro rfl; simp at hfinal)]
  refine .unknown description status hitem fun s hs hstatus => ?_
  rcases List.mem_append.mp hs with hs | hs
  · exact hpending ⟨s, hs, hstatus⟩
  · exact hfinal ⟨s, hs, hstatus⟩

theorem Concludes.not_pending (h : Concludes reply outcome pauses) : ¬ Tells pendingStatuses reply := by
  rintro ⟨description, status, rfl, hitem, hstatus⟩
  cases h with
  | unclear _ _ h => simp [hitem] at h
  | finished _ h =>
    obtain rfl : status = "FINISHED" := by simpa [hitem] using h
    simp [pendingStatuses] at hstatus
  | unsuccessful _ other h hother =>
    obtain rfl : status = other := by simpa [hitem] using h
    rcases List.mem_cons.mp hother with rfl | hother <;> simp_all [pendingStatuses]
  | unknown _ _ h hother =>
    obtain rfl := Except.ok.inj (hitem.symm.trans h)
    exact hother status (List.mem_append_left _ hstatus) rfl

theorem Concludes.eq_ok_iff (h : Concludes reply outcome pauses) (description : Value) :
    outcome = .ok description ↔ reply = .ok description ∧ Tells ["FINISHED"] reply := by
  cases h with
  | unanswered reason => simp
  | unclear other reason hitem => simp [Tells, hitem]
  | finished other hitem =>
    constructor
    · rintro ⟨⟩
      exact ⟨rfl, description, _, rfl, hitem, by simp⟩
    · rintro ⟨⟨⟩, -⟩
      rfl
  | unsuccessful other status hitem hstatus =>
    simp only [reduceCtorEq, false_iff, not_and]
    rintro ⟨⟩ ⟨_, s, ⟨⟩, hitem', hs⟩
    obtain rfl : status = s := by simpa [hitem] using hitem'
    obtain rfl := List.mem_singleton.mp hs
    simp at hstatus
  | unknown other status hitem hstatus =>
    simp only [reduceCtorEq, false_iff, not_and]
    rintro ⟨⟩ ⟨_, s, ⟨⟩, hitem', hs⟩
    obtain rfl := Except.ok.inj (hitem.symm.trans hitem')
    obtain rfl := List.mem_singleton.mp hs
    exact hstatus "FINISHED" (by simp) rfl

theorem Concludes.pauses_eq_zero (h : Concludes reply (.ok description) pauses) : pauses = 0 := by
  cases h
  rfl

theorem poll_cons (id : Value) (reply : Reply) (script : List Reply) (s : State) :
    (∃ outcome pauses, Concludes reply outcome pauses ∧ poll id (reply :: script) s =
      (outcome, ⟨s.executes, script, s.calls ++ [.describe id reply], s.pauses + pauses⟩)) ∨
    (Tells pendingStatuses reply ∧ poll id (reply :: script) s =
      poll id script ⟨s.executes, script, s.calls ++ [.describe id reply], s.pauses + 1⟩) := by
  cases reply with
  | error reason => exact .inl ⟨_, 0, .unanswered reason, rfl⟩
  | ok description =>
    cases hitem : item description "Status" with
    | error reason => exact .inl ⟨_, 0, .unclear description reason hitem, by simp [poll, hitem]⟩
    | ok status =>
      by_cases hfinal : isFinal status
      · exact .inl ⟨_, 0, concludes_of_final hitem hfinal, by simp [poll, hitem, hfinal]⟩
      · by_cases hpending : isPending status
        · obtain ⟨t, ht, rfl⟩ := isPending_iff.mp hpending
          exact .inr ⟨⟨description, t, rfl, hitem, ht⟩, by simp [poll, hitem, hfinal, hpending]⟩
        · exact .inl ⟨_, 1, concludes_of_unknown hitem hfinal hpending, by simp [poll, hitem, hfinal, hpending]⟩

theorem exists_poll (id : Value) (script : List Reply) (s : State) :
    ∃ pending last rest outcome pauses, script ++ [.ok done] = pending ++ last :: rest ∧
      (∀ r ∈ pending, Tells pendingStatuses r) ∧ Concludes last outcome pauses ∧
      poll id script s = (outcome, ⟨s.executes, rest.dropLast, s.calls ++ (pending ++ [last]).map (.describe id),
        s.pauses + pending.length + pauses⟩) := by
  induction script generalizing s with
  | nil => exact ⟨[], .ok done, [], .ok done, 0, rfl, by simp, .finished done rfl, rfl⟩
  | cons reply script ih =>
    obtain ⟨outcome, pauses, hconcludes, hpoll⟩ | ⟨htells, hpoll⟩ := poll_cons id reply script s
    · exact ⟨[], reply, script ++ [.ok done], outcome, pauses, rfl, by simp, hconcludes, by simpa using hpoll⟩
    · obtain ⟨pending, last, rest, outcome, pauses, hsplit, hpending, hconcludes, hrest⟩ :=
        ih ⟨s.executes, script, s.calls ++ [.describe id reply], s.pauses + 1⟩
      refine ⟨reply :: pending, last, rest, outcome, pauses, ?_, by simpa using ⟨htells, hpending⟩, hconcludes, ?_⟩
      · rw [List.cons_append, hsplit, List.cons_append]
      · rw [hpoll, hrest, List.cons_append, List.map_cons, List.length_cons, List.append_assoc, List.singleton_append,
          Nat.add_assoc s.pauses, Nat.add_comm 1]

theorem pending_unique {pending' : List Reply} {last' : Reply} {rest' : List Reply}
    (hpending : ∀ r ∈ pending, Tells pendingStatuses r) (hlast : ¬ Tells pendingStatuses last)
    (hpending' : ∀ r ∈ pending', Tells pendingStatuses r) (hlast' : ¬ Tells pendingStatuses last')
    (h : pending ++ last :: rest = pending' ++ last' :: rest') : pending = pending' ∧ last = last' := by
  induction pending generalizing pending' with
  | nil =>
    cases pending' with
    | nil => exact ⟨rfl, (List.cons.inj h).1⟩
    | cons r rs => exact absurd ((List.cons.inj h).1 ▸ hpending' r (by simp)) hlast
  | cons r rs ih =>
    cases pending' with
    | nil => exact absurd ((List.cons.inj h).1 ▸ hpending r (by simp)) hlast'
    | cons r' rs' =>
      obtain ⟨rfl, htail⟩ := List.cons.inj h
      obtain ⟨rfl, rfl⟩ := ih (fun r hr => hpending r (List.mem_cons_of_mem _ hr))
        (fun r hr => hpending' r (List.mem_cons_of_mem _ hr)) htail
      exact ⟨rfl, rfl⟩

theorem not_pending_of_finished (h : Tells ["FINISHED"] reply) : ¬ Tells pendingStatuses reply := by
  obtain ⟨description, s, rfl, hitem, hs⟩ := h
  rintro ⟨_, t, ⟨⟩, hitem', ht⟩
  obtain rfl : s = t := by simpa [hitem] using hitem'
  obtain rfl := List.mem_singleton.mp hs
  simp [pendingStatuses] at ht

theorem Finishes.unique {pending' : List Reply} (h : Finishes script pending' description)
    (hsplit : script = pending ++ last :: rest) (hpending : ∀ r ∈ pending, Tells pendingStatuses r)
    (hlast : ¬ Tells pendingStatuses last) : pending' = pending ∧ last = .ok description := by
  obtain ⟨hpending', hfinished, rest', rfl⟩ := h
  obtain ⟨rfl, rfl⟩ := pending_unique hpending' (not_pending_of_finished hfinished) hpending hlast hsplit
  exact ⟨rfl, rfl⟩

def IsNext (executes : List Reply) (reply : Reply) : Prop := ∀ first ∈ executes.head?, reply = first

theorem TakenAs.unique {id' : Value} (h : TakenAs id reply) (h' : TakenAs id' reply) : id = id' := by
  obtain ⟨answer, rfl, hid⟩ := h
  obtain ⟨_, ⟨⟩, hid'⟩ := h'
  exact Except.ok.inj (hid.symm.trans hid')

theorem submit_eq (workgroup database sql : Value) (s : State) :
    ∃ reply, IsNext s.executes reply ∧ submit workgroup database sql s = (reply, ⟨s.executes.drop 1, s.describes,
      s.calls ++ [.execute workgroup database sql reply], s.pauses⟩) := by
  refine ⟨_, ?_, rfl⟩
  intro first hfirst
  obtain ⟨rest, hrest⟩ := List.head?_eq_some_iff.mp hfirst
  rw [hrest]

theorem run_cases (workgroup database sql : Value) (s : State) :
    ∃ reply, IsNext s.executes reply ∧
      (((∀ id, ¬ TakenAs id reply) ∧ ∃ f, run workgroup database sql s = (.error f, ⟨s.executes.drop 1, s.describes,
          s.calls ++ [.execute workgroup database sql reply], s.pauses⟩)) ∨
        ∃ id pending last rest outcome pauses, TakenAs id reply ∧ s.describes ++ [.ok done] = pending ++ last :: rest ∧
          (∀ r ∈ pending, Tells pendingStatuses r) ∧ Concludes last outcome pauses ∧
          run workgroup database sql s = (outcome, ⟨s.executes.drop 1, rest.dropLast,
            s.calls ++ .execute workgroup database sql reply :: (pending ++ [last]).map (.describe id),
            s.pauses + pending.length + pauses⟩)) := by
  obtain ⟨reply, hnext, hsubmit⟩ := submit_eq workgroup database sql s
  refine ⟨reply, hnext, ?_⟩
  rw [run, hsubmit]
  cases reply with
  | error reason => exact .inl ⟨by simp [TakenAs], _, rfl⟩
  | ok answer =>
    cases hid : item answer "Id" with
    | error reason => exact .inl ⟨by simp [TakenAs, hid], .broken reason, by simp only [hid]⟩
    | ok id =>
      obtain ⟨pending, last, rest, outcome, pauses, hsplit, hpending, hconcludes, hpoll⟩ := exists_poll id s.describes
        ⟨s.executes.drop 1, s.describes, s.calls ++ [.execute workgroup database sql (.ok answer)], s.pauses⟩
      rw [List.append_assoc, List.singleton_append] at hpoll
      exact .inr ⟨id, pending, last, rest, outcome, pauses, ⟨answer, rfl, hid⟩, hsplit, hpending, hconcludes,
        by simpa only [hid] using hpoll⟩

end Warehouse

open Warehouse in
/-- A statement is submitted once and asked about while it is pending, with a pause after each answer that tells so. It
returns exactly if it was taken under an id and the answers are pending until one tells that it is finished, which is the
description that is returned; whatever else comes is a failure to deliver. -/
theorem statement_awaited (l : Loader) (sql : Value) (s : State) :
    ∃ reply polls outcome s' journal, l.execute sql s = (outcome, s', journal) ∧ IsNext s.executes reply ∧
      s'.calls = s.calls ++ .execute l.workgroup l.database sql reply :: polls ∧
      (∀ c ∈ polls, ∃ id r, TakenAs id reply ∧ c = .describe id r) ∧
      (∀ c ∈ polls.dropLast, ∃ id r, c = .describe id r ∧ Tells pendingStatuses r) ∧
      ((∀ id, ¬ TakenAs id reply) → polls = [] ∧ s'.pauses = s.pauses ∧ ∃ f, outcome = .error f) ∧
      (∀ id, TakenAs id reply → ∃ pending last rest pauses, s.describes ++ [.ok done] = pending ++ last :: rest ∧
        (∀ r ∈ pending, Tells pendingStatuses r) ∧ Concludes last outcome pauses ∧
        polls = (pending ++ [last]).map (.describe id) ∧ s'.pauses = s.pauses + pending.length + pauses) ∧
      (∀ description, outcome = .ok description ↔
        ∃ id pending, TakenAs id reply ∧ Finishes (s.describes ++ [.ok done]) pending description) ∧
      (∀ id pending description, TakenAs id reply → Finishes (s.describes ++ [.ok done]) pending description →
        polls = pending.map (.describe id) ++ [.describe id (.ok description)] ∧ s'.pauses = s.pauses + pending.length) ∧
      ∀ f, outcome = .error f → Explained.kind f = .delivery := by
  obtain ⟨reply, hnext, hrun⟩ := run_cases l.workgroup l.database sql s
  have hexecute : ∃ journal, l.execute sql s =
      ((run l.workgroup l.database sql s).1, (run l.workgroup l.database sql s).2, journal) := by
    unfold Loader.execute
    rcases run l.workgroup l.database sql s with ⟨_ | _, _⟩ <;> exact ⟨_, rfl⟩
  obtain ⟨journal, hexecute⟩ := hexecute
  rw [hexecute]
  obtain ⟨hnone, f, hrun⟩ | ⟨id, pending, last, rest, outcome, pauses, htaken, hsplit, hpending, hconcludes, hrun⟩ := hrun
  · refine ⟨reply, [], _, _, journal, rfl, hnext, by rw [hrun], by simp, by simp, ?_, ?_, ?_, ?_, fun _ _ => rfl⟩
    · intro _
      rw [hrun]
      exact ⟨rfl, rfl, f, rfl⟩
    · intro id htaken
      exact absurd htaken (hnone id)
    · intro description
      rw [hrun]
      constructor
      · simp
      · rintro ⟨id, _, htaken, _⟩
        exact absurd htaken (hnone id)
    · intro id _ _ htaken
      exact absurd htaken (hnone id)
  · refine ⟨reply, _, _, _, journal, rfl, hnext, by rw [hrun], ?_, ?_, ?_, ?_, ?_, ?_, fun _ _ => rfl⟩
    · intro c hc
      obtain ⟨r, -, rfl⟩ := List.mem_map.mp hc
      exact ⟨id, r, htaken, rfl⟩
    · intro c hc
      rw [List.map_append, List.map_singleton, List.dropLast_concat] at hc
      obtain ⟨r, hr, rfl⟩ := List.mem_map.mp hc
      exact ⟨id, r, rfl, hpending r hr⟩
    · intro hnone
      exact absurd htaken (hnone id)
    · intro id' htaken'
      obtain rfl := htaken'.unique htaken
      rw [hrun]
      exact ⟨pending, last, rest, pauses, hsplit, hpending, hconcludes, rfl, rfl⟩
    · intro description
      rw [hrun, hconcludes.eq_ok_iff]
      constructor
      · rintro ⟨rfl, hfinished⟩
        exact ⟨id, pending, htaken, hpending, hfinished, rest, hsplit⟩
      · rintro ⟨_, _, _, hfinishes⟩
        obtain ⟨rfl, rfl⟩ := hfinishes.unique hsplit hpending hconcludes.not_pending
        exact ⟨rfl, hfinishes.2.1⟩
    · intro id' pending' description htaken' hfinishes
      obtain rfl := htaken'.unique htaken
      obtain ⟨rfl, rfl⟩ := hfinishes.unique hsplit hpending hconcludes.not_pending
      obtain rfl := (hconcludes.eq_ok_iff description).mpr ⟨rfl, hfinishes.2.1⟩
      rw [hrun, hconcludes.pauses_eq_zero, List.map_append]
      exact ⟨rfl, rfl⟩

end LogMill
