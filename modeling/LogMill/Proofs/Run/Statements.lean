import LogMill.Proofs.Outcome
import LogMill.Proofs.Store.Clearing
import LogMill.Proofs.Warehouse.Polling

namespace LogMill

namespace Call

def Clears (bucket : Value) (place : String) : Call → Prop
  | paginator _ => True
  | list b keyPrefix => b = bucket ∧ keyPrefix = .text place
  | delete b _ _ => b = bucket
  | put _ _ _ _ | execute _ _ _ _ | describe _ _ => False

def finished? : Call → Option Value
  | describe _ (.ok description) => (Warehouse.item description "Status").toOption.bind fun status =>
    if Warehouse.isFinished status then some description else none
  | _ => none

end Call

namespace Store

theorem clear_calls (c : Client) (bucket : Value) (place : String) (calls : List Call) :
    ∃ cleared, (clear c bucket (.text place) calls).2.1 = calls ++ cleared ∧ (∀ a ∈ cleared, a.Clears bucket place) ∧
      ((∃ n, (clear c bucket (.text place) calls).1 = .ok n) → .list bucket (.text place) ∈ cleared) := by
  cases hpaginator : c.paginator with
  | some reason =>
    obtain ⟨journal, heq⟩ := clear_of_unlisted hpaginator bucket (.text place) calls
    exact ⟨[], by simp [heq], by simp, by simp [heq]⟩
  | none =>
    obtain ⟨emptied, asked, stop, journal, hempties, heq⟩ := clear_of_listed hpaginator bucket (.text place) calls
    refine ⟨_, congrArg (fun x => x.2.1) heq, ?_, by simp⟩
    have hasked : ∀ a ∈ asked, a.Clears bucket place := by
      intro a ha
      obtain ⟨keys, refusal, -, rfl⟩ := hempties.exists_delete ha
      rfl
    simpa [Call.Clears] using hasked

end Store

namespace Warehouse

def finished? (asked : List Call) : Option Value := asked.getLast?.bind Call.finished?

theorem Concludes.finished? {reply : Reply} {outcome : Except Fault Value} {pauses : Nat}
    (h : Concludes reply outcome pauses) (id : Value) : Call.finished? (.describe id reply) = outcome.toOption := by
  cases h with
  | unanswered reason => rfl
  | unclear description reason hitem => simp [Call.finished?, hitem, Except.toOption]
  | finished description hitem => simp [Call.finished?, hitem, isFinished, Value.text?, Except.toOption]
  | unsuccessful description status hitem hstatus =>
    have hunfinished : ¬ isFinished (.text status) := by
      rw [isFinished_iff]
      rintro ⟨⟩
      simp at hstatus
    simp [Call.finished?, hitem, hunfinished, Except.toOption]
  | unknown description status hitem hstatus =>
    have hunfinished : ¬ isFinished status := by
      rw [isFinished_iff]
      exact hstatus "FINISHED" (by simp)
    simp [Call.finished?, hitem, hunfinished, Except.toOption]

end Warehouse

namespace Loader

open Warehouse

def Submits (l : Loader) (sql : String) (asked : List Call) : Prop :=
  ∃ reply polls, asked = .execute l.workgroup l.database (.text sql) reply :: polls ∧
    ∀ c ∈ polls, ∃ id reply, c = .describe id reply

theorem copySql_source (table bucket keyPrefix : String) (role : Value) : ∃ front back,
    copySql table bucket keyPrefix role =
      front ++ "'s3://" ++ bucket ++ "/" ++ tablePrefix keyPrefix table ++ "'" ++ back := by
  have hbefore : ")\n        FROM '" = ")\n        FROM " ++ "'" := by decide
  have hquoted : "'s3://" = "'" ++ "s3://" := by decide
  have hbehind : "'\n        " = "'" ++ "\n        " := by decide
  refine ⟨"\n        COPY " ++ table ++ " (" ++ String.intercalate ", " Schema.names ++ ")\n        FROM ",
    "\n        " ++ (if role.isPresent then "IAM_ROLE '" ++ role.plain ++ "'" else "IAM_ROLE default") ++
      "\n        CSV IGNOREHEADER 1\n        TIMEFORMAT 'auto';\n        ", ?_⟩
  unfold copySql source
  rw [hbefore, hquoted, hbehind]
  simp only [String.append_assoc]

theorem run_calls (l : Loader) (sql : String) (s : State) :
    ∃ asked, (run l.workgroup l.database (.text sql) s).2.calls = s.calls ++ asked ∧ l.Submits sql asked ∧
      finished? asked = (run l.workgroup l.database (.text sql) s).1.toOption := by
  obtain ⟨reply, -, ⟨-, f, hrun⟩ | ⟨id, pending, last, rest, outcome, pauses, -, -, -, hconcludes, hrun⟩⟩ :=
    run_cases l.workgroup l.database (.text sql) s
  · rw [hrun]
    exact ⟨_, rfl, ⟨reply, [], rfl, by simp⟩, rfl⟩
  · rw [hrun]
    refine ⟨_, rfl, ⟨reply, _, rfl, ?_⟩, ?_⟩
    · intro c hc
      obtain ⟨r, -, rfl⟩ := List.mem_map.mp hc
      exact ⟨id, r, rfl⟩
    · rw [List.map_append, List.map_singleton, ← List.cons_append, finished?, List.getLast?_concat]
      exact hconcludes.finished? id

theorem execute_calls (l : Loader) (sql : String) (s : State) :
    ∃ asked, (l.execute (.text sql) s).2.1.calls = s.calls ++ asked ∧ l.Submits sql asked ∧
      finished? asked = (l.execute (.text sql) s).1.toOption := by
  obtain ⟨asked, hcalls, hsubmits, hfinished⟩ := l.run_calls sql s
  unfold execute
  cases hrun : run l.workgroup l.database (.text sql) s with
  | mk outcome s' =>
    rw [hrun] at hcalls hfinished
    cases outcome <;> exact ⟨asked, hcalls, hsubmits, hfinished⟩

theorem execute_finished (l : Loader) (sql : String) (description : Value)
    (h : item description "Status" = .ok (.text "FINISHED")) (rest : List Reply) (calls : List Call) (pauses : Nat) :
    ∃ calls', l.execute (.text sql) ⟨[], .ok description :: rest, calls, pauses⟩ =
      (.ok description, ⟨[], rest, calls', pauses⟩, []) := by
  have hid (s : String) : item (.object [("Id", .text s)]) "Id" = .ok (.text s) := rfl
  have hfinal : isFinal (.text "FINISHED") = true := rfl
  have hfinished : isFinished (.text "FINISHED") = true := rfl
  simp only [execute, run, submit, hid, poll, h, hfinal, ↓reduceIte, settled, hfinished]
  exact ⟨_, rfl⟩

/-- Whether statements are submitted one after the other, each only when the one before is finished. -/
structure InTurn (l : Loader) (sqls : List String) (runs : List (List Call)) : Prop where
  submits : List.Forall₂ l.Submits (sqls.take runs.length) runs
  turn : ∀ asked ∈ runs.dropLast, (finished? asked).isSome

end Loader

end LogMill
