import LogMill.Proofs.Message.Composition

namespace LogMill

open Outcome

theorem Level.ofName?_name (level : Level) : ofName? level.name = some level := by cases level <;> decide

theorem Level.ofName?_eq_none {name : String} (hname : ∀ level : Level, level.name ≠ name) : ofName? name = none := by
  simp [ofName?, hname]

namespace Message

variable {table : Table} {level : Level} {row : Int} {message : String}

theorem toList_cut (s : String) : (cut s).toList = s.toList.take (min s.length maxLength) := by
  unfold cut
  split_ifs with h
  · rw [Nat.min_eq_left h, ← String.length_toList, List.take_length]
  · rw [Nat.min_eq_right (by omega), String.toList_ofList]

theorem length_cut (s : String) : (cut s).length = min s.length maxLength := by
  rw [← String.length_toList, toList_cut, List.length_take, String.length_toList]
  omega

theorem trace_eq (level : Level) (row : Int) :
    trace level row = if level.name = "ERROR" ∧ scatter row 11 % 100 < 70 then Trace.text row else "" := by
  have hlevel : level = .error ↔ level.name = "ERROR" := by cases level <;> decide
  exact if_congr (and_congr hlevel decide_eq_true_iff) rfl rfl

theorem ofValues_eq_ok : ofValues table (.text level.name) (.int row) = .ok message ↔
    synthesize table level row = .ok message := by
  have hlevel : Level.ofValue (.text level.name) = .ok level := by
    simp [Level.ofValue, Value.key?, Level.ofName?_name, Except.mapError, bind, Except.bind, pure, Except.pure]
  simp only [ofValues, bind_eq_ok, mapError_eq_ok, hlevel, Value.row, Except.ok.injEq, exists_eq_left']

theorem ofValues_unknown {name : String} (hname : ∀ level : Level, level.name ≠ name) (row : Value) :
    ofValues table (.text name) row = .error (.level (.unknown (Text.quoted name))) := by
  have hlevel : Level.ofValue (.text name) = .error (.unknown (Text.quoted name)) := by
    simp [Level.ofValue, Value.key?, Level.ofName?_eq_none hname, Value.shown, Except.mapError, bind, Except.bind,
      throw, throwThe, MonadExceptOf.throw]
  simp [ofValues, hlevel, Except.mapError, bind, Except.bind]

theorem length_synthesize (hmessage : synthesize table level row = .ok message) :
    targetLength ≤ message.length ∧ message.length ≤ maxLength := by
  obtain ⟨body, count, -, hcount, rfl⟩ := synthesize_eq_ok.mp hmessage
  have hreached : targetLength ≤ (extended level row body count).length := hcount.1
  rw [length_cut]
  exact ⟨Nat.le_min.mpr ⟨hreached, by decide⟩, Nat.min_le_right _ _⟩

end Message

/-- Of a filled template, the trace that an error of some rows has and the details in their circle, as many as it takes
to get to 1500 characters, a message is the first 1650 characters. -/
theorem message_measured (table : Table) (row : Int) :
    (∀ (level : Level) (body : String), (table.choose level row).fill (Placeholder.value row) = .ok body →
      ∃ message, Message.ofValues table (.text level.name) (.int row) = .ok message) ∧
    (∀ (level : Level) (message : String), Message.ofValues table (.text level.name) (.int row) = .ok message →
      ∃ (body : String) (whole : Nat → String) (count : Nat),
        (table.choose level row).fill (Placeholder.value row) = .ok body ∧
        (∀ n, whole n = body ++
          (if level.name = "ERROR" ∧ scatter row 11 % 100 < 70 then Trace.text row else "") ++
          Detail.first (Placeholder.value row) (scatter row 14) n) ∧
        IsLeast {n | 1500 ≤ (whole n).length} count ∧
        message.toList = (whole count).toList.take (min (whole count).length 1650) ∧
        1500 ≤ message.length ∧ message.length ≤ 1650) ∧
    ∀ name : String, (∀ level : Level, level.name ≠ name) →
      ∃ f, Message.ofValues table (.text name) (.int row) = .error f ∧ f.kind = .value ∧
        f.message = "Unknown log level: " ++ Text.quoted name := by
  simp only [Message.ofValues_eq_ok]
  refine ⟨fun level body hbody => Message.exists_synthesize_iff.mpr ⟨body, hbody⟩, ?_, ?_⟩
  · intro level message hmessage
    have hlength := Message.length_synthesize hmessage
    obtain ⟨body, count, hbody, hcount, rfl⟩ := Message.synthesize_eq_ok.mp hmessage
    refine ⟨body, Message.extended level row body, count, hbody, ?_, hcount, Message.toList_cut _, hlength⟩
    intro n
    rw [Message.extended, Message.trace_eq]
  · intro name hname
    exact ⟨_, Message.ofValues_unknown hname _, rfl, rfl⟩

end LogMill
