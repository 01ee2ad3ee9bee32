import LogMill.Row.Rule
import LogMill.Proofs.Outcome

namespace LogMill.Message

open Outcome

theorem exists_synthesize_iff {table : Table} {level : Level} {row : Int} :
    (∃ s, synthesize table level row = .ok s) ↔
      ∃ body, (table.choose level row).fill (Placeholder.value row) = .ok body := by
  simp only [synthesize, whole, map_eq_ok, bind_eq_ok]
  constructor
  · rintro ⟨_, _, ⟨body, hbody, _⟩, _⟩
    exact ⟨body, hbody⟩
  · rintro ⟨body, hbody⟩
    exact ⟨_, _, ⟨body, hbody, rfl⟩, rfl⟩

theorem exists_messageOf_iff {table : Table} {level : Level} {row : Int} :
    (∃ v, Rule.messageOf table level row = .ok v) ↔
      ∃ body, (table.choose level row).fill (Placeholder.value row) = .ok body := by
  rw [← exists_synthesize_iff]
  simp only [Rule.messageOf, mapError_eq_ok, map_eq_ok]
  constructor
  · rintro ⟨_, s, hs, _⟩
    exact ⟨s, hs⟩
  · rintro ⟨s, hs⟩
    exact ⟨_, s, hs, rfl⟩

end LogMill.Message
