import LogMill.Template.Phrase

namespace LogMill.Detail

def fragments : Vector Phrase 6 := #v[
  [" Context: user=", .user, " ip=", .ip, " request=", .id, " service=", .service, "."],
  [" Metrics: latency=", .time, "ms rows=", .count, " bytes=", .size, " status=", .status, "."],
  [" Storage: table=", .table, " affected=", .count, " flush=", .time, "ms size=", .size, "."],
  [" Network: peer=", .ip, " upstream=", .service, " rtt=", .time, "ms correlation=", .id, "."],
  [" Audit: actor=", .user, " action=write target=", .table, " outcome=", .status, "."],
  [" Queue: depth=", .count, " oldest=", .time, "ms consumer=", .service, " message=", .id, "."]]

def fragment (values : Placeholder → String) (n : Nat) : String := (pick fragments n).fill values

theorem startsWithText_fragments : ∀ k : Fin 6, fragments[k].startsWithText := by decide

theorem fragment_length_pos (values : Placeholder → String) (n : Nat) : 0 < (fragment values n).length :=
  Phrase.length_fill_pos (startsWithText_fragments ⟨n % 6, Nat.mod_lt _ (by decide)⟩) values

def padding (values : Placeholder → String) (n missing : Nat) : List String :=
  if missing = 0 then []
  else fragment values n :: padding values (n + 1) (missing - (fragment values n).length)
termination_by missing
decreasing_by
  have := fragment_length_pos values n
  omega

end LogMill.Detail
