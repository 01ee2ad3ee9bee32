import LogMill.Value

namespace LogMill

abbrev Reply := Except String Value

inductive Call where
  | paginator (name : String)
  | list (bucket keyPrefix : Value)
  | delete (bucket : Value) (keys : List String) (refusal : Option String)
  | put (bucket : Value) (key body : String) (refusal : Option String)
  | execute (workgroup database sql : Value) (reply : Reply)
  | describe (id : Value) (reply : Reply)

namespace Call

def isStatement : Call → Bool
  | execute _ _ _ _ | describe _ _ => true
  | paginator _ | list _ _ | delete _ _ _ | put _ _ _ _ => false

def puts (calls : List Call) : List (Value × String × String) :=
  calls.filterMap fun
    | put bucket key body none => some (bucket, key, body)
    | _ => none

end Call

end LogMill
