import LogMill.Kind
import LogMill.Number.Whole
import LogMill.Value.Display

namespace LogMill

inductive Setting.Fault where
  | notPositive (name shown : String)
  | notInteger (name shown : String)
  | noDestination
deriving DecidableEq

def Setting.Fault.message : Setting.Fault → String
  | notPositive name shown => name ++ " must be a positive integer, got " ++ shown
  | notInteger name shown => name ++ " must be an integer, got " ++ shown
  | noDestination => "S3_BUCKET and REDSHIFT_WORKGROUP must be set"

instance Setting.Fault.explained : Explained Setting.Fault := ⟨fun _ => .setting, Setting.Fault.message⟩

def requirePositive (name : String) (v : Value) : Except Setting.Fault Int :=
  match v with
  | .int n => if 0 < n then .ok n else .error (.notPositive name v.shown)
  | v => .error (.notPositive name v.shown)

def requirePositive? (name : String) (v : Value) : Except Setting.Fault (Option Int) :=
  match v with
  | .null => .ok none
  | v => (requirePositive name v).map some

end LogMill
