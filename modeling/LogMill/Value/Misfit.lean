import LogMill.Kind
import LogMill.Text.Marks
import LogMill.Text.Quoted
import LogMill.Value

namespace LogMill

inductive Misfit where
  | incomparable (sign first second : String)
  | operands (sign first second : String)
  | joined (kind other : String)
  | marks (f : Marks.Fault)
  | noCount (kind : String)
  | noTimes (kind : String)
  | noName (kind : String)
  | noMember (kind name : String)
  | noItems (kind : String)
  | position (container kind : String)
  | beyondIndex
  | wholeForm (kind : String)
  | noForm (kind : String)
  | notPath (kind : String)
  | noSeed
  | unknownSetting (setUp name : String)
deriving DecidableEq

namespace Misfit

def message : Misfit → String
  | incomparable sign first second =>
    Text.quoted sign ++ " not supported between instances of " ++ Text.quoted first ++ " and " ++ Text.quoted second
  | operands sign first second =>
    "unsupported operand type(s) for " ++ sign ++ ": " ++ Text.quoted first ++ " and " ++ Text.quoted second
  | joined kind other => "can only concatenate " ++ kind ++ " (not \"" ++ other ++ "\") to " ++ kind
  | marks f => f.message
  | noCount kind => Text.quoted kind ++ " object cannot be interpreted as an integer"
  | noTimes kind => "can't multiply sequence by non-int of type " ++ Text.quoted kind
  | noName kind => "unhashable type: " ++ Text.quoted kind
  | noMember kind name => Text.quoted kind ++ " object has no attribute " ++ Text.quoted name
  | noItems kind => Text.quoted kind ++ " object is not subscriptable"
  | position container kind => container ++ " indices must be integers or slices, not " ++ kind
  | beyondIndex => "cannot fit 'int' into an index-sized integer"
  | wholeForm kind => "Unknown format code 'd' for object of type " ++ Text.quoted kind
  | noForm kind => "unsupported format string passed to " ++ kind ++ ".__format__"
  | notPath kind => "expected str, bytes or os.PathLike object, not " ++ kind
  | noSeed => "The only supported seed types are: None,\nint, float, str, bytes, and bytearray."
  | unknownSetting setUp name => setUp ++ " got an unexpected keyword argument " ++ Text.quoted name

def kind : Misfit → Kind
  | marks f => f.kind
  | noMember _ _ => .member
  | beyondIndex => .index
  | wholeForm _ => .value
  | _ => .type

instance explained : Explained Misfit := ⟨kind, message⟩

end Misfit

namespace Value

def maxIndex : Int := 0x7FFFFFFFFFFFFFFF

def index (container : String) : Value → Except Misfit Int
  | int n => if -maxIndex - 1 ≤ n ∧ n ≤ maxIndex then .ok n else .error .beyondIndex
  | bool b => .ok (if b then 1 else 0)
  | v => .error (.position container v.kindName)

def count : Value → Except Misfit Int
  | int n => .ok n
  | bool b => .ok (if b then 1 else 0)
  | v => .error (.noCount v.kindName)

def row : Value → Except Misfit Int
  | int n => .ok n
  | bool b => .ok (if b then 1 else 0)
  | real _ => .error (.operands "&" "float" "int")
  | v@(text _) | v@(list _) => .error (.joined v.kindName "int")
  | v => .error (.operands "+" v.kindName "int")

def key? : Value → Except Misfit (Option String)
  | text s => .ok (some s)
  | v@(list _) | v@(object _) => .error (.noName v.kindName)
  | _ => .ok none

def start : Value → Except Misfit Int
  | int n => .ok n
  | bool b => .ok (if b then 1 else 0)
  | v@(text _) | v@(real _) => .error (.wholeForm v.kindName)
  | v => .error (.noForm v.kindName)

def onlyNames (setUp : String) (names : List String) (fields : List (String × Value)) : Except Misfit Unit :=
  match fields.find? fun (n, _) => !names.contains n with
  | none => .ok ()
  | some (n, _) => .error (.unknownSetting setUp n)

def trimmed : Value → Except Misfit String
  | text s => .ok (String.ofList (Text.trim (· = '/') s.toList))
  | v => .error (.noMember v.kindName "strip")

end Value

end LogMill
