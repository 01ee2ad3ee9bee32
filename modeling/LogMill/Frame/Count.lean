import LogMill.Frame.Series
import LogMill.Kind
import LogMill.Number.Whole

namespace LogMill

inductive Count.Fault where
  | notFinite
  | notNumber
  | infinite
  | tooLarge
  | noCount (kind : String)
  | unreadable (shown : String)
  | tooManyDigits (digits : Nat)
deriving DecidableEq

namespace Count

def Fault.message : Fault → String
  | notFinite =>
    "Cannot convert non-finite values (NA or inf) to integer. Replace or remove non-finite values or cast to " ++
      "an integer type that supports these values (e.g. 'Int64')"
  | notNumber => "cannot convert float NaN to integer"
  | infinite => "cannot convert float infinity to integer"
  | tooLarge => "Python int too large to convert to C long"
  | noCount kind =>
    "int() argument must be a string, a bytes-like object or a real number, not " ++ Text.quoted kind
  | unreadable shown => "invalid literal for int() with base 10: " ++ shown
  | tooManyDigits digits =>
    "Exceeds the limit (4300 digits) for integer string conversion: value has " ++ toString digits ++
      " digits; use sys.set_int_max_str_digits() to increase the limit"

def Fault.kind : Fault → Kind
  | notFinite => .notFinite
  | infinite | tooLarge => .overflow
  | noCount _ => .type
  | _ => .value

instance Fault.explained : Explained Fault := ⟨Fault.kind, Fault.message⟩

def ofWhole (n : Int) : Except Fault Value :=
  if SeriesType.minWhole ≤ n ∧ n ≤ SeriesType.maxWhole then .ok (.int n) else .error .tooLarge

def cut (q : Rat) : Int := if q < 0 then -(-q).floor else q.floor

def maxShown : Nat := 200

def readText (s : String) : Except Fault Int :=
  match Whole.read s.toList with
  | some n => .ok n
  | none =>
    match Whole.countDigits s.toList with
    | some digits => .error (.tooManyDigits digits)
    | none => .error (.unreadable (String.ofList ((Text.quoted s).toList.take maxShown)))

def numberOf (t : SeriesType) : Value → Except Fault Int
  | .int n => .ok n
  | .bool b => .ok (if b then 1 else 0)
  | .real x =>
    match x with
    | .nan => .error .notNumber
    | .infinite _ => .error .infinite
    | x => .ok (cut (x.toRat?.getD 0))
  | .text s => readText s
  | .null => .error (if t = .text then .notNumber else .noCount "NoneType")
  | v => .error (.noCount v.kindName)

def ofValue (t : SeriesType) (v : Value) : Except Fault Value := do ofWhole (← numberOf t v)

def ofReal (x : Double) : Value :=
  let n := cut (x.toRat?.getD 0)
  .int (if SeriesType.minWhole ≤ n ∧ n ≤ SeriesType.maxWhole then n else SeriesType.minWhole)

def isFinite : Value → Bool
  | .real x => x.toRat?.isSome
  | _ => false

def ofCells (t : SeriesType) (cells : List Value) : Except Fault (List Value) :=
  match t with
  | .natural => .ok (cells.map fun
    | .int n => .int (if SeriesType.maxWhole < n then n - (SeriesType.maxNatural + 1) else n)
    | v => v)
  | .real =>
    if cells.all isFinite then .ok (cells.map fun
      | .real x => ofReal x
      | v => v)
    else .error .notFinite
  | t => cells.mapM (ofValue t)

end Count

end LogMill
