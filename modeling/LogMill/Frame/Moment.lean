import LogMill.Calendar.Written
import LogMill.Frame.Series
import LogMill.Number.Decimal

namespace LogMill

namespace Moment

inductive Precision where
  | milli
  | micro
  | nano
deriving DecidableEq

namespace Precision

def perMilli : Precision → Int
  | milli => 1
  | micro => 1000
  | nano => 1000000

def name : Precision → String
  | milli => "millisecond"
  | micro => "microsecond"
  | nano => "nanosecond"

def finer (p q : Precision) : Precision := if p.perMilli ≤ q.perMilli then q else p

def holds (p : Precision) (n : Int) : Bool :=
  SeriesType.minWhole ≤ n * p.perMilli && n * p.perMilli ≤ SeriesType.maxWhole

end Precision

inductive Fault where
  | tooFar (precision : Precision) (shown : String)
  | unconvertible (shown : Option String)
  | noMoment (kind : String)
  | refused (r : Calendar.Refusal)
  | zoned
  | mixedZones
  | beyondNano
deriving DecidableEq

def Fault.message : Fault → String
  | tooFar precision shown => "Out of bounds " ++ precision.name ++ " timestamp: " ++ shown
  | unconvertible (some shown) => "cannot convert input " ++ shown ++ " with the unit 'ms'"
  | unconvertible none => "cannot convert input with unit 'ms'"
  | noMoment kind => "<class " ++ Text.quoted kind ++ "> is not convertible to datetime"
  | refused r => r.message
  | zoned =>
    "Cannot use .astype to convert from timezone-aware dtype to timezone-naive dtype. Use " ++
      "obj.tz_localize(None) or obj.tz_convert('UTC').tz_localize(None) instead."
  | mixedZones =>
    "Mixed timezones detected. Pass utc=True in to_datetime or tz='UTC' in DatetimeIndex to convert to a " ++
      "common timezone."
  | beyondNano =>
    "Cannot convert Timestamp to nanoseconds without overflow. Use `.asm8.view('i8')` to cast represent " ++
      "Timestamp in its own unit (here, ms)."

def Fault.kind : Fault → Kind
  | tooFar _ _ | unconvertible _ => .moment
  | noMoment _ | zoned => .type
  | refused r => r.kind
  | mixedZones => .value
  | beyondNano => .overflow

instance Fault.explained : Explained Fault := ⟨Fault.kind, Fault.message⟩

def ofWhole (n : Int) : Except Fault Value :=
  if n = SeriesType.minWhole then .ok .null
  else if Precision.micro.holds n then .ok (.int n)
  else .error (.tooFar .micro (Calendar.seconds n))

def whole? : Value → Option Int
  | .real x => x.toRat?.bind fun q => if q.den = 1 then some q.num else none
  | _ => none

def isWhole (v : Value) : Bool :=
  SeriesType.isMissing v ||
    match whole? v with
    | some n => SeriesType.minWhole ≤ n && n ≤ SeriesType.maxWhole
    | none => false

def wholePart (q : Rat) : Int := if q < 0 then -(-q).floor else q.floor

def millis (q : Rat) : Int :=
  wholePart q + (Double.nearestEven ((q - wholePart q) * 1000000)).fdiv 1000000

inductive Said where
  | missing
  | number (whole millis : Int) (shown : String) (precision : Precision)
  | text (reading : Calendar.Reading) (s : String)

def missingTexts : List String := ["", "NaT", "nat", "NAT", "nan", "NaN", "NAN"]

namespace Said

def ofValue : Value → Except Fault Said
  | .null => .ok missing
  | .int n =>
    if n = SeriesType.minWhole then .ok missing else .ok (number n n (toString n) .milli)
  | .real x =>
    match x with
    | .nan => .ok missing
    | .infinite _ => .error (.unconvertible x.text)
    | x =>
      let q := x.toRat?.getD 0
      if q = SeriesType.minWhole then .ok missing else .ok (number (wholePart q) (millis q) x.text .nano)
  | .text s =>
    if missingTexts.contains s then .ok missing
    else
      match Calendar.read s with
      | .ok reading => .ok (text reading s)
      | .error r => .error (.refused r)
  | v => .error (.noMoment v.kindName)

def precision : Said → Precision
  | missing => .milli
  | number _ _ _ p => p
  | text reading _ => if reading.isFine then .nano else .micro

def keep (p : Precision) (said : Said) : Except Fault Unit :=
  match said with
  | missing => .ok ()
  | number whole _ shown _ =>
    if Precision.milli.holds whole ∧ p.holds whole then .ok () else .error (.unconvertible shown)
  | text reading s =>
    if !said.precision.holds reading.moment then
      .error (.tooFar said.precision (Calendar.seconds reading.moment))
    else if !p.holds reading.moment then .error (.tooFar p s)
    else .ok ()

def value : Said → Value
  | missing => .null
  | number _ n _ _ => .int n
  | text reading _ => .int reading.moment

def offset? : Said → Option Int
  | text reading _ => reading.offset
  | _ => none

def isMissing : Said → Bool
  | missing => true
  | _ => false

end Said

def listen (p : Precision) : List Value → Except Fault (Precision × List Said)
  | [] => .ok (p, [])
  | v :: cells => do
    let said ← Said.ofValue v
    let p := p.finer said.precision
    said.keep p
    let (p, rest) ← listen p cells
    return (p, said :: rest)

def ofMixed (cells : List Value) : Except Fault (List Value) := do
  let (p, said) ← listen .milli cells
  said.forM fun x => x.keep p
  let there := said.filter fun x => !x.isMissing
  match there.filterMap Said.offset? with
  | [] => return said.map Said.value
  | offset :: _ => throw (if there.all fun x => x.offset? = some offset then .zoned else .mixedZones)

def ofReals (cells : List Value) : Except Fault (List Value) :=
  cells.mapM fun
    | .real x =>
      match x with
      | .nan => .ok .null
      | .infinite _ => .error (.unconvertible none)
      | x =>
        let q := x.toRat?.getD 0
        if Precision.nano.holds (wholePart q) then .ok (.int (millis q)) else .error (.unconvertible none)
    | _ => .ok .null

def ofCells (t : SeriesType) (cells : List Value) : Except Fault (List Value) :=
  match t with
  | .whole => cells.mapM fun
    | .int n => ofWhole n
    | _ => .ok .null
  | .natural => if cells = [] then .ok [] else .error (.unconvertible none)
  | .real =>
    if cells.all isWhole then cells.mapM fun v => ((whole? v).map ofWhole).getD (.ok .null)
    else ofReals cells
  | _ => ofMixed cells

def stamp : Value → Except Fault Int
  | .int n => if Precision.nano.holds n then .ok n else .error .beyondNano
  | _ => .ok (SeriesType.minWhole.fdiv Precision.nano.perMilli)

end Moment

end LogMill
