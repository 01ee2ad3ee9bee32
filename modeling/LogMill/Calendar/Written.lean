import LogMill.Calendar.Free
import LogMill.Calendar.Reader
import LogMill.Kind

namespace LogMill.Calendar

inductive Refusal where
  | unlikely (text : String)
  | pair (first second : Nat)
  | quarter (text : String)
  | bare (flaw : Flaw)
  | flawed (flaw : Flaw) (text : String)
  | unknown (text : String)
  | empty (text : String)
  | noMonth
  | tooGreat (text : String)
  | offset (text : String)
  | zone (text name : String)
  | clock (what text : String)
  | clockTooGreat (isLong : Bool)
deriving DecidableEq

namespace Refusal

def message : Refusal → String
  | unlikely text => "Given date string \"" ++ text ++ "\" not likely a datetime"
  | pair first second => "Invalid date specified (" ++ toString first ++ "/" ++ toString second ++ ")"
  | quarter text => "Incorrect quarterly string is given, quarter must be between 1 and 4: " ++ text
  | bare flaw => flaw.message
  | flawed flaw text => flaw.message ++ ": " ++ text
  | unknown text => "Unknown datetime string format, unable to parse: " ++ text
  | empty text => "Unable to parse datetime string: " ++ text
  | noMonth => "'>' not supported between instances of 'NoneType' and 'int'"
  | tooGreat text => "Parsing \"" ++ text ++ "\" to datetime overflows"
  | offset text =>
    "Parsed string \"" ++ text ++ "\" gives an invalid tzoffset, which must be between " ++
      "-timedelta(hours=24) and timedelta(hours=24)"
  | zone text name => "Parsed string \"" ++ text ++ "\" included an un-recognized timezone \"" ++ name ++ "\"."
  | clock what text => what ++ ": " ++ text
  | clockTooGreat isLong =>
    if isLong then "Python int too large to convert to C long" else "signed integer is greater than maximum"

def kind : Refusal → Kind
  | unlikely _ | bare _ | offset _ | zone _ _ => .value
  | pair _ _ | quarter _ | flawed _ _ | unknown _ | empty _ => .date
  | noMonth => .type
  | tooGreat _ => .moment
  | clock _ _ => .clock
  | clockTooGreat _ => .overflow

instance explained : Explained Refusal := ⟨kind, message⟩

end Refusal

def maxOffset : Nat := 86400

namespace Free

def isUniversal (f : Free) : Bool := (f.zone.any fun t => String.ofList t = "UTC") || f.offset = some 0

def reading (s : String) (f : Free) : Except Refusal Reading := do
  let p := f.parts {}
  if f.given.isEmpty then throw (.empty s)
  if f.given.any (maxPart < ·) then throw (.tooGreat s)
  if let some flaw := p.flaw? then throw (.flawed flaw s)
  let moment := f.moment p
  if f.isUniversal then return ⟨moment, some 0, false⟩
  match f.offset, f.zone with
  | some n, _ => if maxOffset ≤ n.natAbs then throw (.offset s) else return ⟨moment, some n, false⟩
  | none, some name => throw (.zone s (String.ofList name))
  | none, none => return ⟨moment, none, false⟩

/-- The moment of a free form that leaves the date to the day on which it is read. No zone is refused. -/
def clockReading (today : Parts) (s : String) (f : Free) : Except Refusal Reading := do
  let p := f.parts today
  if f.given.isEmpty then throw (.clock "String does not contain a date" s)
  let month := f.month.getD today.month
  if f.day.isNone ∧ (month = 0 ∨ 12 < month) then
    throw (.clock ("bad month number " ++ toString month ++ "; must be 1-12") s)
  if let some n := f.given.find? (maxPart < ·) then throw (.clockTooGreat (0x7FFFFFFFFFFFFFFF < n))
  if let some flaw := p.flaw? then throw (.clock flaw.message s)
  let offset := if f.isUniversal then some 0 else f.offset
  return ⟨f.moment p, offset, false⟩

end Free

def today : Parts := { year := 1970 }

def readFree (s : String) : Except Refusal Reading :=
  match Free.read s.toList with
  | .error .unreadable => .error (.unknown s)
  | .error .noMonth => .error .noMonth
  | .ok f => f.reading s

def readClock (s : String) : Except Refusal Reading :=
  match Free.read s.toList with
  | .error .unreadable => .error (.clock "Unknown string format" s)
  | .error .noMonth => .error .noMonth
  | .ok f => f.clockReading today s

def readShort? (s : List Char) : Option (Except Refusal Reading) :=
  let start := fun (year : Int) (month : Nat) => Reading.mk ((Date.mk year month 1).toDay * dayMillis) none false
  match Delimited.read? s with
  | some (.pair first second) => some (.error (.pair first second))
  | some (.date p) => some ((p.flaw?).elim (.ok ⟨p.moment, none, false⟩) fun flaw => .error (.bare flaw))
  | none =>
    match lone? s with
    | some year => some (.ok (start year 1))
    | none =>
      let s := s.map Char.toUpper
      (quarterAndYear? s).bind fun (quarter, year) =>
        if quarter < 1 ∨ 4 < quarter then some (.error (.quarter (String.ofList s)))
        else if 1 ≤ year ∧ year ≤ 9999 then some (.ok (start year (3 * quarter.toNat - 2)))
        else none

def read (s : String) : Except Refusal Reading :=
  match plain? s.toList with
  | some reading => .ok reading
  | none =>
    if s = "now" ∨ s = "today" then .ok ⟨today.moment, none, false⟩
    else if isUnlikely s.toList then .error (.unlikely s)
    else if beginsWithClock s.toList then readClock s
    else (readShort? s.toList).getD (readFree s)

end LogMill.Calendar
