import LogMill.Kind
import LogMill.Number.Shortest

/-!
Measured time. A clock is the sequence of its readings, in seconds; a duration is a whole number of
microseconds.
-/

namespace LogMill

abbrev Clock := Nat → Double

namespace Clock

def after (c : Clock) (n : Nat) : Clock := fun k => c (n + k)

def steady (step : Double) : Clock
  | 0 => .finite 0
  | n + 1 => steady step n + step

end Clock

inductive Duration.Fault where
  | whole (f : Double.Fault)
  | tooLarge
  | days (n : Int)
deriving DecidableEq

namespace Duration

def Fault.message : Fault → String
  | whole f => f.message
  | tooLarge => "Python int too large to convert to C int"
  | days n => "days=" ++ toString n ++ "; must have magnitude <= 999999999"

def Fault.kind : Fault → Kind
  | whole f => f.kind
  | tooLarge | days _ => .overflow

instance Fault.explained : Explained Fault := ⟨Fault.kind, Fault.message⟩

def dayMicros : Int := 86400000000

def maxDays : Int := 999999999

def ofMicros (n : Int) : Except Fault Int :=
  let days := n / dayMicros
  if days < -0x80000000 ∨ 0x7FFFFFFF < days then .error .tooLarge
  else if days < -maxDays ∨ maxDays < days then .error (.days days)
  else .ok n

def ofSeconds (seconds : Double) : Except Fault Int := do
  let whole ← seconds.truncate.mapError .whole
  let fraction := Double.ofRat (seconds.toRat?.getD 0 - whole) * .finite 1000000
  ofMicros (whole * 1000000 + Double.nearestEven (fraction.toRat?.getD 0))

end Duration

def millisecondsText (micros : Int) : String :=
  (Double.ofRat (micros / (1000000 : Rat)) * .finite 1000).wholeText

end LogMill
