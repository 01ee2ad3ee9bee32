import LogMill.Number.Whole

namespace LogMill

structure Date where
  year : Int
  month : Nat
  day : Nat
deriving DecidableEq, Repr

namespace Date

def epoch : Int := 719468

def periodDays : Int := 146097

def ofDay (n : Int) : Date :=
  let day := n + epoch
  let inPeriod := (day % periodDays).toNat
  let years := (inPeriod - inPeriod / 1460 + inPeriod / 36524 - inPeriod / 146096) / 365
  let inYear := inPeriod - (365 * years + years / 4 - years / 100)
  let months := (5 * inYear + 2) / 153
  let month := if months < 10 then months + 3 else months - 9
  ⟨day / periodDays * 400 + years + (if month ≤ 2 then 1 else 0), month, inYear - (153 * months + 2) / 5 + 1⟩

def toDay (d : Date) : Int :=
  let year := if d.month ≤ 2 then d.year - 1 else d.year
  let years := (year % 400).toNat
  let months := if d.month ≤ 2 then d.month + 9 else d.month - 3
  year / 400 * periodDays + (365 * years + years / 4 - years / 100 + (153 * months + 2) / 5 + d.day - 1 : Nat) -
    epoch

end Date

namespace Calendar

def dayMillis : Int := 86400000

def seconds (moment : Int) : String :=
  let date := Date.ofDay (moment / dayMillis)
  let t := (moment % dayMillis).toNat
  toString date.year ++ "-" ++ Whole.padded 2 date.month ++ "-" ++ Whole.padded 2 date.day ++ " " ++
    Whole.padded 2 (t / 3600000) ++ ":" ++ Whole.padded 2 (t / 60000 % 60) ++ ":" ++
    Whole.padded 2 (t / 1000 % 60)

/-- A moment as `YYYY-MM-DD HH:MM:SS.ffffff`, of which the last three digits are zeros. -/
def text (moment : Int) : String :=
  let date := Date.ofDay (moment / dayMillis)
  let t := (moment % dayMillis).toNat
  Whole.padded 4 date.year ++ "-" ++ Whole.padded 2 date.month ++ "-" ++ Whole.padded 2 date.day ++ " " ++
    Whole.padded 2 (t / 3600000) ++ ":" ++ Whole.padded 2 (t / 60000 % 60) ++ ":" ++
    Whole.padded 2 (t / 1000 % 60) ++ "." ++ Whole.padded 3 (t % 1000) ++ "000"

end Calendar

end LogMill
