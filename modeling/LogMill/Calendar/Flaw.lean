import LogMill.Calendar

namespace LogMill.Calendar

inductive Flaw where
  | year (n : Nat)
  | month
  | day
  | hour
  | minute
  | second
deriving DecidableEq, Repr

def Flaw.message : Flaw → String
  | year n => "year " ++ toString n ++ " is out of range"
  | month => "month must be in 1..12"
  | day => "day is out of range for month"
  | hour => "hour must be in 0..23"
  | minute => "minute must be in 0..59"
  | second => "second must be in 0..59"

structure Parts where
  year : Nat := 1
  month : Nat := 1
  day : Nat := 1
  hour : Nat := 0
  minute : Nat := 0
  second : Nat := 0
  micro : Nat := 0
deriving DecidableEq, Repr

namespace Parts

def date (p : Parts) : Date := ⟨p.year, p.month, p.day⟩

def flaw? (p : Parts) : Option Flaw :=
  if p.year = 0 ∨ 9999 < p.year then some (.year p.year)
  else if p.month = 0 ∨ 12 < p.month then some .month
  else if Date.ofDay p.date.toDay ≠ p.date then some .day
  else if 23 < p.hour then some .hour
  else if 59 < p.minute then some .minute
  else if 59 < p.second then some .second
  else none

def moment (p : Parts) : Int :=
  p.date.toDay * dayMillis + ((p.hour * 60 + p.minute) * 60 + p.second : Nat) * 1000 + (p.micro / 1000 : Nat)

end Parts

structure Reading where
  moment : Int
  offset : Option Int := none
  isFine : Bool := false
deriving DecidableEq, Repr

end LogMill.Calendar
