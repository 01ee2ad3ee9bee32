import LogMill.Calendar.Flaw
import LogMill.Calendar.Word

namespace LogMill.Calendar

structure Draft where
  numbers : List Nat := []
  yearAt : Option Nat := none
  monthAt : Option Nat := none
  hasCentury : Bool := false
  weekday : Option Nat := none
  hour : Option Nat := none
  minute : Option Nat := none
  second : Option Nat := none
  micro : Option Nat := none
  zone : Option Token := none
  offset : Option Int := none
deriving Inhabited

namespace Draft

def withYear (d : Draft) (n : Nat) : Option Draft :=
  if d.yearAt.isSome then none
  else some { d with numbers := d.numbers ++ [n], yearAt := some d.numbers.length, hasCentury := true }

def withMonth (d : Draft) (n : Nat) : Option Draft :=
  if d.monthAt.isSome then none
  else some { d with numbers := d.numbers ++ [n], monthAt := some d.numbers.length }

def withDigits (d : Draft) (t : Token) : Option Draft := do
  let n ← Token.natural? t
  if 2 < t.length then d.withYear n else return { d with numbers := d.numbers ++ [n] }

def withNumeral (d : Draft) (x : Numeral) : Option Draft :=
  if x.exceeds 100 then d.withYear x.whole else some { d with numbers := d.numbers ++ [x.whole] }

def isLeap (year : Nat) : Bool := year % 4 = 0 && year % 100 ≠ 0 || year % 400 = 0

def daysOf (year month : Nat) : Nat :=
  if month = 2 then if isLeap year then 29 else 28
  else if [4, 6, 9, 11].contains month then 30
  else 31

def mayBeDay (d : Draft) (x : Numeral) : Bool :=
  let month := d.monthAt.bind fun i => d.numbers[i]?
  let year := (d.yearAt.bind fun i => d.numbers[i]?).getD 2000
  let last := (month.map (daysOf year)).getD 31
  1 ≤ x.whole && !x.exceeds last

def hourOfDay (half hour : Nat) : Nat :=
  if half = 1 ∧ hour < 12 then hour + 12 else if half = 0 ∧ hour = 12 then 0 else hour

structure Resolved where
  year : Option Nat := none
  month : Option Nat := none
  day : Option Nat := none
deriving DecidableEq

def bySize (monthAt : Option Nat) (isYearFirst : Bool) : List Nat → Option Resolved
  | [] => some {}
  | [a] =>
    if monthAt.isSome then some { month := a } else if 31 < a then some { year := a } else some { day := a }
  | [a, b] =>
    match monthAt with
    | some i =>
      let (month, other) := if i = 0 then (a, b) else (b, a)
      some (if 31 < other then { year := other, month } else { month, day := other })
    | none =>
      some (if 31 < a then { year := a, month := b }
        else if 31 < b then { month := a, year := b }
        else { month := a, day := b })
  | [a, b, c] =>
    some (match monthAt with
      | some 0 => if 31 < b then ⟨b, a, c⟩ else ⟨c, a, b⟩
      | some 1 => if 31 < a then ⟨a, b, c⟩ else ⟨c, b, a⟩
      | some _ => if 31 < b then ⟨b, c, a⟩ else ⟨a, c, b⟩
      | none =>
        if 31 < a ∨ isYearFirst then ⟨a, b, c⟩
        else if 12 < a then ⟨c, b, a⟩
        else ⟨c, a, b⟩)
  | _ => none

def resolve? (d : Draft) : Option Resolved :=
  let nth := fun i : Nat => d.numbers[i]?
  match d.numbers.length, d.yearAt, d.monthAt with
  | 1, some _, none => some { year := nth 0 }
  | 1, none, some _ => some { month := nth 0 }
  | 2, some i, some j => some { year := nth i, month := nth j }
  | 3, some i, some j => some ⟨nth i, nth j, nth (3 - i - j)⟩
  | _, y, m => bySize m (y = some 0) d.numbers

def presentYear : Nat := 2026

def fullYear (hasCentury : Bool) (year : Nat) : Nat :=
  if hasCentury ∨ 100 ≤ year then year
  else
    let n := presentYear / 100 * 100 + year
    if presentYear + 50 ≤ n then n - 100 else if n + 50 < presentYear then n + 100 else n

end Draft

end LogMill.Calendar
