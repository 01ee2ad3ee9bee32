import LogMill.Calendar.Draft

namespace LogMill.Calendar

namespace Draft

inductive Stop where
  | unreadable
  | noMonth
deriving DecidableEq, Repr

abbrev Step := Except Stop

def orStop {α : Type} (x : Option α) : Step α := x.elim (.error .unreadable) .ok

abbrev Tokens := Array Token

def unitAt? (ts : Tokens) (i : Nat) : Option Nat := (ts[i]?).bind Token.unit?

def isAt (ts : Tokens) (i : Nat) (t : Token) : Bool := ts[i]? = some t

def fillerAt (ts : Tokens) (i : Nat) : Bool := (ts[i]?).any Token.isFiller

def halfAt? (ts : Tokens) (i : Nat) : Option Nat := (ts[i]?).bind Token.half?

def tokenAt (ts : Tokens) (i : Nat) : Step Token := orStop ts[i]?

def unitFor? (ts : Tokens) (i : Nat) : Option (Nat × Nat) :=
  let isSpace := fun j => isAt ts j [' ']
  match unitAt? ts (i + 1) with
  | some u => some (i + 1, u)
  | none =>
    match if isSpace (i + 1) then unitAt? ts (i + 2) else none with
    | some u => some (i + 2, u)
    | none =>
      match if 0 < i then unitAt? ts (i - 1) else none with
      | some u => some (i, u + 1)
      | none =>
        if 1 < i ∧ i + 1 = ts.size ∧ isSpace (i - 1) then (unitAt? ts (i - 2)).map fun u => (i, u + 1) else none

def seconds? (t : Token) : Option (Nat × Nat) := do
  let front := t.takeWhile (· ≠ '.')
  let second ← Token.natural? front
  match t.drop front.length with
  | [] => return (second, 0)
  | _ :: ds => return (second, ← Token.natural? ((ds ++ List.replicate 6 '0').take 6))

def withUnit (d : Draft) (u : Nat) (t : Token) (x : Numeral) : Step Draft := do
  match u with
  | 0 =>
    let minute ← orStop x.sixtieths?
    return { d with hour := some x.whole, minute := minute.orElse fun _ => d.minute }
  | 1 => return { d with minute := some x.whole, second := ← orStop x.sixtieths? }
  | 2 =>
    let (second, micro) ← orStop (seconds? t)
    return { d with second := some second, micro := some micro }
  | _ => return d

def withClockDigits (d : Draft) (t : Token) : Step Draft := do
  let d := { d with hour := some (← orStop (Token.natural? (t.take 2))) }
  if t.length = 2 then return d
  let d := { d with minute := some (← orStop (Token.natural? ((t.drop 2).take 2))) }
  if t.length = 4 then return d
  let (second, micro) ← orStop (seconds? (t.drop 4))
  return { d with second := some second, micro := some micro }

def withDateDigits (d : Draft) (t : Token) : Step Draft := do
  let part := fun i n => (t.drop i).take n
  let d ← orStop ((d.withDigits (part 0 4)).bind fun d =>
    (d.withDigits (part 4 2)).bind fun d => d.withDigits (part 6 2))
  if t.length = 8 then return d
  let d := { d with hour := some (← orStop (Token.natural? (part 8 2))),
                    minute := some (← orStop (Token.natural? (part 10 2))) }
  if t.length = 12 then return d
  return { d with second := some (← orStop (Token.natural? (part 12 2))) }

def withColons (d : Draft) (ts : Tokens) (i : Nat) (x : Numeral) : Step (Nat × Draft) := do
  let minute ← orStop (Numeral.ofToken? (← tokenAt ts (i + 2)))
  let d := { d with hour := some x.whole, minute := some minute.whole, second := ← orStop minute.sixtieths? }
  if i + 4 < ts.size ∧ isAt ts (i + 3) [':'] then
    let (second, micro) ← orStop (seconds? (← tokenAt ts (i + 4)))
    return (i + 4, { d with second := some second, micro := some micro })
  else return (i + 2, d)

def withSeparators (d : Draft) (ts : Tokens) (i : Nat) : Step (Nat × Draft) := do
  let separator ← tokenAt ts (i + 1)
  let d ← orStop (d.withDigits (← tokenAt ts i))
  if !(i + 2 < ts.size) ∨ fillerAt ts (i + 2) then return (i + 1, d)
  let t ← tokenAt ts (i + 2)
  let d ←
    if t.all Token.isDigit then orStop (d.withDigits t)
    else
      match t.month? with
      | some m => orStop (d.withMonth m)
      | none => throw .noMonth
  if !isAt ts (i + 3) separator then return (i + 2, d)
  let t ← tokenAt ts (i + 4)
  return (i + 4, ← orStop ((t.month?).elim (d.withDigits t) d.withMonth))

def withNumber (d : Draft) (ts : Tokens) (i : Nat) (t : Token) (x : Numeral) : Step (Nat × Draft) := do
  let n := t.length
  let isOver := !(i + 1 < ts.size)
  if d.numbers.length = 3 ∧ (n = 2 ∨ n = 4) ∧ d.hour.isNone ∧
      (isOver ∨ isAt ts (i + 1) [' '] ∨ (unitAt? ts (i + 1)).isSome) then
    return (i, ← d.withClockDigits t)
  else if n = 6 ∨ 6 < n ∧ t.idxOf? '.' = some 6 then
    if d.numbers.isEmpty ∧ !t.contains '.' then
      let part := fun i => (t.drop i).take 2
      return (i, ← orStop ((d.withDigits (part 0)).bind fun d =>
        (d.withDigits (part 2)).bind fun d => d.withDigits (part 4)))
    else return (i, ← d.withClockDigits t)
  else if n = 8 ∨ n = 12 ∨ n = 14 then return (i, ← d.withDateDigits t)
  else
    match unitFor? ts i with
    | some (last, u) => return (last, ← d.withUnit u t x)
    | none =>
      if i + 2 < ts.size ∧ isAt ts (i + 1) [':'] then d.withColons ts i x
      else if [['-'], ['/'], ['.']].any (isAt ts (i + 1)) then d.withSeparators ts i
      else if isOver ∨ fillerAt ts (i + 1) then
        match halfAt? ts (i + 2) with
        | some half => return (i + 2, { d with hour := some (hourOfDay half x.whole) })
        | none => return (i + 1, ← orStop (d.withNumeral x))
      else
        match if x.whole < 24 then halfAt? ts (i + 1) else none with
        | some half => return (i + 1, { d with hour := some (hourOfDay half x.whole) })
        | none => if d.mayBeDay x then return (i, ← orStop (d.withNumeral x)) else throw .unreadable

def withMonthName (d : Draft) (ts : Tokens) (i m : Nat) : Step (Nat × Draft) := do
  let d ← orStop (d.withMonth m)
  match [['-'], ['/']].find? (isAt ts (i + 1)) with
  | some separator =>
    let d ← orStop (d.withDigits (← tokenAt ts (i + 2)))
    if isAt ts (i + 3) separator then return (i + 4, ← orStop (d.withDigits (← tokenAt ts (i + 4))))
    else return (i + 2, d)
  | none =>
    if i + 4 < ts.size ∧ isAt ts (i + 1) [' '] ∧ isAt ts (i + 3) [' '] ∧ (ts[i + 2]?).any Token.isOf then
      let t ← tokenAt ts (i + 4)
      if t.all Token.isDigit then
        return (i + 4, ← orStop (d.withYear (fullYear false (← orStop (Token.natural? t)))))
      else return (i + 4, d)
    else return (i, d)

def withOffset (d : Draft) (ts : Tokens) (i : Nat) (isAhead : Bool) : Step (Nat × Draft) := do
  let t ← tokenAt ts (i + 1)
  let number := fun (t : Token) => orStop (Token.natural? t)
  let (hours, minutes, last) ←
    if t.length = 4 then pure (← number (t.take 2), ← number (t.drop 2), i + 1)
    else if isAt ts (i + 2) [':'] then pure (← number t, ← number (← tokenAt ts (i + 3)), i + 3)
    else if t.length ≤ 2 then pure (← number t, 0, i + 1)
    else throw .unreadable
  let n : Int := hours * 3600 + minutes * 60
  let d := { d with offset := some (if isAhead then n else -n) }
  let j := last - 1
  let name := (ts[j + 4]?).getD []
  if j + 5 < ts.size ∧ fillerAt ts (j + 2) ∧ isAt ts (j + 3) ['('] ∧ isAt ts (j + 5) [')'] ∧
      3 ≤ name.length ∧ d.hour.isSome ∧ d.zone.isNone ∧ name.isZone then
    return (last + 4, { d with zone := some name })
  else return (last, d)

def withToken (d : Draft) (ts : Tokens) (i : Nat) (t : Token) : Step (Nat × Draft × Tokens) := do
  let keep := fun ((last, d) : Nat × Draft) => (last, d, ts)
  if t.isNoNumber then throw .unreadable
  match Numeral.ofToken? t with
  | some x => return keep (← d.withNumber ts i t x)
  | none =>
  match t.weekday?, t.month?, t.half? with
  | some w, _, _ => return (i, { d with weekday := some w }, ts)
  | none, some m, _ => return keep (← d.withMonthName ts i m)
  | none, none, some half =>
    match d.hour with
    | some hour =>
      if hour ≤ 12 then return (i, { d with hour := some (hourOfDay half hour) }, ts) else throw .unreadable
    | none => throw .unreadable
  | none, none, none =>
    if d.hour.isSome ∧ d.zone.isNone ∧ d.offset.isNone ∧ t.isZone then
      match (ts[i + 1]?).filter Token.isSign with
      | some s =>
        return (i, { d with zone := if t.isZero then none else some t },
          ts.setIfInBounds (i + 1) (if s = ['+'] then ['-'] else ['+']))
      | none => return (i, { d with zone := some t, offset := if t = ['z'] then some 0 else none }, ts)
    else if d.hour.isSome ∧ t.isSign then return keep (← d.withOffset ts i (t = ['+']))
    else if t.isFiller then return (i, d, ts)
    else throw .unreadable

def readFrom (fuel : Nat) (ts : Tokens) (i : Nat) (d : Draft) : Step Draft :=
  match fuel with
  | 0 => .ok d
  | fuel + 1 =>
    match ts[i]? with
    | none => .ok d
    | some t => do
      let (last, d, ts) ← d.withToken ts i t
      readFrom fuel ts (last + 1) d

def read (s : List Char) : Step Draft :=
  let ts := (tokens (s.filter (· ≠ '\x00'))).toArray
  readFrom ts.size ts 0 {}

end Draft

structure Free where
  year : Option Nat
  month : Option Nat
  day : Option Nat
  weekday : Option Nat
  hour : Option Nat
  minute : Option Nat
  second : Option Nat
  micro : Option Nat
  zone : Option Token
  offset : Option Int
deriving DecidableEq, Repr

namespace Free

def read (s : List Char) : Draft.Step Free := do
  let d ← Draft.read s
  let date ← Draft.orStop d.resolve?
  let isZero := d.offset = some 0 ∧ d.zone.isNone ∨ (d.zone.any fun t => t = ['Z'] ∨ t = ['z'])
  let (zone, offset) :=
    if isZero then (some "UTC".toList, some 0)
    else if d.offset ≠ some 0 ∧ d.zone.any Token.isZero then (d.zone, some 0)
    else (d.zone, d.offset)
  return ⟨date.year.map (Draft.fullYear d.hasCentury), date.month, date.day, d.weekday, d.hour, d.minute, d.second,
    d.micro, zone, offset⟩

def given (f : Free) : List Nat := [f.year, f.month, f.day, f.hour, f.minute, f.second, f.micro].filterMap id

def maxPart : Nat := 0x7FFFFFFF

def parts (f : Free) (other : Parts) : Parts :=
  ⟨f.year.getD other.year, f.month.getD other.month, f.day.getD other.day, f.hour.getD other.hour,
    f.minute.getD other.minute, f.second.getD other.second, f.micro.getD other.micro⟩

def moment (f : Free) (p : Parts) : Int :=
  let day := p.date.toDay
  let ahead := match f.weekday, f.day with
    | some w, none => ((w : Int) - (day + 3)) % 7
    | _, _ => 0
  p.moment + ahead * dayMillis

end Free

end LogMill.Calendar
