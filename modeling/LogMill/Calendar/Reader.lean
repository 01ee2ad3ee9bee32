import LogMill.Calendar.Delimited

namespace LogMill.Calendar

def digitsValue (ds : List Char) : Nat := ds.foldl (fun n c => 10 * n + (c.toNat - 48)) 0

def digits? (least most : Nat) (s : List Char) : Option (Nat × List Char) :=
  let taken := (s.takeWhile Char.isDigit).take most
  if taken.length < least then none else some (digitsValue taken, s.drop taken.length)

def within? (least low high : Nat) (s : List Char) : Option (Nat × List Char) :=
  (digits? least 2 s).filter fun (n, _) => low ≤ n && n ≤ high

def after? (p : Char → Bool) : List Char → Option (List Char)
  | c :: s => if p c then some s else none
  | [] => none

def isSeparator (c : Char) : Bool := c = '-' || c = '/' || c = '.' || c = '\\' || c = ' '

def year? (s : List Char) : Option (Int × List Char) :=
  let t := s.dropWhile isGap
  let isNegative := s.head? = some '-'
  let t := if t.head? = some '-' then t.drop 1 else t
  if t.isEmpty then none
  else if isNegative then
    let ds := t.takeWhile Char.isDigit
    some (-(digitsValue ds : Int), t.drop ds.length)
  else some (((digits? 4 4 t).map fun (n, t) => ((n : Int), t)).getD (0, t))

def date? (year : Int) (s : List Char) : Option (Date × List Char) := do
  match s with
  | [] => return (⟨year, 1, 1⟩, [])
  | c :: _ =>
    if c.isDigit then
      let (month, t) ← within? 2 1 12 s
      let (day, t) ← within? 2 1 31 t
      return (⟨year, month, day⟩, t)
    else
      let t ← after? isSeparator s
      let (month, t) ← within? 1 1 12 t
      if t.isEmpty then return (⟨year, month, 1⟩, [])
      let (day, t) ← within? 1 1 31 (← after? (· = c) t)
      return (⟨year, month, day⟩, t)

def maxFraction : Nat := 18

def fraction? (s : List Char) : Option (Nat × Bool × List Char) :=
  let ds := s.takeWhile Char.isDigit
  if maxFraction < ds.length then none
  else some (digitsValue ((ds ++ ['0', '0', '0']).take 3), 6 < ds.length, s.drop ds.length)

def clock? (s : List Char) : Option (Nat × Bool × List Char) := do
  let (hour, t) ← within? 1 0 23 s
  let isShort := s.length = t.length + 1
  let hasColon := t.head? = some ':'
  let isOver := if hasColon then false else !(t.head?.any Char.isDigit)
  if isOver then if isShort then none else return (hour * 3600000, false, t)
  let least := if hasColon then 1 else 2
  let next := fun t : List Char => if hasColon then after? (· = ':') t else some t
  let (minute, t) ← within? least 0 59 (← next t)
  let upToMinute := (hour * 60 + minute) * 60000
  let more := if hasColon then t.head? = some ':' else t.head?.any Char.isDigit
  if !more then return (upToMinute, false, t)
  let (second, t) ← within? least 0 59 (← next t)
  let upToSecond := upToMinute + second * 1000
  match t with
  | '.' :: t =>
    let (ms, isFine, t) ← fraction? t
    return (upToSecond + ms, isFine, t)
  | t => return (upToSecond, false, t)

def zone? (s : List Char) : Option (Option Int) := do
  let ended := fun (offset : Option Int) (s : List Char) => if s.all isGap then some offset else none
  match s.dropWhile isGap with
  | [] => return none
  | c :: t =>
    if c = 'Z' then ended (some 0) t
    else if c = '+' ∨ c = '-' then
      let offset := fun (n : Nat) => some (if c = '-' then -(n : Int) else n)
      let (hours, t) ← within? 1 0 23 t
      if t.isEmpty then return offset (hours * 3600)
      let (minutes, t) ← within? 1 0 59 (if t.head? = some ':' then t.drop 1 else t)
      ended (offset (hours * 3600 + minutes * 60)) t
    else none

def plain? (s : List Char) : Option Reading := do
  let (year, s) ← year? s
  let (date, s) ← date? year s
  let day := date.toDay
  if Date.ofDay day ≠ date then none
  if s.isEmpty then return ⟨day * dayMillis, none, false⟩
  let (ms, isFine, s) ← clock? (← after? (fun c => c = 'T' || c = ' ') s)
  return ⟨day * dayMillis + ms, ← zone? s, isFine⟩

end LogMill.Calendar
