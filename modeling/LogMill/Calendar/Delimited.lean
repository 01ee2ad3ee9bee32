import LogMill.Calendar.Flaw
import LogMill.Number.Decimal

namespace LogMill.Calendar

def fixed? (s : List Char) : Option Nat :=
  if s.isEmpty || !s.all Char.isDigit then none else some (s.foldl (fun n c => 10 * n + (c.toNat - 48)) 0)

def isDelimiter (c : Char) : Bool := [' ', '/', '-', '.', '\x00'].contains c

def delimited? (widths : Nat × Nat) (s : List Char) : Option (Nat × Nat × Nat) := do
  let (m, d) := widths
  if s.length ≠ m + d + 6 then none
  if !(s[m]?).any isDelimiter || !(s[m + d + 1]?).any isDelimiter then none
  return (← fixed? (s.take m), ← fixed? ((s.drop (m + 1)).take d), ← fixed? (s.drop (m + d + 2)))

def monthAndYear? (s : List Char) : Option (Nat × Nat) := do
  if s.length ≠ 7 || !((s[2]?).filter (· ≠ '.')).any isDelimiter then none
  return (← fixed? (s.take 2), ← fixed? (s.drop 3))

inductive Delimited where
  | date (p : Parts)
  | pair (first second : Nat)
deriving DecidableEq, Repr

def Delimited.read? (s : List Char) : Option Delimited := do
  let (m, d, year, canTurn) ←
    match [(2, 2), (1, 2), (2, 1), (1, 1)].findSome? fun w => delimited? w s with
    | some (m, d, year) => some (m, d, year, true)
    | none => (monthAndYear? s).map fun (m, year) => (m, 1, year, false)
  if year < 1000 then none
  let mayBe := fun n => 1 ≤ n && n ≤ 31
  if !mayBe m || !mayBe d || 12 < m && 12 < d then return pair m d
  return date (if 12 < m ∧ canTurn then ⟨year, d, m, 0, 0, 0, 0⟩ else ⟨year, m, d, 0, 0, 0, 0⟩)

def lone? (s : List Char) : Option Nat :=
  if s.length ≠ 4 then none else ((Whole.read s).filter fun n => 1 ≤ n && n ≤ 9999).map Int.toNat

def quarterAndYear? (s : List Char) : Option (Int × Int) := do
  if s.length < 4 || 7 < s.length then none
  let i ← (((s.drop 1).take 5).idxOf? 'Q').map (· + 1)
  let number := fun (i n : Nat) => Whole.read ((s.drop i).take n)
  let isBound := fun (n j : Nat) => s.length = n || s.length = n + 1 && s[j]? = some '-'
  let last := s.length - 1
  if i = 1 then
    let quarter ← number 0 1
    if isBound 4 2 then return (quarter, 2000 + (← number (last - 1) 2))
    else if isBound 6 2 then return (quarter, ← number (last - 3) 4)
    else none
  else if i < 4 then
    if isBound 4 (i - 1) then return (← number last 1, 2000 + (← number 0 2)) else none
  else if isBound 6 (i - 1) then return (← number last 1, ← number 0 4)
  else none

def isGap (c : Char) : Bool := c = ' ' || (0x09 ≤ c.toNat && c.toNat ≤ 0x0D)

def maxMantissa : Nat := 17

def isPower (e : Int) : Bool := -1021 ≤ e && e ≤ 1024

def number? (s : List Char) : Option Double := do
  let (isNegative, s) := Whole.signed (s.dropWhile isGap)
  let whole := s.takeWhile Char.isDigit
  let s := s.drop whole.length
  let fraction := if s.head? = some '.' then (s.drop 1).takeWhile Char.isDigit else []
  let s := if s.head? = some '.' then s.drop (fraction.length + 1) else s
  if whole.isEmpty && fraction.isEmpty then none
  let digits := (whole ++ fraction).take maxMantissa
  let (power, s) ←
    match s with
    | c :: t =>
      if c = 'e' ∨ c = 'E' then
        let (isNegative, t) := Whole.signed t
        let ds := t.takeWhile Char.isDigit
        (fixed? ds).map fun n => (if isNegative then -(n : Int) else n, t.drop ds.length)
      else some (0, s)
    | [] => some (0, [])
  let power := power + whole.length - digits.length
  if !isPower power || !s.all isGap then none
  let x := Double.scaled isNegative ((fixed? digits).getD 0) power
  if x = .infinite false then none else return x

def loneLetters : List (List Char) := ["a", "A", "m", "M", "p", "P", "t", "T"].map String.toList

def isUnlikely (s : List Char) : Bool :=
  s.head? ≠ some '0' && (loneLetters.contains s || ((number? s).map fun x => x.less (.finite 1000)).getD false)

def beginsWithClock (s : List Char) : Bool :=
  let isClock := fun n => ((fixed? (s.take n)).any (· ≤ 23)) && s[n]? = some ':' && s.length > n + 2 &&
    ((fixed? ((s.drop (n + 1)).take 2)).any (· ≤ 59))
  4 ≤ s.length && if s[1]? = some ':' then isClock 1 else isClock 2

end LogMill.Calendar
