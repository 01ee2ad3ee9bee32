import LogMill.Calendar.Token

namespace LogMill.Calendar.Token

def place? (words : List (List String)) (t : Token) : Option Nat :=
  words.findIdx? fun ws => ws.contains (String.ofList (t.map Char.toLower))

def monthNames : List (List String) :=
  [["jan", "january"], ["feb", "february"], ["mar", "march"], ["apr", "april"], ["may"], ["jun", "june"],
    ["jul", "july"], ["aug", "august"], ["sep", "sept", "september"], ["oct", "october"], ["nov", "november"],
    ["dec", "december"]]

def month? (t : Token) : Option Nat := (place? monthNames t).map (· + 1)

def weekday? : Token → Option Nat :=
  place? [["mon", "monday"], ["tue", "tuesday"], ["wed", "wednesday"], ["thu", "thursday"], ["fri", "friday"],
    ["sat", "saturday"], ["sun", "sunday"]]

def unit? : Token → Option Nat :=
  place? [["h", "hour", "hours"], ["m", "minute", "minutes"], ["s", "second", "seconds"]]

def half? : Token → Option Nat := place? [["am", "a"], ["pm", "p"]]

def isFiller (t : Token) : Bool :=
  (place? [[" ", ".", ",", ";", "-", "/", "'", "at", "on", "and", "ad", "m", "t", "of", "st", "nd", "rd",
    "th"]] t).isSome

def isOf (t : Token) : Bool := (place? [["of"]] t).isSome

def isZero (t : Token) : Bool := (place? [["utc", "gmt", "z"]] t).isSome

def isZone (t : Token) : Bool :=
  t.length ≤ 5 && (t.all Char.isUpper || ["UTC", "GMT", "Z", "z"].contains (String.ofList t))

def isNoNumber (t : Token) : Bool := (place? [["nan", "inf", "infinity"]] t).isSome

def isSign (t : Token) : Bool := t = ['+'] || t = ['-']

def natural? (t : Token) : Option Nat :=
  if t.isEmpty then none else t.foldlM (fun n c => (Text.digit? c).map (10 * n + ·)) 0

end Token

structure Numeral where
  whole : Nat
  fraction : Rat
deriving DecidableEq

namespace Numeral

def ofToken? (t : Token) : Option Numeral := do
  let front := t.takeWhile (· ≠ '.')
  let whole ← Token.natural? front
  match t.drop front.length with
  | [] => return ⟨whole, 0⟩
  | _ :: ds =>
    let n ← Token.natural? ds
    return ⟨whole, n / (10 : Rat) ^ ds.length⟩

def exceeds (x : Numeral) (limit : Nat) : Bool := limit < x.whole || x.whole = limit && x.fraction ≠ 0

def maxDigits : Nat := 28

def sixtieths? (x : Numeral) : Option (Option Nat) :=
  if Nat.pow 10 maxDigits ≤ x.whole then none
  else if x.fraction = 0 then some none
  else some (some (60 * x.fraction).floor.toNat)

end Numeral

end LogMill.Calendar
