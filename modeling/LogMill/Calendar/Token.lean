import LogMill.Text.Blank
import LogMill.Text.Digit

namespace LogMill.Calendar

abbrev Token := List Char

namespace Token

def isDigit (c : Char) : Bool := (Text.digit? c).isSome

def isBlank (c : Char) : Bool := Text.isBlank c || (0x1C ≤ c.toNat && c.toNat ≤ 0x1F)

def isLetter (c : Char) : Bool := c.isAlpha || (0x80 ≤ c.toNat && !isDigit c && !isBlank c)

inductive Shape where
  | word
  | number
  | pointedWord
  | pointedNumber
deriving DecidableEq

def Shape.next (shape : Shape) (sofar : Token) (c : Char) : Option Shape :=
  let isAfterPoint := sofar.head? = some '.'
  match shape with
  | word => if isLetter c then some word else if c = '.' then some pointedWord else none
  | number =>
    if isDigit c then some number
    else if c = '.' ∨ c = ',' ∧ 2 ≤ sofar.length then some pointedNumber
    else none
  | pointedWord =>
    if c = '.' ∨ isLetter c then some pointedWord
    else if isDigit c ∧ isAfterPoint then some pointedNumber
    else none
  | pointedNumber =>
    if c = '.' ∨ isDigit c then some pointedNumber
    else if isLetter c ∧ isAfterPoint then some pointedWord
    else none

def grow (shape : Shape) (hasWord : Bool) (sofar : Token) : List Char → Token × Shape × Bool × List Char
  | [] => (sofar, shape, hasWord, [])
  | c :: s =>
    let hasWord := hasWord || shape = .word || shape = .pointedWord
    match shape.next sofar c with
    | some shape => grow shape hasWord (c :: sofar) s
    | none => (sofar, shape, hasWord, c :: s)

theorem length_grow (shape : Shape) (hasWord : Bool) (sofar : Token) (s : List Char) :
    (grow shape hasWord sofar s).2.2.2.length ≤ s.length := by
  induction s generalizing shape hasWord sofar with
  | nil => simp [grow]
  | cons c s ih =>
    simp only [grow]
    split
    · exact Nat.le_succ_of_le (ih ..)
    · simp

def isPoint (c : Char) : Bool := c = '.' || c = ','

def apart : Token → List Token
  | [] => []
  | c :: s =>
    if isPoint c then [c] :: apart s
    else
      match apart s with
      | (d :: t) :: ts => if isPoint d then [c] :: (d :: t) :: ts else (c :: d :: t) :: ts
      | ts => [c] :: ts

def settled (t : Token) (shape : Shape) (hasWord : Bool) : List Token :=
  if shape = .word ∨ shape = .number then [t]
  else if hasWord ∨ 1 < t.count '.' ∨ t.getLast?.any isPoint then apart t
  else if shape = .pointedNumber ∧ t.count '.' = 0 then [t.map fun c => if c = ',' then '.' else c]
  else [t]

end Token

def tokens (s : List Char) : List Token :=
  match s with
  | [] => []
  | c :: s =>
    if Token.isLetter c ∨ Token.isDigit c then
      let grown := Token.grow (if Token.isLetter c then .word else .number) false [c] s
      Token.settled grown.1.reverse grown.2.1 grown.2.2.1 ++ tokens grown.2.2.2
    else (if Token.isBlank c then [' '] else [c]) :: tokens s
termination_by s.length
decreasing_by
  · exact Nat.lt_succ_of_le (Token.length_grow ..)
  · simp

end LogMill.Calendar
