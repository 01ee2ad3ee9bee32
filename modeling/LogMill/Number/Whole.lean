import LogMill.Text.Blank
import LogMill.Text.Digit

/-!
Whole numbers in text. Reading takes an optional sign and decimal digits of any script, with white
space around and single underscores between digits. More than 4300 digits are refused, read or written.
-/

namespace LogMill.Whole

open Text

def maxDigits : Nat := 4300

def digitsValue (s : List Char) : Option Nat :=
  s.foldlM (fun n c => (digit? c).map (10 * n + ·)) 0

def digitsOf (s : List Char) : Option (List Char) :=
  let groups := s.splitOn '_'
  if groups.any List.isEmpty || groups.flatten.any fun c => (digit? c).isNone then none else some groups.flatten

def readDigits (s : List Char) : Option Nat :=
  ((digitsOf s).filter fun ds => ds.length ≤ maxDigits).bind digitsValue

def signed : List Char → Bool × List Char
  | '-' :: s => (true, s)
  | '+' :: s => (false, s)
  | s => (false, s)

def readSigned (s : List Char) : Option Int :=
  let (negative, s) := signed s
  (readDigits s).map fun n => if negative then -(n : Int) else n

def read (s : List Char) : Option Int := readSigned (trim isBlank s)

def countDigits (s : List Char) : Option Nat := (digitsOf (signed (trim isBlank s)).2).map List.length

inductive Fault where
  | tooManyDigits
deriving DecidableEq

def Fault.message : Fault → String
  | tooManyDigits =>
    "Exceeds the limit (4300 digits) for integer string conversion; use sys.set_int_max_str_digits() to " ++
      "increase the limit"

def text (n : Int) : Except Fault String :=
  if n.natAbs < Nat.pow 10 maxDigits then .ok (toString n) else .error .tooManyDigits

def padded (width : Nat) (n : Int) : String :=
  if n < 0 then "-" ++ String.ofList ((Nat.toDigits 10 n.natAbs).leftpad (width - 1) '0')
  else String.ofList ((Nat.toDigits 10 n.natAbs).leftpad width '0')

def hex (width n : Nat) : String := String.ofList ((Nat.toDigits 16 n).leftpad width '0')

end LogMill.Whole
