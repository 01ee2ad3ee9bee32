import LogMill.Kind
import LogMill.Text.Quoted

namespace LogMill

structure Spec where
  fill : Char
  align : Char
  sign : Option Char
  noMinusZero : Bool
  alternate : Bool
  width : Option Nat
  separator : Option Char
  precision : Option Nat
  type : Char
deriving DecidableEq

inductive Spec.Fault where
  | tooManyDigits
  | bothSeparators
  | missingPrecision
  | leftover (spec : List Char) (kind : String)
  | separatorFor (separator type : Char)
  | unknownType (type : Char) (kind : String)
  | space
  | sign
  | noMinusZero
  | alternate
  | afterSign
  | noRoom
  | precise
  | wholePrecision
  | wholeMinusZero
  | signedCharacter
  | alternateCharacter
  | noCharacter
deriving DecidableEq

namespace Spec

def letterText (h : Text.Halves) (last : Nat) (c : Char) : String :=
  if 32 < c.toNat ∧ c.toNat ≤ last then c.toString else "\\x" ++ Whole.hex 1 (h.code c)

def Fault.message (h : Text.Halves) : Fault → String
  | tooManyDigits => "Too many decimal digits in format string"
  | bothSeparators => "Cannot specify both ',' and '_'."
  | missingPrecision => "Format specifier missing precision"
  | leftover spec kind =>
    "Invalid format specifier '" ++ String.ofList spec ++ "' for object of type " ++ Text.quoted kind
  | separatorFor separator type =>
    "Cannot specify '" ++ separator.toString ++ "' with '" ++ letterText h 127 type ++ "'."
  | unknownType type kind =>
    "Unknown format code '" ++ letterText h 127 type ++ "' for object of type " ++ Text.quoted kind
  | space => "Space not allowed in string format specifier"
  | sign => "Sign not allowed in string format specifier"
  | noMinusZero => "Negative zero coercion (z) not allowed in string format specifier"
  | alternate => "Alternate form (#) not allowed in string format specifier"
  | afterSign => "'=' alignment not allowed in string format specifier"
  | noRoom => ""
  | precise => "precision too big"
  | wholePrecision => "Precision not allowed in integer format specifier"
  | wholeMinusZero => "Negative zero coercion (z) not allowed in integer format specifier"
  | signedCharacter => "Sign not allowed with integer format specifier 'c'"
  | alternateCharacter => "Alternate form (#) not allowed with integer format specifier 'c'"
  | noCharacter => "%c arg not in range(0x110000)"

def Fault.kind : Fault → Kind
  | noCharacter => .overflow
  | noRoom => .memory
  | _ => .value

def maxNumber : Nat := 0x7FFFFFFFFFFFFFFF

def number (read : Option Nat) : List Char → Except Fault (Option Nat × List Char)
  | [] => .ok (read, [])
  | c :: s =>
    match Text.digit? c with
    | none => .ok (read, c :: s)
    | some d =>
      if maxNumber < 10 * read.getD 0 + d then .error .tooManyDigits
      else number (some (10 * read.getD 0 + d)) s

def isAlign (c : Char) : Bool := c = '<' || c = '>' || c = '=' || c = '^'

def alignment : List Char → Option Char × Option Char × List Char
  | c :: a :: s =>
    if isAlign a then (some c, some a, s)
    else if isAlign c then (none, some c, a :: s)
    else (none, none, c :: a :: s)
  | [c] => if isAlign c then (none, some c, []) else (none, none, [c])
  | [] => (none, none, [])

def flag (c : Char) : List Char → Bool × List Char
  | d :: s => if d = c then (true, s) else (false, d :: s)
  | [] => (false, [])

def signMark : List Char → Option Char × List Char
  | c :: s => if c = ' ' ∨ c = '+' ∨ c = '-' then (some c, s) else (none, c :: s)
  | [] => (none, [])

def separators (s : List Char) : Except Fault (Option Char × List Char) :=
  let (comma, s) := flag ',' s
  let (underscore, s) := flag '_' s
  if underscore ∧ (comma ∨ s.head? = some ',') then .error .bothSeparators
  else .ok (if underscore then some '_' else if comma then some ',' else none, s)

def precisionPart (s : List Char) : Except Fault (Option Nat × List Char) :=
  match s with
  | '.' :: s => do
    let (n, s) ← number none s
    if n.isNone then .error .missingPrecision else return (n, s)
  | s => .ok (none, s)

def takesSeparator (separator type : Char) : Bool :=
  ['d', 'e', 'f', 'g', 'E', 'G', '%', 'F', '\x00'].contains type ||
    separator = '_' && ['b', 'o', 'x', 'X'].contains type

structure Subject where
  kind : String
  type : Char
  align : Char

def Subject.text : Subject := ⟨"str", 's', '<'⟩

def read (subject : Subject) (text : List Char) : Except Fault Spec := do
  let (fill, align, s) := alignment text
  let (sign, s) := signMark s
  let (noMinusZero, s) := flag 'z' s
  let (alternate, s) := flag '#' s
  let (zero, s) := if fill.isNone then flag '0' s else (false, s)
  let (width, s) ← number none s
  let (separator, s) ← separators s
  let (precision, s) ← precisionPart s
  if 1 < s.length then throw (.leftover text subject.kind)
  let type := s.head?.getD subject.type
  if let some c := separator then
    if !takesSeparator c type then throw (.separatorFor c type)
  return {
    fill := if zero then '0' else fill.getD ' '
    align := align.getD (if zero ∧ subject.align = '>' then '=' else subject.align)
    sign, noMinusZero, alternate, width, separator, precision, type }

/-- The widest text that the memory of a machine takes. It is no limit of the program. -/
def room : Nat := 0xFFFFFFFFF

def maxPadding : Nat := 0x100000

/-- Characters that fill up a text, without those that are never seen: a message shows 1650 characters at most, so
that of a longer padding only a beginning is kept. -/
def padding (spec : Spec) (n : Nat) : List Char := List.replicate (min n maxPadding) spec.fill

def shape (spec : Spec) (value : List Char) : List Char :=
  let cut := match spec.precision with
    | some n => value.take n
    | none => value
  let missing := spec.width.getD 0 - cut.length
  let left :=
    if spec.align = '>' then missing
    else if spec.align = '^' then missing / 2
    else 0
  spec.padding left ++ cut ++ spec.padding (missing - left)

def check (spec : Spec) : Except Fault Unit := do
  if spec.type ≠ 's' then throw (.unknownType spec.type Subject.text.kind)
  if let some c := spec.sign then throw (if c = ' ' then .space else .sign)
  if spec.noMinusZero then throw .noMinusZero
  if spec.alternate then throw .alternate
  if spec.align = '=' then throw .afterSign

def apply (text value : List Char) : Except Fault (List Char) :=
  if text.isEmpty then .ok value
  else do
    let spec ← read .text text
    check spec
    if room < spec.width.getD 0 then throw .noRoom
    return spec.shape value

end Spec

end LogMill
