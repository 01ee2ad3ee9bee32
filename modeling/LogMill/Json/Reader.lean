import LogMill.Number.Decimal
import LogMill.Text.Half
import LogMill.Value

/-!
Reads JSON documents. Beyond the standard, `NaN`, `Infinity` and `-Infinity` are numbers; of a name that
an object holds twice the last value counts. Text is read as code points, where an escaped half of a pair may
stand alone; where the characters begin that stand for halves is given. Whole numbers of too many digits and
nesting that is too deep are refused.
-/

namespace LogMill.Json

inductive Fault where
  | malformed
  | tooManyDigits
  | tooDeep (container : String)
deriving DecidableEq

def maxDepth : Nat := 985

def isSpace (c : Char) : Bool := c = ' ' || c = '\t' || c = '\n' || c = '\r'

def skip (s : List Char) : List Char := s.dropWhile isSpace

def hexDigit? (c : Char) : Option Nat :=
  if c.isDigit then some (c.toNat - 48)
  else if 'a' ≤ c ∧ c ≤ 'f' then some (c.toNat - 87)
  else if 'A' ≤ c ∧ c ≤ 'F' then some (c.toNat - 55)
  else none

def unit : List Char → Except Fault (Nat × List Char)
  | a :: b :: c :: d :: s =>
    match [a, b, c, d].mapM hexDigit? with
    | some digits => .ok (digits.foldl (fun n x => 16 * n + x) 0, s)
    | none => .error .malformed
  | _ => .error .malformed

def ofUnit (first n : Nat) : Char := if Text.isHalf n then Text.half first n else Char.ofNat n

def ofPair (high low : Nat) : Char := Char.ofNat (0x10000 + (high - 0xD800) * 0x400 + (low - 0xDC00))

def escaped (first : Nat) (s : List Char) : Except Fault (Char × List Char) := do
  let (high, s) ← unit s
  match s with
  | '\\' :: 'u' :: t =>
    if 0xD800 ≤ high ∧ high < 0xDC00 then
      let (low, t) ← unit t
      if 0xDC00 ≤ low ∧ low ≤ 0xDFFF then return (ofPair high low, t)
    return (ofUnit first high, s)
  | s => return (ofUnit first high, s)

def letter? (c : Char) : Option Char :=
  [('"', '"'), ('\\', '\\'), ('/', '/'), ('b', '\x08'), ('f', '\x0c'), ('n', '\n'), ('r', '\r'),
    ('t', '\t')].lookup c

def stringRest (first : Nat) : (fuel : Nat) → (read : List Char) → List Char → Except Fault (String × List Char)
  | 0, _, _ => .error .malformed
  | fuel + 1, read, s =>
    match s with
    | [] => .error .malformed
    | '"' :: s => .ok (String.ofList read.reverse, s)
    | '\\' :: 'u' :: s => do
      let (c, s) ← escaped first s
      stringRest first fuel (c :: read) s
    | '\\' :: c :: s =>
      match letter? c with
      | some c => stringRest first fuel (c :: read) s
      | none => .error .malformed
    | c :: s => if c.toNat < 0x20 then .error .malformed else stringRest first fuel (c :: read) s

def naturalOf (digits : List Char) : Nat := digits.foldl (fun n c => 10 * n + (c.toNat - 48)) 0

def fraction (s : List Char) : Option (List Char) × List Char :=
  match s with
  | '.' :: t =>
    let digits := t.takeWhile Char.isDigit
    if digits.isEmpty then (none, s) else (some digits, t.dropWhile Char.isDigit)
  | _ => (none, s)

def power (s : List Char) : Option Int × List Char :=
  match s with
  | m :: t =>
    if m = 'e' ∨ m = 'E' then
      let (negative, t) := match t with
        | '-' :: t => (true, t)
        | '+' :: t => (false, t)
        | t => (false, t)
      let digits := t.takeWhile Char.isDigit
      if digits.isEmpty then (none, s)
      else (some (if negative then -(naturalOf digits : Int) else naturalOf digits), t.dropWhile Char.isDigit)
    else (none, s)
  | [] => (none, s)

def number (s : List Char) : Except Fault (Value × List Char) :=
  let (negative, s) := match s with
    | '-' :: s => (true, s)
    | s => (false, s)
  let (whole, s) := match s with
    | '0' :: s => (['0'], s)
    | s => (s.takeWhile Char.isDigit, s.dropWhile Char.isDigit)
  if whole.isEmpty then .error .malformed
  else
    let (behind, s) := fraction s
    let (exponent, s) := power s
    if behind.isNone ∧ exponent.isNone then
      if Whole.maxDigits < whole.length then .error .tooManyDigits
      else .ok (.int (if negative then -(naturalOf whole : Int) else naturalOf whole), s)
    else
      let digits := behind.getD []
      .ok (.real (.scaled negative (naturalOf (whole ++ digits)) (exponent.getD 0 - digits.length)), s)

def words : List (List Char × Value) :=
  [("null".toList, .null), ("true".toList, .bool true), ("false".toList, .bool false),
    ("NaN".toList, .real .nan), ("Infinity".toList, .real (.infinite false)),
    ("-Infinity".toList, .real (.infinite true))]

def word? (s : List Char) : Option (Value × List Char) :=
  words.findSome? fun (w, v) => if w.isPrefixOf s then some (v, s.drop w.length) else none

mutual

def value (first : Nat) : (fuel depth : Nat) → List Char → Except Fault (Value × List Char)
  | 0, _, _ => .error .malformed
  | fuel + 1, depth, s =>
    match s, depth with
    | '"' :: s, _ => do
      let (t, s) ← stringRest first (s.length + 1) [] s
      return (.text t, s)
    | '[' :: _, 0 => .error (.tooDeep "array")
    | '[' :: s, depth + 1 =>
      match skip s with
      | ']' :: s => .ok (.list [], s)
      | s => items first fuel depth [] s
    | '\x7b' :: _, 0 => .error (.tooDeep "object")
    | '\x7b' :: s, depth + 1 =>
      match skip s with
      | '\x7d' :: s => .ok (.object [], s)
      | s => members first fuel depth [] s
    | s, _ =>
      match word? s with
      | some r => .ok r
      | none => number s

def items (first : Nat) : (fuel depth : Nat) → List Value → List Char → Except Fault (Value × List Char)
  | 0, _, _, _ => .error .malformed
  | fuel + 1, depth, read, s => do
    let (v, s) ← value first fuel depth s
    match skip s with
    | ']' :: s => return (.list (v :: read).reverse, s)
    | ',' :: s => items first fuel depth (v :: read) (skip s)
    | _ => .error .malformed

def members (first : Nat) :
    (fuel depth : Nat) → List (String × Value) → List Char → Except Fault (Value × List Char)
  | 0, _, _, _ => .error .malformed
  | fuel + 1, depth, read, s =>
    match s with
    | '"' :: s => do
      let (name, s) ← stringRest first (s.length + 1) [] s
      match skip s with
      | ':' :: s =>
        let (v, s) ← value first fuel depth (skip s)
        match skip s with
        | '\x7d' :: s => return (.object (Value.put name v read), s)
        | ',' :: s => members first fuel depth (Value.put name v read) (skip s)
        | _ => .error .malformed
      | _ => .error .malformed
    | _ => .error .malformed

end

def readWith (first : Nat) (s : String) : Except Fault Value := do
  let chars := skip s.toList
  let (v, rest) ← value first (2 * chars.length + 1) maxDepth chars
  if (skip rest).isEmpty then return v else throw .malformed

def read (s : String) : Except Fault Value := readWith (Text.halfPlaces.headD 0) s

/-- The value of a document, and where the characters begin that stand for its halves, if it has any. A place is
chosen of which the document holds no character, so the value is read twice. -/
def readDocument (s : String) : Except Fault (Value × Text.Halves) := do
  let probe ← read s
  let isFree := fun first => !probe.hasChar (Text.isPlaced first)
  let first := ((Text.halfPlaces.drop 1).find? isFree).getD 0
  let v ← readWith first s
  return (v, if v.hasChar (Text.isPlaced first) then some first else none)

end LogMill.Json
