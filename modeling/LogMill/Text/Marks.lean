import LogMill.Kind
import LogMill.Number.Whole

namespace LogMill.Marks

inductive Fault where
  | incomplete
  | noMapping
  | notEnough
  | notAll
  | unsupported (c : Char) (place : Nat)
  | wide
  | precise
  | tooPrecise
  | noRoom
deriving DecidableEq

def Fault.message : Fault → String
  | incomplete => "incomplete format"
  | noMapping => "format requires a mapping"
  | notEnough => "not enough arguments for format string"
  | notAll => "not all arguments converted during string formatting"
  | unsupported c place =>
    "unsupported format character '" ++ String.singleton (if 31 ≤ c.toNat ∧ c.toNat ≤ 126 then c else '?') ++
      "' (0x" ++ Whole.hex 1 c.toNat ++ ") at index " ++ toString place
  | wide => "width too big"
  | precise => "precision too big"
  | tooPrecise => "precision too large"
  | noRoom => ""

def Fault.kind : Fault → Kind
  | noMapping | notEnough | notAll => .type
  | tooPrecise => .overflow
  | noRoom => .memory
  | _ => .value

instance Fault.explained : Explained Fault := ⟨Fault.kind, Fault.message⟩

def maxWidth : Nat := 0x7FFFFFFFFFFFFFFF

/-- The widest text that the memory of a machine takes. It is no limit of the program. -/
def room : Nat := 0xFFFFFFFFF

def maxPrecision : Nat := 0x7FFFFFFF

def maxPlaces : Nat := maxPrecision - 3

structure Reading where
  rest : List Char
  stars : Nat := 0
  width : Nat := 0
  precision : Nat := 0

def amount (limit : Nat) (fault : Fault) (isFree : Bool) : List Char → Except Fault (Nat × Nat × List Char)
  | '*' :: s => if isFree then .ok (1, 0, s) else .error .notEnough
  | s =>
    let ds := s.takeWhile Char.isDigit
    let n := ds.foldl (fun n c => 10 * n + (c.toNat - 48)) 0
    if limit < n then .error fault else .ok (0, n, s.drop ds.length)

def modifiers (isFree : Bool) (s : List Char) : Except Fault Reading := do
  let s := s.dropWhile ['-', '+', ' ', '#', '0'].contains
  let (stars, width, s) ← amount maxWidth .wide isFree s
  let (more, precision, s) ←
    match s with
    | '.' :: s => amount maxPrecision .precise (isFree && stars = 0) s
    | s => pure (0, 0, s)
  let s := match s with
    | 'h' :: s | 'l' :: s | 'L' :: s => s
    | s => s
  return ⟨s, stars + more, width, precision⟩

def isWhole (c : Char) : Bool := ['d', 'i', 'u', 'o', 'x', 'X'].contains c

def isLetter (c : Char) : Bool := isWhole c || ['s', 'r', 'a', 'c', 'e', 'E', 'f', 'F', 'g', 'G'].contains c

def mark (isFree : Bool) (length : Nat) (s : List Char) : Except Fault (List Char × Bool) := do
  match s with
  | '%' :: s => return (s, isFree)
  | '(' :: _ => throw .noMapping
  | s =>
    let m ← modifiers isFree s
    match m.rest with
    | [] => throw .incomplete
    | c :: rest =>
      if !isFree || 0 < m.stars then throw .notEnough
      else if !isLetter c then throw (.unsupported c (length - m.rest.length))
      else if isWhole c && maxPlaces < m.precision then throw .tooPrecise
      else if room < m.width then throw .noRoom
      else return (rest, false)

def readFrom (fuel : Nat) (isFree : Bool) (length : Nat) (s : List Char) : Except Fault Bool :=
  match fuel, s with
  | 0, _ | _, [] => .ok isFree
  | fuel + 1, c :: s =>
    if c = '%' then do
      let (s, isFree) ← mark isFree length s
      readFrom fuel isFree length s
    else readFrom fuel isFree length s

def fault? (s : String) : Option Fault :=
  match readFrom s.length true s.length s.toList with
  | .ok true => some .notAll
  | .ok false => none
  | .error f => some f

end LogMill.Marks
