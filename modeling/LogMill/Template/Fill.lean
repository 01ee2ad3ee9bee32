import LogMill.Template.Markup
import LogMill.Template.Member
import LogMill.Template.NumberSpec
import LogMill.Template.Placeholder
import LogMill.Template.Spec

namespace LogMill

inductive Fill.Fault where
  | markup (f : Markup.Fault)
  | spec (f : Spec.Fault)
  | positional
  | unknownName (name : String)
  | missingBracket
  | emptyAttribute
  | afterBracket
  | member (f : Member.Fault)
  | unknownConversion (c : Char)
  | tooDeep
deriving DecidableEq

namespace Fill

def Fault.message (h : Text.Halves) : Fault → String
  | markup f => f.message
  | spec f => f.message h
  | positional => "Format string contains positional fields"
  | unknownName name => Text.quotedIn h name
  | missingBracket => "Missing ']' in format string"
  | emptyAttribute => "Empty attribute in format string"
  | afterBracket => "Only '.' or '[' may follow ']' in format field specifier"
  | member f => f.message
  | unknownConversion c => "Unknown conversion specifier " ++ Spec.letterText h 126 c
  | tooDeep => "Max string recursion exceeded"

def Fault.kind : Fault → Kind
  | unknownName _ => .key
  | member f => f.kind
  | spec f => f.kind
  | _ => .value

def index? (name : List Char) : Except Fault (Option Nat) :=
  match Spec.number none name with
  | .error f => .error (.spec f)
  | .ok (n, rest) => .ok (if rest.isEmpty then n else none)

def follow (m : Member) (path : List Char) : Except Fault Member :=
  match path with
  | [] => .ok m
  | '.' :: s =>
    let name := s.takeWhile fun c => c ≠ '.' && c ≠ '['
    if name.isEmpty then .error .emptyAttribute
    else
      match m.get (String.ofList name) with
      | .error f => .error (.member f)
      | .ok m => follow m (s.drop name.length)
  | '[' :: s =>
    let name := s.takeWhile (· ≠ ']')
    match _h : s.dropWhile (· ≠ ']') with
    | [] => .error .missingBracket
    | _ :: rest =>
      match index? name with
      | .error f => .error f
      | .ok n =>
        if name.isEmpty then .error .emptyAttribute
        else
          match m.item n (String.ofList name) with
          | .error f => .error (.member f)
          | .ok m => follow m rest
  | _ :: _ => .error .afterBracket
termination_by path.length
decreasing_by
  · simp only [List.length_cons, List.length_drop]
    omega
  · have : (s.dropWhile (· ≠ ']')).length ≤ s.length := (List.dropWhile_suffix _).length_le
    rw [_h] at this
    simp only [List.length_cons] at this ⊢
    omega

def resolve (values : Placeholder → String) (name : List Char) : Except Fault Member := do
  let first := name.takeWhile fun c => c ≠ '.' && c ≠ '['
  if (← index? first).isSome ∨ first.isEmpty then throw .positional
  match Placeholder.ofName? (String.ofList first) with
  | none => throw (.unknownName (String.ofList first))
  | some p => follow (.ofText (values p)) (name.drop first.length)

def convert (conversion : Option Char) (m : Member) : Except Fault Member :=
  match conversion with
  | none => .ok m
  | some c =>
    if c = 's' ∨ c = '\x00' then .ok (.text m.plain)
    else if c = 'r' then .ok (.ofText m.shown)
    else if c = 'a' then .ok (.ofText m.shownAscii)
    else .error (.unknownConversion c)

def form (spec : List Char) (m : Member) : Except Fault (List Char) :=
  if spec.isEmpty then .ok m.plain
  else
    match m with
    | .text s => (Spec.apply spec s).mapError .spec
    | .number n => (Spec.applyNumber "int" spec n).mapError .spec
    | .truth b => (Spec.applyNumber "bool" spec (if b then 1 else 0)).mapError .spec
    | m => .error (.member (.noForm m.className.name))

def field (values : Placeholder → String) (expand : List Char → Except Fault (List Char)) (f : Field) :
    Except Fault (List Char) := do
  let m ← resolve values f.name
  let m ← convert f.conversion m
  let spec := f.spec.getD []
  let spec ← if spec.contains '{' then expand spec else .ok spec
  form spec m

def piece (values : Placeholder → String) (expand : List Char → Except Fault (List Char)) :
    Piece → Except Fault (List Char)
  | .text c => .ok [c]
  | .field f => field values expand f

def markup (values : Placeholder → String) (expand : List Char → Except Fault (List Char)) (m : Markup) :
    Except Fault (List Char) := do
  let parts ← m.pieces.mapM (piece values expand)
  match m.fault with
  | some f => .error (.markup f)
  | none => return parts.flatten

def text (values : Placeholder → String) : Nat → List Char → Except Fault (List Char)
  | 0, _ => .error .tooDeep
  | levels + 1, s => markup values (text values levels) (Markup.read s)

end Fill

end LogMill
