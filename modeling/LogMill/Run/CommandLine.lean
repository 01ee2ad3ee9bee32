import LogMill.Run.Export

namespace LogMill

namespace CommandLine

inductive Switch where
  | help
  | output
  | rows
  | batchSize
  | seed
deriving DecidableEq

namespace Switch

def all : List Switch := [help, output, rows, batchSize, seed]

def names : Switch → List String
  | help => ["-h", "--help"]
  | output => ["--output"]
  | rows => ["--rows"]
  | batchSize => ["--batch-size"]
  | seed => ["--seed"]

def table : List (String × Switch) := all.flatMap fun s => s.names.map fun n => (n, s)

def title (s : Switch) : String := String.intercalate "/" s.names

end Switch

inductive Misuse where
  | ambiguous (argument : String) (matching : List String)
  | noValue (s : Switch)
  | invalidNumber (s : Switch) (text : String)
  | needlessValue (s : Switch) (text : String)
  | unrecognized (arguments : List String)
deriving DecidableEq

def Misuse.message : Misuse → String
  | ambiguous argument matching =>
    "ambiguous option: " ++ argument ++ " could match " ++ String.intercalate ", " matching
  | noValue s => "argument " ++ s.title ++ ": expected one argument"
  | invalidNumber s text => "argument " ++ s.title ++ ": invalid int value: " ++ Text.quoted text
  | needlessValue s text => "argument " ++ s.title ++ ": ignored explicit argument " ++ Text.quoted text
  | unrecognized arguments => "unrecognized arguments: " ++ String.intercalate " " arguments

inductive Word where
  | plain (s : String)
  | dashes
  | known (argument name : String) (s : Switch) (value : Option String)
  | unknown (argument : String)

def isNegative (s : List Char) : Bool :=
  match s with
  | '-' :: s =>
    let s := if s.getLast? = some '\n' then s.dropLast else s
    let digits := s.takeWhile fun c => (Text.digit? c).isSome
    match s.drop digits.length with
    | [] => !digits.isEmpty
    | '.' :: fraction => !fraction.isEmpty && fraction.all fun c => (Text.digit? c).isSome
    | _ => false
  | _ => false

def cutAtEquals (s : String) : Option (String × String) :=
  let chars := s.toList
  if chars.contains '=' then
    some (String.ofList (chars.takeWhile (· ≠ '=')), String.ofList ((chars.dropWhile (· ≠ '=')).drop 1))
  else none

def matching (argument : String) : List (String × Switch × Option String) :=
  let chars := argument.toList
  if chars.take 2 = ['-', '-'] then
    let (start, value) := match cutAtEquals argument with
      | some (n, v) => (n, some v)
      | none => (argument, none)
    Switch.table.filterMap fun (n, s) => if start.toList.isPrefixOf n.toList then some (n, s, value) else none
  else
    Switch.table.filterMap fun (n, s) =>
      if n.toList = chars.take 2 then some (n, s, some (String.ofList (chars.drop 2)))
      else if chars.isPrefixOf n.toList then some (n, s, none)
      else none

def classify (argument : String) : Except Misuse Word :=
  if argument.toList.head? ≠ some '-' ∨ argument = "-" then .ok (.plain argument)
  else
    match Switch.table.lookup argument with
    | some s => .ok (.known argument argument s none)
    | none =>
      match (cutAtEquals argument).bind fun (n, v) => (Switch.table.lookup n).map fun s => (n, s, v) with
      | some (n, s, v) => .ok (.known argument n s (some v))
      | none =>
        match matching argument with
        | [(n, s, v)] => .ok (.known argument n s v)
        | _ :: _ :: _ => .error (.ambiguous argument ((matching argument).map Prod.fst))
        | [] =>
          if isNegative argument.toList || argument.toList.contains ' ' then .ok (.plain argument)
          else .ok (.unknown argument)

def words : List String → Except Misuse (List Word)
  | [] => .ok []
  | a :: as =>
    if a = "--" then .ok (.dashes :: as.map .plain)
    else do
      let w ← classify a
      return w :: (← words as)

def Switch.value (s : Switch) (text : String) : Except Misuse Value :=
  if text = "--" then .ok (.list [])
  else if s = .output then .ok (.text text)
  else
    match Whole.read text.toList with
    | some n => .ok (.int n)
    | none => .error (.invalidNumber s text)

def Switch.put (s : Switch) (v : Value) (e : Export) : Export :=
  match s with
  | .help => e
  | .output => { e with path := v }
  | .rows => { e with rows := v }
  | .batchSize => { e with batchSize := v }
  | .seed => { e with seed := v }

inductive Request where
  | help
  | export (e : Export)

def helpLetters : List Char → Except Misuse Request
  | ['h'] => .ok .help
  | 'h' :: rest => helpLetters rest
  | value => .error (.needlessValue .help (String.ofList value))

def read (e : Export) (extra : List String) : List Word → Except Misuse Request
  | [] => if extra.isEmpty then .ok (.export e) else .error (.unrecognized extra)
  | .plain a :: ws | .unknown a :: ws => read e (extra ++ [a]) ws
  | .dashes :: ws => read e (extra ++ ["--"]) ws
  | .known _ _ .help none :: _ => .ok .help
  | .known _ n .help (some v) :: _ => if n = "-h" then helpLetters v.toList else .error (.needlessValue .help v)
  | .known _ _ s (some v) :: ws | .known _ _ s none :: .plain v :: ws => do
    read (s.put (← s.value v) e) extra ws
  | .known _ _ s none :: _ => .error (.noValue s)

def parse (arguments : List String) : Except Misuse Request := do read {} [] (← words arguments)

end CommandLine

end LogMill
