/-!
The markup of templates: text in which a doubled brace stands for one brace, and replacement fields
`{name!c:spec}` of which only the name is required. Reading stops at the first fault and keeps what
comes before it.
-/

namespace LogMill

structure Field where
  name : List Char
  conversion : Option Char
  spec : Option (List Char)
deriving DecidableEq

inductive Piece where
  | text (c : Char)
  | field (f : Field)
deriving DecidableEq

inductive Markup.Fault where
  | loneOpening
  | loneClosing
  | openingInName
  | unclosedField
  | missingConversion
  | afterConversion
  | unclosedSpec
deriving DecidableEq

def Markup.Fault.message : Markup.Fault → String
  | loneOpening => "Single '\x7b' encountered in format string"
  | loneClosing => "Single '\x7d' encountered in format string"
  | openingInName => "unexpected '\x7b' in field name"
  | unclosedField => "expected '\x7d' before end of string"
  | missingConversion => "end of string while looking for conversion specifier"
  | afterConversion => "expected ':' after conversion specifier"
  | unclosedSpec => "unmatched '\x7b' in format spec"

structure Markup where
  pieces : List Piece
  fault : Option Markup.Fault
deriving DecidableEq

namespace Markup

def name (inBrackets : Bool) : List Char → Except Fault (List Char × Char × List Char)
  | [] => .error .unclosedField
  | c :: s =>
    if inBrackets then (name (c != ']') s).map fun (n, e, r) => (c :: n, e, r)
    else if c = '{' then .error .openingInName
    else if c = '}' ∨ c = ':' ∨ c = '!' then .ok ([], c, s)
    else (name (c == '[') s).map fun (n, e, r) => (c :: n, e, r)

def spec (depth : Nat) : List Char → Except Fault (List Char × List Char)
  | [] => .error .unclosedSpec
  | c :: s =>
    if c = '{' then (spec (depth + 1) s).map fun (t, r) => (c :: t, r)
    else if c != '}' then (spec depth s).map fun (t, r) => (c :: t, r)
    else if depth = 0 then .ok ([], s)
    else (spec (depth - 1) s).map fun (t, r) => (c :: t, r)

def field (s : List Char) : Except Fault (Field × List Char) := do
  let (n, ending, s) ← name false s
  if ending = '}' then return (⟨n, none, none⟩, s)
  if ending = ':' then
    let (t, s) ← spec 0 s
    return (⟨n, none, some t⟩, s)
  match s with
  | [] => .error .missingConversion
  | [_] => .error .unclosedSpec
  | c :: '}' :: s => return (⟨n, some c, none⟩, s)
  | c :: ':' :: s =>
    let (t, s) ← spec 0 s
    return (⟨n, some c, some t⟩, s)
  | _ => .error .afterConversion

theorem length_lt_of_map {α : Type} {x : Except Fault α} {f : α → α} {s : List Char} {y : α} (h : x.map f = .ok y)
    (rest : α → List Char) (hrest : ∀ a, rest (f a) = rest a) (ih : ∀ a, x = .ok a → (rest a).length < s.length)
    (c : Char) : (rest y).length < (c :: s).length := by
  cases x with
  | error f => simp [Except.map] at h
  | ok a =>
    obtain rfl : f a = y := Except.ok.inj h
    rw [hrest, List.length_cons]
    exact Nat.lt_succ_of_lt (ih a rfl)

theorem name_length {b : Bool} {s : List Char} {x : List Char × Char × List Char} (h : name b s = .ok x) :
    x.2.2.length < s.length := by
  induction s generalizing b x with
  | nil => simp [name] at h
  | cons c s ih =>
    rw [name] at h
    split at h
    · exact length_lt_of_map h (fun x => x.2.2) (fun _ => rfl) (fun _ => ih) c
    · split at h
      · simp at h
      · split at h
        · obtain rfl := Except.ok.inj h
          exact Nat.lt_succ_self _
        · exact length_lt_of_map h (fun x => x.2.2) (fun _ => rfl) (fun _ => ih) c

theorem spec_length {d : Nat} {s : List Char} {x : List Char × List Char} (h : spec d s = .ok x) :
    x.2.length < s.length := by
  induction s generalizing d x with
  | nil => simp [spec] at h
  | cons c s ih =>
    rw [spec] at h
    split at h
    · exact length_lt_of_map h Prod.snd (fun _ => rfl) (fun _ => ih) c
    · split at h
      · exact length_lt_of_map h Prod.snd (fun _ => rfl) (fun _ => ih) c
      · split at h
        · obtain rfl := Except.ok.inj h
          exact Nat.lt_succ_self _
        · exact length_lt_of_map h Prod.snd (fun _ => rfl) (fun _ => ih) c

theorem field_length {s r : List Char} {f : Field} (h : field s = .ok (f, r)) : r.length < s.length := by
  simp only [field, bind, Except.bind, pure, Except.pure] at h
  split at h
  · simp at h
  · rename_i x hn
    obtain ⟨n, e, t⟩ := x
    have hlt : t.length < s.length := name_length hn
    simp only at h
    split at h
    · simp only [Except.ok.injEq, Prod.mk.injEq] at h
      exact h.2 ▸ hlt
    · split at h
      · split at h
        · simp at h
        · rename_i y hs
          simp only [Except.ok.injEq, Prod.mk.injEq] at h
          have := spec_length hs
          rw [← h.2]
          omega
      · split at h
        · simp at h
        · simp at h
        · simp only [Except.ok.injEq, Prod.mk.injEq] at h
          simp only [List.length_cons] at hlt
          rw [← h.2]
          omega
        · split at h
          · simp at h
          · rename_i y hs
            simp only [Except.ok.injEq, Prod.mk.injEq] at h
            have := spec_length hs
            simp only [List.length_cons] at hlt
            rw [← h.2]
            omega
        · simp at h

def cons (p : Piece) (m : Markup) : Markup := ⟨p :: m.pieces, m.fault⟩

def read (s : List Char) : Markup :=
  match s with
  | [] => ⟨[], none⟩
  | '{' :: '{' :: s => (read s).cons (.text '{')
  | ['{'] => ⟨[], some .loneOpening⟩
  | '{' :: s =>
    match _h : field s with
    | .ok (f, rest) => (read rest).cons (.field f)
    | .error e => ⟨[], some e⟩
  | '}' :: '}' :: s => (read s).cons (.text '}')
  | '}' :: _ => ⟨[], some .loneClosing⟩
  | c :: s => (read s).cons (.text c)
termination_by s.length
decreasing_by
  all_goals simp only [List.length_cons]
  · omega
  · have := field_length _h
    omega
  · omega
  · omega

def names (m : Markup) : List String :=
  m.pieces.filterMap fun
    | .text _ => none
    | .field f => some (String.ofList f.name)

end Markup

end LogMill
