import LogMill.Level
import LogMill.Template.Builtin
import LogMill.Template.Fill

/-!
Template tables: for every level one template or more. A table given from outside is checked: the markup
of each template must be without fault and name placeholders only. What the conversions and specifications
of its fields say is not looked at.
-/

namespace LogMill

structure Template where
  text : String
  halves : Text.Halves := none
  markup : Markup := Markup.read text.toList
  markup_eq : markup = Markup.read text.toList := by rfl

namespace Template

structure Fault where
  reason : Fill.Fault
  halves : Text.Halves
deriving DecidableEq

def Fault.message (f : Fault) : String := f.reason.message f.halves

instance Fault.explained : Explained Fault := ⟨fun f => f.reason.kind, Fault.message⟩

def fill (t : Template) (values : Placeholder → String) : Except Fault String :=
  ((Fill.markup values (Fill.text values 1) t.markup).map String.ofList).mapError fun f => ⟨f, t.halves⟩

end Template

inductive Table.Fault where
  | missing
  | notObject (kind : String)
  | noTemplates (level : Level)
  | wrongShape (level : Level)
  | malformed (level : Level) (shown : String) (f : Markup.Fault)
  | unknownNames (level : Level) (shown : String) (names : List String)

def Table.Fault.message : Table.Fault → String
  | missing => "Message template table is missing or empty"
  | notObject kind => Text.quoted kind ++ " object has no attribute 'get'"
  | noTemplates level => "No message templates defined for level " ++ level.name
  | wrongShape level => "Templates for level " ++ level.name ++ " must be a list of non-empty strings"
  | malformed level shown f => "Malformed " ++ level.name ++ " template " ++ shown ++ ": " ++ f.message
  | unknownNames level shown names =>
    "Unknown placeholders [" ++ String.intercalate ", " names ++ "] in " ++ level.name ++ " template " ++ shown

def Table.Fault.kind : Table.Fault → Kind
  | notObject _ => .member
  | _ => .preparation

instance Table.Fault.explained : Explained Table.Fault := ⟨Table.Fault.kind, Table.Fault.message⟩

structure Table where
  templates : PerLevel { ts : List Template // ts ≠ [] }

namespace Table

def ofLevel (t : Table) (level : Level) : List Template := (t.templates.get level).val

def halves (t : Table) : Text.Halves := Level.all.findSome? fun l => (t.ofLevel l).findSome? Template.halves

def unknownNames (h : Text.Halves) (m : Markup) : List String :=
  ((m.names.filter fun n => (Placeholder.ofName? n).isNone).eraseDups).mergeSort h.atMost

def readTemplate (h : Text.Halves) (level : Level) (text : String) : Except Fault Template :=
  let t : Template := { text, halves := h }
  let shown := Text.quotedIn h
  match t.markup.fault with
  | some f => .error (.malformed level (shown text) f)
  | none =>
    let names := unknownNames h t.markup
    if names.isEmpty then .ok t else .error (.unknownNames level (shown text) (names.map shown))

def texts? : Value → Option (List String)
  | .list items => items.mapM fun v => v.text?.filter (· ≠ "")
  | _ => none

def readLevel (h : Text.Halves) (level : Level) (entries : Option Value) :
    Except Fault { ts : List Template // ts ≠ [] } := do
  let some v := entries.filter Value.isPresent | throw (.noTemplates level)
  match texts? v with
  | none => throw (.wrongShape level)
  | some [] => throw (.noTemplates level)
  | some (first :: rest) =>
    let t ← readTemplate h level first
    let ts ← rest.mapM (readTemplate h level)
    return ⟨t :: ts, by simp⟩

/-- The table of an object with a list of texts for every level; its other fields are not looked at. The texts may
hold halves. -/
def ofFields (h : Text.Halves) (fields : List (String × Value)) : Except Fault Table := do
  if fields.isEmpty then throw .missing
  let info ← readLevel h .info (fields.lookup "INFO")
  let debug ← readLevel h .debug (fields.lookup "DEBUG")
  let warn ← readLevel h .warn (fields.lookup "WARN")
  let error ← readLevel h .error (fields.lookup "ERROR")
  return ⟨⟨info, debug, warn, error⟩⟩

def ofValue (v : Value) : Except Fault Table :=
  if v.isPresent then
    match v with
    | .object fields => ofFields none fields
    | v => .error (.notObject v.kindName)
  else .error .missing

def toFields (t : Table) : List (String × Value) :=
  Level.all.map fun l => (l.name, .list ((t.ofLevel l).map fun t => .text t.text))

def ofPhrases (ps : List Phrase) (h : ps ≠ []) : { ts : List Template // ts ≠ [] } :=
  ⟨ps.map fun p => { text := p.source }, by simpa using h⟩

def builtin : Table where
  templates := {
    info := ofPhrases Builtin.info (by simp [Builtin.info])
    debug := ofPhrases Builtin.debug (by simp [Builtin.debug])
    warn := ofPhrases Builtin.warn (by simp [Builtin.warn])
    error := ofPhrases Builtin.error (by simp [Builtin.error]) }

def choose (t : Table) (level : Level) (row : Int) : Template :=
  (t.ofLevel level).get ⟨scatter row 10 % (t.ofLevel level).length,
    Nat.mod_lt _ (List.length_pos_iff.mpr (t.templates.get level).property)⟩

end Table

end LogMill
