import LogMill.Directory
import LogMill.Json.Reader
import LogMill.Template.Table

namespace LogMill

namespace Document

inductive Fault where
  | unreadable (path : String) (cause : Kind)
  | tooDeep (container : String)
  | misfit (f : Misfit)
  | notObject (path : String)
  | table (f : Table.Fault)

def Fault.message : Fault → String
  | unreadable path _ => "Could not load message templates from " ++ path
  | tooDeep container =>
    "maximum recursion depth exceeded while decoding a JSON " ++ container ++ " from a unicode string"
  | misfit f => f.message
  | notObject path => "Template file " ++ path ++ " must hold an object keyed by log level"
  | table f => f.message

def Fault.kind : Fault → Kind
  | unreadable _ _ | notObject _ => .preparation
  | tooDeep _ => .depth
  | misfit f => f.kind
  | table f => f.kind

instance Fault.explained : Explained Fault := ⟨Fault.kind, Fault.message⟩

def read (d : Directory) (path : Value) : Except Fault (Value × Text.Halves) :=
  let refuse := fun cause => .error (.unreadable path.plain cause)
  match d.read path with
  | .error (.misfit f) => .error (.misfit f)
  | .error f => refuse f.kind
  | .ok bytes =>
    match String.fromUTF8? bytes with
    | none => refuse .encoding
    | some text =>
      match Json.readDocument text with
      | .error .malformed => refuse .document
      | .error .tooManyDigits => refuse .value
      | .error (.tooDeep container) => .error (.tooDeep container)
      | .ok v => .ok v

def load (d : Directory) (path : Value) : Except Fault Table := do
  match ← read d path with
  | (.object fields, h) => (Table.ofFields h fields).mapError .table
  | _ => throw (.notObject path.plain)

end Document

end LogMill
