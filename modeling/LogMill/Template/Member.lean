import LogMill.Kind
import LogMill.Template.Manual

namespace LogMill

inductive Member where
  | text (s : List Char)
  | number (n : Int)
  | truth (b : Bool)
  | nothing
  | ofClass (c : MemberClass)
  | tuple (items : List Member)
  | entry (c : MemberClass) (name : String)
  | bound (owner : Member) (c : MemberClass) (name : String)
  | fields (c : MemberClass)
  | table
  | filled (c : MemberClass) (argument : Member)

namespace Member

def ofText (s : String) : Member := text s.toList

def ofText? (s : Option String) : Member := s.elim nothing ofText

def kindOf (c : MemberClass) (name : String) : EntryKind := (c.entries.lookup name).getD .nothing

def className : Member → MemberClass
  | text _ => .text
  | number _ => .number
  | truth _ => .truth
  | nothing => .nothing
  | ofClass _ => .ofClasses
  | tuple _ => .tuple
  | entry c name =>
    match kindOf c name with
    | .wrapper => .wrapperOfClass
    | .method => .methodOfClass
    | .forClass => .methodForClass
    | .computed => .computed
    | .free => .free
    | _ => .kept
  | bound _ c name => if kindOf c name = .wrapper then .wrapper else .method
  | fields _ => .fields
  | table => .table
  | filled _ _ => .filled

def held (c : MemberClass) (name : String) : Member :=
  match kindOf c name with
  | .function => bound (ofClass c) c name
  | .doc => ofText? c.doc?
  | .nothing => nothing
  | _ => entry c name

/-- Where something lies is not known; any place stands for it. -/
def place : String := " object at 0x7f0000000000>"

def ofObjects (what name : String) (c : MemberClass) : String :=
  "<" ++ what ++ " " ++ Text.quoted name ++ " of " ++ Text.quoted c.name ++ " objects>"

def boundText (owner : MemberClass) (c : MemberClass) (name : String) : String :=
  if kindOf c name = .wrapper then "<method-wrapper " ++ Text.quoted name ++ " of " ++ owner.name ++ place
  else "<built-in method " ++ name ++ " of " ++ owner.name ++ place

def heldText (c : MemberClass) (name : String) : String :=
  match kindOf c name with
  | .wrapper => ofObjects "slot wrapper" name c
  | .method | .forClass => ofObjects "method" name c
  | .computed => ofObjects "attribute" name c
  | .kept => ofObjects "member" name c
  | .free => "<staticmethod(" ++ boundText .ofClasses c name ++ ")>"
  | .function => boundText .ofClasses c name
  | .doc => Text.quoted (c.doc?.getD "")
  | .nothing => "None"

def fieldsText (c : MemberClass) : String :=
  "mappingproxy(\x7b" ++
    String.intercalate ", " (c.entries.map fun (name, _) => Text.quoted name ++ ": " ++ heldText c name) ++ "\x7d)"

mutual

def shown : Member → String
  | text s => Text.quoted (String.ofList s)
  | number n => toString n
  | truth b => if b then "True" else "False"
  | nothing => "None"
  | ofClass c => c.shown
  | tuple [m] => "(" ++ m.shown ++ ",)"
  | tuple ms => "(" ++ String.intercalate ", " (shownItems ms) ++ ")"
  | entry c name => heldText c name
  | bound owner c name => boundText owner.className c name
  | fields c => fieldsText c
  | table => "\x7b\x7d"
  | filled c m => c.name ++ "[" ++ m.shown ++ "]"

def shownItems : List Member → List String
  | [] => []
  | m :: ms => m.shown :: shownItems ms

end

def plain : Member → List Char
  | text s => s
  | m => m.shown.toList

def shownAscii (m : Member) : String :=
  String.join (m.shown.toList.map fun c => if c.toNat < 0x80 then c.toString else Text.codeEscape c.toNat)

inductive Fault where
  | noMember (owner name : String)
  | noMethods
  | unknownKey (shown : String)
  | textPosition
  | tuplePosition
  | textRange
  | tupleRange
  | noItems (owner : String)
  | notGeneric (shown : String)
  | noForm (kind : String)
deriving DecidableEq

def Fault.message : Fault → String
  | noMember owner name => owner ++ " has no attribute '" ++ name ++ "'"
  | noMethods => "__abstractmethods__"
  | unknownKey shown => shown
  | textPosition => "string indices must be integers, not 'str'"
  | tuplePosition => "tuple indices must be integers or slices, not str"
  | textRange => "string index out of range"
  | tupleRange => "tuple index out of range"
  | noItems owner => owner ++ " is not subscriptable"
  | notGeneric shown => shown ++ " is not a generic class"
  | noForm kind => "unsupported format string passed to " ++ kind ++ ".__format__"

def Fault.kind : Fault → Kind
  | noMember _ _ | noMethods => .member
  | unknownKey _ => .key
  | textRange | tupleRange => .index
  | _ => .type

def described : Member → String
  | ofClass c => "type object " ++ Text.quoted c.name
  | m => Text.quoted m.className.name ++ " object"

def ofClasses (c : MemberClass) : String → Except Fault Member
  | "__name__" | "__qualname__" => .ok (ofText c.ownName)
  | "__module__" => .ok (ofText c.module)
  | "__bases__" => .ok (tuple (((c.line.drop 1).take 1).map ofClass))
  | "__base__" => .ok (((c.line.drop 1).head?).elim nothing ofClass)
  | "__mro__" => .ok (tuple (c.line.map ofClass))
  | "__dict__" => .ok (fields c)
  | "__doc__" => .ok (match c.doc? with
    | some s => ofText s
    | none => held c "__doc__")
  | "__text_signature__" => .ok (ofText? c.signature?)
  | "__abstractmethods__" => .error .noMethods
  | name =>
    match c.sizes.lookup name with
    | some n => .ok (number n)
    | none => .error (.noMember (ofClass c).described name)

def ofEntry (c : MemberClass) (own : String) (qualified : String) : String → Member
  | "__doc__" => ofText? (Description.find c own).text
  | "__text_signature__" => ofText? (Description.find c own).signature
  | "__name__" => ofText own
  | "__qualname__" => ofText (qualified ++ "." ++ own)
  | "__objclass__" => ofClass c
  | _ => nothing

def ownerName : Member → String
  | ofClass c => c.ownName
  | m => m.className.ownName

def value (m : Member) (name : String) : Except Fault Member :=
  if name = "__class__" then .ok (ofClass m.className)
  else
    match m with
    | ofClass c => ofClasses c name
    | number n => .ok (number (if name = "imag" then 0 else if name = "denominator" then 1 else n))
    | truth b => .ok (number (if name = "imag" then 0 else if name = "denominator" || b then 1 else 0))
    | bound owner c own =>
      if name = "__self__" then .ok (if kindOf c own = .free then nothing else owner)
      else .ok (ofEntry c own (if kindOf c own = .wrapper then c.ownName else owner.ownerName) name)
    | entry c own =>
      if kindOf c own = .free then
        .ok (if name = "__isabstractmethod__" then truth false
          else if name = "__dict__" then table
          else bound (ofClass c) c own)
      else .ok (ofEntry c own c.ownName name)
    | filled c m =>
      .ok (match name with
        | "__origin__" => ofClass c
        | "__args__" => tuple [m]
        | "__parameters__" => tuple []
        | "__unpacked__" => truth false
        | _ => nothing)
    | _ => .ok nothing

def isKept (kind : EntryKind) : Bool := kind = .computed || kind = .kept

def bind (m : Member) (c : MemberClass) (kind : EntryKind) (name : String) : Except Fault Member :=
  match kind with
  | .computed | .kept => m.value name
  | .method | .wrapper => .ok (bound m c name)
  | .forClass => .ok (bound (ofClass m.className) c name)
  | .free => .ok (bound (ofClass c) c name)
  | _ => .ok (held c name)

def bindClass (own c : MemberClass) (kind : EntryKind) (name : String) : Member :=
  match kind with
  | .forClass => bound (ofClass own) c name
  | .free => bound (ofClass c) c name
  | _ => held c name

def ofClassAt (c : MemberClass) (name : String) : Except Fault Member :=
  let general := MemberClass.ofClasses.find? name
  match general.filter fun (_, kind) => isKept kind, c.find? name, general with
  | some (k, kind), _, _ => (ofClass c).bind k kind name
  | none, some (k, kind), _ => .ok (bindClass c k kind name)
  | none, none, some (k, kind) => (ofClass c).bind k kind name
  | none, none, none => .error (.noMember (ofClass c).described name)

def filledNames : List String :=
  ["__class__", "__origin__", "__args__", "__unpacked__", "__parameters__", "__typing_unpacked_tuple_args__",
    "__mro_entries__", "__reduce_ex__", "__reduce__", "__copy__", "__deepcopy__"]

def get (m : Member) (name : String) : Except Fault Member :=
  let own :=
    match m.className.find? name with
    | some (c, kind) => m.bind c kind name
    | none => .error (.noMember m.described name)
  match m with
  | ofClass c => ofClassAt c name
  | filled c _ => if filledNames.contains name then own else ofClassAt c name
  | _ => own

def isGeneric (c : MemberClass) : Bool := c = .ofClasses || (c.find? "__class_getitem__").isSome

def item (m : Member) (index : Option Nat) (name : String) : Except Fault Member :=
  let key : Member := index.elim (ofText name) fun n => number n
  match m, index with
  | text _, none => .error .textPosition
  | text s, some n => (s[n]?).elim (.error .textRange) fun c => .ok (text [c])
  | tuple _, none => .error .tuplePosition
  | tuple ms, some n => (ms[n]?).elim (.error .tupleRange) .ok
  | fields c, none =>
    if (c.entries.lookup name).isSome then .ok (held c name) else .error (.unknownKey key.shown)
  | fields _, _ | table, _ => .error (.unknownKey key.shown)
  | ofClass c, _ => if isGeneric c then .ok (filled c key) else .error (.noItems ("type " ++ Text.quoted c.name))
  | filled _ _, _ => .error (.notGeneric m.shown)
  | m, _ => .error (.noItems m.described)

end Member

end LogMill
