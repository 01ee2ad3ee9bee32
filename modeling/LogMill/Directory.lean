import LogMill.Value.Misfit

/-!
A working directory: files and folders by their place. A path is followed part by part, through folders that
must be there, also to places above the directory or below the root; of these only some may be known. A file
is written as a whole.
-/

namespace LogMill

inductive Item where
  | file (bytes : ByteArray)
  | folder

structure Place where
  isRooted : Bool
  levels : Nat
  parts : List (List Char)
deriving DecidableEq

namespace Place

def here : Place := ⟨false, 0, []⟩

def up : Place → Place
  | ⟨rooted, n, _ :: parts⟩ => ⟨rooted, n, parts⟩
  | ⟨true, n, []⟩ => ⟨true, n, []⟩
  | ⟨false, n, []⟩ => ⟨false, n + 1, []⟩

def isStep (part : List Char) : Bool := part = [] || part = ['.'] || part = ['.', '.']

def step (p : Place) (part : List Char) : Place :=
  if part = ['.', '.'] then p.up
  else if isStep part then p
  else { p with parts := part :: p.parts }

def start (path : List Char) : Place := if path.head? = some '/' then ⟨true, 0, []⟩ else here

def ofPath (path : String) : Place := (path.toList.splitOn '/').foldl step (start path.toList)

def holds (p q : Place) : Bool :=
  p.isRooted == q.isRooted && p.levels == q.levels && p.parts.isSuffixOf q.parts && p != q

def path (p : Place) : String :=
  (if p.isRooted then "/" else String.join (List.replicate p.levels "../")) ++
    String.intercalate "/" (p.parts.reverse.map String.ofList)

end Place

structure Directory where
  items : List (String × Item)

namespace Directory

inductive Trouble where
  | notFound
  | isFolder
  | notFolder
  | tooLong
deriving DecidableEq

inductive Fault where
  | at (t : Trouble) (path : String)
  | nullByte
  | badDescriptor
  | negativeDescriptor
  | misfit (f : Misfit)
deriving DecidableEq

def Trouble.text : Trouble → String
  | notFound => "[Errno 2] No such file or directory"
  | isFolder => "[Errno 21] Is a directory"
  | notFolder => "[Errno 20] Not a directory"
  | tooLong => "[Errno 36] File name too long"

def Fault.message : Fault → String
  | .at t path => t.text ++ ": " ++ Text.quoted path
  | nullByte => "embedded null byte"
  | badDescriptor => "[Errno 9] Bad file descriptor"
  | negativeDescriptor => "negative file descriptor"
  | misfit f => f.message

def Fault.kind : Fault → Kind
  | .at .notFound _ => .notFound
  | .at .isFolder _ => .isFolder
  | .at .notFolder _ => .notFolder
  | .at .tooLong _ | badDescriptor => .system
  | nullByte | negativeDescriptor => .value
  | misfit f => f.kind

instance Fault.explained : Explained Fault := ⟨Fault.kind, Fault.message⟩

def maxName : Nat := 255

def maxPath : Nat := 4095

def find? (d : Directory) (p : Place) : Option Item :=
  if p.parts = [] then some .folder
  else
    match d.items.find? fun (name, _) => Place.ofPath name = p with
    | some (_, item) => some item
    | none => if d.items.any fun (name, _) => p.holds (Place.ofPath name) then some .folder else none

def look (d : Directory) (p : Place) (name : List Char) : Except Trouble (Option Item) :=
  if maxName < (String.ofList name).utf8ByteSize then .error .tooLong else .ok (d.find? (p.step name))

def walk (d : Directory) (p : Place) : List (List Char) → Except Trouble Place
  | [] => .ok p
  | part :: parts =>
    if Place.isStep part then walk d (p.step part) parts
    else
      match d.look p part with
      | .error t => .error t
      | .ok (some .folder) => walk d (p.step part) parts
      | .ok (some (.file _)) => .error .notFolder
      | .ok none => .error .notFound

structure End where
  folder : Place
  name : List Char
  hasSlash : Bool

def End.isStep (e : End) : Bool := Place.isStep e.name

def follow (d : Directory) (path : List Char) : Except Trouble End := do
  if path = [] then throw .notFound
  if maxPath < (String.ofList path).utf8ByteSize then throw .tooLong
  let parts := (path.splitOn '/').reverse
  let named := parts.dropWhile List.isEmpty
  let folder ← d.walk (Place.start path) (named.drop 1).reverse
  return ⟨folder, named.headD [], parts.head? = some []⟩

def readFile (d : Directory) (path : List Char) : Except Trouble ByteArray := do
  let e ← d.follow path
  if e.isStep then throw .isFolder
  match ← d.look e.folder e.name with
  | none => throw .notFound
  | some .folder => throw .isFolder
  | some (.file bytes) => if e.hasSlash then throw .notFolder else return bytes

def newFile (d : Directory) (path : List Char) : Except Trouble Place := do
  let e ← d.follow path
  if e.isStep || e.hasSlash then throw .isFolder
  match ← d.look e.folder e.name with
  | some .folder => throw .isFolder
  | _ => return e.folder.step e.name

def pathOf : Value → Except Fault String
  | .text s => if s.toList.contains '\x00' then .error .nullByte else .ok s
  | .bool _ => .error .badDescriptor
  | .int n =>
    if n < -0x80000000 ∨ 0x7FFFFFFF < n then .error (.misfit (.notPath "int"))
    else .error (if n < 0 then .negativeDescriptor else .badDescriptor)
  | v => .error (.misfit (.notPath v.kindName))

def read (d : Directory) (path : Value) : Except Fault ByteArray := do
  let path ← pathOf path
  (d.readFile path.toList).mapError fun t => .at t path

def target (d : Directory) (path : Value) : Except Fault Place := do
  let path ← pathOf path
  (d.newFile path.toList).mapError fun t => .at t path

def write (d : Directory) (p : Place) (text : String) : Directory :=
  ⟨d.items.filter (fun (name, _) => Place.ofPath name ≠ p) ++ [(p.path, .file text.toUTF8)]⟩

def texts (d : Directory) : List (String × String) :=
  d.items.filterMap fun (name, item) =>
    match item, Place.ofPath name with
    | .file bytes, ⟨false, 0, [part]⟩ => (String.fromUTF8? bytes).map fun t => (String.ofList part, t)
    | _, _ => none

end Directory

end LogMill
