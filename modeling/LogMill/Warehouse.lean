import LogMill.Call
import LogMill.Journal
import LogMill.Schema
import LogMill.Sink.Upload
import LogMill.Value.Misfit

/-!
The warehouse, which takes statements and is asked about each until it is done. What it will answer is a
script; when the script is over, statements are taken and done at once.
-/

namespace LogMill

namespace Warehouse

structure State where
  executes : List Reply
  describes : List Reply
  calls : List Call
  pauses : Nat

inductive Fault where
  | unsuccessful (reason : String)
  | broken (reason : String)
deriving DecidableEq

def Fault.message : Fault → String
  | unsuccessful reason => "SQL statement failed: " ++ reason
  | broken reason => "Error executing SQL: " ++ reason

instance Fault.explained : Explained Fault := ⟨fun _ => .delivery, Fault.message⟩

def item (answer : Value) (name : String) : Except String Value :=
  match answer with
  | .object fields => (fields.lookup name).elim (.error (Text.quoted name)) .ok
  | .list _ => .error (Misfit.position "list" "str").message
  | v => .error (Misfit.noItems v.kindName).message

def isPending (status : Value) : Bool :=
  match status.text? with
  | some s => ["STARTED", "SUBMITTED", "PICKED"].contains s
  | none => false

def isFinal (status : Value) : Bool :=
  match status.text? with
  | some s => ["FINISHED", "FAILED", "ABORTED"].contains s
  | none => false

def isFinished (status : Value) : Bool := status.text? = some "FINISHED"

def refusal (description : Value) : Fault :=
  match ((description.get? "Error").getD description).inText with
  | .ok reason => .unsuccessful reason
  | .error f => .broken f.message

def settled (description status : Value) : Except Fault Value :=
  if isFinished status then .ok description else .error (refusal description)

def done : Value := .object [("Status", .text "FINISHED")]

def poll (id : Value) : (script : List Reply) → State → Except Fault Value × State
  | [], s => (.ok done, { s with describes := [], calls := s.calls ++ [.describe id (.ok done)] })
  | reply :: script, s =>
    let s := { s with describes := script, calls := s.calls ++ [.describe id reply] }
    match reply with
    | .error e => (.error (.broken e), s)
    | .ok description =>
      match item description "Status" with
      | .error e => (.error (.broken e), s)
      | .ok status =>
        if isFinal status then (settled description status, s)
        else
          let s := { s with pauses := s.pauses + 1 }
          if isPending status then poll id script s else (settled description status, s)

/-- The answer to a new statement; one beyond the script is named by the number of calls to the warehouse. -/
def submit (workgroup database sql : Value) (s : State) : Reply × State :=
  let reply := match s.executes with
    | [] => .ok (.object [("Id", .text ("s" ++ toString (s.calls.countP Call.isStatement + 1)))])
    | reply :: _ => reply
  let calls := s.calls ++ [.execute workgroup database sql reply]
  (reply, { s with executes := s.executes.drop 1, calls })

def run (workgroup database sql : Value) (s : State) : Except Fault Value × State :=
  match submit workgroup database sql s with
  | (.error e, s) => (.error (.broken e), s)
  | (.ok answer, s) =>
    match item answer "Id" with
    | .error e => (.error (.broken e), s)
    | .ok id => poll id s.describes s

def Fault.entry (f : Fault) : Entry :=
  alarm .delivery (match f with
    | unsuccessful _ => "Error executing SQL: " ++ f.message
    | broken _ => f.message)

end Warehouse

structure Loader where
  workgroup : Value
  database : Value

namespace Loader

open Warehouse

def execute (l : Loader) (sql : Value) (s : State) : Except Fault Value × State × Journal :=
  match run l.workgroup l.database sql s with
  | (.ok v, s) => (.ok v, s, [])
  | (.error f, s) => (.error f, s, [f.entry])

def createTable (l : Loader) (table : String) (s : State) : Except Fault Unit × State × Journal :=
  let (r, s, j) := l.execute (.text (Schema.createTable table)) s
  (r.map fun _ => (), s, note .delivery ("Creating table " ++ table ++ " if missing") :: j)

def truncateSql (table : String) : String := "TRUNCATE TABLE " ++ table ++ ";"

def truncate (l : Loader) (table : String) (s : State) : Except Fault Unit × State × Journal :=
  let (r, s, j) := l.execute (.text (truncateSql table)) s
  (r.map fun _ => (), s, j)

def source (bucket keyPrefix table : String) : String :=
  "s3://" ++ bucket ++ "/" ++ tablePrefix keyPrefix table

/-- The statement that loads every part of a table. A role that is not given, or empty, is the default one. -/
def copySql (table bucket keyPrefix : String) (role : Value) : String :=
  let credentials := if role.isPresent then "IAM_ROLE '" ++ role.plain ++ "'" else "IAM_ROLE default"
  "\n        COPY " ++ table ++ " (" ++ String.intercalate ", " Schema.names ++ ")\n        FROM '" ++
    source bucket keyPrefix table ++ "'\n        " ++ credentials ++
    "\n        CSV IGNOREHEADER 1\n        TIMEFORMAT 'auto';\n        "

def copy (l : Loader) (table bucket keyPrefix : String) (role : Value) (s : State) :
    Except Fault Value × State × Journal :=
  let (r, s, j) := l.execute (.text (copySql table bucket keyPrefix role)) s
  (r.map fun description => (description.get? "ResultRows").getD (.int 0), s,
    note .delivery ("Loading " ++ source bucket keyPrefix table ++ " into Redshift table: " ++ table) :: j)

end Loader

end LogMill
