import LogMill.Csv
import LogMill.Frame.Table
import LogMill.Store
import LogMill.Text.Encoding

/-!
Upload sinks: each batch becomes an object of its own, named by its first row, below a prefix for the table.
-/

namespace LogMill

def tablePrefix (keyPrefix table : String) : String :=
  String.ofList (Text.trim (· = '/') keyPrefix.toList) ++ "/" ++ table ++ "/"

structure Upload where
  bucket : Value
  keyPrefix : String
  table : String
  keys : List String
  rowsWritten : Int

inductive Upload.Fault where
  | frame (f : Frame.Fault)
  | start (f : Misfit)
  | refused (key reason : String)
deriving DecidableEq

def Upload.Fault.message : Upload.Fault → String
  | frame f => f.message
  | start f => f.message
  | refused key reason => "Upload of " ++ key ++ " failed: " ++ reason

def Upload.Fault.kind : Upload.Fault → Kind
  | frame f => f.kind
  | start f => f.kind
  | refused _ _ => .delivery

instance Upload.Fault.explained : Explained Upload.Fault := ⟨Upload.Fault.kind, Upload.Fault.message⟩

namespace Upload

def opened (bucket : Value) (keyPrefix table : String) : Upload :=
  ⟨bucket, String.ofList (Text.trim (· = '/') keyPrefix.toList), table, [], 0⟩

def place (u : Upload) : String := tablePrefix u.keyPrefix u.table

def keyFor (u : Upload) (start : Int) : String := u.place ++ "part-" ++ Whole.padded 12 start ++ ".csv"

def cell (column : Column) (v : Value) : List Char :=
  match column.type, v with
  | .timestamp, .int n => (Calendar.text n).toList
  | _, v => if SeriesType.isMissing v then [] else Csv.cell v

def rowText (cells : Cells) : List Char := Csv.record .object (List.zipWith cell Schema.columns cells)

def header : List Char := Csv.record .object (Schema.names.map String.toList)

def body (rows : List Cells) : Except Fault String := do
  let rows ← (Frame.ofRows rows).mapError .frame
  return String.ofList (header ++ rows.flatMap rowText)

def objectOf (u : Upload) (b : Batch) : Except Fault (String × String) := do
  return (← body b.rows, u.keyFor (← b.start.start.mapError .start))

/-- Uploads a batch; no call is made for one without rows, or for one that cannot be encoded. -/
def write (u : Upload) (b : Batch) (client : Store.Client) (calls : List Call) :
    Except Fault Int × Upload × List Call × Journal :=
  if b.rows = [] then (.ok 0, u, calls, [])
  else
    match u.objectOf b with
    | .error f => (.error f, u, calls, [])
    | .ok (text, key) =>
      let (refusal, calls) := match Text.Unencodable.find? b.halves text.toList with
        | some u => (some u.message, calls)
        | none => Store.put client calls u.bucket key text
      match refusal with
      | some reason =>
        (.error (.refused key reason), u, calls,
          [alarm .delivery ("Error uploading s3://" ++ u.bucket.plain ++ "/" ++ key ++ ": " ++ reason)])
      | none =>
        (.ok b.size, { u with keys := u.keys ++ [key], rowsWritten := u.rowsWritten + b.size }, calls, [])

def closing (u : Upload) : Entry :=
  note .delivery ("Uploaded " ++ toString u.keys.length ++ " objects (" ++ toString u.rowsWritten ++
    " rows) to s3://" ++ u.bucket.plain ++ "/" ++ u.keyPrefix)

end Upload

end LogMill
