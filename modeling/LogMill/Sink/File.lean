import LogMill.Csv
import LogMill.Directory
import LogMill.Number.Whole
import LogMill.Row.Batch
import LogMill.Text.Encoding

/-!
File sinks: batches go to one file, below a line of column names. A closed sink takes no more rows. What a sink
hands over waits in memory: some of it may reach the file at any time, and all of it has when the sink is closed.
-/

namespace LogMill

structure FileSink where
  /-- All that was handed over. -/
  text : List Char
  isOpen : Bool
  rowsWritten : Int
  /-- How many bytes of the text are in the file. -/
  passed : Nat

inductive FileSink.Fault where
  | closed
  | number (f : Whole.Fault)
  | unencodable (u : Text.Unencodable)
deriving DecidableEq

def FileSink.Fault.message : FileSink.Fault → String
  | closed => "I/O operation on closed file."
  | number f => f.message
  | unencodable u => u.message

def FileSink.Fault.kind : FileSink.Fault → Kind
  | closed | number _ => .value
  | unencodable _ => .unencodable

instance FileSink.Fault.explained : Explained FileSink.Fault := ⟨FileSink.Fault.kind, FileSink.Fault.message⟩

namespace FileSink

def header : List Char := Csv.record .file (Schema.names.map String.toList)

def opened : FileSink := ⟨header, true, 0, 0⟩

def bytes (s : FileSink) : ByteArray := (String.ofList s.text).toUTF8

def file (s : FileSink) : ByteArray := s.bytes.extract 0 s.passed

def cellText : Value → Except Whole.Fault (List Char)
  | .int n => (Whole.text n).map String.toList
  | v => .ok (Csv.cell v)

def rowText (cells : Cells) : Except Fault (List Char) :=
  ((cells.mapM cellText).map (Csv.record .file)).mapError .number

def rowEncoded (h : Text.Halves) (cells : Cells) : Except Fault (List Char) := do
  let text ← rowText cells
  match Text.Unencodable.find? h text with
  | some u => throw (.unencodable u)
  | none => return text

def rowsText (h : Text.Halves) : List Cells → List Char × Option Fault
  | [] => ([], none)
  | cells :: rows =>
    match rowEncoded h cells with
    | .error f => ([], some f)
    | .ok text =>
      let (rest, f) := rowsText h rows
      (text ++ rest, f)

def write (s : FileSink) (b : Batch) : Except Fault Int × FileSink :=
  match b.rows with
  | [] => (.ok 0, s)
  | cells :: _ =>
    if s.isOpen then
      match rowsText b.halves b.rows with
      | (text, none) => (.ok b.size, { s with text := s.text ++ text, rowsWritten := s.rowsWritten + b.size })
      | (text, some f) => (.error f, { s with text := s.text ++ text })
    else
      match rowText cells with
      | .ok _ => (.error .closed, s)
      | .error f => (.error f, s)

/-- Bytes that wait reach the file, as many as are given or as there are. -/
def pass (s : FileSink) (n : Nat) : FileSink := { s with passed := min (s.passed + n) s.bytes.size }

def close (s : FileSink) : FileSink := { s with isOpen := false, passed := s.bytes.size }

end FileSink

end LogMill
