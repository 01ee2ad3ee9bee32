import LogMill.Frame.Count
import LogMill.Frame.Moment
import LogMill.Row.Batch

namespace LogMill

namespace Frame

inductive Fault where
  | wrongWidth (expected columns : Nat)
  | moment (f : Moment.Fault)
  | count (f : Count.Fault)
deriving DecidableEq

def Fault.message : Fault → String
  | wrongWidth expected columns =>
    toString expected ++ " columns passed, passed data had " ++ toString columns ++ " columns"
  | moment f => f.message
  | count f => f.message

def Fault.kind : Fault → Kind
  | wrongWidth _ _ => .value
  | moment f => f.kind
  | count f => f.kind

instance Fault.explained : Explained Fault := ⟨Fault.kind, Fault.message⟩

def width (rows : List Cells) : Nat := (rows.map List.length).foldl max 0

def padded (n : Nat) (cells : Cells) : Cells := cells ++ List.replicate (n - cells.length) .null

def shaped (n : Nat) (rows : List Cells) : Except Fault (List Cells) :=
  if rows = [] then .ok []
  else if width rows ≠ n then .error (.wrongWidth n (width rows))
  else .ok (rows.map (padded n))

def column (i : Nat) (rows : List Cells) : List Value := rows.map fun r => r.getD i .null

def withColumn (i : Nat) (values : List Value) (rows : List Cells) : List Cells :=
  List.zipWith (fun r v => r.set i v) rows values

def convert (c : ColumnType) (cells : List Value) : Except Fault (List Value) :=
  let t := SeriesType.ofCells cells
  let cells := cells.map t.cell
  match c with
  | .timestamp => (Moment.ofCells t cells).mapError .moment
  | .integer => (Count.ofCells t cells).mapError .count
  | .text _ => .ok cells

def ofRows (rows : List Cells) : Except Fault (List Cells) := do
  let rows ← shaped Schema.columns.length rows
  if rows = [] then return []
  Schema.columns.zipIdx.foldlM (fun rows (c, i) => do
    return withColumn i (← convert c.type (column i rows)) rows) rows

end Frame

end LogMill
