import LogMill.Frame.Table
import LogMill.Number.Decimal
import LogMill.Number.Sum
import LogMill.Value.Order

namespace LogMill

structure Sample where
  level : Value
  uid : Value
  responseTime : Value
  message : Value

structure LevelSummary where
  level : Level
  rows : Nat
  responseTime : Double
  messageLength : Double
  share : Double

namespace LevelSummary

inductive Fault where
  | frame (f : Frame.Fault)
  | ungrouped (f : Misfit)
  | textTimes
  | noMean (cause : Kind)
  | noLengths (what : String)
deriving DecidableEq

def Fault.message : Fault → String
  | frame f => f.message
  | ungrouped f => f.message
  | textTimes => "dtype 'str' does not support operation 'mean'"
  | noMean _ => "agg function failed [how->mean,dtype->object]"
  | noLengths what => "Can only use .str accessor with string values, not " ++ what

def Fault.kind : Fault → Kind
  | frame f => f.kind
  | ungrouped f => f.kind
  | textTimes => .type
  | noMean cause => cause
  | noLengths _ => .member

instance Fault.explained : Explained Fault := ⟨Fault.kind, Fault.message⟩

def mean (sum : List Double → Double) (xs : List Double) : Double :=
  if xs.isEmpty then .nan else sum xs / .ofInt xs.length

def isInt : Value → Bool
  | .int _ => true
  | _ => false

def real? : Value → Except Kind Double
  | .null | .real .nan => .ok (.finite 0)
  | .int n => (Double.ofInt? n).elim (.error .overflow) .ok
  | .bool b => .ok (.finite (if b then 1 else 0))
  | .real x => .ok x
  | .text s => (Double.read s.toList).elim (.error .type) .ok
  | .list _ | .object _ => .error .type

def areSummable (cells : List Value) : Bool :=
  cells.any (fun v => isInt v || SeriesType.isMissing v) || cells.all SeriesType.isReal || cells.all SeriesType.isBool

def mixedMean (cells : List Value) : Except Kind Double := do
  if !areSummable cells then throw .type
  let count := (cells.filter fun v => !SeriesType.isMissing v).length
  let xs ← cells.mapM real?
  return if count = 0 then .nan else .halvedSum xs / .ofInt count

def present (v : Value) : Option Double :=
  match v with
  | .int n => some (.ofInt n)
  | v => if SeriesType.isMissing v then none else v.number?

def meanTime (t : SeriesType) (sum : List Double → Double) (cells : List Value) : Except Fault Double :=
  match t with
  | .text => .error .textTimes
  | .mixed => (mixedMean cells).mapError .noMean
  | _ => .ok (mean sum (cells.filterMap present))

def length? : Value → Option Double
  | .text s => some (.ofInt s.length)
  | .list vs => some (.ofInt vs.length)
  | .object fs => some (.ofInt fs.length)
  | _ => none

def numeric? (cells : List Value) : Option String :=
  if cells.isEmpty then none
  else if cells.all isInt then some "integer"
  else if cells.all SeriesType.isReal then some "floating"
  else if cells.all SeriesType.isBool then some "boolean"
  else if cells.all fun v => isInt v || SeriesType.isReal v then some "mixed-integer-float"
  else none

def meanLength (t : SeriesType) (cells : List Value) : Except Fault Double :=
  let refusal := match t with
    | .whole | .natural => some "integer"
    | .real => some "floating"
    | .bool => some "boolean"
    | .text => none
    | .mixed => numeric? (cells.filter fun v => !SeriesType.isMissing v)
  match refusal with
  | some what => .error (.noLengths what)
  | none => .ok (mean .carriedSum (cells.filterMap length?))

def countRows (samples : List Sample) : Nat := (samples.filter fun s => !SeriesType.isMissing s.uid).length

def comesFirst (v w : Value) : Bool :=
  match w.less v with
  | .ok b => !b
  | .error _ => !SeriesType.isText v

def levels (samples : List Sample) : List Value :=
  let found := samples.foldl (fun vs s =>
    if SeriesType.isMissing s.level || vs.any s.level.equals then vs else s.level :: vs) []
  found.mergeSort comesFirst

def isGrouped (samples : List Sample) : Bool :=
  let found := levels samples
  let places := samples.map fun s => if SeriesType.isMissing s.level then 0 else found.findIdx s.level.equals + 1
  (places.zip (places.drop 1)).all fun (i, j) => i ≤ j

def ofLevel (samples : List Sample) (level : Value) : List Sample := samples.filter fun s => level.equals s.level

def summarize (samples : List Sample) (level : Level) (responseTime messageLength : Double) : LevelSummary :=
  let rows := countRows (ofLevel samples (.text level.name))
  { level, rows, responseTime, messageLength
    share := .ofInt rows / .ofInt (countRows (samples.filter fun s => !SeriesType.isMissing s.level)) }

def toFields (s : LevelSummary) : List (String × Value) :=
  [("level", .text s.level.name), ("rows", .int s.rows), ("avg_response_time_ms", .real s.responseTime),
    ("avg_message_length", .real s.messageLength), ("share", .real s.share)]

def table (summaries : List LevelSummary) : String :=
  let row := fun s : LevelSummary => "\n" ++ String.intercalate " " (s.toFields.map fun (_, v) => v.plain)
  "\nlevel rows avg_response_time_ms avg_message_length share" ++ String.join (summaries.map row)

def all (samples : List Sample) : Except Fault (List LevelSummary) := do
  if let some s := samples.find? fun s => SeriesType.isNested s.level then throw (.ungrouped (.noName s.level.kindName))
  let times := SeriesType.ofCells (samples.map Sample.responseTime)
  let messages := SeriesType.ofCells (samples.map Sample.message)
  if times = .text then throw .textTimes
  let groups := (levels samples).map fun v => (v, ofLevel samples v)
  let isDense := isGrouped samples && !(samples.any fun s => SeriesType.isMissing s.responseTime)
  let sum := if isDense then Double.leadSum else Double.carriedSum
  let means ← groups.mapM fun (_, g) => meanTime times sum (g.map Sample.responseTime)
  let lengths ← groups.mapM fun (_, g) => meanLength messages (g.map Sample.message)
  let found := List.zip groups (List.zip means lengths)
  return Level.all.filterMap fun l =>
    (found.find? fun ((v, _), _) => v.equals (.text l.name)).map fun (_, m, n) => summarize samples l m n

end LevelSummary

def LevelSummary.ofRows (rows : List Cells) : Except LevelSummary.Fault (List LevelSummary) := do
  let rows ← (Frame.shaped 4 rows).mapError .frame
  LevelSummary.all (rows.map fun r => ⟨r.getD 0 .null, r.getD 1 .null, r.getD 2 .null, r.getD 3 .null⟩)

def Sample.ofCells (cells : Cells) : Sample :=
  let cell := fun name => ((Schema.indexOf? name).bind fun i => cells[i]?).getD .null
  ⟨cell "log_level", cell "log_uid", cell "response_time_ms", cell "log_message"⟩

def Batch.levels (b : Batch) : Except LevelSummary.Fault (List LevelSummary) := do
  let rows ← (Frame.ofRows b.rows).mapError .frame
  LevelSummary.all (rows.map Sample.ofCells)

end LogMill
