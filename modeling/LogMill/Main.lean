import LogMill.Run.CommandLine
import Std.Time.DateTime.Timestamp

namespace LogMill

namespace Program

def usage : String :=
  "usage: logmill [-h] [--output OUTPUT] [--rows ROWS] [--batch-size BATCH_SIZE] [--seed SEED]"

def help : String :=
  usage ++ "\n\nWrite synthetic benchmark log rows to a CSV file.\n\noptions:\n" ++
    "  -h, --help            show this help message and exit\n  --output OUTPUT\n  --rows ROWS\n" ++
    "  --batch-size BATCH_SIZE\n  --seed SEED           pool seed for reproducible output"

def itemAt (path : String) : IO (Option (String × Item)) := do
  try
    if ← (← IO.FS.realPath path).isDir then return some (path, .folder)
    if ← (← IO.FS.realPath path).pathExists then return some (path, .file .empty)
    return none
  catch _ => return none

def onTheWay (path : String) : IO Directory := do
  let chars := path.toList
  let starts := (List.range chars.length).map fun i => String.ofList (chars.take (i + 1))
  return ⟨← starts.filterMapM itemAt⟩

def drawn : IO Int := do
  let bytes ← IO.getRandomBytes 4
  return bytes.toList.foldl (fun n b => n * 256 + b.toNat) 0

def idle : Clock := .steady (.finite 0)

def clockFor (e : Export) (w : World) : IO Clock := do
  let start ← IO.monoNanosNow
  let made ← IO.mkRef (e.configure w)
  let stop ← IO.monoNanosNow
  discard made.get
  return .steady (.ofRat ((stop - start : Nat) / (1000000000 : Rat)))

def worldFor (e : Export) : IO World := do
  let now ← Std.Time.Timestamp.now
  let w : World := ⟨now.toMillisecondsSinceUnixEpoch.toInt, ← drawn, idle, ← onTheWay e.path.plain⟩
  return { w with clock := ← clockFor e w }

def print (e : Entry) : IO Unit := IO.eprintln ((if e.isError then "ERROR - " else "INFO - ") ++ e.text)

def write (e : Export) : IO UInt32 := do
  let (outcome, journal, directory) := e.run (← worldFor e)
  match directory.read e.path with
  | .ok bytes => if outcome.isOk then IO.FS.writeBinFile e.path.plain bytes
  | .error _ => pure ()
  journal.forM print
  match outcome with
  | .ok _ => return 0
  | .error f =>
    IO.eprintln f.message
    return 1

end Program

end LogMill

open LogMill in
def main (arguments : List String) : IO UInt32 := do
  match CommandLine.parse arguments with
  | .error m =>
    IO.eprintln (Program.usage ++ "\nlogmill: error: " ++ m.message)
    return 2
  | .ok .help =>
    IO.println Program.help
    return 0
  | .ok (.export e) => Program.write e
