import LogMill.Report.Levels
import LogMill.Row.Generator
import LogMill.Sink.File
import LogMill.Sink.Upload
import LogMill.Template.Document
import LogMill.Warehouse

namespace LogMill

inductive Failure where
  | setting (f : Setting.Fault)
  | document (f : Document.Fault)
  | duration (f : Duration.Fault)
  | feed (f : Feed.Fault)
  | producer (f : Producer.Fault)
  | directory (f : Directory.Fault)
  | file (f : FileSink.Fault)
  | upload (f : Upload.Fault)
  | store (f : Store.Fault)
  | warehouse (f : Warehouse.Fault)
  | levels (f : LevelSummary.Fault)
  | misfit (f : Misfit)
  | arithmetic (f : Arithmetic.Fault)
  | number (f : Whole.Fault)
  | elapsed (f : Double.Fault)
  | uploading (reason : Value)
  | loading (reason : Value)
  | endless
  | reported (foreseen : Bool) (kind message : String)

namespace Failure

def message : Failure → String
  | setting f => f.message
  | document f => f.message
  | duration f => f.message
  | feed f => f.message
  | producer f => f.message
  | directory f => f.message
  | file f => f.message
  | upload f => f.message
  | store f => f.message
  | warehouse f => f.message
  | levels f => f.message
  | misfit f => f.message
  | arithmetic f => f.message
  | number f => f.message
  | elapsed f => f.message
  | uploading reason => reason.plain
  | loading reason => reason.plain
  | endless => "no rows are left to generate"
  | reported _ _ message => message

def kind : Failure → Kind
  | setting _ => .setting
  | document f => f.kind
  | duration f => f.kind
  | feed _ => .key
  | producer f => f.kind
  | directory f => f.kind
  | file f => f.kind
  | upload f => f.kind
  | levels f => f.kind
  | misfit f => f.kind
  | arithmetic f => f.kind
  | number _ => .value
  | elapsed f => f.kind
  | store _ | warehouse _ | uploading _ | loading _ => .delivery
  | endless => .standstill
  | reported _ name _ => .reported name

instance explained : Explained Failure := ⟨kind, message⟩

def isForeseen : Failure → Bool
  | reported foreseen _ _ => foreseen
  | f => f.kind.isForeseen

def cause? : Failure → Option Kind
  | document (.unreadable _ cause) => some cause
  | _ => none

end Failure

end LogMill
