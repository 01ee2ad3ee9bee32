namespace LogMill

inductive ColumnType where
  | timestamp
  | integer
  | text (width : Nat)
deriving DecidableEq, Repr

namespace ColumnType

def kindName : ColumnType → String
  | timestamp => "timestamp"
  | integer => "int64"
  | text _ => "string"

def sqlName : ColumnType → String
  | timestamp => "TIMESTAMP"
  | integer => "BIGINT"
  | text width => "VARCHAR(" ++ toString width ++ ")"

def frameName : ColumnType → String
  | timestamp => "datetime64[ms]"
  | integer => "int64"
  | text _ => "object"

end ColumnType

structure Column where
  name : String
  type : ColumnType
deriving DecidableEq, Repr

namespace Schema

def columns : List Column := [
  ⟨"ts", .timestamp⟩,
  ⟨"log_uid", .text 64⟩,
  ⟨"log_message", .text 2048⟩,
  ⟨"log_level", .text 8⟩,
  ⟨"host_id", .text 32⟩,
  ⟨"host_name", .text 32⟩,
  ⟨"service_id", .text 32⟩,
  ⟨"service_name", .text 32⟩,
  ⟨"container_id", .text 32⟩,
  ⟨"container_name", .text 32⟩,
  ⟨"pod_id", .text 32⟩,
  ⟨"pod_name", .text 32⟩,
  ⟨"cluster_id", .text 32⟩,
  ⟨"cluster_name", .text 32⟩,
  ⟨"trace_id", .text 32⟩,
  ⟨"span_id", .text 32⟩,
  ⟨"user_id", .text 16⟩,
  ⟨"session_id", .text 32⟩,
  ⟨"request_id", .text 32⟩,
  ⟨"response_time_ms", .integer⟩,
  ⟨"log_source", .text 16⟩,
  ⟨"version", .text 16⟩]

def names : List String := columns.map Column.name

def indexOf? (name : String) : Option Nat := names.findIdx? (· == name)

def createTable (table : String) : String :=
  "\n    CREATE TABLE IF NOT EXISTS " ++ table ++ " (\n" ++
    String.intercalate ",\n" (columns.map fun c => "        " ++ c.name ++ " " ++ c.type.sqlName) ++
    "\n    )\n    SORTKEY (ts);\n    "

end Schema

end LogMill
