import LogMill.Run.Configure

namespace LogMill

structure Plan where
  rowCount : Int
  batchSize : Int
  poolCap : Option Int
  seed : Value
  parallelism : Int
  table : Value
  bucket : Value
  keyPrefix : Value
  workgroup : Value
  database : Value
  role : Value

namespace Plan

def defaultRowCount : Int := 2000000

def defaultBatchSize : Int := 100000

def defaultParallelism : Int := 8

structure Given where
  rowCount : Value := .int defaultRowCount
  batchSize : Value := .int defaultBatchSize
  poolCap : Value := .null
  seed : Value := .null
  parallelism : Value := .int defaultParallelism
  table : Value := .text "benchmark_logs"
  bucket : Value := .null
  keyPrefix : Value := .text "raw"
  workgroup : Value := .null
  database : Value := .text "dev"
  role : Value := .null

def names : List String :=
  ["row_count", "batch_size", "pool_cap", "seed", "parallelism", "table_name", "s3_bucket", "s3_prefix",
    "redshift_workgroup", "db_name", "iam_role"]

def Given.ofFields (fields : List (String × Value)) : Except Misfit Given := do
  Value.onlyNames "BenchmarkConfig.__init__()" names fields
  let given := fun name other => (fields.lookup name).getD other
  let fresh : Given := {}
  return {
    rowCount := given "row_count" fresh.rowCount
    batchSize := given "batch_size" fresh.batchSize
    poolCap := given "pool_cap" fresh.poolCap
    seed := given "seed" fresh.seed
    parallelism := given "parallelism" fresh.parallelism
    table := given "table_name" fresh.table
    bucket := given "s3_bucket" fresh.bucket
    keyPrefix := given "s3_prefix" fresh.keyPrefix
    workgroup := given "redshift_workgroup" fresh.workgroup
    database := given "db_name" fresh.database
    role := given "iam_role" fresh.role }

def ofGiven (g : Given) : Except Setting.Fault Plan := do
  let rowCount ← requirePositive "row_count" g.rowCount
  let batchSize ← requirePositive "batch_size" g.batchSize
  let parallelism ← requirePositive "parallelism" g.parallelism
  let poolCap ← requirePositive? "pool_cap" g.poolCap
  return {
    rowCount, batchSize, poolCap, parallelism
    seed := g.seed
    table := g.table
    bucket := g.bucket
    keyPrefix := g.keyPrefix
    workgroup := g.workgroup
    database := g.database
    role := g.role }

def number (env : String → Option String) (name : String) (other : Value) : Except Setting.Fault Value :=
  match (env name).filter (· ≠ "") with
  | none => .ok other
  | some raw =>
    match Whole.read (raw.toList.filter (· ≠ '_')) with
    | some n => .ok (.int n)
    | none => .error (.notInteger name (Text.quoted raw))

def ofEnvironment (env : String → Option String) : Except Setting.Fault Plan := do
  let rowCount ← number env "TABLE_ROW_COUNT" (.int defaultRowCount)
  let batchSize ← number env "BATCH_SIZE" (.int defaultBatchSize)
  let poolCap ← number env "POOL_CAP" .null
  let seed ← number env "SEED" .null
  let parallelism ← number env "PARALLELISM" (.int defaultParallelism)
  let text := fun name (other : Value) => ((env name).map Value.text).getD other
  let fresh : Given := {}
  ofGiven {
    rowCount, batchSize, poolCap, seed, parallelism
    table := text "TABLE_NAME" fresh.table
    bucket := text "S3_BUCKET" fresh.bucket
    keyPrefix := text "S3_PREFIX" fresh.keyPrefix
    workgroup := text "REDSHIFT_WORKGROUP" fresh.workgroup
    database := text "DB_NAME" fresh.database
    role := text "REDSHIFT_IAM_ROLE" fresh.role }

def generatorFields (p : Plan) : List (String × Value) :=
  [("row_count", .int p.rowCount), ("batch_size", .int p.batchSize),
    ("pool_cap", (p.poolCap.map .int).getD .null), ("seed", p.seed)]

def toFields (p : Plan) : List (String × Value) :=
  p.generatorFields ++
    [("parallelism", .int p.parallelism), ("table_name", p.table), ("s3_bucket", p.bucket),
      ("s3_prefix", p.keyPrefix), ("redshift_workgroup", p.workgroup), ("db_name", p.database),
      ("iam_role", p.role)]

def settings (p : Plan) : Settings where
  rowCount := .int p.rowCount
  batchSize := .int p.batchSize
  poolCap := (p.poolCap.map .int).getD .null
  seed := p.seed

end Plan

end LogMill
