import LogMill.Main
import LogMill.Run.Ingest
import LogMill.Json.Writer
import LogMill.Random.Seed
import LogMill.Row.Walk
import LogMill.Value.Scatter
import LogMill.Proofs.Run.Ingestion
import LogMill.Proofs.Run.Closing
import LogMill.Proofs.Message.Recognition
import LogMill.Proofs.Message.Size
import LogMill.Proofs.Run.Reproduction
import LogMill.Proofs.Run.Parallelism
import LogMill.Proofs.Pool.Names
import LogMill.Proofs.Row.Naming
import LogMill.Proofs.Message.Spread
import LogMill.Proofs.Number.Sorting
import LogMill.Proofs.Row.Disorder
import LogMill.Proofs.Report.Distribution
import LogMill.Proofs.Report.Speed
import LogMill.Proofs.Row.Standstill
import LogMill.Proofs.Calendar.Days
import LogMill.Proofs.Calendar.March
import LogMill.Proofs.Number.Padding
import LogMill.Proofs.Calendar.Stamp
import LogMill.Proofs.Sink.Moments
import LogMill.Proofs.Sink.Records
import LogMill.Proofs.Run.Places
