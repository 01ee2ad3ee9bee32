import LogMill.Template.Phrase

namespace LogMill.Builtin

def info : List Phrase := [
  ["User ", .user, " logged in successfully from ", .ip, ". Session initialized with ", .count,
    " cached permissions, profile loaded from table ", .table, " in ", .time, "ms. Request ", .id,
    " routed through ", .service, " with status ", .status, "."],
  ["Processed batch ", .id, " for ", .service, ": ", .count, " records written to ", .table, " (", .size,
    ") in ", .time, "ms. Upstream caller ", .user, " at ", .ip, " acknowledged with status ", .status,
    "."],
  ["HTTP GET /api/v1/orders?user=", .user, " completed with status ", .status, " in ", .time,
    "ms, response size ", .size, ", client ", .ip, ". Served by ", .service, ", ", .count,
    " rows read from ", .table, ", trace ", .id, "."],
  ["Scheduled job ", .id, " on ", .service, " finished: compacted ", .count, " segments of ", .table,
    " reclaiming ", .size, " in ", .time, "ms. Triggered by ", .user, " from ", .ip, ", final status ",
    .status, "."],
  ["Cache refresh for ", .table, " completed on ", .service, ": ", .count, " keys reloaded (", .size,
    ") in ", .time, "ms. Invalidation request ", .id, " issued by ", .user, " from ", .ip, " returned ",
    .status, "."],
  ["Payment authorization ", .id, " for ", .user, " approved by ", .service, " in ", .time,
    "ms with status ", .status, ". Ledger table ", .table, " updated with ", .count, " entries, payload ",
    .size, ", origin ", .ip, "."]]

def debug : List Phrase := [
  ["Entering handler for request ", .id, " on ", .service, ": user=", .user, " remote=", .ip, " payload=",
    .size, " expected_rows=", .count, " target_table=", .table, " timeout=", .time, "ms last_status=",
    .status, "."],
  ["Query plan for ", .table, " chosen by ", .service, ": index scan over ", .count,
    " partitions, estimated ", .size, " read, budget ", .time, "ms. Request ", .id, " from ", .user,
    " at ", .ip, ", previous status ", .status, "."],
  ["Connection pool stats on ", .service, ": ", .count, " active, lease for ", .user, " (", .ip,
    ") granted after ", .time, "ms, buffer ", .size, ", statement ", .id, " bound to ", .table,
    ", driver status ", .status, "."],
  ["Deserialized message ", .id, " (", .size, ") from ", .ip, " for ", .user, ": ", .count,
    " fields mapped onto ", .table, " schema by ", .service, " in ", .time, "ms, validation status ",
    .status, "."]]

def warn : List Phrase := [
  ["Slow query detected on ", .service, ": statement ", .id, " against ", .table, " took ", .time,
    "ms scanning ", .count, " rows (", .size, "). Caller ", .user, " from ", .ip, ", response status ",
    .status, "."],
  ["Retrying request ", .id, " to ", .service, " after status ", .status, ": attempt ", .count,
    ", backoff ", .time, "ms. User ", .user, " at ", .ip, " still waiting, pending write of ", .size,
    " to ", .table, "."],
  ["Memory pressure on ", .service, ": heap usage grew by ", .size, " while serving ", .user, " (", .ip,
    "); ", .count, " objects from ", .table, " retained, GC pause ", .time, "ms, request ", .id,
    " status ", .status, "."],
  ["Rate limit approaching for ", .user, " on ", .service, ": ", .count,
    " requests in window, last from ", .ip, " took ", .time, "ms, payload ", .size, ", table ", .table,
    ", request ", .id, " returned ", .status, "."]]

def error : List Phrase := [
  ["Failed to process request ", .id, " on ", .service, ": transaction against ", .table,
    " rolled back after ", .time, "ms with status ", .status, ". User ", .user, " from ", .ip, " lost ",
    .count, " pending writes (", .size, ")."],
  ["Database connection to ", .table, " lost on ", .service, " while serving ", .user, " (", .ip, "): ",
    .count, " in-flight statements aborted after ", .time, "ms, request ", .id, " failed with status ",
    .status, ", buffered ", .size, " discarded."],
  ["Unhandled exception in ", .service, " handling request ", .id, " for ", .user, " from ", .ip,
    ": payload ", .size, " rejected after ", .time, "ms, ", .count, " rows in ", .table,
    " left locked, status ", .status, "."],
  ["Upstream timeout calling ", .service, " for ", .user, " at ", .ip, ": request ", .id, " exceeded ",
    .time, "ms, ", .count, " retries exhausted, partial write of ", .size, " to ", .table, ", status ",
    .status, "."]]

end LogMill.Builtin
