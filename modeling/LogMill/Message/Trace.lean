import LogMill.Scatter

namespace LogMill.Trace

def exceptions : Vector String 6 :=
  #v["java.sql.SQLTransientConnectionException", "java.util.concurrent.TimeoutException",
    "java.lang.IllegalStateException", "java.io.IOException", "java.lang.NullPointerException",
    "org.apache.kafka.common.errors.RecordTooLargeException"]

def packages : Vector String 6 :=
  #v["com.app.service", "com.app.repository", "com.app.controller", "com.app.client", "com.app.middleware",
    "com.zaxxer.hikari.pool"]

def classes : Vector String 8 :=
  #v["OrderService", "UserRepository", "PaymentClient", "AuthMiddleware", "HikariPool",
    "InventoryController", "SessionManager", "LedgerWriter"]

def methods : Vector String 10 :=
  #v["process", "findByUserId", "charge", "doFilter", "getConnection", "handleRequest", "commit", "refresh",
    "execute", "validate"]

def minDepth : Nat := 3

def maxDepth : Nat := 8

def percent : Nat := 70

def isDue (row : Int) : Bool := scatter row 11 % 100 < percent

def depth (row : Int) : Nat := minDepth + scatter row 12 % (maxDepth - minDepth + 1)

def exception (row : Int) : String := pick exceptions (scatter row 13)

def frame (row : Int) (n : Nat) : String :=
  let h := scatter row (20 + n)
  let owner := pick classes (h >>> 4)
  "\n\tat " ++ pick packages h ++ "." ++ owner ++ "." ++ pick methods (h >>> 8) ++ "(" ++ owner ++
    ".java:" ++ toString (1 + (h >>> 12) % 999) ++ ")"

def text (row : Int) : String :=
  "\n" ++ exception row ++ ": operation aborted" ++ String.join ((List.range (depth row)).map (frame row))

end LogMill.Trace
