import LogMill.Number.Whole
import LogMill.Scatter

namespace LogMill

inductive Placeholder where
  | user
  | ip
  | time
  | size
  | count
  | table
  | id
  | service
  | status
deriving DecidableEq, Repr

namespace Placeholder

def all : List Placeholder := [user, ip, time, size, count, table, id, service, status]

def name : Placeholder → String
  | user => "USER"
  | ip => "IP"
  | time => "TIME"
  | size => "SIZE"
  | count => "COUNT"
  | table => "TABLE"
  | id => "ID"
  | service => "SERVICE"
  | status => "STATUS"

def ofName? (s : String) : Option Placeholder := all.find? fun p => p.name = s

def tables : Vector String 10 :=
  #v["orders", "users", "payments", "sessions", "inventory", "audit_log", "shipments", "invoices", "events",
    "accounts"]

def services : Vector String 8 :=
  #v["api-gateway", "auth-service", "user-service", "payment-service", "order-service", "inventory-service",
    "notification-service", "search-service"]

def statuses : Vector String 16 :=
  #v["200", "201", "204", "400", "401", "403", "404", "409", "429", "500", "502", "503", "504", "OK",
    "FAILED", "TIMEOUT"]

def sizeText (h : Nat) : String :=
  let kb := 1 + h % 1024
  if kb = 1024 then "1MB" else toString kb ++ "KB"

def addressText (h : Nat) : String :=
  "192.168." ++ toString (h / 256 % 256) ++ "." ++ toString (h % 256)

def value (row : Int) : Placeholder → String
  | user => "user_" ++ toString (10000 + scatter row 1 % 1000)
  | ip => addressText (scatter row 2)
  | time => toString (1 + scatter row 3 % 4999)
  | size => sizeText (scatter row 4)
  | count => toString (1 + scatter row 5 % 999)
  | table => pick tables (scatter row 6)
  | id => Whole.hex 8 (scatter row 7)
  | service => pick services (scatter row 8)
  | status => pick statuses (scatter row 9)

end Placeholder

end LogMill
