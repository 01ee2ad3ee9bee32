import LogMill.Scatter
import LogMill.Value.Arithmetic

namespace LogMill

inductive Resource where
  | host
  | service
  | container
  | pod
  | cluster
deriving DecidableEq, Repr

inductive Token where
  | trace
  | span
  | session
  | request
deriving DecidableEq, Repr

inductive Category where
  | id (r : Resource)
  | name (r : Resource)
  | token (t : Token)
deriving DecidableEq, Repr

def Resource.all : List Resource := [host, service, container, pod, cluster]

def Resource.label : Resource → String
  | host => "host"
  | service => "service"
  | container => "container"
  | pod => "pod"
  | cluster => "cluster"

def Resource.shift : Resource → Nat
  | host => 0
  | service => 1000
  | container => 2000
  | pod => 3000
  | cluster => 4000

def Token.all : List Token := [trace, span, session, request]

def Token.label : Token → String
  | trace => "trace"
  | span => "span"
  | session => "session"
  | request => "request"

def Token.lead : Token → String
  | trace => "trace_"
  | span => "span_"
  | session => "session_"
  | request => "req_"

namespace Category

def all : List Category := Resource.all.flatMap (fun r => [id r, name r]) ++ Token.all.map token

def column : Category → String
  | id r => r.label ++ "_id"
  | name r => r.label ++ "_name"
  | token t => t.label ++ "_id"

def ofColumn? (s : String) : Option Category := all.find? fun c => c.column = s

end Category

def suffixes : Vector String 36 :=
  #v["alpha", "beta", "gamma", "delta", "epsilon", "zeta", "eta", "theta", "iota", "kappa", "lambda", "mu",
    "nu", "xi", "omicron", "pi", "rho", "sigma", "tau", "upsilon", "phi", "chi", "psi", "omega", "prime",
    "secondary", "tertiary", "main", "backup", "standby", "primary", "replica", "master", "worker", "node",
    "edge"]

def nameOf (n : Int) : String := pick suffixes (n % 36).toNat ++ toString (n % 1000)

def nameIn (v : Value) : Except Arithmetic.Fault String := do
  let place ← v.modBy (.position "tuple" "str") 36
  discard ((place.index "tuple").mapError .misfit)
  return nameOf (v.whole?.getD 0)

end LogMill
