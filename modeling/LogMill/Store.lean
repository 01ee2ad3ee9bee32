import LogMill.Call
import LogMill.Journal
import LogMill.Kind
import LogMill.Value.Display

/-!
Object stores, as a run meets them: what they answer may depend on all calls so far. A call to list objects
gives pages of keys.
-/

namespace LogMill

namespace Store

inductive Page where
  | keys (ks : List String)
  | empty
  | failure (reason : String)
deriving DecidableEq

/-- How a store answers. A text is the reason for which it refuses. -/
structure Client where
  paginator : Option String
  pages : List Page
  deletion : List Call → Option String
  refusal : List Call → (key : String) → Option String

inductive Fault where
  | clearing (bucket keyPrefix reason : String)
deriving DecidableEq

def Fault.message : Fault → String
  | clearing bucket keyPrefix reason =>
    "Could not clear s3://" ++ bucket ++ "/" ++ keyPrefix ++ ": " ++ reason

instance Fault.explained : Explained Fault := ⟨fun _ => .delivery, Fault.message⟩

def put (c : Client) (calls : List Call) (bucket : Value) (key body : String) : Option String × List Call :=
  let refusal := c.refusal calls key
  (refusal, calls ++ [.put bucket key body refusal])

def clearPages (c : Client) (bucket : Value) :
    List Page → (deleted : Nat) → List Call → Except String Nat × List Call
  | [], deleted, calls => (.ok deleted, calls)
  | .failure reason :: _, _, calls => (.error reason, calls)
  | .empty :: pages, deleted, calls => clearPages c bucket pages deleted calls
  | .keys [] :: pages, deleted, calls => clearPages c bucket pages deleted calls
  | .keys (k :: ks) :: pages, deleted, calls =>
    let refusal := c.deletion calls
    let after := calls ++ [.delete bucket (k :: ks) refusal]
    match refusal with
    | some reason => (.error reason, after)
    | none => clearPages c bucket pages (deleted + (ks.length + 1)) after

def clear (c : Client) (bucket keyPrefix : Value) (calls : List Call) :
    Except Fault Nat × List Call × Journal :=
  let place := "s3://" ++ bucket.plain ++ "/" ++ keyPrefix.plain
  let (outcome, calls) : Except String Nat × List Call := match c.paginator with
    | some reason => (.error reason, calls)
    | none => clearPages c bucket c.pages 0 (calls ++ [.paginator "list_objects_v2", .list bucket keyPrefix])
  match outcome with
  | .ok n => (.ok n, calls, [note .delivery ("Removed " ++ toString n ++ " stale objects from " ++ place)])
  | .error reason =>
    (.error (.clearing bucket.plain keyPrefix.plain reason), calls,
      [alarm .delivery ("Error clearing " ++ place ++ ": " ++ reason)])

end Store

end LogMill
