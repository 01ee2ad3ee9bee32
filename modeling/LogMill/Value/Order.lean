import LogMill.Value.Misfit

namespace LogMill.Value

mutual

def equals : Value → Value → Bool
  | null, null => true
  | text s, text t => s = t
  | list xs, list ys => equalItems xs ys
  | object fs, object gs => fs.length = gs.length && equalFields fs gs
  | a, b =>
    match a.number?, b.number? with
    | some x, some y => x.equals y
    | _, _ => false

def equalItems : List Value → List Value → Bool
  | [], [] => true
  | x :: xs, y :: ys => equals x y && equalItems xs ys
  | _, _ => false

def equalFields : List (String × Value) → List (String × Value) → Bool
  | [], _ => true
  | (name, v) :: fs, gs =>
    (match gs.lookup name with
      | some w => equals v w
      | none => false) && equalFields fs gs

end

mutual

def before (sign : String) : Value → Value → Except Misfit Bool
  | text s, text t => .ok (s < t)
  | list xs, list ys => itemsBefore sign xs ys
  | a, b =>
    match a.number?, b.number? with
    | some x, some y => .ok (x.less y)
    | _, _ => .error (.incomparable sign a.kindName b.kindName)

def itemsBefore (sign : String) : List Value → List Value → Except Misfit Bool
  | [], ys => .ok (!ys.isEmpty)
  | _ :: _, [] => .ok false
  | x :: xs, y :: ys => if equals x y then itemsBefore sign xs ys else before sign x y

end

def less (v w : Value) : Except Misfit Bool := before "<" v w

def atMost (v w : Value) : Except Misfit Bool := do return (← before "<=" v w) || v.equals w

def lesser (v w : Value) : Except Misfit Value := do return if ← w.less v then w else v

def atLeast (v w : Value) : Except Misfit Bool := do
  return !(← before ">=" v w) && ((← before ">=" w v) || v.equals w)

end LogMill.Value
