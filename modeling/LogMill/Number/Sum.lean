import LogMill.Number.Double

namespace LogMill.Double

def carriedSum (xs : List Double) : Double :=
  (xs.foldl (fun (sum, lost) x =>
    let y := x - lost
    let t := sum + y
    let lost := (t - sum) - y
    (t, if lost = .nan then .finite 0 else lost)) (finite 0, finite 0)).1

def pairs : List Double → List Double
  | a :: b :: xs => (a + b) :: pairs xs
  | xs => xs

def lanes : Nat := 8

def rounds (xs : List Double) : List (List Double) :=
  (List.range (xs.length / lanes)).map fun i => (xs.drop (i * lanes)).take lanes

def sideSum (xs : List Double) : Double :=
  let places := match rounds xs with
    | [] => []
    | first :: others => others.foldl (List.zipWith (· + ·)) first
  let start := (pairs (pairs (pairs places))).headD minusZero
  (xs.drop (xs.length / lanes * lanes)).foldl (· + ·) start

def halvedSum (xs : List Double) : Double :=
  if xs.length ≤ 16 * lanes then sideSum xs
  else
    let half := xs.length / 2 / lanes * lanes
    halvedSum (xs.take half) + halvedSum (xs.drop half)
termination_by xs.length
decreasing_by all_goals simp only [lanes, List.length_take, List.length_drop] at *; omega

def leadSum : List Double → Double
  | [] => .finite 0
  | x :: xs => x + halvedSum xs

end LogMill.Double
