import LogMill.Number.Double
import LogMill.Template.Spec

namespace LogMill

namespace Spec

structure Numeral where
  base : List Char := []
  digits : List Char
  hasPoint : Bool := false
  rest : List Char := []

def grouped (separator : Char) (size : Nat) : (fuel : Nat) → (digits : List Char) → (width : Int) → List Char
  | 0, _, _ => []
  | fuel + 1, digits, width =>
    let length := min size (max (max digits.length width.toNat) 1)
    let group := digits.take length
    let filled := group ++ List.replicate (length - group.length) '0'
    let digits := digits.drop length
    let width := width - length
    if digits.isEmpty ∧ width ≤ 0 then filled
    else filled ++ separator :: grouped separator size fuel digits (width - 1)

def spread (spec : Spec) (digits : List Char) (width : Int) : List Char :=
  match spec.separator with
  | none => digits.leftpad width.toNat '0'
  | some c =>
    let size := if ['b', 'o', 'x', 'X'].contains spec.type then 4 else 3
    (grouped c size (digits.length + width.toNat + 1) digits.reverse width).reverse

def place (spec : Spec) (isNegative : Bool) (x : Numeral) : List Char :=
  let sign := if isNegative then ['-'] else (spec.sign.filter (· ≠ '-')).toList
  let tail := (if x.hasPoint then ['.'] else []) ++ x.rest
  let others := sign.length + x.base.length + tail.length
  let isZeros := spec.fill = '0' ∧ spec.align = '='
  let least : Int := if isZeros then (min (spec.width.getD 0) maxPadding : Nat) - others else 0
  let digits := if x.digits.isEmpty then [] else spec.spread x.digits least
  let missing := spec.width.getD 0 - (others + digits.length)
  let left :=
    if spec.align = '>' then missing
    else if spec.align = '^' then missing / 2
    else 0
  let inner := if spec.align = '=' then missing else 0
  spec.padding left ++ sign ++ x.base ++ spec.padding inner ++ digits ++ tail ++ spec.padding (missing - left - inner)

def upper (s : List Char) : List Char := s.map Char.toUpper

def wholeNumeral (spec : Spec) (n : Int) : Numeral :=
  let inBase := fun (k : Nat) (mark : Char) =>
    { base := if spec.alternate then ['0', mark] else [], digits := Nat.toDigits k n.natAbs : Numeral }
  match spec.type with
  | 'b' => inBase 2 'b'
  | 'o' => inBase 8 'o'
  | 'x' => inBase 16 'x'
  | 'X' => let x := inBase 16 'X'; { x with digits := upper x.digits }
  | _ => { digits := Nat.toDigits 10 n.natAbs }

def fixedNumeral (isAlternate : Bool) (places : Nat) (x : Rat) : Numeral :=
  let n := (Double.nearestEven (x * Nat.pow 10 places)).toNat
  let digits := (Nat.toDigits 10 n).leftpad (places + 1) '0'
  let front := digits.length - places
  ⟨[], digits.take front, isAlternate || 0 < places, digits.drop front⟩

def scientific (count : Nat) (x : Rat) : Int × List Char :=
  if x ≤ 0 then (0, List.replicate count '0')
  else
    let size := (Nat.toDigits 10 x.floor.toNat).length
    let power : Int := size - 1
    let n := (Double.nearestEven (x / (10 : Rat) ^ (power - (count - 1)))).toNat
    let digits := Nat.toDigits 10 n
    if count < digits.length then (power + 1, digits.take count) else (power, digits)

def powerMark (mark : Char) (power : Int) : List Char :=
  mark :: (if power < 0 then '-' else '+') :: (Nat.toDigits 10 power.natAbs).leftpad 2 '0'

def scientificNumeral (isAlternate : Bool) (mark : Char) (places : Nat) (x : Rat) : Numeral :=
  let (power, digits) := scientific (places + 1) x
  ⟨[], digits.take 1, isAlternate || 0 < places, digits.drop 1 ++ powerMark mark power⟩

def generalNumeral (isAlternate : Bool) (mark : Char) (places : Nat) (x : Rat) : Numeral :=
  let count := max places 1
  let (power, digits) := scientific count x
  let cut := fun (ds : List Char) => if isAlternate then ds else (ds.reverse.dropWhile (· = '0')).reverse
  if power < -4 ∨ count ≤ power then
    let rest := cut (digits.drop 1)
    ⟨[], digits.take 1, isAlternate || !rest.isEmpty, rest ++ powerMark mark power⟩
  else
    let x := fixedNumeral isAlternate (count - 1 - power).toNat x
    let rest := cut x.rest
    { x with hasPoint := isAlternate || !rest.isEmpty, rest }

def maxPrecision : Nat := 0x7FFFFFFF

def realNumeral (spec : Spec) (n : Int) : Except Fault Numeral := do
  if maxPrecision < spec.precision.getD 0 then throw .precise
  if maxPadding < spec.precision.getD 0 then throw .noRoom
  let value := Double.ofInt n.natAbs
  let value := if spec.type = '%' then value * .finite 100 else value
  let x := (value.toRat?).getD 0
  let places := spec.precision.getD 6
  match spec.type with
  | 'e' | 'E' => return scientificNumeral spec.alternate spec.type places x
  | 'g' => return generalNumeral spec.alternate 'e' places x
  | 'G' => return generalNumeral spec.alternate 'E' places x
  | '%' =>
    let numeral := fixedNumeral spec.alternate places x
    return { numeral with rest := numeral.rest ++ ['%'] }
  | _ => return fixedNumeral spec.alternate places x

def isReal (type : Char) : Bool := ['e', 'E', 'f', 'F', 'g', 'G', '%'].contains type

def character (spec : Spec) (n : Int) : Except Fault (List Char) :=
  if spec.sign.isSome then .error .signedCharacter
  else if spec.alternate then .error .alternateCharacter
  else if n < 0 ∨ 0x10FFFF < n then .error .noCharacter
  else .ok (spec.place false { digits := [], rest := [Char.ofNat n.toNat] })

def applyNumber (kind : String) (text : List Char) (n : Int) : Except Fault (List Char) := do
  let spec ← read ⟨kind, 'd', '>'⟩ text
  if room < spec.width.getD 0 then throw .noRoom
  if isReal spec.type then return spec.place (n < 0) (← spec.realNumeral n)
  if spec.type ∉ ['b', 'c', 'd', 'o', 'x', 'X', 'n'] then throw (.unknownType spec.type kind)
  if spec.precision.isSome then throw .wholePrecision
  if spec.noMinusZero then throw .wholeMinusZero
  if spec.type = 'c' then spec.character n
  else return spec.place (n < 0) (spec.wholeNumeral n)

end Spec

end LogMill
