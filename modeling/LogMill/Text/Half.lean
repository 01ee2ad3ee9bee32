/-!
Halves of pairs. A text that is read may name a code unit that counts only as half of a pair, and stands
alone. It is no character; a code point that belongs to no character, and that the text does not hold otherwise,
stands for it.
-/

namespace LogMill.Text

def isHalf (unit : Nat) : Bool := 0xD800 ≤ unit && unit ≤ 0xDFFF

def halfCount : Nat := 0x800

def half (first unit : Nat) : Char := Char.ofNat (first + (unit - 0xD800))

/-- Where the characters may begin that stand for halves: none of them belongs to a character. -/
def halfPlaces : List Nat := (List.range 320).map fun i => 0x40000 + halfCount * i

def isPlaced (first : Nat) (c : Char) : Bool := first ≤ c.toNat && c.toNat < first + halfCount

abbrev Halves := Option Nat

def Halves.unit? (h : Halves) (c : Char) : Option Nat :=
  h.bind fun first => if isPlaced first c then some (c.toNat - first + 0xD800) else none

def Halves.code (h : Halves) (c : Char) : Nat := (h.unit? c).getD c.toNat

def Halves.atMost (h : Halves) (s t : String) : Bool :=
  !List.lex (t.toList.map h.code) (s.toList.map h.code) Nat.blt

end LogMill.Text
