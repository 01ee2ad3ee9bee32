import LogMill.Kind
import LogMill.Number.Whole
import LogMill.Text.Half

namespace LogMill.Text

structure Unencodable where
  unit : Nat
  place : Nat
  count : Nat
deriving DecidableEq

namespace Unencodable

def message (u : Unencodable) : String :=
  "'utf-8' codec can't encode " ++
    (if u.count = 1 then "character '\\u" ++ Whole.hex 4 u.unit ++ "' in position " ++ toString u.place
      else "characters in position " ++ toString u.place ++ "-" ++ toString (u.place + u.count - 1)) ++
    ": surrogates not allowed"

instance explained : Explained Unencodable := ⟨fun _ => .unencodable, message⟩

def find? (h : Halves) (s : List Char) : Option Unencodable := do
  let front := s.takeWhile fun c => (h.unit? c).isNone
  let halves := (s.drop front.length).takeWhile fun c => (h.unit? c).isSome
  return ⟨← h.unit? (← halves.head?), front.length, halves.length⟩

end Unencodable

end LogMill.Text
