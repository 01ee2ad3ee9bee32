namespace LogMill

inductive Part where
  | pools
  | generator
  | runner
  | delivery
  | report
  | program
deriving DecidableEq, Repr

structure Entry where
  isError : Bool
  part : Part
  text : String
deriving DecidableEq, Repr

abbrev Journal := List Entry

def note (part : Part) (text : String) : Entry := ⟨false, part, text⟩

def alarm (part : Part) (text : String) : Entry := ⟨true, part, text⟩

end LogMill
