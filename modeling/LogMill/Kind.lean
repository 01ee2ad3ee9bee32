namespace LogMill

inductive Kind where
  | setting
  | preparation
  | delivery
  | type
  | value
  | key
  | index
  | member
  | division
  | overflow
  | memory
  | depth
  | notFound
  | isFolder
  | notFolder
  | system
  | encoding
  | unencodable
  | document
  | moment
  | date
  | clock
  | notFinite
  | standstill
  | reported (name : String)
deriving DecidableEq, Repr

def Kind.isForeseen : Kind → Bool
  | setting | preparation | delivery => true
  | _ => false

class Explained (ε : Type) where
  kind : ε → Kind
  message : ε → String

end LogMill
