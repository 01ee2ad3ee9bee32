import LogMill.Template.Placeholder

namespace LogMill

inductive Chunk where
  | text (s : String)
  | slot (p : Placeholder)
deriving DecidableEq

instance : Coe String Chunk := ⟨.text⟩

namespace Chunk

abbrev user : Chunk := slot .user
abbrev ip : Chunk := slot .ip
abbrev time : Chunk := slot .time
abbrev size : Chunk := slot .size
abbrev count : Chunk := slot .count
abbrev table : Chunk := slot .table
abbrev id : Chunk := slot .id
abbrev service : Chunk := slot .service
abbrev status : Chunk := slot .status

end Chunk

abbrev Phrase := List Chunk

def Chunk.fill (values : Placeholder → String) : Chunk → String
  | text s => s
  | slot p => values p

def Chunk.source : Chunk → String
  | text s => s
  | slot p => "\x7b" ++ p.name ++ "\x7d"

def Phrase.fill (p : Phrase) (values : Placeholder → String) : String :=
  String.join (List.map (Chunk.fill values) p)

def Phrase.source (p : Phrase) : String := String.join (List.map Chunk.source p)

def Phrase.startsWithText : Phrase → Bool
  | .text s :: _ => s ≠ ""
  | _ => false

theorem Phrase.length_fill_pos {p : Phrase} (h : p.startsWithText) (values : Placeholder → String) :
    0 < (p.fill values).length := by
  match p with
  | .text s :: r =>
    have hs : s ≠ "" := by simpa [startsWithText] using h
    have : s.length ≠ 0 := by simpa using hs
    simp [fill, Chunk.fill]
    omega

end LogMill
