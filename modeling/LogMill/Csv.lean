import LogMill.Value.Display

/-!
Comma separated records. A field stands between double quotes if it holds a character that a dialect
quotes, and a double quote inside it is written twice.
-/

namespace LogMill.Csv

structure Dialect where
  quotes : List Char
  lineEnd : List Char

/-- Files: a carriage return and a line feed end a record, and either of them is quoted. -/
def Dialect.file : Dialect := ⟨['\r', '\n'], ['\r', '\n']⟩

/-- Objects in a store: a line feed ends a record, and is quoted; a carriage return is not. -/
def Dialect.object : Dialect := ⟨['\n'], ['\n']⟩

def needsQuotes (d : Dialect) (s : List Char) : Bool :=
  s.any fun c => c = ',' || c = '"' || d.quotes.contains c

def doubled : List Char → List Char
  | [] => []
  | c :: s => if c = '"' then c :: c :: doubled s else c :: doubled s

def field (d : Dialect) (s : List Char) : List Char :=
  if needsQuotes d s then '"' :: doubled s ++ ['"'] else s

def record (d : Dialect) (fields : List (List Char)) : List Char :=
  (if fields = [[]] then ['"', '"'] else List.intercalate [','] (fields.map (field d))) ++ d.lineEnd

def records (d : Dialect) (rows : List (List (List Char))) : List Char := rows.flatMap (record d)

def cell : Value → List Char
  | .null => []
  | v => v.plain.toList

end LogMill.Csv
