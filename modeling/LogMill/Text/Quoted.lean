import LogMill.Number.Whole
import LogMill.Text.Half
import LogMill.Text.Printable

namespace LogMill.Text

def quoteOf (s : List Char) : Char :=
  if s.contains '\x27' && !s.contains '"' then '"' else '\x27'

def codeEscape (n : Nat) : String :=
  if n ≤ 0xFF then "\\x" ++ Whole.hex 2 n
  else if n ≤ 0xFFFF then "\\u" ++ Whole.hex 4 n
  else "\\U" ++ Whole.hex 8 n

def escape (h : Halves) (keep : Char → Bool) (quote c : Char) : String :=
  if c = quote || c = '\\' then String.ofList ['\\', c]
  else if c = '\t' then "\\t"
  else if c = '\n' then "\\n"
  else if c = '\r' then "\\r"
  else if keep c then c.toString
  else codeEscape (h.code c)

def quotedWith (h : Halves) (keep : Char → Bool) (s : String) : String :=
  let quote := quoteOf s.toList
  quote.toString ++ String.join (s.toList.map (escape h keep quote)) ++ quote.toString

def quoted (s : String) : String := quotedWith none isPrintable s

def quotedIn (h : Halves) (s : String) : String := quotedWith h isPrintable s

end LogMill.Text
