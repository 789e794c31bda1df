import Gleaner.Text.Half
import Gleaner.Text.Printable

/-!
Names as they are quoted in messages: in single quotes, or in double ones when the name holds a
single quote and no double one; what cannot be shown is written as an escape.
-/

namespace Gleaner.Text

def escapeIn (quote : Char) (c : Char) : List Char :=
  if c = quote || c = '\\' then ['\\', c]
  else if c = '\n' then ['\\', 'n']
  else if c = '\r' then ['\\', 'r']
  else if c = '\t' then ['\\', 't']
  else if isHalf c then '\\' :: 'u' :: hexFixed 4 (unitOf c)
  else if isPrintable c then [c]
  else if c.toNat < 0x100 then '\\' :: 'x' :: hexFixed 2 c.toNat
  else if c.toNat < 0x10000 then '\\' :: 'u' :: hexFixed 4 c.toNat
  else '\\' :: 'U' :: hexFixed 8 c.toNat

def quoteFor (s : String) : Char :=
  if s.toList.contains '\x27' && !s.toList.contains '"' then '"' else '\x27'

def quoted (s : String) : String :=
  let q := quoteFor s
  String.ofList (q :: s.toList.flatMap (escapeIn q) ++ [q])

end Gleaner.Text
