import RestScaffold.Text.Hex

/-! Interpreted string literals of Go. Only quotes, backslashes and control characters are
escaped. -/
namespace RestScaffold.Text.GoString

def escape (c : Char) : List Char :=
  if c = '"' then ['\\', '"']
  else if c = '\\' then ['\\', '\\']
  else if c = '\n' then ['\\', 'n']
  else if c = '\r' then ['\\', 'r']
  else if c = '\t' then ['\\', 't']
  else if isControl c then
    if c.toNat < 128 then '\\' :: 'x' :: hex 2 c.toNat else '\\' :: 'u' :: hex 4 c.toNat
  else [c]

def encode (cs : List Char) : List Char := '"' :: cs.flatMap escape ++ ['"']

def quote (s : String) : String := String.ofList (encode s.toList)

end RestScaffold.Text.GoString
