import RestScaffold.Text.Hex
import RestScaffold.Text.Visible

/-! A text spelled out for a message: quoted, with every character that would not show on its own
written as an escape. -/
namespace RestScaffold.Text

def spelledChar (c : Char) : List Char :=
  if c = '\x00' then ['\\', '0']
  else if c = '\t' then ['\\', 't']
  else if c = '\r' then ['\\', 'r']
  else if c = '\n' then ['\\', 'n']
  else if c = '"' ∨ c = '\\' then ['\\', c]
  else if isVisible c then [c]
  else ['\\', 'u', '\x7b'] ++ Nat.toDigits 16 c.toNat ++ ['\x7d']

def spelled (s : String) : String := String.ofList ('"' :: s.toList.flatMap spelledChar ++ ['"'])

end RestScaffold.Text
