/-! The lines of a text. A line feed ends a line, and a carriage return right before it goes with
it. Text after the last line feed is a line too, and keeps all its characters. -/
namespace RestScaffold.Text

def linesFrom : (line : List Char) → List Char → List (List Char)
  | [], [] => []
  | line, [] => [line.reverse]
  | '\r' :: line, '\n' :: rest => line.reverse :: linesFrom [] rest
  | line, '\n' :: rest => line.reverse :: linesFrom [] rest
  | line, c :: rest => linesFrom (c :: line) rest

def lines (cs : List Char) : List (List Char) := linesFrom [] cs

def unlines (ls : List (List Char)) : List Char := (ls.intersperse ['\n']).flatten ++ ['\n']

end RestScaffold.Text
