/-! Single-quoted string literals of TypeScript. A backslash stands before each quote and each
backslash. -/
namespace RestScaffold.Text.ScriptString

def escape (c : Char) : List Char := if c = '\'' ∨ c = '\\' then ['\\', c] else [c]

def encode (cs : List Char) : List Char := '\'' :: cs.flatMap escape ++ ['\'']

def quote (s : String) : String := String.ofList (encode s.toList)

end RestScaffold.Text.ScriptString
