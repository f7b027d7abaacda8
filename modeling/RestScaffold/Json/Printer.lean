import RestScaffold.Json.Basic
import RestScaffold.Text.Hex

/-! Written forms of a document: on one line, and indented by two blanks a level. -/
namespace RestScaffold.Json
open Text

def escape (c : Char) : List Char :=
  if c = '"' ∨ c = '\\' then ['\\', c]
  else if c = '\x08' then ['\\', 'b']
  else if c = '\x0c' then ['\\', 'f']
  else if c = '\n' then ['\\', 'n']
  else if c = '\r' then ['\\', 'r']
  else if c = '\t' then ['\\', 't']
  else if c.toNat < 0x20 then '\\' :: 'u' :: hex 4 c.toNat
  else [c]

def quote (s : String) : List Char := '"' :: s.toList.flatMap escape ++ ['"']

def quoteString (s : JsonString) : List Char := quote (s.getD "")

mutual
def print : Json → List Char
  | .null => "null".toList
  | .bool true => "true".toList
  | .bool false => "false".toList
  | .number n => n.text
  | .string s => quoteString s
  | .array [] => "[]".toList
  | .array (item :: items) => '[' :: print item ++ printItems items
  | .object [] => "\x7b\x7d".toList
  | .object ((key, value) :: members) =>
      '\x7b' :: quoteString key ++ ':' :: print value ++ printMembers members

def printItems : List Json → List Char
  | [] => [']']
  | item :: items => ',' :: print item ++ printItems items

def printMembers : List (JsonString × Json) → List Char
  | [] => ['\x7d']
  | (key, value) :: members =>
      ',' :: quoteString key ++ ':' :: print value ++ printMembers members
end

def newLine (level : Nat) : List Char := '\n' :: List.replicate (2 * level) ' '

mutual
def printIndented (level : Nat) : Json → List Char
  | .null => "null".toList
  | .bool true => "true".toList
  | .bool false => "false".toList
  | .number n => n.text
  | .string s => quoteString s
  | .array [] => "[]".toList
  | .array (item :: items) =>
      '[' :: newLine (level + 1) ++ printIndented (level + 1) item ++
        printIndentedItems level items
  | .object [] => "\x7b\x7d".toList
  | .object ((key, value) :: members) =>
      '\x7b' :: newLine (level + 1) ++ quoteString key ++ ": ".toList ++
        printIndented (level + 1) value ++ printIndentedMembers level members

def printIndentedItems (level : Nat) : List Json → List Char
  | [] => newLine level ++ [']']
  | item :: items =>
      ',' :: newLine (level + 1) ++ printIndented (level + 1) item ++
        printIndentedItems level items

def printIndentedMembers (level : Nat) : List (JsonString × Json) → List Char
  | [] => newLine level ++ ['\x7d']
  | (key, value) :: members =>
      ',' :: newLine (level + 1) ++ quoteString key ++ ": ".toList ++
        printIndented (level + 1) value ++ printIndentedMembers level members
end

def compact (j : Json) : String := String.ofList j.print

def pretty (j : Json) : String := String.ofList (j.printIndented 0)

end RestScaffold.Json
