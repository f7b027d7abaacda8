import RestScaffold.Text.Alphanumeric
import RestScaffold.Text.CaseMap

/-! Names in generated code. A table or column name is a sequence of words, and each convention
joins them with its own capitals. -/
namespace RestScaffold.Naming
open Text

def words (cs : List Char) : List (List Char) :=
  match h : cs.dropWhile (!isAlphanumeric ·) with
  | [] => []
  | c :: rest =>
      have : (rest.dropWhile isAlphanumeric).length < cs.length := by
        have shorter := (List.dropWhile_sublist (l := cs) (!isAlphanumeric ·)).length_le
        have tail := (List.dropWhile_sublist (l := rest) isAlphanumeric).length_le
        rw [h] at shorter
        simp at shorter
        omega
      (c :: rest.takeWhile isAlphanumeric) :: words (rest.dropWhile isAlphanumeric)
termination_by cs.length

def capitalized : List Char → List Char
  | [] => []
  | c :: rest => upperChar c ++ rest

def uncapitalized : List Char → List Char
  | [] => []
  | c :: rest => lowerChar c ++ rest

def pascal (s : String) : String := String.ofList ((words s.toList).flatMap capitalized)

def camel (s : String) : String :=
  match words s.toList with
  | [] => ""
  | first :: rest => String.ofList (uncapitalized first ++ rest.flatMap capitalized)

def initialisms : List String :=
  ["id", "url", "uri", "uuid", "api", "http", "json", "sql", "ip", "html"]

def exportedWord (word : List Char) : List Char :=
  if initialisms.any (sameLetters · (String.ofList word)) then word.flatMap upperChar
  else capitalized word

def exported (s : String) : String := String.ofList ((words s.toList).flatMap exportedWord)

def isPlainIdentifier (s : String) : Bool :=
  match s.toList with
  | [] => false
  | c :: rest => (c.isAlpha || c == '_') && rest.all fun d => d.isAlphanum || d == '_'

end RestScaffold.Naming
