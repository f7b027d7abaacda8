import RestScaffold.Text.Blank
import RestScaffold.Text.Lines

/-! The layout of generated files: no white space ends a line, blank lines come one at a time, none
of them opens or closes a block, and the text ends with one line feed. -/
namespace RestScaffold.Layout
open Text

def opensBlock (line : List Char) : Bool :=
  line.getLast? == some '\x7b' || line.getLast? == some '('

def closesBlock (line : List Char) : Bool :=
  match trimStart line with
  | c :: _ => c == '\x7d' || c == ')'
  | [] => false

def place (kept : List (List Char)) (line : List Char) : List (List Char) :=
  match line, kept with
  | [], [] => []
  | [], last :: before =>
      if last.isEmpty || opensBlock last then last :: before else [] :: last :: before
  | line, [] :: before => if closesBlock line then line :: before else line :: [] :: before
  | line, kept => line :: kept

def tidyChars (cs : List Char) : List Char :=
  unlines ((((lines cs).map trimEnd).foldl place []).dropWhile List.isEmpty).reverse

def tidy (s : String) : String := String.ofList (tidyChars s.toList)

end RestScaffold.Layout
