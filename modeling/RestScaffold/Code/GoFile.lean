import RestScaffold.Code.GoField
import RestScaffold.Text.GoString

/-! Go source files: a package clause, imports in groups, and declarations. -/
namespace RestScaffold
open Code

structure GoFile where
  package : String
  imports : List (List Package)
  body : List Line
  deriving DecidableEq, Repr

namespace GoFile

def importLine (goModule : String) (p : Package) : Line :=
  plain ("\t\"" ++ p.path goModule ++ "\"")

def importLines (goModule : String) (groups : List (List Package)) : List Line :=
  let groups := groups.filter (!·.isEmpty)
  if groups.isEmpty then []
  else
    [blank, plain "import ("] ++
      ((groups.map fun group => group.map (importLine goModule)).intersperse [blank]).flatten ++
      [plain ")"]

def lines (goModule : String) (f : GoFile) : List Line :=
  [plain generatedNotice, blank, plain ("package " ++ f.package)] ++
    importLines goModule f.imports ++ f.body

def text (goModule : String) (f : GoFile) : String := fileText (f.lines goModule)

end GoFile

namespace Go

def block := Code.block "\t"

def struct (comment : String) (name : String) (fields : List Line) : List Line :=
  [blank, plain ("// " ++ comment)] ++ block (line ["type ", declared name, " struct"]) fields

def function (comment : Option String) (head : Line) (body : List Line) : List Line :=
  blank :: (comment.map fun c => plain ("// " ++ c)).toList ++
    block (line ["func ", head]) body

def ifBlock (condition : Line) (body : List Line) : List Line :=
  block (line ["if ", condition]) body

def ifElse (condition : Line) (yes no : List Line) : List Line :=
  line ["if ", condition, " \x7b"] :: indented "\t" yes ++ [plain "\x7d else \x7b"] ++
    indented "\t" no ++ [plain "\x7d"]

def raw (s : String) : Line := plain ("`" ++ s ++ "`")

def strings (values : List String) : String :=
  if values.isEmpty then "nil"
  else "[]string\x7b" ++ ", ".intercalate (values.map Text.GoString.quote) ++ "\x7d"

end Go
end RestScaffold
