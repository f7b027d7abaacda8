import RestScaffold.Code.Package
import RestScaffold.Layout

/-! Lines of generated code. A line is a row of fragments, so that the names that the code declares
and refers to can be told from the text around them. -/
namespace RestScaffold

inductive Fragment where
  | text (s : String)
  | imported (package : Package) (name : String)
  | own (name : String)
  | declared (name : String)
  deriving DecidableEq, Repr

abbrev Line := List Fragment

namespace Fragment

def string : Fragment → String
  | .text s => s
  | .imported package name => package.name ++ "." ++ name
  | .own name => name
  | .declared name => name

def package? : Fragment → Option Package
  | .imported package _ => some package
  | _ => none

def reference? : Fragment → Option String
  | .imported .dto name => some name
  | .imported .models name => some name
  | .imported .repository name => some name
  | .imported .handlers name => some name
  | .own name => some name
  | _ => none

def declaration? : Fragment → Option String
  | .declared name => some name
  | _ => none

end Fragment

namespace Code

instance : Coe String Line := ⟨fun s => [.text s]⟩

def plain (s : String) : Line := [.text s]

def imported (package : Package) (name : String) : Line := [.imported package name]

def own (name : String) : Line := [.own name]

def declared (name : String) : Line := [.declared name]

def line (parts : List Line) : Line := parts.flatten

def blank : Line := []

def braced (inner : Line) : Line := line ["\x7b", inner, "\x7d"]

def separated (separator : String) (parts : List Line) : Line :=
  (parts.intersperse [.text separator]).flatten

def indented (step : String) (lines : List Line) : List Line := lines.map (.text step :: ·)

def block (step : String) (head : Line) (body : List Line) : List Line :=
  line [head, " \x7b"] :: indented step body ++ [plain "\x7d"]

def lineText (l : Line) : String := String.join (l.map Fragment.string)

def fileText (lines : List Line) : String :=
  Layout.tidy ("\n".intercalate (lines.map lineText))

end Code

def generatedNotice : String := "// Code generated by tablegen. DO NOT EDIT."

end RestScaffold
