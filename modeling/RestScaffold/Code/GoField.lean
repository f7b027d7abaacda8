import RestScaffold.Code.Line
import RestScaffold.GoType

/-! Fields of Go structs, with the tags that bind them to JSON, forms and columns. -/
namespace RestScaffold

def GoType.line : GoType → Line
  | .time => [.imported .time "Time"]
  | .rawJson => [.imported .json "RawMessage"]
  | .slice element => .text "[]" :: element.line
  | .pointer target => .text "*" :: target.line
  | t => [.text t.text]

def GoType.package? : GoType → Option Package
  | .time => some .time
  | .rawJson => some .json
  | .slice element => element.package?
  | .pointer target => target.package?
  | _ => none

structure GoField where
  name : String
  type : GoType
  tag : List (String × String)
  deriving DecidableEq, Repr

namespace GoField

def tagText (tag : List (String × String)) : String :=
  " ".intercalate (tag.map fun (key, value) => key ++ ":\"" ++ value ++ "\"")

def code (f : GoField) : Line :=
  Code.line [f.name, " ", f.type.line, " `" ++ tagText f.tag ++ "`"]

end GoField
end RestScaffold
