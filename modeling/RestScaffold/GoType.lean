import RestScaffold.StorageType

/-! Go types of generated code. -/
namespace RestScaffold

inductive GoType where
  | string
  | bool
  | int (bits : Nat)
  | float (bits : Nat)
  | byte
  | time
  | rawJson
  | slice (element : GoType)
  | pointer (target : GoType)
  deriving DecidableEq, Repr

namespace GoType

def text : GoType → String
  | .string => "string"
  | .bool => "bool"
  | .int 0 => "int"
  | .int bits => s!"int{bits}"
  | .float bits => s!"float{bits}"
  | .byte => "byte"
  | .time => "time.Time"
  | .rawJson => "json.RawMessage"
  | .slice element => "[]" ++ element.text
  | .pointer target => "*" ++ target.text

def isPointer : GoType → Bool
  | .pointer _ => true
  | _ => false

def ofClass : StorageClass → GoType
  | .smallInt => .int 16
  | .int => .int 32
  | .bigInt => .int 64
  | .float32 => .float 32
  | .float64 => .float 64
  | .bool => .bool
  | .text | .unknown => .string
  | .time => .time
  | .json => .rawJson
  | .bytes => .slice .byte

def ofStorage (t : StorageType) : GoType :=
  if t.isArray then .slice (ofClass t.element) else ofClass t.element

def ofColumn (t : StorageType) (nullable : Bool) : GoType :=
  if nullable && ofStorage t != .string then .pointer (ofStorage t) else ofStorage t

def optional (t : StorageType) : GoType :=
  match ofStorage t with
  | .slice element => .slice element
  | .rawJson => .rawJson
  | base => .pointer base

def packageFor (expression : String) : Option String :=
  if (expression.splitOn "time.Time").length > 1 then some "time"
  else if (expression.splitOn "json.RawMessage").length > 1 then some "encoding/json"
  else none

end GoType
end RestScaffold
