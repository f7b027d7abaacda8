import RestScaffold.StorageType
import RestScaffold.Text.ScriptString

/-! TypeScript types of generated code. -/
namespace RestScaffold

inductive ScriptType where
  | string
  | number
  | boolean
  | unknown
  | array (element : ScriptType)
  | oneOf (values : List String)
  | orNull (type : ScriptType)
  deriving DecidableEq, Repr

namespace ScriptType

def text : ScriptType → String
  | .string => "string"
  | .number => "number"
  | .boolean => "boolean"
  | .unknown => "unknown"
  | .array element => element.text ++ "[]"
  | .oneOf values => " | ".intercalate (values.map Text.ScriptString.quote)
  | .orNull type => type.text ++ " | null"

def ofClass : StorageClass → ScriptType
  | .smallInt | .int | .bigInt | .float32 | .float64 => .number
  | .bool => .boolean
  | .json => .unknown
  | .text | .time | .bytes | .unknown => .string

def ofStorage (t : StorageType) : ScriptType :=
  if t.isArray then .array (ofClass t.element) else ofClass t.element

def ofColumn (t : StorageType) (nullable : Bool) : ScriptType :=
  if nullable then .orNull (ofStorage t) else ofStorage t

end ScriptType
end RestScaffold
