import RestScaffold.Text.Blank
import RestScaffold.Text.CaseMap

/-! Column types as a database catalog names them. Spelling is free: letter case, outer blanks and
parenthesised modifiers do not count, and arrays come as `name[]` or `_name`. A name that is not
known stands for text. -/
namespace RestScaffold
open Text

inductive StorageClass where
  | smallInt
  | int
  | bigInt
  | float32
  | float64
  | bool
  | text
  | time
  | json
  | bytes
  | unknown
  deriving DecidableEq, Repr

structure StorageType where
  element : StorageClass
  isArray : Bool
  deriving DecidableEq, Repr

inductive SchemaType where
  | string
  | integer
  | number
  | boolean
  | object
  | array
  deriving DecidableEq, Repr

def SchemaType.name : SchemaType → String
  | .string => "string"
  | .integer => "integer"
  | .number => "number"
  | .boolean => "boolean"
  | .object => "object"
  | .array => "array"

namespace StorageClass

def names : StorageClass → List String
  | .smallInt => ["smallint", "int2", "smallserial", "serial2"]
  | .int => ["integer", "int", "int4", "serial", "serial4"]
  | .bigInt => ["bigint", "int8", "bigserial", "serial8"]
  | .float32 => ["real", "float4"]
  | .float64 => ["double precision", "float8", "numeric", "decimal", "money"]
  | .bool => ["boolean", "bool"]
  | .text =>
      ["text", "varchar", "character varying", "char", "character", "bpchar", "citext", "name",
        "uuid", "inet", "cidr", "macaddr", "xml", "interval"]
  | .time => ["date", "timetz", "timestamptz", "time"]
  | .json => ["json", "jsonb"]
  | .bytes => ["bytea"]
  | .unknown => []

def listed : List StorageClass :=
  [.smallInt, .int, .bigInt, .float32, .float64, .bool, .text, .time, .json, .bytes]

def isTimeName (base : List Char) : Bool :=
  "timestamp".toList.isPrefixOf base || "time ".toList.isPrefixOf base

def ofName (base : List Char) : StorageClass :=
  match listed.find? fun c => c.names.any (·.toList = base) with
  | some c => c
  | none => if isTimeName base then .time else .unknown

end StorageClass

namespace StorageType

def afterClosing : List Char → Option (List Char)
  | [] => none
  | c :: rest => if c = ')' then some rest else afterClosing rest

theorem afterClosingShorter {cs rest} (h : afterClosing cs = some rest) :
    rest.length < cs.length := by
  induction cs with
  | nil => simp [afterClosing] at h
  | cons c cs ih =>
    unfold afterClosing at h
    split at h
    · cases h; simp
    · exact Nat.lt_trans (ih h) (Nat.lt_succ_self _)

/-- Drops each parenthesised part with the blanks before it; `blanks` have been read and are not
yet kept. A parenthesis that is never closed stays. -/
def withoutModifiers (blanks : List Char) : List Char → List Char
  | [] => blanks
  | c :: rest =>
      if c = '(' then
        match h : afterClosing rest with
        | some rest' =>
            have := afterClosingShorter h
            withoutModifiers [] rest'
        | none => blanks ++ c :: rest
      else if isBlank c then withoutModifiers (blanks ++ [c]) rest
      else blanks ++ c :: withoutModifiers [] rest
termination_by cs => cs.length
decreasing_by all_goals simp only [List.length_cons]; omega

def ofBase (cs : List Char) : StorageType :=
  match cs.reverse with
  | ']' :: '[' :: element =>
      ⟨.ofName (trimEnd (trimStart element.reverse)), true⟩
  | _ =>
      match cs with
      | '_' :: element => ⟨.ofName element, true⟩
      | _ => ⟨.ofName cs, false⟩

def ofText (s : String) : StorageType :=
  ofBase (withoutModifiers [] (lower (trim s)).toList)

def schemaType (t : StorageType) : SchemaType :=
  if t.isArray then .array
  else match t.element with
    | .smallInt | .int | .bigInt => .integer
    | .float32 | .float64 => .number
    | .bool => .boolean
    | .json => .object
    | .text | .time | .bytes | .unknown => .string

def isTextual (t : StorageType) : Bool :=
  !t.isArray && (t.element == .text || t.element == .unknown)

def isNumeric (t : StorageType) : Bool :=
  t.schemaType == .integer || t.schemaType == .number

end StorageType
end RestScaffold
