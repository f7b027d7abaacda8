import RestScaffold.Decimal.Numeral

/-! JSON documents. Numbers keep their written form. A string is `none` if its escapes spell half of
a surrogate pair: the document can still be read by whoever does not look at that string. -/
namespace RestScaffold

abbrev JsonString := Option String

inductive Json where
  | null
  | bool (value : Bool)
  | number (value : Numeral)
  | string (value : JsonString)
  | array (items : List Json)
  | object (members : List (JsonString × Json))
  deriving Repr

namespace Json

def text (s : String) : Json := .string (some s)

def int (n : Int) : Json := .number (.ofInt n)

def texts (ss : List String) : Json := .array (ss.map text)

def ofOption (f : α → Json) : Option α → Json
  | none => .null
  | some a => f a

def record (fields : List (String × Json)) : Json :=
  .object (fields.map fun (name, value) => (some name, value))

def recordOf (fields : List (String × Option Json)) : Json :=
  record (fields.filterMap fun (name, value) => value.map (name, ·))

end Json
end RestScaffold
