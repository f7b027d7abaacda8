import RestScaffold.Json.Basic
import RestScaffold.SortedMap

/-! Reading typed values from documents. A record is an object, whose fields may stand in any order
and once each, or an array of its fields in the order of their declaration. Fields that the record
does not have are skipped over. -/
namespace RestScaffold.Json

abbrev Reader (α : Type) := Json → Option α

def readBool : Reader Bool
  | .bool b => some b
  | _ => none

def readText : Reader String
  | .string s => s
  | _ => none

def readInt (low high : Int) : Reader Int
  | .number n => n.toIntIn? low high
  | _ => none

def readNat (bits : Nat) : Reader Nat := fun j =>
  (readInt 0 (Nat.pow 2 bits - 1) j).map Int.toNat

def readDouble : Reader Double
  | .number n => n.toDouble?
  | _ => none

def readList (item : Reader α) : Reader (List α)
  | .array items => items.mapM item
  | _ => none

def readOption (value : Reader α) : Reader (Option α)
  | .null => some none
  | j => (value j).map some

def readVariant (named : String → Option α) : Reader α
  | .string s => s.bind named
  | .object [(key, .null)] => key.bind named
  | _ => none

def readMap (value : Reader α) : Reader (SortedMap α)
  | .object members => do
      let entries ← members.mapM fun (key, j) => do some (← key, ← value j)
      some (.ofList entries)
  | _ => none

def ofMap (value : α → Json) (m : SortedMap α) : Json :=
  record (m.entries.map fun (key, v) => (key, value v))

abbrev Fields := String → Option Json

def memberFields (names : List String) (members : List (JsonString × Json)) : Option Fields := do
  let keys ← members.mapM Prod.fst
  if (keys.filter (· ∈ names)).Nodup then
    some fun name => (members.find? (·.1 = some name)).map Prod.snd
  else none

def fields? (names : List String) : Json → Option Fields
  | .object members => memberFields names members
  | .array items =>
      if items.length ≤ names.length then some fun name => (names.zip items).lookup name else none
  | _ => none

def Fields.required (fields : Fields) (name : String) (read : Reader α) : Option α :=
  (fields name).bind read

def Fields.withDefault (fields : Fields) (name : String) (default : α) (read : Reader α) :
    Option α :=
  match fields name with
  | none => some default
  | some j => read j

def Fields.optional (fields : Fields) (name : String) (read : Reader α) : Option (Option α) :=
  fields.withDefault name none (readOption read)

end RestScaffold.Json
