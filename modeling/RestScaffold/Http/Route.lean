import RestScaffold.FileTree.Path
import RestScaffold.Text.Hex

/-! Routes of the service. A route is chosen by its path, then by its method. -/
namespace RestScaffold

inductive Route where
  | health
  | ready
  | version
  | status
  | artifacts
  | regenerate
  | lastRun
  | tableEndpoints (table : String)
  deriving DecidableEq, Repr

namespace Route

def isSchemeChar (c : Char) : Bool :=
  c.isAlphanum || c = '+' || c = '-' || c = '.' || c = '~'

def afterAuthority (target : List Char) : List Char :=
  if target.head? = some '/' then target
  else
    match target.dropWhile isSchemeChar with
    | ':' :: '/' :: '/' :: rest => rest.dropWhile fun c => c ≠ '/' && c ≠ '?' && c ≠ '#'
    | _ => []

def pathOf (target : String) : List Char :=
  (afterAuthority target.toList).takeWhile fun c => c ≠ '?' && c ≠ '#'

def find? (target : String) : Option Route :=
  match (Path.segments (pathOf target)).map String.ofList with
  | ["", "health"] => some .health
  | ["", "ready"] => some .ready
  | ["", "version"] => some .version
  | ["", "codegen", "status"] => some .status
  | ["", "codegen", "artifacts"] => some .artifacts
  | ["", "codegen", "regenerate"] => some .regenerate
  | ["", "codegen", "runs", "last"] => some .lastRun
  | ["", "codegen", "tables", table, "endpoints"] => some (.tableEndpoints table)
  | _ => none

def methods : Route → List String
  | .regenerate => ["POST"]
  | _ => ["GET", "HEAD"]

end Route

namespace Percent

def decodeBytes : List UInt8 → List UInt8
  | 37 :: a :: b :: rest =>
      match Text.hexValue? (Char.ofNat a.toNat), Text.hexValue? (Char.ofNat b.toNat) with
      | some high, some low => UInt8.ofNat (16 * high + low) :: decodeBytes rest
      | _, _ => 37 :: decodeBytes (a :: b :: rest)
  | byte :: rest => byte :: decodeBytes rest
  | [] => []

def decode? (s : String) : Option String :=
  String.fromUTF8? ⟨(decodeBytes s.toUTF8.toList).toArray⟩

end Percent
end RestScaffold
