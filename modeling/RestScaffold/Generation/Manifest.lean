import RestScaffold.Generation.Files
import RestScaffold.Json.Printer
import RestScaffold.Json.Reader
import RestScaffold.Json.Record

/-! The record of what earlier passes have written: for each table the paths of its files, relative
to the output root. -/
namespace RestScaffold

abbrev Manifest := SortedMap (List String)

namespace Manifest
open Json

def fileName : String := ".tablegen-manifest.json"

def path (root : String) : String := Path.join root fileName

def toJson (m : Manifest) : Json := ofMap texts m

def text (m : Manifest) : String := m.toJson.pretty

def parse? (s : String) : Option Manifest := (Json.parse s).bind (readMap (readList readText))

def read (t : FileTree) (root : String) : Manifest :=
  match t.read (path root) with
  | .ok contents => (parse? contents).getD {}
  | .error _ => {}

def write (t : FileTree) (root : String) (m : Manifest) : FileTree × Except WriteError Unit :=
  match t.write (path root) m.text with
  | .ok t => (t, .ok ())
  | .error cause => (t, .error ⟨path root, cause⟩)

end Manifest
end RestScaffold
