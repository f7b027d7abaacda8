import RestScaffold.Generation.Error

/-! Writing and removing the files of a pass below one directory. -/
namespace RestScaffold

structure FileText where
  path : String
  contents : String
  deriving DecidableEq, Repr

namespace FileTree

def makeParent (t : FileTree) (path : String) : FileTree × Except WriteError Unit :=
  match Path.parent? path with
  | none => (t, .ok ())
  | some parent =>
      match t.createDirectories parent with
      | (t, .ok _) => (t, .ok ())
      | (t, .error cause) => (t, .error ⟨parent, cause⟩)

def writeBelow (t : FileTree) (root : String) (f : FileText) :
    FileTree × Except WriteError Unit :=
  let path := Path.join root f.path
  match t.makeParent path with
  | (t, .error e) => (t, .error e)
  | (t, .ok _) =>
      match t.write path f.contents with
      | .ok t => (t, .ok ())
      | .error cause => (t, .error ⟨path, cause⟩)

def writeAll (t : FileTree) (root : String) : List FileText → FileTree × Except WriteError Unit
  | [] => (t, .ok ())
  | f :: rest =>
      match t.writeBelow root f with
      | (t, .error e) => (t, .error e)
      | (t, .ok _) => t.writeAll root rest

def removeBelow (t : FileTree) (root path : String) : FileTree × Bool :=
  match t.remove (Path.join root path) with
  | .ok t => (t, true)
  | .error .notFound => (t, true)
  | .error _ => (t, false)

def removeAll (t : FileTree) (root : String) : List String → FileTree × Nat
  | [] => (t, 0)
  | path :: rest =>
      let (t, gone) := t.removeBelow root path
      let (t, count) := t.removeAll root rest
      (t, if gone then count + 1 else count)

end FileTree
end RestScaffold
