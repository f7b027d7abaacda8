import RestScaffold.FileTree.Path

/-! A tree of files and directories. Every node is listed with the names that lead to it from the
top; the top itself is always there. -/
namespace RestScaffold

inductive FileTree.Node where
  | directory
  | file (contents : String)
  deriving DecidableEq, Repr

abbrev FileTree.Location := List String

structure FileTree where
  nodes : List (FileTree.Location × FileTree.Node) := []
  deriving DecidableEq, Repr

inductive FileError where
  | notFound
  | notDirectory
  | isDirectory
  | exists
  | notEmpty
  | tooLong
  | endsInDot
  | nullByte
  deriving DecidableEq, Repr

def FileError.message : FileError → String
  | .notFound => "no such file or directory"
  | .notDirectory => "not a directory"
  | .isDirectory => "is a directory"
  | .exists => "file exists"
  | .notEmpty => "directory not empty"
  | .tooLong => "file name too long"
  | .endsInDot => "invalid argument"
  | .nullByte => "file name contained an unexpected NUL byte"

namespace FileTree

def node? (t : FileTree) (here : Location) : Option Node :=
  if here = [] then some .directory else t.nodes.lookup here

def put (t : FileTree) (here : Location) (node : Node) : FileTree :=
  ⟨(here, node) :: t.nodes.filter (·.1 ≠ here)⟩

def erase (t : FileTree) (here : Location) : FileTree := ⟨t.nodes.filter (·.1 ≠ here)⟩

def next (here : Location) (name : String) : Except FileError Location :=
  if name = ".." then .ok here.dropLast
  else if name.utf8ByteSize ≤ Path.maxName then .ok (here ++ [name])
  else .error .tooLong

def refusal? (path : String) : Option FileError :=
  if Path.hasNull path then some .nullByte
  else if Path.maxLength < path.utf8ByteSize then some .tooLong
  else none

def follow (t : FileTree) (here : Location) : List String → Except FileError (Location × Node)
  | [] => .ok (here, .directory)
  | name :: rest =>
      match next here name with
      | .error e => .error e
      | .ok there =>
          match t.node? there with
          | none => .error .notFound
          | some .directory => follow t there rest
          | some (.file contents) =>
              if rest.isEmpty then .ok (there, .file contents) else .error .notDirectory

def find (t : FileTree) (path : String) : Except FileError (Location × Node) :=
  match refusal? path, t.follow [] (Path.names path) with
  | some e, _ => .error e
  | none, .ok (there, .file contents) =>
      if Path.endsInDirectory path then .error .notDirectory else .ok (there, .file contents)
  | none, found => found

def read (t : FileTree) (path : String) : Except FileError String :=
  match t.find path with
  | .ok (_, .file contents) => .ok contents
  | .ok (_, .directory) => .error .isDirectory
  | .error e => .error e

def writeAt (t : FileTree) (there : Location) (contents : String) : Except FileError FileTree :=
  match t.node? there with
  | some .directory => .error .isDirectory
  | _ => .ok (t.put there (.file contents))

def write (t : FileTree) (path contents : String) : Except FileError FileTree :=
  match refusal? path, Path.endsInDirectory path, (Path.names path).getLast? with
  | some e, _, _ => .error e
  | none, false, some name =>
      match t.follow [] (Path.names path).dropLast with
      | .ok (here, .directory) =>
          match next here name with
          | .ok there => t.writeAt there contents
          | .error e => .error e
      | .ok (_, .file _) => .error .notDirectory
      | .error e => .error e
  | none, _, _ => .error .isDirectory

def remove (t : FileTree) (path : String) : Except FileError FileTree :=
  match t.find path with
  | .ok (there, .file _) => .ok (t.erase there)
  | .ok (_, .directory) => .error .isDirectory
  | .error e => .error e

def isBelow (here : Location) (n : Location × Node) : Bool := here.isPrefixOf n.1 && n.1 ≠ here

def removeDirectory (t : FileTree) (path : String) : Except FileError FileTree :=
  match t.find path with
  | .ok (there, .directory) =>
      if there = [] || Path.endsInDot path then .error .endsInDot
      else if Path.endsInParent path || t.nodes.any (isBelow there) then .error .notEmpty
      else .ok (t.erase there)
  | .ok (_, .file _) => .error .notDirectory
  | .error e => .error e

def removeTree (t : FileTree) (path : String) : FileTree × Except FileError Unit :=
  match t.find path with
  | .ok (there, .directory) =>
      let t : FileTree := ⟨t.nodes.filter (!isBelow there ·)⟩
      match t.removeDirectory path with
      | .ok t => (t, .ok ())
      | .error .notFound => (t, .ok ())
      | .error e => (t, .error e)
  | .ok (_, .file _) => (t, .error .notDirectory)
  | .error e => (t, .error e)

def makeDirectories (t : FileTree) (here : Location) :
    List String → FileTree × Except FileError Unit
  | [] => (t, .ok ())
  | name :: rest =>
      match next here name with
      | .error e => (t, .error e)
      | .ok there =>
          match t.node? there with
          | some .directory => t.makeDirectories there rest
          | some (.file _) => (t, .error .exists)
          | none => (t.put there .directory).makeDirectories there rest

/-- Makes a directory and those above it that are missing. What was made before a failure stays. A
path that ends in a dot names no directory that could be made. -/
def createDirectories (t : FileTree) (path : String) : FileTree × Except FileError Unit :=
  match refusal? path with
  | some e => (t, .error e)
  | none =>
      if Path.endsInDot path then
        match t.makeDirectories [] (Path.names path).dropLast with
        | (t, .ok _) => (t, (t.find path).map fun _ => ())
        | (t, .error e) => (t, .error e)
      else t.makeDirectories [] (Path.names path)

def leaves (t : FileTree) : List (Location × Node) :=
  t.nodes.filter fun (here, node) =>
    node ≠ .directory || !t.nodes.any (isBelow here)

end FileTree
end RestScaffold
