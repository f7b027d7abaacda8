/-! Paths as text. Names are divided by slashes; an empty name and a single dot change nothing. -/
namespace RestScaffold.Path

def segments : List Char → List (List Char)
  | [] => [[]]
  | '/' :: rest => [] :: segments rest
  | c :: rest =>
      match segments rest with
      | [] => [[c]]
      | s :: more => (c :: s) :: more

def isAbsolute (path : String) : Bool := path.toList.head? == some '/'

def isIdle (segment : List Char) : Bool := segment = [] || segment = ['.']

def names (path : String) : List String :=
  ((segments path.toList).filter (!isIdle ·)).map String.ofList

def components (path : String) : List String :=
  if isAbsolute path then "/" :: names path
  else if (segments path.toList).head? = some ['.'] then "." :: names path
  else names path

def join (base path : String) : String :=
  if isAbsolute path || base.isEmpty then path
  else if base.toList.getLast? = some '/' then base ++ path
  else base ++ "/" ++ path

def settle : List (List Char) → List (List Char)
  | s :: before :: rest => if isIdle s then settle (before :: rest) else s :: before :: rest
  | few => few

def ofSegments (segments : List (List Char)) : String :=
  String.ofList (List.intercalate ['/'] segments)

def parent? (path : String) : Option String :=
  if components path = [] ∨ components path = ["/"] then none
  else
    let kept := settle (settle (segments path.toList).reverse).tail
    some (if kept = [[]] then "/" else ofSegments kept.reverse)

def endsInDirectory (path : String) : Bool :=
  match (segments path.toList).getLast? with
  | some last => isIdle last || last = ['.', '.']
  | none => true

def endsInDot (path : String) : Bool :=
  ((segments path.toList).reverse.dropWhile (· = [])).head? = some ['.']

def endsInParent (path : String) : Bool := (names path).getLast? = some ".."

def maxName : Nat := 255

def maxLength : Nat := 4095

def hasNull (path : String) : Bool := path.toList.any (· = '\x00')

end RestScaffold.Path
