import RestScaffold.Code.GoFile

/-! What the fragments of lines tell, such as the packages that the code refers to. Plain text tells
nothing, so that only the names in the lines count. -/
namespace RestScaffold

namespace Fragment

class Silent {α : Type} (p : Fragment → Option α) : Prop where
  text (s : String) : p (.text s) = none

instance : Silent package? := ⟨fun _ => rfl⟩
instance : Silent reference? := ⟨fun _ => rfl⟩
instance : Silent declaration? := ⟨fun _ => rfl⟩

@[simp]
theorem packageImported (q : Package) (name : String) : (imported q name).package? = some q := rfl

@[simp]
theorem packageOwn (name : String) : (own name).package? = none := rfl

@[simp]
theorem packageDeclared (name : String) : (declared name).package? = none := rfl

@[simp]
theorem referenceOwn (name : String) : (own name).reference? = some name := rfl

@[simp]
theorem referenceDeclared (name : String) : (declared name).reference? = none := rfl

@[simp]
theorem declarationImported (q : Package) (name : String) :
    (imported q name).declaration? = none := rfl

@[simp]
theorem declarationOwn (name : String) : (own name).declaration? = none := rfl

@[simp]
theorem declarationDeclared (name : String) : (declared name).declaration? = some name := rfl

end Fragment

namespace Code

variable {α β : Type} {p : Fragment → Option α} {ls more : List Line} {l : Line}

def collect (p : Fragment → Option α) (ls : List Line) : List α := ls.flatMap (·.filterMap p)

theorem memCollect {a : α} : a ∈ collect p ls ↔ ∃ l ∈ ls, ∃ f ∈ l, p f = some a := by
  simp [collect]

@[simp]
theorem collectNil : collect p [] = [] := rfl

@[simp]
theorem collectCons : collect p (l :: ls) = l.filterMap p ++ collect p ls := List.flatMap_cons

@[simp]
theorem collectAppend : collect p (ls ++ more) = collect p ls ++ collect p more :=
  List.flatMap_append

@[simp]
theorem collectFlatMap {items : List β} {f : β → List Line} :
    collect p (items.flatMap f) = items.flatMap fun a => collect p (f a) := List.flatMap_assoc

@[simp]
theorem collectMap {items : List β} {f : β → Line} :
    collect p (items.map f) = items.flatMap fun a => (f a).filterMap p := by
  rw [collect, List.flatMap_map]

@[simp]
theorem collectOption {item : Option β} {f : β → List Line} :
    collect p ((item.map f).getD []) = (item.map fun a => collect p (f a)).getD [] := by
  cases item <;> rfl

@[simp]
theorem collectIte (c : Prop) [Decidable c] :
    collect p (if c then ls else more) = if c then collect p ls else collect p more :=
  apply_ite (collect p) c ls more

@[simp]
theorem collectLine (parts : List Line) :
    (line parts).filterMap p = parts.flatMap (·.filterMap p) := List.filterMap_flatten

@[simp]
theorem collectImported (q : Package) (name : String) :
    (imported q name).filterMap p = (p (.imported q name)).toList := by
  cases found : p (.imported q name) <;> simp [imported, found]

@[simp]
theorem collectOwn (name : String) : (own name).filterMap p = (p (.own name)).toList := by
  cases found : p (.own name) <;> simp [own, found]

@[simp]
theorem collectDeclared (name : String) :
    (declared name).filterMap p = (p (.declared name)).toList := by
  cases found : p (.declared name) <;> simp [declared, found]

@[simp]
theorem collectBlank : blank.filterMap p = [] := rfl

section
variable [Fragment.Silent p]

@[simp]
theorem collectText (s : String) (rest : Line) :
    (Fragment.text s :: rest).filterMap p = rest.filterMap p :=
  List.filterMap_cons_none (Fragment.Silent.text s)

@[simp]
theorem collectPlain (s : String) : (plain s).filterMap p = [] := by simp [plain]

@[simp]
theorem collectRaw (s : String) : (Go.raw s).filterMap p = [] := by simp [Go.raw]

@[simp]
theorem collectBraced (inner : Line) : (braced inner).filterMap p = inner.filterMap p := by
  simp [braced]

@[simp]
theorem collectSeparated (separator : String) (parts : List Line) :
    (separated separator parts).filterMap p = parts.flatMap (·.filterMap p) := by
  induction parts with
  | nil => rfl
  | cons l rest ih =>
      cases rest with
      | nil => simp [separated]
      | cons m more =>
          have split : separated separator (l :: m :: more) =
              l ++ .text separator :: separated separator (m :: more) := by simp [separated]
          rw [split, List.filterMap_append, collectText, ih]
          rfl

@[simp]
theorem collectIndented (step : String) : collect p (indented step ls) = collect p ls := by
  simp [indented, collect, List.flatMap_map]

@[simp]
theorem collectBlock (step : String) (head : Line) :
    collect p (block step head ls) = head.filterMap p ++ collect p ls := by
  simp [block]

@[simp]
theorem collectGoBlock (head : Line) :
    collect p (Go.block head ls) = head.filterMap p ++ collect p ls := collectBlock "\t" head

@[simp]
theorem collectIf (condition : Line) :
    collect p (Go.ifBlock condition ls) = condition.filterMap p ++ collect p ls := by
  simp [Go.ifBlock]

@[simp]
theorem collectIfElse (condition : Line) : collect p (Go.ifElse condition ls more) =
    condition.filterMap p ++ collect p ls ++ collect p more := by
  simp [Go.ifElse]

@[simp]
theorem collectFunction (comment : Option String) (head : Line) :
    collect p (Go.function comment head ls) = head.filterMap p ++ collect p ls := by
  cases comment <;> simp [Go.function]

@[simp]
theorem collectStruct (comment name : String) : collect p (Go.struct comment name ls) =
    (p (.declared name)).toList ++ collect p ls := by
  simp [Go.struct]

end
end Code
end RestScaffold
