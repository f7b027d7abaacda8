import Mathlib.Logic.Basic
import RestScaffold.Server.Criteria

/-! The generated function that orders rows, as a program that can be run. It prints to the lines of
an ordering, and whatever a request holds, it gives a clause over one of the ordering's columns. -/
namespace RestScaffold.Server
open Code

namespace OrderBy

inductive Operand where
  | literal (s : String)
  | field (name : String)
  deriving DecidableEq, Repr

inductive Test where
  | listed (set field : String)
  | alike (field word : String)
  deriving DecidableEq, Repr

structure Choice where
  name : String
  initial : String
  branches : List (Test × Operand)
  deriving DecidableEq, Repr

structure Program where
  set : String
  members : List String
  name : String
  params : String
  choices : List Choice
  format : String
  deriving DecidableEq, Repr

def Operand.text : Operand → String
  | .literal s => Text.GoString.quote s
  | .field name => "p." ++ name

def Test.line : Test → Line
  | .listed set field => Code.line [own set, "[p." ++ field ++ "]"]
  | .alike field word =>
      Code.line [imported .strings "EqualFold",
        "(p." ++ field ++ ", " ++ Text.GoString.quote word ++ ")"]

namespace Choice

def branchesCode (name opening : String) : List (Test × Operand) → List Line
  | [] => [plain "\x7d"]
  | (test, operand) :: rest =>
      line [opening, test.line, " \x7b"] :: plain ("\t" ++ name ++ " = " ++ operand.text) ::
        branchesCode name "\x7d else if " rest

def code (c : Choice) : List Line :=
  line [c.name, " := ", Text.GoString.quote c.initial] ::
    if c.branches.isEmpty then [] else branchesCode c.name "if " c.branches

end Choice

namespace Program

def setCode (p : Program) : List Line :=
  [blank, line ["var ", declared p.set, " = map[string]bool\x7b"]] ++
  indented "\t" (p.members.map fun c => plain (Text.GoString.quote c ++ ": true,")) ++
  [plain "\x7d"]

def functionCode (p : Program) : List Line :=
  Go.function none (line [declared p.name, "(p ", imported .dto p.params, ") string"])
    (p.choices.flatMap Choice.code ++
      [line ["return ", imported .fmt "Sprintf", "(", Go.raw p.format, ", ",
        ", ".intercalate (p.choices.map Choice.name), ")"]])

def code (p : Program) : List Line := p.setCode ++ p.functionCode

end Program

section
variable (p : Program) (fold : String → String → Bool) (request : String → String)

def Operand.value : Operand → String
  | .literal s => s
  | .field name => request name

def Test.holds : Test → Bool
  | .listed set field => set == p.set && p.members.contains (request field)
  | .alike field word => fold (request field) word

def Choice.value (c : Choice) : String :=
  match c.branches.find? fun branch => branch.1.holds p fold request with
  | some branch => branch.2.value request
  | none => c.initial

def formatted : List Char → List String → List Char
  | '%' :: 's' :: rest, argument :: more => argument.toList ++ formatted rest more
  | c :: rest, arguments => c :: formatted rest arguments
  | [], _ => []

def Program.clause : String :=
  String.ofList (formatted p.format.toList (p.choices.map (Choice.value p fold request)))

end
end OrderBy

namespace Ordering

def program (o : Ordering) : OrderBy.Program where
  set := sortableName o.ident
  members := o.columns
  name := orderName o.ident
  params := Names.listParams o.typeName
  choices :=
    [⟨"col", o.default, [(.listed (sortableName o.ident) "Sort", .field "Sort")]⟩,
      ⟨"dir", o.order.sql,
        [(.alike "Order" "desc", .literal "DESC"), (.alike "Order" "asc", .literal "ASC")]⟩]
  format := " ORDER BY \"%s\" %s"

theorem programPrinted (o : Ordering) : o.program.code.map lineText = o.code.map lineText := by
  have set : o.program.setCode = o.sortableCode := rfl
  have function : o.program.functionCode.map lineText = o.orderCode.map lineText := by
    have descWord : Text.GoString.quote "desc" = "\"desc\"" := rfl
    have ascWord : Text.GoString.quote "asc" = "\"asc\"" := rfl
    have descending : Text.GoString.quote "DESC" = "\"DESC\"" := rfl
    have ascending : Text.GoString.quote "ASC" = "\"ASC\"" := rfl
    simp [OrderBy.Program.functionCode, orderCode, program, OrderBy.Choice.code,
      OrderBy.Choice.branchesCode, OrderBy.Operand.text, OrderBy.Test.line, Go.function, Go.ifBlock,
      Go.block, Code.block, indented, line, plain, imported, own, declared, Go.raw, lineText,
      String.join, Fragment.string, Package.name, String.append_assoc, descWord, ascWord,
      descending, ascending]
  rw [OrderBy.Program.code, code, List.map_append, List.map_append, set, function]

variable (o : Ordering) (fold : String → String → Bool) (request : String → String)

def sorted : String :=
  if o.columns.contains (request "Sort") then request "Sort" else o.default

def direction : SortOrder :=
  if fold (request "Order") "desc" then .desc
  else if fold (request "Order") "asc" then .asc
  else o.order

theorem programValues : o.program.choices.map (OrderBy.Choice.value o.program fold request) =
    [o.sorted request, (o.direction fold request).sql] := by
  have column : OrderBy.Choice.value o.program fold request
      ⟨"col", o.default, [(.listed (sortableName o.ident) "Sort", .field "Sort")]⟩ =
        o.sorted request := by
    simp only [OrderBy.Choice.value, List.find?_cons, OrderBy.Test.holds, program, beq_self_eq_true,
      Bool.true_and, List.find?_nil, sorted]
    cases o.columns.contains (request "Sort") <;> rfl
  have direction : OrderBy.Choice.value o.program fold request ⟨"dir", o.order.sql,
      [(.alike "Order" "desc", .literal "DESC"), (.alike "Order" "asc", .literal "ASC")]⟩ =
        (o.direction fold request).sql := by
    simp only [OrderBy.Choice.value, List.find?_cons, OrderBy.Test.holds, List.find?_nil, direction]
    cases fold (request "Order") "desc" <;> cases fold (request "Order") "asc" <;> rfl
  exact congrArg₂ (fun a b => [a, b]) column direction

theorem programClause : o.program.clause fold request =
    " ORDER BY " ++ Sql.quoted (o.sorted request) ++ " " ++ (o.direction fold request).sql := by
  have filled (a b : String) : OrderBy.formatted o.program.format.toList [a, b] =
      " ORDER BY \"".toList ++ (a.toList ++ ("\" ".toList ++ b.toList)) := by
    simp [program, OrderBy.formatted]
  rw [OrderBy.Program.clause, programValues, filled]
  simp [← String.toList_inj, Sql.quoted]

theorem sortedMember : o.sorted request ∈ o.default :: o.columns := by
  rw [sorted]
  split
  · rename_i listed
    exact List.mem_cons_of_mem _ (List.contains_iff_mem.mp listed)
  · exact List.mem_cons_self

end Ordering
end RestScaffold.Server
