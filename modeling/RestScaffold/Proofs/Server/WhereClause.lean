import RestScaffold.Proofs.Code.Rows
import RestScaffold.Server.Criteria

/-! The generated function that restricts a listing, as a program that can be run. It prints to the
lines of the criteria, and whatever a request holds, its clauses are those that the criteria have
for the request. -/
namespace RestScaffold.Server
open Code

namespace Where

inductive Test where
  | given (field : String)
  | sought (field : String)
  deriving DecidableEq, Repr

inductive Argument where
  | value (field : String) (pointer : Bool)
  | around (field : String)
  deriving DecidableEq, Repr

inductive Step where
  | always (clause : String)
  | optional (test : Test) (argument : Argument) (format : String)
  deriving DecidableEq, Repr

structure Program where
  name : String
  params : String
  steps : List Step
  deriving DecidableEq, Repr

def Test.text : Test → String
  | .given field => "p." ++ field ++ " != nil"
  | .sought field => "search && p." ++ field ++ " != \"\""

def Argument.text : Argument → String
  | .value field pointer => (if pointer then "*" else "") ++ "p." ++ field
  | .around field => "\"%\"+p." ++ field ++ "+\"%\""

def Step.code : Step → List Line
  | .always clause => [line ["clauses = append(clauses, ", Go.raw clause, ")"]]
  | .optional test argument format =>
      Go.ifBlock (plain test.text)
        [plain ("args = append(args, " ++ argument.text ++ ")"),
          line ["clauses = append(clauses, ", imported .fmt "Sprintf", "(", Go.raw format,
            ", len(args)))"]]

def Program.code (p : Program) : List Line :=
  Go.function none
    (line [declared p.name, "(p ", imported .dto p.params, ", search bool) (string, []any)"])
    ([plain "clauses := []string\x7b\x7d", plain "args := []any\x7b\x7d"] ++
      p.steps.flatMap Step.code ++ Go.ifBlock "len(clauses) == 0" [plain "return \"\", args"] ++
      [line ["return \" WHERE \" + ", imported .strings "Join", "(clauses, \" AND \"), args"]])

structure Request where
  given : String → Bool
  text : String → String
  search : Bool

structure State where
  clauses : List String
  arguments : List Argument
  deriving DecidableEq, Repr

def Test.holds (q : Request) : Test → Bool
  | .given field => q.given field
  | .sought field => q.search && !(q.text field).isEmpty

def formatted (n : Nat) : List Char → List Char
  | '%' :: 'd' :: rest => (toString n).toList ++ formatted n rest
  | '%' :: '[' :: '1' :: ']' :: 'd' :: rest => (toString n).toList ++ formatted n rest
  | c :: rest => c :: formatted n rest
  | [] => []

def Step.run (q : Request) (st : State) : Step → State
  | .always clause => { st with clauses := st.clauses ++ [clause] }
  | .optional test argument format =>
      if test.holds q then
        ⟨st.clauses ++ [String.ofList (formatted (st.arguments.length + 1) format.toList)],
          st.arguments ++ [argument]⟩
      else st

def Program.run (p : Program) (q : Request) : State := p.steps.foldl (Step.run q) ⟨[], []⟩

def Program.clause (p : Program) (q : Request) : String :=
  if (p.run q).clauses.isEmpty then "" else " WHERE " ++ " AND ".intercalate (p.run q).clauses

inductive Clause where
  | condition (c : Sql.Condition)
  | search (columns : List SearchedColumn) (value : Nat)
  deriving DecidableEq, Repr

def searchText (value : Nat) (c : SearchedColumn) : String :=
  Sql.quoted c.column ++ (if c.textual then "" else "::text") ++ " ILIKE " ++ Sql.placeholder value

def Clause.text : Clause → String
  | .condition c => c.text
  | .search columns value => "(" ++ " OR ".intercalate (columns.map (searchText value)) ++ ")"

end Where

namespace Criteria
open Where

def filterStep (f : Filter) : Step :=
  .optional (.given f.field) (.value f.field f.pointer) (Sql.quoted f.column ++ " = $%d")

def searchSteps (columns : List SearchedColumn) : List Step :=
  if columns.isEmpty then []
  else [.optional (.sought "Q") (.around "Q")
    ("(" ++ " OR ".intercalate (columns.map SearchedColumn.text) ++ ")")]

def program (c : Criteria) : Program where
  name := whereName c.ident
  params := Names.listParams c.typeName
  steps := c.always.map (fun condition => Step.always condition.text) ++
    c.filters.map filterStep ++ searchSteps c.searched

theorem filterPrinted (f : Filter) :
    (filterStep f).code.map lineText = (filterCode f).map lineText := by
  cases pointer : f.pointer <;>
    simp [← String.toList_inj, filterStep, filterCode, Step.code, Test.text, Argument.text,
      numberedClause, Go.ifBlock, Go.block, Code.block, indented, line, plain, Go.raw, imported,
      Fragment.string, pointer]

theorem searchPrinted (columns : List SearchedColumn) :
    ((searchSteps columns).flatMap Step.code).map lineText =
      (searchCode columns).map lineText := by
  unfold searchSteps searchCode
  split
  · rfl
  · simp [Step.code, Test.text, Argument.text, numberedClause, Go.ifBlock, Go.block, Code.block,
      indented, line, plain, Go.raw, imported, Fragment.string]

theorem programPrinted (c : Criteria) : c.program.code.map lineText = c.code.map lineText := by
  have always : (c.always.map fun condition => Step.always condition.text).flatMap Step.code =
      c.always.map fixedClause := by
    rw [List.flatMap_map]
    exact List.flatMap_pure_eq_map ..
  have filters : ((c.filters.map filterStep).flatMap Step.code).map lineText =
      (c.filters.flatMap filterCode).map lineText := by
    simp only [List.flatMap_map, List.map_flatMap, filterPrinted]
  refine functionTexts rfl ?_
  simp only [program, List.flatMap_append, List.map_append, always, filters, searchPrinted,
    List.append_assoc]

variable (c : Criteria) (q : Request)

def given : List Filter := c.filters.filter fun f => q.given f.field

def seeks : Bool := !c.searched.isEmpty && q.search && !(q.text "Q").isEmpty

def clauses : List Clause :=
  c.always.map Clause.condition ++
    ((c.given q).zipIdx 1).map (fun (f, n) => Clause.condition (.equals f.column n)) ++
    (if c.seeks q then [Clause.search c.searched ((c.given q).length + 1)] else [])

def arguments : List Argument :=
  (c.given q).map (fun f => Argument.value f.field f.pointer) ++
    (if c.seeks q then [Argument.around "Q"] else [])

def Formattable : Prop :=
  (∀ f ∈ c.filters, '%' ∉ f.column.toList) ∧ ∀ d ∈ c.searched, '%' ∉ d.column.toList

variable {c}

theorem formattedPlain {cs : List Char} (plain : '%' ∉ cs) (n : Nat) (rest : List Char) :
    formatted n (cs ++ rest) = cs ++ formatted n rest := by
  induction cs with
  | nil => rfl
  | cons c more ih =>
      obtain ⟨first, others⟩ := not_or.mp (mt List.mem_cons.mpr plain)
      rw [List.cons_append, formatted, ih others, List.cons_append]
      all_goals
        rintro _ rfl
        contradiction

theorem filterFormatted {f : Filter} (plain : '%' ∉ f.column.toList) (n : Nat) :
    String.ofList (formatted n (Sql.quoted f.column ++ " = $%d").toList) =
      (Clause.condition (.equals f.column n)).text := by
  have front : '%' ∉ (Sql.quoted f.column ++ " = $").toList := by simp [Sql.quoted, plain]
  have split : (Sql.quoted f.column ++ " = $%d").toList =
      (Sql.quoted f.column ++ " = $").toList ++ ['%', 'd'] := by simp
  rw [split, formattedPlain front]
  simp [← String.toList_inj, formatted, Clause.text, Sql.Condition.text, Sql.placeholder]

theorem columnFormatted {d : SearchedColumn} (plain : '%' ∉ d.column.toList) (n : Nat)
    (rest : List Char) :
    formatted n (d.text.toList ++ rest) = (searchText n d).toList ++ formatted n rest := by
  have front : '%' ∉
      (Sql.quoted d.column ++ (if d.textual then "" else "::text") ++ " ILIKE $").toList := by
    cases d.textual <;> simp [Sql.quoted, plain]
  have split : d.text.toList ++ rest =
      (Sql.quoted d.column ++ (if d.textual then "" else "::text") ++ " ILIKE $").toList ++
        ('%' :: '[' :: '1' :: ']' :: 'd' :: rest) := by
    simp [SearchedColumn.text]
  rw [split, formattedPlain front]
  simp [formatted, searchText, Sql.placeholder]

theorem columnsFormatted {columns : List SearchedColumn}
    (plain : ∀ d ∈ columns, '%' ∉ d.column.toList) (n : Nat) (rest : List Char) :
    formatted n ((" OR ".intercalate (columns.map SearchedColumn.text)).toList ++ rest) =
      (" OR ".intercalate (columns.map (searchText n))).toList ++ formatted n rest := by
  induction columns with
  | nil => rfl
  | cons d more ih =>
      obtain ⟨first, others⟩ := List.forall_mem_cons.mp plain
      cases more with
      | nil => simpa using columnFormatted first n rest
      | cons e further =>
          have between : '%' ∉ " OR ".toList := by decide
          have later := ih others
          simp only [List.map_cons] at later
          simp only [List.map_cons, String.intercalate_cons_cons, String.toList_append,
            List.append_assoc, columnFormatted first, formattedPlain between, later]

theorem searchFormatted {columns : List SearchedColumn}
    (plain : ∀ d ∈ columns, '%' ∉ d.column.toList) (n : Nat) :
    String.ofList (formatted n
      ("(" ++ " OR ".intercalate (columns.map SearchedColumn.text) ++ ")").toList) =
        (Clause.search columns n).text := by
  have opening : '%' ∉ "(".toList := by decide
  rw [← String.toList_inj, String.toList_ofList, String.toList_append, String.toList_append,
    List.append_assoc, formattedPlain opening, columnsFormatted plain]
  simp [formatted, Clause.text]

theorem filtersRun (filters : List Filter) (plain : ∀ f ∈ filters, '%' ∉ f.column.toList)
    (st : State) : (filters.map filterStep).foldl (Step.run q) st =
      ⟨st.clauses ++ (((filters.filter fun f => q.given f.field).zipIdx
          (st.arguments.length + 1)).map
          fun (f, n) => Clause.text (.condition (.equals f.column n))),
        st.arguments ++ (filters.filter fun f => q.given f.field).map
          fun f => Argument.value f.field f.pointer⟩ := by
  induction filters generalizing st with
  | nil => simp
  | cons f rest ih =>
      obtain ⟨first, others⟩ := List.forall_mem_cons.mp plain
      rw [List.map_cons, List.foldl_cons, ih others]
      by_cases held : q.given f.field = true
      · have spelled := filterFormatted first (st.arguments.length + 1)
        simpa [filterStep, Step.run, Test.holds, held] using spelled
      · simp [filterStep, Step.run, Test.holds, held]

theorem alwaysRun (conditions : List Sql.Condition) (st : State) :
    (conditions.map fun condition => Step.always condition.text).foldl (Step.run q) st =
      { st with clauses := st.clauses ++ conditions.map Sql.Condition.text } := by
  induction conditions generalizing st with
  | nil => simp
  | cons condition rest ih =>
      rw [List.map_cons, List.foldl_cons, ih]
      simp [Step.run]

theorem searchRun (plain : ∀ d ∈ c.searched, '%' ∉ d.column.toList) (st : State) :
    (searchSteps c.searched).foldl (Step.run q) st =
      if c.seeks q then
        ⟨st.clauses ++ [(Clause.search c.searched (st.arguments.length + 1)).text],
          st.arguments ++ [Argument.around "Q"]⟩
      else st := by
  unfold searchSteps seeks
  cases none : c.searched.isEmpty with
  | true => rfl
  | false =>
      rw [if_neg (by simp), List.foldl_cons, List.foldl_nil, Step.run, searchFormatted plain]
      rfl

theorem programRun (plain : c.Formattable) :
    c.program.run q = ⟨(c.clauses q).map Clause.text, c.arguments q⟩ := by
  obtain ⟨filters, searched⟩ := plain
  rw [Program.run, program, List.foldl_append, List.foldl_append, alwaysRun,
    filtersRun q _ filters, searchRun q searched]
  cases seeks : c.seeks q <;>
    simp [clauses, arguments, seeks, given, Clause.text, Function.comp_def]

end Criteria
end RestScaffold.Server
