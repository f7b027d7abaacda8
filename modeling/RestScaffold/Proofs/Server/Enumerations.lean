import RestScaffold.Proofs.Server.Literals
import RestScaffold.Proofs.Server.Tags
import RestScaffold.Proofs.Code.Outline

/-! The columns of a table as the server's files enumerate them: in the struct of a row, in the list
of columns and in the records of an export. -/
namespace RestScaffold
open Catalog Code Layout Text

namespace Go

def between? (front back : String) (row : List Char) : Option String :=
  let name := String.ofList ((row.drop front.length).take (row.length - front.length - back.length))
  if row = (front ++ name ++ back).toList then some name else none

/-- The fields whose values the rows append to a record, one for each value. Where a field is
absent, the value is empty. -/
def records : List (List Char) → Option (List String)
  | [] => none
  | row :: rest =>
      if row = "\treturn rec".toList then if rest = [] then some [] else none
      else
        match between? "\trec = append(rec, fmt.Sprint(m." "))" row with
        | some name => (records rest).map (name :: ·)
        | none =>
            match between? "\tif m." " != nil \x7b" row, rest with
            | some name, present :: other :: absent :: closing :: more =>
                if between? "\t\trec = append(rec, fmt.Sprint(*m." "))" present = some name ∧
                    other = "\t\x7d else \x7b".toList ∧
                    absent = "\t\trec = append(rec, \"\")".toList ∧ closing = "\t\x7d".toList then
                  (records more).map (name :: ·)
                else none
            | _, _ => none

variable {front back name : String} {row : List Char}

theorem betweenRead (front back name : String) :
    between? front back (front ++ name ++ back).toList = some name := by
  have middle : ((front ++ name ++ back).toList.drop front.length).take
      ((front ++ name ++ back).toList.length - front.length - back.length) = name.toList := by
    have rest : (front ++ name ++ back).toList.length - front.length - back.length =
        name.toList.length := by
      simp only [String.length_toList, String.length_append]
      omega
    rw [rest, String.append_assoc, String.toList_append, ← String.length_toList, List.drop_left,
      String.toList_append, List.take_left]
  simp only [between?, middle, String.ofList_toList, if_true]

theorem betweenNone (other : ¬front.toList <+: row) : between? front back row = none := by
  refine if_neg fun same => ?_
  rw [String.append_assoc, String.toList_append] at same
  exact other ⟨_, same.symm⟩

theorem recordsValue (name : String) (rest : List (List Char)) :
    records (("\trec = append(rec, fmt.Sprint(m." ++ name ++ "))").toList :: rest) =
      (records rest).map (name :: ·) := by
  have other : ("\trec = append(rec, fmt.Sprint(m." ++ name ++ "))").toList ≠
      "\treturn rec".toList := by simp
  rw [records.eq_def]
  simp only [if_neg other, betweenRead]

theorem recordsPointer (name : String) (rest : List (List Char)) :
    records (("\tif m." ++ name ++ " != nil \x7b").toList ::
      ("\t\trec = append(rec, fmt.Sprint(*m." ++ name ++ "))").toList ::
        "\t\x7d else \x7b".toList :: "\t\trec = append(rec, \"\")".toList ::
        "\t\x7d".toList :: rest) =
      (records rest).map (name :: ·) := by
  have other : ("\tif m." ++ name ++ " != nil \x7b").toList ≠ "\treturn rec".toList := by simp
  have tests : ¬"\trec = append(rec, fmt.Sprint(m.".toList <+:
      ("\tif m." ++ name ++ " != nil \x7b").toList := by simp
  rw [records.eq_def]
  simp only [if_neg other, betweenNone tests, betweenRead, and_self, if_true]

end Go

namespace Server

theorem recordTexts (f : RecordField) : (Handler.recordFieldCode f).map lineText =
    if f.pointer then
      ["if m." ++ f.name ++ " != nil \x7b", "\trec = append(rec, fmt.Sprint(*m." ++ f.name ++ "))",
        "\x7d else \x7b", "\trec = append(rec, \"\")", "\x7d"]
    else ["rec = append(rec, fmt.Sprint(m." ++ f.name ++ "))"] := by
  cases pointer : f.pointer <;>
    simp [Handler.recordFieldCode, pointer, line, imported, Package.name, Go.ifElse, indented,
      plainText, ← String.toList_inj]

def recordBody (fields : List RecordField) : List Line :=
  fields.flatMap Handler.recordFieldCode ++ [plain "return rec"]

theorem recordsRead (fields : List RecordField) :
    Go.records ((recordBody fields).map fun l => '\t' :: (lineText l).toList) =
      some (fields.map RecordField.name) := by
  induction fields with
  | nil => rfl
  | cons f rest ih =>
      have split : (recordBody (f :: rest)).map (fun l => '\t' :: (lineText l).toList) =
          ((Handler.recordFieldCode f).map lineText).map (fun t => '\t' :: t.toList) ++
            (recordBody rest).map fun l => '\t' :: (lineText l).toList := by
        simp [recordBody]
      rw [split, recordTexts]
      cases f.pointer with
      | false =>
          have row : '\t' :: ("rec = append(rec, fmt.Sprint(m." ++ f.name ++ "))").toList =
              ("\trec = append(rec, fmt.Sprint(m." ++ f.name ++ "))").toList := by simp
          rw [if_neg Bool.false_ne_true, List.map_singleton, row, List.singleton_append,
            Go.recordsValue, ih]
          rfl
      | true =>
          have rows : '\t' :: ("if m." ++ f.name ++ " != nil \x7b").toList =
                ("\tif m." ++ f.name ++ " != nil \x7b").toList ∧
              '\t' :: ("\trec = append(rec, fmt.Sprint(*m." ++ f.name ++ "))").toList =
                ("\t\trec = append(rec, fmt.Sprint(*m." ++ f.name ++ "))").toList := by simp
          have read := Go.recordsPointer f.name
            ((recordBody rest).map fun l => '\t' :: (lineText l).toList)
          rw [← rows.1, ← rows.2, ih] at read
          exact read

theorem fixedSolid : ∀ t ∈ ["\x7d else \x7b", "\trec = append(rec, \"\")", "\x7d", "return rec"],
    Solid t.toList := by
  have each : ∀ t ∈ ["\x7d else \x7b", "\trec = append(rec, \"\")", "\x7d", "return rec"],
      t.toList ≠ [] ∧ OneLine t ∧ t.toList.getLast?.all (!isBlank ·) = true := by decide
  intro t known
  obtain ⟨some, oneLine, last⟩ := each t known
  refine ⟨some, oneLine, fun c ends => ?_⟩
  rw [Option.mem_def.mp ends] at last
  simpa using last

theorem recordSolid {fields : List RecordField} (names : ∀ f ∈ fields, OneLine f.name) :
    ∀ l ∈ recordBody fields, Solid (lineText l).toList := by
  have fixed : OneLine "if m." ∧ OneLine " != nil \x7b" ∧
      OneLine "\trec = append(rec, fmt.Sprint(*m." ∧ OneLine "))" ∧
      OneLine "rec = append(rec, fmt.Sprint(m." := by decide
  refine List.forall_mem_append.mpr ⟨fun l member => ?_, List.forall_mem_singleton.mpr ?_⟩
  · obtain ⟨f, known, inside⟩ := List.mem_flatMap.mp member
    have text := List.mem_map_of_mem (f := lineText) inside
    have name := names f known
    rw [recordTexts] at text
    revert text
    generalize lineText l = t
    revert t
    split
    · simp only [List.forall_mem_cons]
      exact ⟨solidEnd (by simp [fixed, name]) rfl (by decide),
        solidEnd (by simp [fixed, name]) rfl (by decide), fixedSolid _ (by simp),
        fixedSolid _ (by simp), fixedSolid _ (by simp), nofun⟩
    · exact List.forall_mem_singleton.mpr (solidEnd (by simp [fixed, name]) rfl (by decide))
  · rw [plainText]
    exact fixedSolid _ (by simp)

section
variable {s : Subject} (flat : Spelled OneLine s.table)
include flat

theorem recordRead (exports : s.has .export = true) (goModule : String) :
    ∃ start rows, Go.HasBlock ((Handler.of s).file.text goModule)
        ("func " ++ recordName s.ident ++ "(m models." ++ s.typeName ++ ") []string \x7b")
        (start :: rows) ∧
      Go.records rows = some (s.table.columns.map fieldName) := by
  have made : (Handler.of s).record = some (s.table.columns.map Handler.recordField) :=
    if_pos exports
  have fixed : OneLine "func " ∧ OneLine "Record" ∧ OneLine "(m models." ∧
      OneLine ") []string \x7b" ∧ OneLine "rec := make([]string, 0, " ∧ OneLine ")" := by decide
  have ident : OneLine s.ident := flat.ident
  have type : OneLine s.typeName := flat.type
  have count : OneLine (toString (s.table.columns.map Handler.recordField).length) :=
    (numberNumerical _).without (by decide)
  have inside : (Handler.of s).recordCode (s.table.columns.map Handler.recordField) <:+:
      (Handler.of s).file.body := by
    have own : (Handler.of s).recordCode (s.table.columns.map Handler.recordField) =
        ((Handler.of s).record.map (Handler.of s).recordCode).getD [] := by
      rw [made]
      rfl
    rw [own]
    exact (List.suffix_append ..).isInfix.trans (List.prefix_append ..).isInfix
  have names : ∀ f ∈ s.table.columns.map Handler.recordField, OneLine f.name :=
    List.forall_mem_map.mpr fun c member => (flat.columns c member).2
  have start : Solid (lineText (plain ("rec := make([]string, 0, " ++
      toString (s.table.columns.map Handler.recordField).length ++ ")"))).toList := by
    rw [plainText]
    refine solidEnd ?_ rfl (by decide)
    rw [oneLineAppend, oneLineAppend]
    exact ⟨⟨fixed.2.2.2.2.1, count⟩, fixed.2.2.2.2.2⟩
  refine ⟨_, _, Go.hasBlock ((List.suffix_cons _ _).isInfix.trans inside) ?_ ?_
    (List.forall_mem_cons.mpr ⟨start, recordSolid names⟩) goModule, ?_⟩
  · simp [line, declared, imported, Package.name, Handler.of, String.append_assoc,
      ← String.toList_inj]
  · exact solidEnd (by simp [recordName, ident, type, fixed]) rfl (by decide)
  · have read := recordsRead (s.table.columns.map Handler.recordField)
    rw [List.map_map] at read
    exact read

end

structure Enumerated (s : Subject) (f : Artifact) : Prop where
  model : f.category = .model →
    (∃ st, Go.structs f.contents = some [st] ∧
      st.fields.map Go.Field.name = s.table.columns.map fieldName ∧
      st.fields.map (·.tag.lookup "db") = s.table.columns.map fun c => some (utf8 c.name.toList)) ∧
    ∃ row, HasRow f.contents row ∧
      ("var " ++ columnsName s.typeName ++ " = ").toList <+: row.toList ∧
      literals GoString.literalKind row.toList =
        some (s.table.columns.map fun c => utf8 c.name.toList)
  record : f.category = .handler → s.has .export = true → ∃ start rows,
    Go.HasBlock f.contents
        ("func " ++ recordName s.ident ++ "(m models." ++ s.typeName ++ ") []string \x7b")
        (start :: rows) ∧
      Go.records rows = some (s.table.columns.map fieldName)

end Server

variable {r : Rendering} {table : TableShape} {policy : Policy} {plan : List Endpoint}
  {targets : List Target} {files : List Artifact}

theorem enumerated (made : Subject.of table policy plan = .ok ⟨table, policy, plan⟩)
    {f : Artifact} (printed : Rendering.Printed r ⟨table, policy, plan⟩ f) :
    Server.Enumerated ⟨table, policy, plan⟩ f where
  model := by
    intro category
    have flat := Server.spelled made Server.wordlyOneLine
    obtain ⟨-, plain, columns, -⟩ := Rendering.subjectOk made
    rw [Rendering.serverPrinted printed fun _ => by rw [category]; rfl]
    have read := Server.modelRead (s := ⟨table, policy, plan⟩) flat plain columns r.goModule
    refine ⟨⟨_, read, ?_, ?_⟩, Server.modelTexts (s := ⟨table, policy, plan⟩) r.goModule plain⟩
    · simp [Go.Struct.bytes, Server.Model.struct, Server.Model.of, Go.Field.bytes, GoField.meant,
        Server.Model.field, Function.comp_def]
    · simp [Go.Struct.bytes, Server.Model.struct, Server.Model.of, Go.Field.bytes, GoField.meant,
        Server.Model.field, Function.comp_def, List.lookup_cons]
  record := by
    intro category exports
    rw [Rendering.serverPrinted printed fun _ => by rw [category]; rfl]
    exact Server.recordRead (s := ⟨table, policy, plan⟩)
      (Server.spelled made Server.wordlyOneLine) exports r.goModule

def ordersTable : TableShape where
  schema := "shop"
  name := "orders"
  columns := [⟨"total", "numeric", false, false, none, none⟩,
    ⟨"id", "bigint", false, true, none, none⟩,
    ⟨"updated_at", "timestamp", false, false, none, none⟩,
    ⟨"note", "text", true, false, none, none⟩]
  comment := none

def orders : Subject where
  table := ordersTable
  policy := { endpoints := [] }
  plan := [.update, .create, .export].map (Plan.endpoint ordersTable { endpoints := [] })

end RestScaffold
