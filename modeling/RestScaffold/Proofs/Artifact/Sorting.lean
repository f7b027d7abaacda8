import RestScaffold.Proofs.Client.Interfaces
import RestScaffold.Proofs.Code.Outline
import RestScaffold.Proofs.Endpoint.Routes
import RestScaffold.Proofs.Server.Literals
import RestScaffold.Proofs.Server.OrderBy

/-! What the rows of a table can be sorted by. The plan, the server and the client name the same
columns, and an order that a request asks for is always one by a column of the table. -/
namespace RestScaffold
open Catalog Code Layout Text

def Endpoint.sortParameter? (e : Endpoint) : Option Parameter :=
  e.parameters.find? (·.name = "sort")

def Client.Types.sort? (t : Client.Types) : Option ScriptType :=
  t.listParams.bind fun properties =>
    (properties.find? (·.name = "sort")).map Client.Property.type

variable {s : Subject} {r : Rendering} {targets : List Target} {files : List Artifact}
  {table : TableShape} {policy : Policy} {plan : List Endpoint}

namespace Subject

theorem sortMember {c : ColumnShape} (member : c ∈ s.sortColumns) : c ∈ s.table.columns := by
  rw [sortColumns] at member
  split at member
  · exact member
  · exact TableShape.namedMember member

theorem sortSome (some : s.table.columns ≠ []) : s.sortColumns ≠ [] := by
  rw [sortColumns]
  split
  · exact some
  · rename_i configured
    simpa using configured

theorem defaultSortKnown (some : s.table.columns ≠ []) :
    ∃ c ∈ s.table.columns, s.defaultSort = c.name := by
  obtain ⟨c, member, default⟩ := TableShape.defaultSortMember some s.policy
  exact ⟨c, member, by rw [defaultSort, default, Option.getD_some]⟩

end Subject

namespace Plan

theorem sortAdvertised (k : EndpointKind) (paged : k = .list ∨ k = .search ∨ k = .export) :
    (endpoint table policy k).sortParameter? = some (sortParameter table policy) := by
  rcases paged with rfl | rfl | rfl
  · rfl
  · simp only [Endpoint.sortParameter?, endpoint, parameters, searchParameters]
    split <;> rfl
  · rfl

end Plan

structure SortedByColumns (s : Subject) : Prop where
  present : s.sortColumns ≠ []
  known : ∀ c ∈ s.sortColumns, c ∈ s.table.columns
  default : ∃ c ∈ s.table.columns, s.defaultSort = c.name
  server : ∀ o, (Server.Repository.of s).ordering = some o →
    o.columns = s.sortColumns.map ColumnShape.name ∧ o.default = s.defaultSort
  client : ∀ type, (Client.Types.of s).sort? = some type →
    type = .oneOf (s.sortColumns.map ColumnShape.name)
  both : ∀ o, (Server.Repository.of s).ordering = some o →
    (Client.Types.of s).sort? = some (.oneOf o.columns)
  planned : ∀ endpoints, Plan.endpoints s.table s.policy = .ok endpoints →
    ∀ e ∈ endpoints, e.kind = .list ∨ e.kind = .search ∨ e.kind = .export →
      ∃ q, e.sortParameter? = some q ∧ q.default = some s.defaultSort ∧
        (Plan.sortColumns s.table s.policy ≠ [] →
          q.description = some ("one of: " ++ Plan.listed s.sortColumns))
  printed : ∀ o, (Server.Repository.of s).ordering = some o →
    o.code <:+: (Server.Repository.of s).code ∧
      o.program.code.map Code.lineText = o.code.map Code.lineText
  clauses : ∀ o, (Server.Repository.of s).ordering = some o → ∀ fold request,
    ∃ c ∈ s.table.columns, ∃ direction : SortOrder, o.program.clause fold request =
      " ORDER BY " ++ Sql.quoted c.name ++ " " ++ direction.sql

theorem clientSort (needed : s.needsListParams = true) :
    (Client.Types.of s).sort? = some (.oneOf (s.sortColumns.map ColumnShape.name)) := by
  simp only [Client.Types.sort?, Client.Types.of, needed, if_true]
  rfl

theorem clientSortOf {type : ScriptType} (made : (Client.Types.of s).sort? = some type) :
    type = .oneOf (s.sortColumns.map ColumnShape.name) := by
  by_cases needed : s.needsListParams = true
  · exact Option.some.inj (made.symm.trans (clientSort needed))
  · simp only [Client.Types.sort?, Client.Types.of, needed] at made
    contradiction

theorem orderedByColumn (some : s.table.columns ≠ []) (request : String → String) :
    ∃ c ∈ s.table.columns, (Server.Ordering.of s).sorted request = c.name := by
  rcases List.mem_cons.mp ((Server.Ordering.of s).sortedMember request) with default | listed
  · rw [default]
    exact Subject.defaultSortKnown some
  · obtain ⟨c, member, same⟩ := List.mem_map.mp listed
    exact ⟨c, Subject.sortMember member, same.symm⟩

theorem sortedByColumns (some : s.table.columns ≠ []) : SortedByColumns s where
  present := Subject.sortSome some
  known := fun _ => Subject.sortMember
  default := Subject.defaultSortKnown some
  server := fun o made => by
    obtain ⟨-, rfl⟩ := orderingOf made
    exact ⟨rfl, rfl⟩
  client := fun _ => clientSortOf
  both := fun o made => by
    obtain ⟨lists, rfl⟩ := orderingOf made
    exact clientSort (Bool.or_eq_true_iff.mpr (.inl lists))
  planned := fun endpoints planned e member paged => by
    rw [Plan.plannedEndpoint planned member, Plan.sortAdvertised e.kind paged]
    refine ⟨_, rfl, ?_, fun configured => ?_⟩
    · obtain ⟨c, -, default⟩ := TableShape.defaultSortMember some s.policy
      rw [Plan.sortParameter, Subject.defaultSort, default, Option.getD_some]
    · have unempty : (Plan.sortColumns s.table s.policy).isEmpty = false := by
        simpa using configured
      simp only [Plan.sortParameter, Subject.sortColumns, unempty, Bool.false_eq_true, if_false]
  printed := fun o made => ⟨orderingCode made, o.programPrinted⟩
  clauses := fun o made fold request => by
    obtain ⟨-, rfl⟩ := orderingOf made
    obtain ⟨c, member, same⟩ := orderedByColumn some request
    exact ⟨c, member, _, by rw [Server.Ordering.programClause, same]⟩

structure SortsRead (s : Subject) (files : List Artifact) : Prop where
  server : ∀ f ∈ files, f.category = .repository → s.listsRows = true → ∃ rows,
    Go.HasBlock f.contents
      ("var " ++ Server.sortableName s.ident ++ " = map[string]bool\x7b") rows ∧
      rows.map (literals GoString.literalKind) =
        s.sortColumns.map fun c => some [utf8 c.name.toList]
  client : ∀ f ∈ files, f.category = .clientTypes → ∃ types,
    Client.interfaces f.contents = some types ∧
      (s.needsListParams = true → ∃ i ∈ types, i.name = Names.listParams s.typeName) ∧
      ∀ i ∈ types, i.name = Names.listParams s.typeName →
        (i.properties.find? (·.name = "sort")).map Client.Signature.type =
          some ((s.sortColumns.map fun c => .literal c.name.toList).intersperse (.sign '|'))

theorem wordlyLiteral {name : String} (wordly : Naming.Wordly name.toList) :
    Client.Token.ofText name = .literal name.toList := by
  have feed : '\n' ∉ name.toList := wordly.without (by decide)
  have turn : '\r' ∉ name.toList := wordly.without (by decide)
  have quote : '\'' ∉ name.toList := wordly.without (by decide)
  have slash : '\\' ∉ name.toList := wordly.without (by decide)
  have whole : ScriptString.Unbroken name.toList := fun c member =>
    ⟨fun same => feed (same ▸ member), fun same => turn (same ▸ member)⟩
  have escaped : name.toList.map ScriptString.escape = name.toList.map fun c => [c] := by
    refine List.map_congr_left fun c member => if_neg ?_
    rintro (rfl | rfl)
    · exact quote member
    · exact slash member
  rw [Client.Token.ofText, if_pos whole, List.flatMap_def, escaped, ← List.flatMap_def,
    List.flatMap_singleton']

theorem sortableRead (wordly : Naming.Wordly s.ident.toList) (goModule : String)
    (lists : s.listsRows = true) : ∃ rows,
      Go.HasBlock ((Server.Repository.of s).file.text goModule)
        ("var " ++ Server.sortableName s.ident ++ " = map[string]bool\x7b") rows ∧
      rows.map (literals GoString.literalKind) =
        s.sortColumns.map fun c => some [utf8 c.name.toList] := by
  have made : (Server.Repository.of s).ordering = some (.of s) := if_pos lists
  have fixed : OneLine "var " ∧ OneLine "Sortable" ∧ OneLine " = map[string]bool\x7b" ∧
      OneLine ": true," := by decide
  have ident : OneLine s.ident := wordly.without (by decide)
  have inside : (Server.Ordering.of s).sortableCode <:+: (Server.Repository.of s).file.body :=
    (List.prefix_append ..).isInfix.trans (orderingCode made)
  have solid (name : String) : Solid (GoString.quote name ++ ": true,").toList :=
    solidEnd (by simp [quoteOneLine, fixed]) rfl (by decide : isBlank ',' = false)
  refine ⟨_, Go.hasBlock ((List.suffix_cons _ _).isInfix.trans inside) ?_ ?_ ?_ goModule, ?_⟩
  · simp [line, declared, Server.Ordering.of, String.append_assoc]
  · exact solidEnd (by simp [Server.sortableName, ident, fixed]) rfl
      (by decide : isBlank '\x7b' = false)
  · refine List.forall_mem_map.mpr fun name _ => ?_
    rw [plainText]
    exact solid name
  · rw [List.map_map, List.map_map, Server.Ordering.of, List.map_map]
    refine List.map_congr_left fun c _ => ?_
    have spells := (GoString.spellsQuote c.name).inside ['\t'] ": true,".toList
      (by decide) (by decide)
    have text : '\t' :: (lineText (plain (GoString.quote c.name ++ ": true,"))).toList =
        ['\t'] ++ (GoString.quote c.name).toList ++ ": true,".toList := by
      simp [plainText]
    exact (congrArg _ text).trans spells.whole

theorem sortsRead (plain : Naming.isPlainIdentifier s.table.name = true)
    (columns : ∀ c ∈ s.table.columns, Naming.isPlainIdentifier c.name = true)
    (starless : Server.Spelled (fun name => '*' ∉ name.toList) s.table)
    (rendered : r.artifacts s targets = .ok files) : SortsRead s files where
  server := by
    intro f member category lists
    rw [Rendering.repositoryPrinted (Rendering.printed rendered member) category]
    exact sortableRead (Naming.camelWordly plain) r.goModule lists
  client := by
    intro f member category
    rw [Rendering.typesPrinted (Rendering.printed rendered member) category]
    refine ⟨_, Client.typesRead plain starless columns,
      fun needed => ⟨_, Client.paramsDeclared needed, rfl⟩, fun i inside named => ?_⟩
    have names : (s.sortColumns.map ColumnShape.name).map Client.Token.ofText =
        s.sortColumns.map fun c => .literal c.name.toList := by
      rw [List.map_map]
      exact List.map_congr_left fun c known =>
        wordlyLiteral (Naming.plainWordly (columns c (Subject.sortMember known)))
    rw [Client.paramsOnly inside named, ← names]
    rfl

/-- Where the files of a table are rendered, they are printed from shapes that sort by its columns
alone, whatever the policy names and the request asks for, and the same columns are read off their
texts. -/
theorem sortsByColumnsOnly (rendered : r.tableArtifacts table policy plan targets = .ok files) :
    let s : Subject := ⟨table, policy, plan⟩
    (∀ f ∈ files,
      (f.category = .repository →
        f.contents = (Server.Repository.of s).file.text r.goModule) ∧
      (f.category = .clientTypes → f.contents = Code.fileText (Client.Types.of s).code)) ∧
    SortedByColumns s ∧ SortsRead s files := by
  obtain ⟨s, made, rendered⟩ := Rendering.tableArtifactsMade rendered
  have starless : Server.Spelled (fun name => '*' ∉ name.toList) table :=
    Server.spelled made fun wordly => wordly.without (by decide)
  obtain ⟨rfl, plain, columns, some⟩ := Rendering.subjectOk made
  refine ⟨fun f member => ?_, sortedByColumns some,
    sortsRead (s := ⟨table, policy, plan⟩) plain columns starless rendered⟩
  have printed := Rendering.printed rendered member
  exact ⟨Rendering.repositoryPrinted printed, Rendering.typesPrinted printed⟩

def eventsTable : TableShape where
  schema := "public"
  name := "events"
  columns := [⟨"day", "date", false, false, none, none⟩, ⟨"title", "text", true, false, none, none⟩]
  comment := none

def eventsPolicy : Policy where
  endpoints := ["list", "export"]
  sorting := { sortFields := ["title", "uid"], defaultSort := some "uid", defaultOrder := .desc }

def events : Subject where
  table := eventsTable
  policy := eventsPolicy
  plan := [.list, .export].map (Plan.endpoint eventsTable eventsPolicy)

theorem eventsSorted :
    ∃ files o, Rendering.tableArtifacts ⟨"app", "/api"⟩ events.table events.policy events.plan
        [.server, .client] = .ok files ∧
      SortedByColumns events ∧ SortsRead events files ∧
      (Server.Repository.of events).ordering = some o ∧ o.columns = ["title"] ∧
      o.default = "day" := by
  obtain ⟨files, rendered⟩ : ∃ files, Rendering.tableArtifacts ⟨"app", "/api"⟩ events.table
      events.policy events.plan [.server, .client] = .ok files :=
    Rendering.filesOf (by decide +kernel)
  obtain ⟨-, sorted, read⟩ := sortsByColumnsOnly rendered
  exact ⟨files, _, rendered, sorted, read, rfl, by decide, by decide⟩

end RestScaffold
