import RestScaffold.Proofs.Artifact.Wire
import RestScaffold.Proofs.Server.Tags
import RestScaffold.Proofs.Text.Forms

/-! The names that columns have in the generated code. Names of columns that are different stay
different unless they consist of the same parts, and a filter gives way to the parameters that every
list has. -/
namespace RestScaffold
open Catalog Naming

variable {s : Subject}

theorem nodupAlike {α β γ : Type} {l : List α} {f : α → β} {g : α → γ}
    (alike : ∀ a ∈ l, ∀ b ∈ l, f a = f b ↔ g a = g b) : (l.map f).Nodup ↔ (l.map g).Nodup := by
  rw [List.Nodup, List.Nodup, List.pairwise_map, List.pairwise_map]
  exact List.Pairwise.iff_of_mem fun one other => not_congr (alike _ one _ other)

namespace Server

theorem filterUnfixed (c : ColumnShape) : filterFieldName c ∉ fixedParamFields := by
  have renamed : ∀ name ∈ fixedParamFields, name ++ "Filter" ∉ fixedParamFields := by decide
  unfold filterFieldName
  split
  · rename_i fixed
    exact renamed _ (List.contains_iff_mem.mp fixed)
  · rename_i free
    exact fun known => free (List.contains_iff_mem.mpr known)

def FiltersFree (s : Subject) : Prop :=
  ∀ c ∈ s.filterColumns, ∀ d ∈ s.filterColumns,
    fieldName c ∈ fixedParamFields → fieldName d ≠ fieldName c ++ "Filter"

theorem filterSame {c d : ColumnShape}
    (free : fieldName c ∈ fixedParamFields → fieldName d ≠ fieldName c ++ "Filter")
    (free' : fieldName d ∈ fixedParamFields → fieldName c ≠ fieldName d ++ "Filter") :
    filterFieldName c = filterFieldName d ↔ fieldName c = fieldName d := by
  simp only [filterFieldName, List.contains_iff_mem]
  split <;> split
  · exact String.append_left_inj "Filter"
  · rename_i fixed other
    exact ⟨fun same => absurd same.symm (free fixed), fun same => absurd (same ▸ fixed) other⟩
  · rename_i other fixed
    exact ⟨fun same => absurd same (free' fixed), fun same => absurd (same ▸ fixed) other⟩
  · rfl

theorem paramsNodup (s : Subject) :
    ((Dto.paramFields s).map GoField.name).Nodup ↔ (s.filterColumns.map filterFieldName).Nodup := by
  have front : ∀ searches exports : Bool, ((Dto.pageFields ++
      (if searches then [GoField.mk "Q" .string [("form", "q")]] else []) ++
      (if exports then [GoField.mk "Format" .string [("form", "format")]] else [])).map
        GoField.name).Sublist fixedParamFields := by decide
  have sublist := front s.searches (s.has .export)
  have fixed : fixedParamFields.Nodup := by decide
  have names : (s.filterColumns.map Dto.filterField).map GoField.name =
      s.filterColumns.map filterFieldName := List.map_map
  rw [Dto.paramFields, List.map_append, names, List.nodup_append]
  refine ⟨fun all => all.2.1, fun own => ⟨fixed.sublist sublist, own, ?_⟩⟩
  rintro name member _ filter rfl
  obtain ⟨c, -, rfl⟩ := List.mem_map.mp filter
  exact filterUnfixed c (sublist.subset member)

end Server

structure NamedApart (s : Subject) : Prop where
  fields : ((Server.Model.of s).fields.map GoField.name).Nodup ↔
    (s.table.columns.map fun c => exportedForm c.name).Nodup
  json : ((Server.Model.of s).fields.map (GoField.wireName "json")).Nodup ↔
    (s.table.columns.map fun c => form c.name).Nodup
  rows : ((Client.Types.of s).row.map Client.Property.name).Nodup ↔
    (s.table.columns.map fun c => form c.name).Nodup
  params : (s.filterColumns.map fun c => exportedForm c.name).Nodup → Server.FiltersFree s →
    ((Server.Dto.paramFields s).map GoField.name).Nodup
  snake : (s.table.columns.map ColumnShape.name).Nodup →
    (∀ c ∈ s.table.columns, isSnake c.name = true) →
      (s.table.columns.map fun c => form c.name).Nodup
  long : (s.table.columns.map ColumnShape.name).Nodup →
    (∀ c ∈ s.table.columns, isLongSnake c.name = true) →
      (s.table.columns.map fun c => exportedForm c.name).Nodup

theorem namedApart (plain : s.Plain) : NamedApart s where
  fields := by
    have names : (Server.Model.of s).fields.map GoField.name =
        s.table.columns.map Server.fieldName := List.map_map
    rw [names]
    exact nodupAlike fun c member d other => exportedSame (plain c member) (plain d other)
  json := by
    have names : (Server.Model.of s).fields.map (GoField.wireName "json") =
        s.table.columns.map fun c => camel c.name := by
      rw [Server.Model.of, List.map_map]
      exact List.map_congr_left fun c member => modelWireName (plain c member)
    rw [names]
    exact nodupAlike fun c member d other => camelSame (plain c member) (plain d other)
  rows := by
    have names : (Client.Types.of s).row.map Client.Property.name =
        s.table.columns.map fun c => camel c.name := List.map_map
    rw [names]
    exact nodupAlike fun c member d other => camelSame (plain c member) (plain d other)
  params := by
    intro forms free
    have own {c : ColumnShape} (member : c ∈ s.filterColumns) :=
      plain c (TableShape.namedMember member)
    rw [Server.paramsNodup]
    refine (nodupAlike fun c member d other => ?_).mpr forms
    rw [Server.filterSame (free c member d other) (free d other c member)]
    exact exportedSame (own member) (own other)
  snake := fun distinct snake => by
    refine (nodupAlike fun c member d other => ?_).mpr distinct
    rw [formSnake (snake c member), formSnake (snake d other), List.cons_inj_right,
      String.toList_inj]
  long := fun distinct long =>
    (nodupAlike fun c member d other => exportedFormApart (long c member) (long d other)).mpr
      distinct

variable {r : Rendering} {table : TableShape} {policy : Policy} {plan : List Endpoint}
  {targets : List Target} {files : List Artifact}

/-- The names in the files of a table are those of different columns exactly if the columns consist
of different parts. -/
theorem columnsNamedApart
    (rendered : r.tableArtifacts table policy plan targets = .ok files) :
    let s : Subject := ⟨table, policy, plan⟩
    NamedApart s ∧ ∀ f ∈ files,
      (f.category = .model → Go.structs f.contents = some [(Server.Model.of s).struct.bytes]) ∧
      (f.category = .clientTypes → f.contents = Code.fileText (Client.Types.of s).code) ∧
      (f.category = .dto → ∃ dto : Server.Dto, f.contents = dto.file.text r.goModule ∧
        dto.listParams = if s.needsListParams then some (Server.Dto.paramFields s) else none) := by
  obtain ⟨s, made, printed⟩ := Rendering.tableArtifactsMade rendered
  obtain ⟨rfl, plain, columns, -⟩ := Rendering.subjectOk made
  have spelled : Server.Spelled Text.OneLine table :=
    Server.spelled made fun wordly => wordly.without (by decide)
  refine ⟨namedApart (s := ⟨table, policy, plan⟩) columns, fun f member =>
    ⟨fun category => ?_, fun category => ?_, fun category => ?_⟩⟩
  · have own := Rendering.printed printed member
    rw [Rendering.serverPrinted own fun _ => by rw [category]; rfl]
    exact Server.modelRead (s := ⟨table, policy, plan⟩) spelled plain columns r.goModule
  · exact Rendering.typesPrinted (Rendering.printed printed member) category
  · cases Rendering.printed printed member with
    | server _ dtoMade file contents =>
        rw [category] at file
        cases file
        exact ⟨_, contents, (dtoOf dtoMade).2.2⟩
    | client _ file =>
        rw [category] at file
        contradiction

def visits (names filters : List String) : Subject where
  table := {
    schema := "public"
    name := "visits"
    columns := names.map fun name => ⟨name, "text", false, false, none, none⟩
    comment := none }
  policy := { endpoints := [], filtering := { filterFields := filters } }
  plan := []

theorem visitsNamedApart :
    let s := visits ["user_id", "page", "day2"] ["page", "day2"]
    ∃ files, Rendering.tableArtifacts ⟨"app", "/api"⟩ s.table s.policy s.plan Target.all =
        .ok files ∧
      ((Server.Model.of s).fields.map GoField.name).Nodup ∧
      ((Server.Model.of s).fields.map (GoField.wireName "json")).Nodup ∧
      ((Client.Types.of s).row.map Client.Property.name).Nodup ∧
      ((Server.Dto.paramFields s).map GoField.name).Nodup := by
  intro s
  obtain ⟨files, rendered⟩ : ∃ files, Rendering.tableArtifacts ⟨"app", "/api"⟩ s.table s.policy
      s.plan Target.all = .ok files := Rendering.filesOf (by decide +kernel)
  obtain ⟨apart, -⟩ := columnsNamedApart rendered
  have distinct : (s.table.columns.map ColumnShape.name).Nodup := by decide
  have snake := apart.snake distinct (by decide +kernel)
  have long := apart.long distinct (by decide +kernel)
  have filters : (s.filterColumns.map fun c => exportedForm c.name).Nodup := by decide +kernel
  have free : Server.FiltersFree s := by
    rw [Server.FiltersFree]
    decide +kernel
  exact ⟨files, rendered, apart.fields.mpr long, apart.json.mpr snake, apart.rows.mpr snake,
    apart.params filters free⟩

theorem partsShared :
    let s := visits ["OrderItems", "Order_items", "page", "page_filter"] ["page", "page_filter"]
    (s.table.columns.map ColumnShape.name).Nodup ∧
      (∃ files, Rendering.tableArtifacts ⟨"app", "/api"⟩ s.table s.policy s.plan Target.all =
        .ok files) ∧
      ¬((Server.Model.of s).fields.map GoField.name).Nodup ∧
      ¬((Server.Model.of s).fields.map (GoField.wireName "json")).Nodup ∧
      ¬((Client.Types.of s).row.map Client.Property.name).Nodup ∧
      ¬((Server.Dto.paramFields s).map GoField.name).Nodup := by
  intro s
  exact ⟨by decide, Rendering.filesOf (by decide +kernel), by decide +kernel, by decide +kernel,
    by decide +kernel, by decide +kernel⟩

end RestScaffold
