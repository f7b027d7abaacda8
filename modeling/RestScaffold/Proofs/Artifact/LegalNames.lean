import RestScaffold.Proofs.Artifact.FieldNames

/-! Whether the names in generated code can be declared there. The plain names of a catalog may
begin with underscores, which no convention keeps. What is left then begins with a digit or is
nothing at all, and the code that is generated all the same declares no identifier. Every name with
a letter for its first other character becomes one. -/
namespace RestScaffold
open Catalog

namespace Naming
open Text

def isExported (s : String) : Bool :=
  s.toList.head?.any Char.isUpper && s.toList.all Char.isAlphanum

def isSmall (s : String) : Bool := s.toList.head?.any Char.isLower && s.toList.all Char.isAlphanum

def isLettered (s : String) : Bool := (s.toList.find? (· != '_')).any Char.isAlpha

variable {s : String}

theorem asciiRaised : ∀ n < 128, let c := Char.ofNat n
    (isWordly c = true → isAlphanumeric c = (c != '_')) ∧
    (c.isAlphanum = true →
      c.toUpper.isUpper = c.isAlpha ∧ c.toLower.isLower = c.isAlpha) := by
  decide +kernel

theorem wordlyAlphanumeric {c : Char} (wordly : isWordly c = true) :
    isAlphanumeric c = (c != '_') := by
  have known := (asciiRaised c.toNat (wordlyAscii wordly)).1
  rw [Char.ofNat_toNat] at known
  exact known wordly

theorem alphanumRaised {c : Char} (alphanum : c.isAlphanum = true) :
    c.toUpper.isUpper = c.isAlpha ∧ c.toLower.isLower = c.isAlpha := by
  have known := (asciiRaised c.toNat (alphanumAscii alphanum)).2
  rw [Char.ofNat_toNat] at known
  exact known alphanum

theorem firstWord (plain : isPlainIdentifier s = true) :
    (words s.toList = [] ∧ s.toList.find? (· != '_') = none) ∨
      ∃ c w more, words s.toList = (c :: w) :: more ∧ s.toList.find? (· != '_') = some c := by
  have same : s.toList.find? isAlphanumeric = s.toList.find? (· != '_') := by
    have alike : ∀ c ∈ s.toList, isAlphanumeric c = (c != '_') := fun c member =>
      wordlyAlphanumeric (plainWordly plain c member)
    rw [← List.head?_filter, ← List.head?_filter, List.filter_congr alike]
  rw [List.find?_eq_head?_dropWhile_not] at same
  rw [wordsStep, ← same]
  cases s.toList.dropWhile (!isAlphanumeric ·) with
  | nil => exact .inl ⟨rfl, rfl⟩
  | cons c rest => exact .inr ⟨c, _, _, rfl, rfl⟩

theorem spelledExported (plain : isPlainIdentifier s = true) {spelling : List Char → List Char}
    (alphanum : Alphanum ((words s.toList).flatMap spelling))
    (raised : ∀ c w, c.isAlphanum = true → ∃ rest, spelling (c :: w) = c.toUpper :: rest) :
    isExported (String.ofList ((words s.toList).flatMap spelling)) = isLettered s := by
  rw [isExported, isLettered, String.toList_ofList, List.all_eq_true.mpr alphanum, Bool.and_true]
  rcases firstWord plain with ⟨none, missing⟩ | ⟨c, w, more, split, found⟩
  · rw [none, missing]
    rfl
  · have member : c :: w ∈ words s.toList := by simp [split]
    have own := (wordAlphanum plain member).2 c List.mem_cons_self
    obtain ⟨rest, first⟩ := raised c w own
    rw [split, found, List.flatMap_cons, first]
    exact (alphanumRaised own).1

theorem capitalizedRaised {c : Char} (w : List Char) (own : c.isAlphanum = true) :
    capitalized (c :: w) = c.toUpper :: w := by
  rw [capitalized, upperAlphanum own, List.singleton_append]

theorem pascalExported (plain : isPlainIdentifier s = true) :
    isExported (pascal s) = isLettered s := by
  have alphanum := (pascalForm plain).1
  rw [pascal, String.toList_ofList] at alphanum
  exact spelledExported plain alphanum fun c w own => ⟨w, capitalizedRaised w own⟩

theorem exportedExported (plain : isPlainIdentifier s = true) :
    isExported (exported s) = isLettered s := by
  have alphanum := (exportedParts plain).1
  rw [exported, String.toList_ofList] at alphanum
  refine spelledExported plain alphanum fun c w own => ?_
  unfold exportedWord
  split
  · exact ⟨w.flatMap upperChar, by rw [List.flatMap_cons, upperAlphanum own, List.singleton_append]⟩
  · exact ⟨w, capitalizedRaised w own⟩

theorem camelAlphanum (plain : isPlainIdentifier s = true) : Alphanum (camel s).toList := by
  have alphanum := (pascalForm plain).1
  rw [← (camelPascal plain).2]
  cases spelled : (pascal s).toList with
  | nil => exact nofun
  | cons c rest =>
      rw [spelled] at alphanum
      obtain ⟨own, others⟩ := List.forall_mem_cons.mp alphanum
      rw [uncapitalized, lowerAlphanum own]
      exact List.forall_mem_cons.mpr ⟨(alphanumCased own).lower, others⟩

theorem camelSmall (plain : isPlainIdentifier s = true) : isSmall (camel s) = isLettered s := by
  rw [isSmall, isLettered, List.all_eq_true.mpr (camelAlphanum plain), Bool.and_true]
  rcases firstWord plain with ⟨none, missing⟩ | ⟨c, w, more, split, found⟩
  · rw [camel, none, missing]
    rfl
  · have member : c :: w ∈ words s.toList := by simp [split]
    have own := (wordAlphanum plain member).2 c List.mem_cons_self
    rw [camel, split, found, String.toList_ofList, uncapitalized, lowerAlphanum own]
    exact (alphanumRaised own).2

theorem letteredAppend (lettered : isLettered s = true) (t : String) :
    isLettered (s ++ t) = true := by
  obtain ⟨c, found, letter⟩ := (Option.any_eq_true _ _).mp lettered
  rw [isLettered, String.toList_append, List.find?_append, found]
  exact letter

end Naming

variable {s : Subject}

theorem shapeNames {α β : Type} {asked : Bool} {l : List α} {f : α → β} {p : β → Prop} :
    (∀ g ∈ (if asked then some (l.map f) else none).getD [], p g) ↔
      (asked = true → ∀ a ∈ l, p (f a)) := by
  cases asked <;> simp

namespace Server

theorem filterExported {c : ColumnShape} (plain : Naming.isPlainIdentifier c.name = true) :
    Naming.isExported (filterFieldName c) = Naming.isLettered c.name := by
  have fixed : ∀ name ∈ fixedParamFields, Naming.isExported name = true ∧
      Naming.isExported (name ++ "Filter") = true := by decide
  rw [← Naming.exportedExported plain, filterFieldName]
  split
  · rename_i taken
    obtain ⟨own, renamed⟩ := fixed _ (List.contains_iff_mem.mp taken)
    exact renamed.trans own.symm
  · rfl

def Dto.columns (s : Subject) : List ColumnShape :=
  (if s.needsCreateShape || s.has .update then s.writable else []) ++
    if s.needsListParams then s.filterColumns else []

theorem paramsExported (columns : s.Plain) :
    (∀ g ∈ Dto.paramFields s, Naming.isExported g.name = true) ↔
      ∀ c ∈ s.filterColumns, Naming.isLettered c.name = true := by
  have fixed : ∀ searches exports : Bool, ∀ g ∈ Dto.pageFields ++
      (if searches then [GoField.mk "Q" .string [("form", "q")]] else []) ++
      (if exports then [GoField.mk "Format" .string [("form", "format")]] else []),
        Naming.isExported g.name = true := by decide
  rw [Dto.paramFields, List.forall_mem_append, List.forall_mem_map,
    and_iff_right (fixed s.searches (s.has .export))]
  refine forall₂_congr fun c member => ?_
  rw [← filterExported (columns c (TableShape.namedMember member))]
  rfl

theorem dtoExported {dto : Dto} (made : Dto.of s = .ok dto) (columns : s.Plain) :
    (∀ g ∈ dto.fields, Naming.isExported g.name = true) ↔
      ∀ c ∈ Dto.columns s, Naming.isLettered c.name = true := by
  obtain ⟨create, update, params⟩ := dtoOf made
  have requests : (∀ c ∈ s.writable, Naming.isExported (fieldName c) = true) ↔
      ∀ c ∈ s.writable, Naming.isLettered c.name = true := forall₂_congr fun c member => by
    rw [← Naming.exportedExported (columns c (TableShape.writableMember member)), fieldName]
  have creates : (∀ g ∈ dto.create.getD [], Naming.isExported g.name = true) ↔
      (s.needsCreateShape = true → ∀ c ∈ s.writable, Naming.isLettered c.name = true) := by
    rw [create, shapeNames]
    exact imp_congr_right fun _ => requests
  have updates : (∀ g ∈ dto.update.getD [], Naming.isExported g.name = true) ↔
      (s.has .update = true → ∀ c ∈ s.writable, Naming.isLettered c.name = true) := by
    rw [update, shapeNames]
    exact imp_congr_right fun _ => requests
  have lists : (∀ g ∈ dto.listParams.getD [], Naming.isExported g.name = true) ↔
      (s.needsListParams = true → ∀ c ∈ s.filterColumns, Naming.isLettered c.name = true) := by
    rw [params, ← paramsExported columns]
    cases s.needsListParams <;> simp
  rw [Dto.fields, List.forall_mem_append, List.forall_mem_append, creates, updates, lists,
    Dto.columns, List.forall_mem_append]
  cases s.needsCreateShape <;> cases s.has .update <;> cases s.needsListParams <;> simp

end Server

namespace Client

def Types.properties (t : Types) : List Property := t.row ++ t.create.getD [] ++ t.update.getD []

theorem propertiesSmall (columns : s.Plain) :
    (∀ p ∈ (Types.of s).properties, Naming.isSmall p.name = true) ↔
      ∀ c ∈ s.table.columns, Naming.isLettered c.name = true := by
  have small : ∀ c ∈ s.table.columns,
      Naming.isSmall (Naming.camel c.name) = Naming.isLettered c.name :=
    fun c member => Naming.camelSmall (columns c member)
  have rows : (∀ p ∈ (Types.of s).row, Naming.isSmall p.name = true) ↔
      ∀ c ∈ s.table.columns, Naming.isLettered c.name = true := by
    rw [Types.of, List.forall_mem_map]
    exact forall₂_congr fun c member => by rw [← small c member, Property.ofColumn]
  have bodies (lettered : ∀ c ∈ s.table.columns, Naming.isLettered c.name = true)
      (optional : ColumnShape → Bool) :
      ∀ c ∈ s.writable, Naming.isSmall (Property.ofColumn s c (optional c)).name = true := by
    intro c member
    have own := TableShape.writableMember member
    exact (small c own).trans (lettered c own)
  rw [Types.properties, List.forall_mem_append, List.forall_mem_append, rows]
  refine ⟨fun all => all.1.1, fun lettered => ⟨⟨lettered, ?_⟩, ?_⟩⟩
  · exact shapeNames.mpr fun _ => bodies lettered fun c => !s.requires c
  · exact shapeNames.mpr fun _ => bodies lettered fun _ => true

theorem memberSmall (k : EndpointKind) {table : String}
    (plain : Naming.isPlainIdentifier table = true) :
    Naming.isSmall (Naming.camel (k.handler table)) = true := by
  have wordings : ∀ k ∈ EndpointKind.all, Naming.isLettered k.wording.1 = true := by decide
  have lettered := wordings k (EndpointKind.memAll k)
  rw [Naming.camelSmall (EndpointKind.handlerPlain k plain), EndpointKind.handlerWording]
  exact Naming.letteredAppend (Naming.letteredAppend lettered _) _

end Client

structure Declarable (s : Subject) : Prop where
  typeName : Naming.isExported s.typeName = Naming.isLettered s.table.name
  helpers : Naming.isSmall s.ident = Naming.isLettered s.table.name
  fields : (∀ g ∈ (Server.Model.of s).fields, Naming.isExported g.name = true) ↔
    ∀ c ∈ s.table.columns, Naming.isLettered c.name = true
  requests : ∀ dto, Server.Dto.of s = .ok dto →
    ((∀ g ∈ dto.fields, Naming.isExported g.name = true) ↔
      ∀ c ∈ Server.Dto.columns s, Naming.isLettered c.name = true)
  properties : (∀ p ∈ (Client.Types.of s).properties, Naming.isSmall p.name = true) ↔
    ∀ c ∈ s.table.columns, Naming.isLettered c.name = true
  members : Plan.endpoints s.table s.policy = .ok s.plan →
    ∀ baseUrl, ∀ m ∈ (Client.Api.of baseUrl s).members, Naming.isSmall m.name = true

theorem declarable (plain : Naming.isPlainIdentifier s.table.name = true) (columns : s.Plain) :
    Declarable s where
  typeName := Naming.pascalExported plain
  helpers := Naming.camelSmall plain
  fields := by
    rw [Server.Model.of, List.forall_mem_map]
    exact forall₂_congr fun c member => by
      rw [← Naming.exportedExported (columns c member), Server.Model.field, Server.fieldName]
  requests := fun dto made => Server.dtoExported made columns
  properties := Client.propertiesSmall columns
  members := by
    intro planned baseUrl
    rw [Client.Api.of, List.forall_mem_map]
    intro e member
    rw [Plan.plannedEndpoint planned member]
    exact Client.memberSmall e.kind plain

variable {r : Rendering} {table : TableShape} {policy : Policy} {plan : List Endpoint}
  {targets : List Target} {files : List Artifact}

/-- The names in the files of a table can be declared exactly if those of the catalog that they come
from have a letter for the first character that is no underscore. -/
theorem declaresLetteredNames
    (rendered : r.tableArtifacts table policy plan targets = .ok files) :
    let s : Subject := ⟨table, policy, plan⟩
    Declarable s ∧ ∀ f ∈ files,
      (f.category = .model → Go.structs f.contents = some [(Server.Model.of s).struct.bytes]) ∧
      (f.category = .dto → ∃ dto, Server.Dto.of s = .ok dto ∧
        f.contents = dto.file.text r.goModule) ∧
      (f.category = .repository →
        f.contents = (Server.Repository.of s).file.text r.goModule ∧
          (Server.Repository.of s).ident = s.ident) ∧
      (f.category = .handler →
        f.contents = (Server.Handler.of s).file.text r.goModule ∧
          (Server.Handler.of s).ident = s.ident) ∧
      (f.category = .clientTypes → f.contents = Code.fileText (Client.Types.of s).code) ∧
      (f.category = .clientApi →
        f.contents = Code.fileText (Client.Api.of r.apiBasePath s).code) := by
  obtain ⟨s, made, printed⟩ := Rendering.tableArtifactsMade rendered
  obtain ⟨rfl, plain, columns, -⟩ := Rendering.subjectOk made
  have spelled : Server.Spelled Text.OneLine table :=
    Server.spelled made fun wordly => wordly.without (by decide)
  refine ⟨declarable (s := ⟨table, policy, plan⟩) plain columns, fun f member => ?_⟩
  have own := Rendering.printed printed member
  refine ⟨fun category => ?_, fun category => ?_, fun category => ⟨?_, rfl⟩,
    fun category => ⟨?_, rfl⟩, Rendering.typesPrinted own, Rendering.apiPrinted own⟩
  · rw [Rendering.serverPrinted own fun _ => by rw [category]; rfl]
    exact Server.modelRead (s := ⟨table, policy, plan⟩) spelled plain columns r.goModule
  · cases own with
    | server _ dtoMade file contents =>
        rw [category] at file
        cases file
        exact ⟨_, dtoMade, contents⟩
    | client _ file =>
        rw [category] at file
        contradiction
  · exact Rendering.repositoryPrinted own category
  · exact Rendering.serverPrinted own fun _ => by rw [category]; rfl

def bareSubject (name : String) (columns : List String) : Subject where
  table := {
    schema := "public"
    name := name
    columns := columns.map fun name => ⟨name, "text", false, false, none, none⟩
    comment := none }
  policy := { endpoints := [] }
  plan := []

theorem underscoresBeforeLetters :
    let s := bareSubject "_Orders_2" ["_id", "line_2", "A"]
    ∃ files, Rendering.tableArtifacts ⟨"app", "/api"⟩ s.table s.policy s.plan Target.all =
        .ok files ∧
      Naming.isExported s.typeName = true ∧ Naming.isSmall s.ident = true ∧
      (∀ g ∈ (Server.Model.of s).fields, Naming.isExported g.name = true) ∧
      ∀ p ∈ (Client.Types.of s).properties, Naming.isSmall p.name = true := by
  intro s
  obtain ⟨files, rendered⟩ : ∃ files, Rendering.tableArtifacts ⟨"app", "/api"⟩ s.table s.policy
      s.plan Target.all = .ok files := Rendering.filesOf (by decide +kernel)
  obtain ⟨named, -⟩ := declaresLetteredNames rendered
  have lettered : ∀ c ∈ s.table.columns, Naming.isLettered c.name = true := by decide +kernel
  exact ⟨files, rendered, named.typeName.trans (by decide), named.helpers.trans (by decide),
    named.fields.mpr lettered, named.properties.mpr lettered⟩

theorem digitsDeclareNothing :
    let s := bareSubject "_2024" ["_", "_1"]
    (∃ files, Rendering.tableArtifacts ⟨"app", "/api"⟩ s.table s.policy s.plan Target.all =
        .ok files) ∧
      s.typeName = "2024" ∧ Naming.isExported s.typeName = false ∧
      s.ident = "2024" ∧ Naming.isSmall s.ident = false ∧
      (Server.Model.of s).fields.map GoField.name = ["", "1"] ∧
      (Client.Types.of s).properties.map Client.Property.name = ["", "1"] := by
  intro s
  exact ⟨Rendering.filesOf (by decide +kernel), by decide +kernel, by decide +kernel,
    by decide +kernel, by decide +kernel, by decide +kernel, by decide +kernel⟩

end RestScaffold
