import RestScaffold.Proofs.Server.ImportLines
import RestScaffold.Proofs.Server.Positions
import RestScaffold.Proofs.Server.Rules

/-! The structs and the imports of the server's code, read off its files. A value that a policy
lists goes into a tag as it is, and the name of the module goes into paths as it is; each is read
back exactly if it holds nothing that its surroundings take for their own. -/
namespace RestScaffold
open Catalog Code Layout Text

theorem GoType.lineText (t : GoType) : Code.lineText t.line = t.text := by
  induction t with
  | slice element ih => simp [line, text, ih, Fragment.string]
  | pointer target ih => simp [line, text, ih, Fragment.string]
  | time => rfl
  | rawJson => rfl
  | string | bool | int _ | float _ | byte => simp [line, Fragment.string]

theorem GoType.textSolid (t : GoType) : ' ' ∉ t.text.toList ∧ OneLine t.text := by
  have sized {name : String} (fixed : ' ' ∉ name.toList ∧ OneLine name) (n : Nat) :
      ' ' ∉ (name ++ toString n).toList ∧ OneLine (name ++ toString n) := by
    have blank : ' ' ∉ (toString n).toList := (numberNumerical n).without (by decide)
    have feed : OneLine (toString n) := (numberNumerical n).without (by decide)
    rw [oneLineAppend, String.toList_append, List.mem_append, not_or]
    exact ⟨⟨fixed.1, blank⟩, fixed.2, feed⟩
  induction t with
  | string | bool | byte | time | rawJson => decide
  | int bits =>
      cases bits with
      | zero => decide
      | succ n => exact sized (by decide) (n + 1)
  | float bits => exact sized (by decide) bits
  | slice element ih =>
      have fixed : ' ' ∉ "[]".toList ∧ OneLine "[]" := by decide
      simp [text, ih, fixed]
  | pointer target ih =>
      have fixed : ' ' ∉ "*".toList ∧ OneLine "*" := by decide
      simp [text, ih, fixed]

def GoField.meant (f : GoField) : Go.Field String := ⟨f.name, f.type.text, f.tag⟩

theorem GoField.codeText (f : GoField) : Code.lineText f.code = f.meant.text := by
  simp [code, meant, Go.Field.text, Code.line, Fragment.string, GoType.lineText,
    String.append_assoc]

theorem GoField.codeTexts (fields : List GoField) :
    (fields.map code).map Code.lineText = (fields.map meant).map Go.Field.text := by
  rw [List.map_map, List.map_map]
  exact List.map_congr_left fun f _ => f.codeText

namespace Server
open Naming Go

theorem typeImportsFree {types : List GoType} {p : Package} (member : p ∈ typeImports types) :
    p ∉ Package.generated := by
  have fixed : ∀ p ∈ [Package.json, .time], p ∉ Package.generated := by decide
  obtain ⟨t, -, named⟩ := memTypeImports.mp member
  exact fixed p (GoType.packageKnown named)

def tagKeys : List String := ["json", "db", "form", "binding"]

theorem meantRegular {f : GoField} (name : Wordly f.name.toList) (some : f.tag ≠ [])
    (keys : ∀ p ∈ f.tag, p.1 ∈ tagKeys) (front : ∀ p ∈ f.tag.dropLast, Tagged p.2)
    (oneLine : ∀ p ∈ f.tag, OneLine p.2) : f.meant.Regular where
  name := ⟨name.without (by decide), name.without (by decide)⟩
  type := f.type.textSolid
  some := some
  keys := fun p member => by
    have known : ∀ key ∈ tagKeys, Key key ∧ '`' ∉ key.toList := by decide
    exact known _ (keys p member)
  front := front
  oneLine := oneLine

theorem meantTagged {f : GoField} (name : Wordly f.name.toList) (some : f.tag ≠ [])
    (keys : ∀ p ∈ f.tag, p.1 ∈ tagKeys) (tagged : ∀ p ∈ f.tag, Tagged p.2) :
    f.meant.Regular ∧ f.meant.Fits :=
  ⟨meantRegular name some keys (fun p member => tagged p ((List.dropLast_sublist _).subset member))
    fun p member => (tagged p member).oneLine, tagged⟩

theorem structRegular {name : String} (wordly : Wordly name.toList)
    {fields : List (Go.Field String)}
    (regular : ∀ f ∈ fields, f.Regular) : (Struct.mk name fields).Regular :=
  ⟨⟨wordly.without (by decide), wordly.without (by decide)⟩, regular⟩

theorem wordlyAppend {s t : String} :
    Wordly (s ++ t).toList ↔ Wordly s.toList ∧ Wordly t.toList := by
  rw [String.toList_append]
  exact List.forall_mem_append

theorem commentOneLine {comment : Option String} {line : String}
    (made : commentLine? comment = some line) : OneLine line := by
  obtain ⟨c, -, made⟩ := Option.bind_eq_some_iff.mp made
  obtain ⟨l, first, rfl⟩ := Option.map_eq_some_iff.mp made
  refine oneLineFixed fun feed => linesNoFeed c.toList l (List.mem_of_mem_head? first) ?_
  exact (List.dropWhile_sublist _).subset ((trimEndPrefix _).subset feed)

def Model.struct (m : Model) : Struct String := ⟨m.typeName, m.fields.map GoField.meant⟩

theorem modelFieldTagged {c : ColumnShape} (plain : isPlainIdentifier c.name = true) :
    (Model.field c).meant.Regular ∧ (Model.field c).meant.Fits := by
  have json : Tagged (jsonName c) := wordlyTagged (camelWordly plain)
  have db : Tagged c.name := wordlyTagged (plainWordly plain)
  refine meantTagged (exportedWordly plain) (List.cons_ne_nil _ _) ?_ ?_
  · simp [Model.field, tagKeys]
  · simp [Model.field, json, db]

section
variable {s : Subject} (spelled : Spelled OneLine s.table)
include spelled

theorem docOneLine : OneLine (Model.docOf s) := by
  have schema := spelled.schema
  have name := spelled.name
  have type : OneLine s.typeName := spelled.type
  have fixed : OneLine " is a row of " ∧ OneLine ": " ∧ OneLine "." := by decide
  unfold Model.docOf
  split
  · rename_i comment made
    simp [TableShape.qualifiedName, schema, name, type, commentOneLine made, fixed]
  · simp [TableShape.qualifiedName, schema, name, type, fixed]

theorem modelQuiet :
    ∃ more, (Model.of s).file.body = Go.struct (Model.of s).doc (Model.of s).typeName
        ((Model.of s).fields.map GoField.code) ++ more ∧
      ∀ l ∈ more, OneLine (lineText l) ∧
        (lineText l).toList.head? ∉ [some 't', some ')'] := by
  have type : OneLine s.typeName := spelled.type
  have table : OneLine (tableName s).text :=
    Sql.tableHolds oneLineWords spelled.schema spelled.name
  refine ⟨_, rfl, ?_⟩
  have fixed : OneLine "" ∧ OneLine "// " ∧ OneLine "Table" ∧ OneLine "Columns" ∧ OneLine "const " ∧
      OneLine " = " ∧ OneLine "`" ∧ OneLine "var " ∧ OneLine " is the qualified table name." ∧
    OneLine " lists every column in catalog order." := by decide
  simp [Model.of, Go.raw, type, table, fixed, tableConstantName, columnsName, line, declared,
    Fragment.string, stringsOneLine, blank, Code.plain]

theorem modelRead (plain : isPlainIdentifier s.table.name = true)
    (columns : ∀ c ∈ s.table.columns, isPlainIdentifier c.name = true) (goModule : String) :
    structs ((Model.of s).file.text goModule) = some [(Model.of s).struct.bytes] := by
  have prints : Prints (Go.struct (Model.of s).doc (Model.of s).typeName
      ((Model.of s).fields.map GoField.code)) [(Model.of s).struct] :=
    printsStruct (docOneLine spelled) (GoField.codeTexts _)
  have each : ∀ f ∈ (Model.of s).struct.fields, f.Regular ∧ f.Fits := by
    refine List.forall_mem_map.mpr (List.forall_mem_map.mpr fun c member => ?_)
    exact modelFieldTagged (columns c member)
  have regular : (Model.of s).struct.Regular :=
    structRegular (pascalWordly plain) fun f member => (each f member).1
  have fits : (Model.of s).struct.Fits := fun f member => (each f member).2
  have paths : ∀ p ∈ (Model.of s).file.imports.flatten, OneLine (p.path goModule) := by
    intro p member
    simp only [Model.file, List.flatten_cons, List.flatten_nil, List.append_nil] at member
    exact p.pathOneLine fun known => absurd known (typeImportsFree member)
  obtain ⟨more, body, quiet⟩ := modelQuiet spelled
  have package : Solid ("package " ++ (Model.of s).file.package).toList :=
    packageSolid "models" (by decide)
  have read := structsRead paths package body prints
    (List.forall_mem_singleton.mpr regular) fun l member =>
      ⟨(quiet l member).1, fun type => (quiet l member).2 (by simp [type])⟩
  exact read.mpr (List.forall_mem_singleton.mpr fits)

end

namespace Dto

def pageStruct (d : Dto) : Struct String :=
  ⟨Names.page d.typeName, [⟨"Data", "[]models." ++ d.typeName, [("json", "data")]⟩,
    ⟨"Page", "int", [("json", "page")]⟩, ⟨"Limit", "int", [("json", "limit")]⟩,
    ⟨"Total", "int64", [("json", "total")]⟩]⟩

def statsStruct (d : Dto) : Struct String :=
  ⟨Names.stats d.typeName, [⟨"Total", "int64", [("json", "total")]⟩]⟩

def structs (d : Dto) : List (Struct String) :=
  (d.create.map fun fields =>
    ⟨Names.createRequest d.typeName, fields.map GoField.meant⟩).toList ++
  (d.update.map fun fields =>
    ⟨Names.updateRequest d.typeName, fields.map GoField.meant⟩).toList ++
  (d.listParams.map fun fields =>
    ⟨Names.listParams d.typeName, fields.map GoField.meant⟩).toList ++
  (if d.paged then [d.pageStruct] else []) ++
  (if d.stats then [d.statsStruct] else [])

theorem codePrints {d : Dto} (type : OneLine d.typeName) : Prints d.code d.structs := by
  have create (fields : List GoField) : Prints (d.createCode fields)
      [⟨Names.createRequest d.typeName, fields.map GoField.meant⟩] := by
    have fixed : OneLine "Create" ∧ OneLine "Request" ∧
        OneLine " is the body accepted when creating a row." := by decide
    exact printsStruct (by simp [Names.createRequest, type, fixed]) (GoField.codeTexts fields)
  have update (fields : List GoField) : Prints (d.updateCode fields)
      [⟨Names.updateRequest d.typeName, fields.map GoField.meant⟩] := by
    have fixed : OneLine "Update" ∧ OneLine "Request" ∧
        OneLine " carries the fields to change; absent fields are kept." := by decide
    exact printsStruct (by simp [Names.updateRequest, type, fixed]) (GoField.codeTexts fields)
  have params (fields : List GoField) : Prints (d.paramsCode fields)
      [⟨Names.listParams d.typeName, fields.map GoField.meant⟩] := by
    have fixed : OneLine "ListParams" ∧
        OneLine " carries query parameters for list, search, export and stats." := by decide
    exact printsStruct (by simp [Names.listParams, type, fixed]) (GoField.codeTexts fields)
  have page : Prints (if d.paged then d.pageCode else [])
      (if d.paged then [d.pageStruct] else []) := by
    have fixed : OneLine "ListResponse" ∧ OneLine " is one page of rows." := by decide
    split
    · have rows : lineText (line ["Data []", imported .models d.typeName, " `json:\"data\"`"]) =
          Go.Field.text ⟨"Data", "[]models." ++ d.typeName, [("json", "data")]⟩ := by
        refine String.toList_inj.mp ?_
        simp [line, imported, Fragment.string, Package.name, Field.text, GoField.tagText]
      refine printsStruct (by simp [Names.page, type, fixed]) ?_
      rw [List.map_cons, List.map_cons, rows]
      rfl
    · exact printsNone
  have stats : Prints (if d.stats then d.statsCode else [])
      (if d.stats then [d.statsStruct] else []) := by
    have fixed : OneLine "Stats" ∧ OneLine " holds aggregate counts." := by decide
    split
    · refine printsStruct (by simp [Names.stats, type, fixed]) ?_
      rfl
    · exact printsNone
  exact ((((printsOptional d.create create).append (printsOptional d.update update)).append
    (printsOptional d.listParams params)).append page).append stats

end Dto

variable {v : ValidationRules} {c : ColumnShape} {type : GoType} {required omits : Bool}

theorem requestFits (plain : isPlainIdentifier c.name = true)
    (single : ∀ w ∈ Dto.enumValues v c, Dto.isSingleWord w = true) :
    (Dto.requestField v c type required omits).meant.Regular ∧
      ((Dto.requestField v c type required omits).meant.Fits ↔
        ∀ w ∈ Dto.enumValues v c, '`' ∉ w.toList ∧ '\\' ∉ w.toList) := by
  have suffix : Tagged ",omitempty" := by decide
  have name : Tagged (jsonName c) := wordlyTagged (camelWordly plain)
  have json : Tagged (if omits then jsonName c ++ ",omitempty" else jsonName c) := by
    split
    · exact taggedAppend.mpr ⟨name, suffix⟩
    · exact name
  have spoilt : (∀ b, Dto.binding v c required = some b → Tagged b) ↔
      ∀ w ∈ Dto.enumValues v c, '`' ∉ w.toList ∧ '\\' ∉ w.toList :=
    Dto.bindingTagged.trans (forall₂_congr fun w member => Dto.wordTagged single member)
  rw [← spoilt]
  constructor
  · refine meantRegular (exportedWordly plain) (List.cons_ne_nil _ _) ?_ ?_ ?_
    · cases made : Dto.binding v c required <;> simp [Dto.requestField, made, tagKeys]
    · cases made : Dto.binding v c required <;> simp [Dto.requestField, made, json]
    · cases made : Dto.binding v c required with
      | none => simp [Dto.requestField, made, json.oneLine]
      | some b =>
          simp [Dto.requestField, made, json.oneLine, Dto.bindingOneLine single made]
  · cases made : Dto.binding v c required <;>
      simp [Go.Field.Fits, GoField.meant, Dto.requestField, made, json]

theorem fixedTagged {name type key value : String} (known : name.toList.all isWordly = true ∧
      (' ' ∉ type.toList ∧ OneLine type) ∧ key ∈ tagKeys ∧ Tagged value) :
    (Go.Field.mk name type [(key, value)]).Regular ∧
      (Go.Field.mk name type [(key, value)]).Fits := by
  obtain ⟨named, typed, keyed, tagged⟩ := known
  have wordly : Wordly name.toList := List.all_eq_true.mp named
  have keys : ∀ key ∈ tagKeys, Key key ∧ '`' ∉ key.toList := by decide
  exact ⟨{
    name := ⟨wordly.without (by decide), wordly.without (by decide)⟩
    type := typed
    some := List.cons_ne_nil _ _
    keys := List.forall_mem_singleton.mpr (keys key keyed)
    front := nofun
    oneLine := List.forall_mem_singleton.mpr tagged.oneLine },
    List.forall_mem_singleton.mpr tagged⟩

theorem fixedStruct {name : String} (wordly : Wordly name.toList) {fields : List (Go.Field String)}
    (each : ∀ f ∈ fields, f.Regular ∧ f.Fits) :
    (Struct.mk name fields).Regular ∧ (Struct.mk name fields).Fits :=
  ⟨structRegular wordly fun f member => (each f member).1, fun f member => (each f member).2⟩

namespace Dto

variable {s : Subject} {d : Dto} (plain : isPlainIdentifier s.table.name = true)
  (columns : ∀ c ∈ s.table.columns, isPlainIdentifier c.name = true)

/-- No value of a policy spoils the tag of a field that can be written. -/
def Unspoilt (s : Subject) : Prop :=
  ∀ c ∈ s.writable, ∀ w ∈ enumValues s.policy.validation c, '`' ∉ w.toList ∧ '\\' ∉ w.toList

instance (s : Subject) : Decidable (Unspoilt s) :=
  inferInstanceAs (Decidable (∀ c ∈ s.writable, ∀ w ∈ enumValues s.policy.validation c, _ ∧ _))

theorem enumsSingle (made : Dto.of s = .ok d)
    (asked : (s.needsCreateShape || s.has .update) = true) :
    ∀ c ∈ s.writable, ∀ w ∈ enumValues s.policy.validation c, isSingleWord w = true := by
  simp only [Dto.of, if_pos asked] at made
  split at made
  · contradiction
  · rename_i none
    intro c member w listed
    have all := List.find?_eq_none.mp none c member
    simp only [Bool.not_eq_true, Bool.not_eq_false'] at all
    exact List.all_eq_true.mp all w listed

theorem pageTagged (type : Wordly d.typeName.toList) :
    d.pageStruct.Regular ∧ d.pageStruct.Fits := by
  have name : Wordly (Names.page d.typeName).toList :=
    wordlyAppend.mpr ⟨type, List.all_eq_true.mp (by decide)⟩
  have rows : ' ' ∉ ("[]models." ++ d.typeName).toList ∧ OneLine ("[]models." ++ d.typeName) := by
    have fixed : ' ' ∉ "[]models.".toList ∧ OneLine "[]models." := by decide
    have blank : ' ' ∉ d.typeName.toList := type.without (by decide)
    have feed : OneLine d.typeName := type.without (by decide)
    rw [oneLineAppend, String.toList_append, List.mem_append, not_or]
    exact ⟨⟨fixed.1, blank⟩, fixed.2, feed⟩
  refine fixedStruct name (List.forall_mem_cons.mpr ⟨?_, ?_⟩)
  · exact fixedTagged ⟨by decide, rows, by decide, by decide⟩
  · simp only [List.forall_mem_cons]
    exact ⟨fixedTagged (by decide), fixedTagged (by decide), fixedTagged (by decide), nofun⟩

theorem statsTagged (type : Wordly d.typeName.toList) :
    d.statsStruct.Regular ∧ d.statsStruct.Fits :=
  fixedStruct (wordlyAppend.mpr ⟨type, List.all_eq_true.mp (by decide)⟩)
    (List.forall_mem_singleton.mpr (fixedTagged (by decide)))

include columns in
theorem paramsTagged : ∀ f ∈ paramFields s, f.meant.Regular ∧ f.meant.Fits := by
  have filter (c : ColumnShape) (member : c ∈ s.filterColumns) :
      (filterField c).meant.Regular ∧ (filterField c).meant.Fits := by
    have named := columns c (TableShape.namedMember member)
    have field : Wordly (fieldName c).toList := exportedWordly named
    have name : Wordly (filterFieldName c).toList := by
      unfold filterFieldName
      split
      · exact wordlyAppend.mpr ⟨field, List.all_eq_true.mp (by decide)⟩
      · exact field
    refine meantTagged name (List.cons_ne_nil _ _) ?_ ?_
    · simp [filterField, tagKeys]
    · simp [filterField, wordlyTagged (plainWordly named)]
  have fixed : ∀ f ∈ pageFields, f.meant.Regular ∧ f.meant.Fits := by
    simp only [pageFields, List.forall_mem_cons]
    exact ⟨fixedTagged (by decide), fixedTagged (by decide), fixedTagged (by decide),
      fixedTagged (by decide), nofun⟩
  refine List.forall_mem_append.mpr ⟨List.forall_mem_append.mpr ⟨List.forall_mem_append.mpr
    ⟨fixed, ?_⟩, ?_⟩, List.forall_mem_map.mpr filter⟩
  · split
    · exact List.forall_mem_singleton.mpr (fixedTagged (by decide))
    · exact nofun
  · split
    · exact List.forall_mem_singleton.mpr (fixedTagged (by decide))
    · exact nofun

include columns in
theorem requestStruct {name : String} (wordly : Wordly name.toList)
    (single : ∀ c ∈ s.writable, ∀ w ∈ enumValues s.policy.validation c, isSingleWord w = true)
    (type : ColumnShape → GoType) (required omits : ColumnShape → Bool) :
    let fields := (s.writable.map fun c =>
      requestField s.policy.validation c (type c) (required c) (omits c)).map GoField.meant
    (Struct.mk name fields).Regular ∧ ((Struct.mk name fields).Fits ↔ Unspoilt s) := by
  have each : ∀ c ∈ s.writable,
      let field := (requestField s.policy.validation c (type c) (required c) (omits c)).meant
      field.Regular ∧ (field.Fits ↔ ∀ w ∈ enumValues s.policy.validation c,
        '`' ∉ w.toList ∧ '\\' ∉ w.toList) := fun c member =>
    requestFits (columns c (TableShape.writableMember member)) (single c member)
  refine ⟨structRegular wordly (List.forall_mem_map.mpr (List.forall_mem_map.mpr
    fun c member => (each c member).1)), ?_⟩
  have split : (∀ f ∈ (s.writable.map fun c => requestField s.policy.validation c (type c)
      (required c) (omits c)).map GoField.meant, f.Fits) ↔ Unspoilt s := by
    rw [List.forall_mem_map, List.forall_mem_map]
    exact forall₂_congr fun c member => (each c member).2
  exact split

theorem chosen {α : Type} {asked : Bool} {x : α} {f : α → Struct String}
    {P : Struct String → Prop} :
    (∀ st ∈ ((if asked then some x else none).map f).toList, P st) ↔ (asked = true → P (f x)) := by
  cases asked <;> simp

theorem taken {asked : Bool} {x : Struct String} {P : Struct String → Prop} :
    (∀ st ∈ if asked then [x] else [], P st) ↔ (asked = true → P x) := by
  cases asked <;> simp

variable (made : Dto.of s = .ok d)
include plain columns made

theorem structsFit : (∀ st ∈ d.structs, st.Regular) ∧
    ((∀ st ∈ d.structs, st.Fits) ↔
      ((s.needsCreateShape || s.has .update) = true → Unspoilt s)) := by
  have single := enumsSingle made
  have name : Wordly s.typeName.toList := pascalWordly plain
  have create (asked : s.needsCreateShape = true) := requestStruct columns (s := s)
    (wordlyAppend.mpr ⟨wordlyAppend.mpr ⟨List.all_eq_true.mp (by decide), name⟩,
      List.all_eq_true.mp (by decide)⟩ : Wordly (Names.createRequest s.typeName).toList)
    (single (by simp [asked])) columnType s.requires (fun c => !s.requires c)
  have update (asked : s.has .update = true) := requestStruct columns (s := s)
    (wordlyAppend.mpr ⟨wordlyAppend.mpr ⟨List.all_eq_true.mp (by decide), name⟩,
      List.all_eq_true.mp (by decide)⟩ : Wordly (Names.updateRequest s.typeName).toList)
    (single (by simp [asked])) optionalType (fun _ => false) (fun _ => true)
  have params := fixedStruct (wordlyAppend.mpr ⟨name, List.all_eq_true.mp (by decide)⟩ :
      Wordly (Names.listParams s.typeName).toList)
    (List.forall_mem_map.mpr (paramsTagged columns))
  have type : d.typeName = s.typeName := by
    simp only [Dto.of] at made
    split at made
    · contradiction
    · cases made
      rfl
  have page := pageTagged (type ▸ name)
  have stats := statsTagged (type ▸ name)
  simp only [Dto.of] at made
  split at made
  · contradiction
  · cases made
    simp only [structs, List.forall_mem_append, chosen, taken]
    refine ⟨⟨⟨⟨⟨fun asked => (create asked).1, fun asked => (update asked).1⟩, fun _ => params.1⟩,
      fun _ => page.1⟩, fun _ => stats.1⟩, ?_, ?_⟩
    · rintro ⟨⟨⟨⟨created, updated⟩, -⟩, -⟩, -⟩ asked
      rcases Bool.or_eq_true_iff.mp asked with creates | updates
      · exact (create creates).2.mp (created creates)
      · exact (update updates).2.mp (updated updates)
    · intro unspoilt
      exact ⟨⟨⟨⟨fun asked => (create asked).2.mpr (unspoilt (by simp [asked])),
        fun asked => (update asked).2.mpr (unspoilt (by simp [asked]))⟩, fun _ => params.2⟩,
        fun _ => page.2⟩, fun _ => stats.2⟩

theorem dtoRead {goModule : String} (oneLine : d.paged = true → OneLine goModule) :
    Go.structs (d.file.text goModule) = some (d.structs.map Struct.bytes) ↔
      ((s.needsCreateShape || s.has .update) = true → Unspoilt s) := by
  obtain ⟨regular, fits⟩ := structsFit plain columns made
  have type : OneLine d.typeName := by
    simp only [Dto.of] at made
    split at made
    · contradiction
    · cases made
      exact (pascalWordly plain).without (by decide)
  have paths : ∀ p ∈ d.file.imports.flatten, OneLine (p.path goModule) := by
    intro p member
    refine p.pathOneLine fun known => oneLine ?_
    simp only [Dto.file, List.flatten_cons, List.flatten_nil, List.append_nil, List.mem_append,
      List.mem_ite_nil_right] at member
    rcases member with free | ⟨paged, -⟩
    · exact absurd known (typeImportsFree free)
    · exact paged
  have package : Solid ("package " ++ d.file.package).toList := packageSolid "dto" (by decide)
  have body : d.file.body = d.code ++ [] := (List.append_nil _).symm
  exact (structsRead paths package body (codePrints type) regular
    fun _ none => absurd none List.not_mem_nil).trans fits

end Dto

theorem requestRules {v : ValidationRules} {c : ColumnShape} {type : GoType} {required omits : Bool}
    (single : ∀ w ∈ Dto.enumValues v c, Dto.isSingleWord w = true) {b : String}
    (member : ("binding", b) ∈ (Dto.requestField v c type required omits).tag) :
    Go.readRules b = Dto.bindingRules v c required := by
  rcases List.mem_cons.mp member with other | own
  · exact absurd (Prod.mk.inj other).1 (by decide)
  · obtain ⟨b', made, same⟩ := Option.map_eq_some_iff.mp (Option.mem_toList.mp own)
    obtain rfl := (Prod.mk.inj same).2
    exact Dto.bindingRead single made

end Server

variable {r : Rendering} {table : TableShape} {policy : Policy} {plan : List Endpoint}
  {targets : List Target} {files : List Artifact}

/-- Imports are read back unless a path takes a name of the module that needs an escape, and so are
the tags of a row. Those of requests are unless a value that the policy lists holds a backquote or a
backslash; the rules in them are those of the policy and the catalog. -/
theorem tagsReadBackUnlessSpoilt
    (rendered : r.tableArtifacts table policy plan targets = .ok files) :
    let s : Subject := ⟨table, policy, plan⟩
    (∀ f ∈ files, f.target = .server → ∃ dto g, Server.Dto.of s = .ok dto ∧
      Rendering.serverFile? s dto f.category = some g ∧ f.contents = g.text r.goModule ∧
      (Go.imports f.contents =
          some (g.imports.flatten.map fun p => utf8 (p.path r.goModule).toList) ↔
        ((∃ p ∈ g.imports.flatten, p ∈ Package.generated) →
          GoString.Literal r.goModule.toList)) ∧
      (f.category = .model → Go.structs f.contents = some [(Server.Model.of s).struct.bytes]) ∧
      (f.category = .dto →
        ((dto.paged = true → OneLine r.goModule) →
          (Go.structs f.contents = some (dto.structs.map Go.Struct.bytes) ↔
            ((s.needsCreateShape || s.has .update) = true → Server.Dto.Unspoilt s))) ∧
        ((s.needsCreateShape || s.has .update) = true → ∀ c ∈ s.writable, ∀ b,
          (("binding", b) ∈ (Server.Dto.createField s c).tag →
            Go.readRules b = Server.Dto.bindingRules policy.validation c (s.requires c)) ∧
          (("binding", b) ∈ (Server.Dto.updateField s c).tag →
            Go.readRules b = Server.Dto.bindingRules policy.validation c false)))) ∧
    ∀ names, ∃ g : GoFile, (r.index names .server).contents = g.text r.goModule ∧
      (Go.imports (r.index names .server).contents =
          some (g.imports.flatten.map fun p => utf8 (p.path r.goModule).toList) ↔
        ((∃ p ∈ g.imports.flatten, p ∈ Package.generated) →
          GoString.Literal r.goModule.toList)) := by
  obtain ⟨s, made, rendered⟩ := Rendering.tableArtifactsMade rendered
  obtain ⟨rfl, plain, columns, -⟩ := Rendering.subjectOk made
  have spelled : Server.Spelled OneLine table :=
    Server.spelled made fun wordly => wordly.without (by decide)
  refine ⟨fun f member server => ?_, fun names => ⟨_, rfl, ?_⟩⟩
  · cases Rendering.printed rendered member with
    | client target => cases server.symm.trans target
    | server _ dtoMade file contents =>
        obtain ⟨begins, package⟩ := Server.serverBegins file
        refine ⟨_, _, dtoMade, file, contents, ?_, fun category => ?_, fun category =>
          ⟨fun oneLine => ?_, fun asked c inside b => ?_⟩⟩
        · rw [contents]
          exact Server.fileImports begins package
        · rw [category] at file
          cases file
          rw [contents]
          exact Server.modelRead (s := ⟨table, policy, plan⟩) spelled plain columns r.goModule
        · rw [category] at file
          cases file
          rw [contents]
          exact Server.Dto.dtoRead plain columns dtoMade oneLine
        · have single := Server.Dto.enumsSingle dtoMade asked c inside
          exact ⟨Server.requestRules single, Server.requestRules single⟩
  · exact Server.fileImports (Server.indexBegins _) (Server.packageSolid "routes" (by decide))

def parcelsTable : TableShape where
  schema := "public"
  name := "parcels"
  columns := [⟨"id", "integer", false, true, none, none⟩,
    ⟨"kind", "text", false, false, none, none⟩]
  comment := none

def parcelsSettings (kinds : List String) : Settings where
  targets := [.server]
  goModule := "app"
  defaults := {
    endpoints := some ["create"]
    validation := { enums := some (SortedMap.ofList [("kind", kinds)]) } }

def parcels (kinds : List String) : Subject where
  table := parcelsTable
  policy := (Resolver.ofSettings (parcelsSettings kinds)).resolve none "parcels"
  plan := [Plan.endpoint parcelsTable
    ((Resolver.ofSettings (parcelsSettings kinds)).resolve none "parcels") .create]

def parcelsDto (binding : String) : Server.Dto where
  typeName := "Parcels"
  create := some [⟨"Kind", .string, [("json", "kind"), ("binding", binding)]⟩]
  update := none
  listParams := none
  paged := false
  stats := false

theorem parcelsRendered {kinds : List String} {dto : Server.Dto}
    (dtoMade : Server.Dto.of (parcels kinds) = .ok dto) :
    ∃ files, Rendering.tableArtifacts ⟨"app", "/api"⟩ parcelsTable (parcels kinds).policy
        (parcels kinds).plan [.server] = .ok files ∧
      ∃ f ∈ files, f.target = .server ∧ f.category = .dto ∧ f.contents = dto.file.text "app" := by
  have made : Subject.of parcelsTable (parcels kinds).policy (parcels kinds).plan =
      .ok (parcels kinds) := by
    have fits : Naming.isPlainIdentifier parcelsTable.name = true ∧
      Naming.isPlainIdentifier parcelsTable.schema = true ∧
      parcelsTable.columns.find? (!Naming.isPlainIdentifier ·.name) = none := by decide
    simp only [Subject.of, fits, Bool.not_true, Bool.false_eq_true, if_false]
    rfl
  have rendered : ∃ files, Rendering.tableArtifacts ⟨"app", "/api"⟩ parcelsTable
      (parcels kinds).policy (parcels kinds).plan [.server] = .ok files := by
    simp only [Rendering.tableArtifacts, made, Rendering.artifacts, Rendering.targetArtifacts,
      Rendering.serverArtifacts, dtoMade]
    exact ⟨_, rfl⟩
  obtain ⟨files, rendered⟩ := rendered
  obtain ⟨s, made', printed⟩ := Rendering.tableArtifactsMade rendered
  obtain rfl := Except.ok.inj (made'.symm.trans made)
  obtain ⟨dto', dtoMade', all⟩ := Rendering.serverComplete (List.mem_singleton_self _) printed
  obtain rfl := Except.ok.inj (dtoMade'.symm.trans dtoMade)
  obtain ⟨f, member, category, contents⟩ := all .dto _ rfl
  refine ⟨files, rendered, f, member, ?_, category, contents⟩
  cases Rendering.printed printed member with
  | server target => exact target
  | client _ file =>
      rw [category] at file
      contradiction

theorem parcelsReadBack : ∃ files,
    Rendering.tableArtifacts ⟨"app", "/api"⟩ parcelsTable (parcels ["small", "x'l"]).policy
        (parcels ["small", "x'l"]).plan [.server] = .ok files ∧
      ∃ f ∈ files, Go.structs f.contents = some [⟨"CreateParcelsRequest", [⟨"Kind", "string",
        [("json", utf8 "kind".toList), ("binding", utf8 "required,oneof=small x'l".toList)]⟩]⟩] ∧
      Go.readRules "required,oneof=small x'l" =
        [("required", []), ("oneof", ["small", "x'l"])] := by
  have dtoMade : Server.Dto.of (parcels ["small", "x'l"]) =
      .ok (parcelsDto "required,oneof=small x'l") := by decide +kernel
  obtain ⟨files, rendered, f, member, server, category, -⟩ := parcelsRendered dtoMade
  obtain ⟨dto, g, made, -, -, -, -, read⟩ := (tagsReadBackUnlessSpoilt rendered).1 f member server
  obtain rfl := Except.ok.inj (made.symm.trans dtoMade)
  obtain ⟨structs, rules⟩ := read category
  have unspoilt : Server.Dto.Unspoilt (parcels ["small", "x'l"]) := by decide +kernel
  refine ⟨files, rendered, f, member, (structs nofun).mpr fun _ => unspoilt, ?_⟩
  have kind : (⟨"kind", "text", false, false, none, none⟩ : ColumnShape) ∈
      (parcels ["small", "x'l"]).writable := by decide +kernel
  exact ((rules rfl _ kind "required,oneof=small x'l").1 (by decide +kernel)).trans
    (by decide +kernel)

theorem backquoteSpoilsTag :
    (parcelsSettings ["a`b", "c"]).validate = .ok () ∧
      Plan.endpoints parcelsTable (parcels ["a`b", "c"]).policy =
        .ok (parcels ["a`b", "c"]).plan ∧
      ∃ files, Rendering.tableArtifacts ⟨"app", "/api"⟩ parcelsTable (parcels ["a`b", "c"]).policy
          (parcels ["a`b", "c"]).plan [.server] = .ok files ∧
        ∃ f ∈ files, f.category = .dto ∧
          HasRow f.contents "\tKind string `json:\"kind\" binding:\"required,oneof=a`b c\"`" ∧
          Go.field? "\tKind string `json:\"kind\" binding:\"required,oneof=a`b c\"`".toList =
            none ∧
          Go.structs f.contents ≠
            some ((parcelsDto "required,oneof=a`b c").structs.map Go.Struct.bytes) := by
  have dtoMade : Server.Dto.of (parcels ["a`b", "c"]) =
      .ok (parcelsDto "required,oneof=a`b c") := by decide +kernel
  obtain ⟨files, rendered, f, member, -, category, contents⟩ := parcelsRendered dtoMade
  refine ⟨by decide +kernel, rfl, files, rendered, f, member, category, ?_, by decide +kernel, ?_⟩
  · have printed : (.text "\t" :: GoField.code ⟨"Kind", .string, [("json", "kind"),
        ("binding", "required,oneof=a`b c")]⟩ : Line) ∈
          (parcelsDto "required,oneof=a`b c").file.body := by decide
    have row : "\tKind string `json:\"kind\" binding:\"required,oneof=a`b c\"`" =
        "\tKind string `json:\"kind\" binding:\"required,oneof=a`b c\"" ++ "`" := by decide
    rw [contents, row]
    exact goRow "app" printed rfl (solidEnd (by decide) rfl (by decide))
  · have plain : Naming.isPlainIdentifier (parcels ["a`b", "c"]).table.name = true := by decide
    have columns : ∀ c ∈ (parcels ["a`b", "c"]).table.columns,
        Naming.isPlainIdentifier c.name = true := by decide
    have spoilt : ¬Server.Dto.Unspoilt (parcels ["a`b", "c"]) := by decide +kernel
    rw [contents]
    exact fun read => spoilt ((Server.Dto.dtoRead plain columns dtoMade nofun).mp read rfl)

end RestScaffold
