import RestScaffold.Catalog.Document
import RestScaffold.Catalog.Fingerprint
import RestScaffold.Proofs.Generation.Manifest

/-! Dumps of a catalog. What is written is read back as it was, and a document that leaves fields
out is read like the one that writes them out at their defaults. -/
namespace RestScaffold.Catalog
open Json

def Column.Fits (c : Column) : Prop :=
  ∀ n, n ∈ c.maxLength ∨ n ∈ c.numericPrecision ∨ n ∈ c.numericScale →
    -2147483648 ≤ n ∧ n ≤ 2147483647

def Table.Fits (t : Table) : Prop := ∀ c ∈ t.columns, c.Fits

theorem readOptionText (a : Option String) : readOption readText (ofOption text a) = some a :=
  readOptionWritten (fun _ => nofun) fun _ _ => rfl

theorem ColumnRef.readWritten (r : ColumnRef) : ofJson r.toJson = some r := by
  obtain ⟨fields, found, given⟩ : ∃ fields,
      fields? ["table", "column"] r.toJson = some fields ∧ _ :=
    fieldsWritten ["table", "column"] rfl (by decide)
  have table : fields.required "table" readText = some r.table :=
    Fields.requiredFound (given "table" _ rfl) rfl
  have column : fields.required "column" readText = some r.column :=
    Fields.requiredFound (given "column" _ rfl) rfl
  exact thenRead found (thenRead table (thenRead column rfl))

theorem readOptionLength {a : Option Int} (fits : ∀ n ∈ a, -2147483648 ≤ n ∧ n ≤ 2147483647) :
    readOption readLength (ofOption int a) = some a :=
  readOptionWritten (fun _ => nofun) fun n known => readIntWritten (fits n known)

theorem readOptionRef (a : Option ColumnRef) :
    readOption ColumnRef.ofJson (ofOption ColumnRef.toJson a) = some a :=
  readOptionWritten (fun _ => nofun) fun r _ => r.readWritten

theorem Column.readWritten {c : Column} (fits : c.Fits) : ofJson c.toJson = some c := by
  have lengths := readOptionLength fun n known => fits n (.inl known)
  have precisions := readOptionLength fun n known => fits n (.inr (.inl known))
  have scales := readOptionLength fun n known => fits n (.inr (.inr known))
  obtain ⟨fields, found, given⟩ : ∃ fields, fields? fieldNames c.toJson = some fields ∧ _ :=
    fieldsWritten fieldNames rfl (by decide)
  refine thenRead found ?_
  refine thenRead (Fields.requiredFound (given "name" _ rfl) rfl) ?_
  refine thenRead (Fields.requiredFound (given "data_type" _ rfl) rfl) ?_
  refine thenRead (Fields.requiredFound (given "nullable" _ rfl) rfl) ?_
  refine thenRead (Fields.withDefaultFound (given "is_primary_key" _ rfl) rfl) ?_
  refine thenRead (Fields.withDefaultFound (given "is_unique" _ rfl) rfl) ?_
  refine thenRead (Fields.withDefaultFound (given "is_foreign_key" _ rfl) rfl) ?_
  refine thenRead (Fields.withDefaultFound (given "default" _ rfl) (readOptionText _)) ?_
  refine thenRead (Fields.withDefaultFound (given "max_length" _ rfl) lengths) ?_
  refine thenRead (Fields.withDefaultFound (given "numeric_precision" _ rfl) precisions) ?_
  refine thenRead (Fields.withDefaultFound (given "numeric_scale" _ rfl) scales) ?_
  refine thenRead (Fields.withDefaultFound (given "references" _ rfl) (readOptionRef _)) ?_
  exact thenRead (Fields.withDefaultFound (given "comment" _ rfl) (readOptionText _)) rfl

theorem Index.readWritten (i : Index) : ofJson i.toJson = some i := by
  obtain ⟨fields, found, given⟩ :
      ∃ fields, fields? ["name", "columns", "is_unique", "is_primary"] i.toJson = some fields ∧ _ :=
    fieldsWritten _ rfl (by decide)
  refine thenRead found ?_
  refine thenRead (Fields.requiredFound (given "name" _ rfl) rfl) ?_
  refine thenRead (Fields.requiredFound (given "columns" _ rfl) (readTexts _)) ?_
  refine thenRead (Fields.requiredFound (given "is_unique" _ rfl) rfl) ?_
  exact thenRead (Fields.requiredFound (given "is_primary" _ rfl) rfl) rfl

theorem ForeignKey.readWritten (k : ForeignKey) : ofJson k.toJson = some k := by
  obtain ⟨fields, found, given⟩ : ∃ fields, fields?
      ["name", "column", "references", "on_update", "on_delete"] k.toJson = some fields ∧ _ :=
    fieldsWritten _ rfl (by decide)
  refine thenRead found ?_
  refine thenRead (Fields.requiredFound (given "name" _ rfl) rfl) ?_
  refine thenRead (Fields.requiredFound (given "column" _ rfl) rfl) ?_
  refine thenRead (Fields.requiredFound (given "references" _ rfl) (ColumnRef.readWritten _)) ?_
  refine thenRead (Fields.withDefaultFound (given "on_update" _ rfl) (readOptionText _)) ?_
  exact thenRead (Fields.withDefaultFound (given "on_delete" _ rfl) (readOptionText _)) rfl

theorem ConstraintKind.readWritten (k : ConstraintKind) : ofJson k.toJson = some k := by
  cases k <;> rfl

theorem Constraint.readWritten (c : Constraint) : ofJson c.toJson = some c := by
  obtain ⟨fields, found, given⟩ :
      ∃ fields, fields? ["name", "kind", "columns", "definition"] c.toJson = some fields ∧ _ :=
    fieldsWritten _ rfl (by decide)
  refine thenRead found ?_
  refine thenRead (Fields.requiredFound (given "name" _ rfl) rfl) ?_
  refine thenRead (Fields.requiredFound (given "kind" _ rfl) (ConstraintKind.readWritten _)) ?_
  refine thenRead (Fields.requiredFound (given "columns" _ rfl) (readTexts _)) ?_
  exact thenRead (Fields.withDefaultFound (given "definition" _ rfl) (readOptionText _)) rfl

theorem Table.readWritten {t : Table} (fits : t.Fits) : ofJson t.toJson = some t := by
  have columns : readList Column.ofJson (.array (t.columns.map Column.toJson)) = some t.columns :=
    mapMSome fun c member => Column.readWritten (fits c member)
  have indexes : readList Index.ofJson (.array (t.indexes.map Index.toJson)) = some t.indexes :=
    mapMSome fun i _ => i.readWritten
  have foreignKeys : readList ForeignKey.ofJson (.array (t.foreignKeys.map ForeignKey.toJson)) =
      some t.foreignKeys := mapMSome fun k _ => k.readWritten
  have constraints : readList Constraint.ofJson (.array (t.constraints.map Constraint.toJson)) =
      some t.constraints := mapMSome fun c _ => c.readWritten
  obtain ⟨fields, found, given⟩ : ∃ fields, fields? fieldNames t.toJson = some fields ∧ _ :=
    fieldsWritten fieldNames rfl (by decide)
  refine thenRead found ?_
  refine thenRead (Fields.requiredFound (given "schema" _ rfl) rfl) ?_
  refine thenRead (Fields.requiredFound (given "name" _ rfl) rfl) ?_
  refine thenRead (Fields.requiredFound (given "columns" _ rfl) columns) ?_
  refine thenRead (Fields.withDefaultFound (given "indexes" _ rfl) indexes) ?_
  refine thenRead (Fields.withDefaultFound (given "foreign_keys" _ rfl) foreignKeys) ?_
  refine thenRead (Fields.withDefaultFound (given "constraints" _ rfl) constraints) ?_
  exact thenRead (Fields.withDefaultFound (given "comment" _ rfl) (readOptionText _)) rfl

theorem ColumnRef.plain (r : ColumnRef) : Plain r.toJson :=
  plainRecord (by simp [Plain.text])

theorem Column.plain (c : Column) : Plain c.toJson := by
  have text := plainOption Plain.text
  have int := plainOption Plain.int
  exact plainRecord (by simp [Plain.text, Plain.bool, text, int, plainOption ColumnRef.plain])

theorem Index.plain (i : Index) : Plain i.toJson :=
  plainRecord (by simp [Plain.text, Plain.bool, plainTexts])

theorem ForeignKey.plain (k : ForeignKey) : Plain k.toJson :=
  plainRecord (by simp [Plain.text, ColumnRef.plain, plainOption Plain.text])

theorem ConstraintKind.plain (k : ConstraintKind) : Plain k.toJson := by
  cases k with
  | other s => exact plainRecord (by simp [Plain.text])
  | _ => exact .string _

theorem Constraint.plain (c : Constraint) : Plain c.toJson :=
  plainRecord (by simp [Plain.text, plainTexts, ConstraintKind.plain, plainOption Plain.text])

theorem Table.plain (t : Table) : Plain t.toJson :=
  plainRecord (by simp [Plain.text, plainOption Plain.text, plainMap Column.plain,
    plainMap Index.plain, plainMap ForeignKey.plain, plainMap Constraint.plain])

theorem readDumpText {s : String} {tables : List Table} (fits : ∀ t ∈ tables, t.Fits)
    (parsed : parse s = some (dump tables)) : readDump s = some tables := by
  rw [readDump, parsed]
  exact mapMSome fun t member => Table.readWritten (fits t member)

def columnForm : Form where
  names := Column.fieldNames
  defaults := [("is_primary_key", .bool false), ("is_unique", .bool false),
    ("is_foreign_key", .bool false), ("default", .null), ("max_length", .null),
    ("numeric_precision", .null), ("numeric_scale", .null), ("references", .null),
    ("comment", .null)]

def foreignKeyForm : Form where
  names := ["name", "column", "references", "on_update", "on_delete"]
  defaults := [("on_update", .null), ("on_delete", .null)]

def constraintForm : Form where
  names := ["name", "kind", "columns", "definition"]
  defaults := [("definition", .null)]

inductive TableItems (name : String) : Json → Json → Prop where
  | columns {items items' : List Json} (field : name = "columns")
      (each : List.Forall₂ columnForm.Spelled items items') :
      TableItems name (.array items) (.array items')
  | foreignKeys {items items' : List Json} (field : name = "foreign_keys")
      (each : List.Forall₂ foreignKeyForm.Spelled items items') :
      TableItems name (.array items) (.array items')
  | constraints {items items' : List Json} (field : name = "constraints")
      (each : List.Forall₂ constraintForm.Spelled items items') :
      TableItems name (.array items) (.array items')

def tableForm : Form where
  names := Table.fieldNames
  defaults := [("indexes", .array []), ("foreign_keys", .array []), ("constraints", .array []),
    ("comment", .null)]
  inner := TableItems

variable {j j' : Json}

theorem Column.readSpelled (spelled : columnForm.Spelled j j') : ofJson j = ofJson j' := by
  refine Form.readAlike spelled fun fields fields' alike => ?_
  refine thenAlike (Fields.requiredAlike (alike "name") rfl nofun) fun _ => ?_
  refine thenAlike (Fields.requiredAlike (alike "data_type") rfl nofun) fun _ => ?_
  refine thenAlike (Fields.requiredAlike (alike "nullable") rfl nofun) fun _ => ?_
  refine thenAlike (Fields.withDefaultAlike (alike "is_primary_key") rfl nofun) fun _ => ?_
  refine thenAlike (Fields.withDefaultAlike (alike "is_unique") rfl nofun) fun _ => ?_
  refine thenAlike (Fields.withDefaultAlike (alike "is_foreign_key") rfl nofun) fun _ => ?_
  refine thenAlike (Fields.withDefaultAlike (alike "default") rfl nofun) fun _ => ?_
  refine thenAlike (Fields.withDefaultAlike (alike "max_length") rfl nofun) fun _ => ?_
  refine thenAlike (Fields.withDefaultAlike (alike "numeric_precision") rfl nofun) fun _ => ?_
  refine thenAlike (Fields.withDefaultAlike (alike "numeric_scale") rfl nofun) fun _ => ?_
  refine thenAlike (Fields.withDefaultAlike (alike "references") rfl nofun) fun _ => ?_
  exact thenAlike (Fields.withDefaultAlike (alike "comment") rfl nofun) fun _ => rfl

theorem ForeignKey.readSpelled (spelled : foreignKeyForm.Spelled j j') : ofJson j = ofJson j' := by
  refine Form.readAlike spelled fun fields fields' alike => ?_
  refine thenAlike (Fields.requiredAlike (alike "name") rfl nofun) fun _ => ?_
  refine thenAlike (Fields.requiredAlike (alike "column") rfl nofun) fun _ => ?_
  refine thenAlike (Fields.requiredAlike (alike "references") rfl nofun) fun _ => ?_
  refine thenAlike (Fields.withDefaultAlike (alike "on_update") rfl nofun) fun _ => ?_
  exact thenAlike (Fields.withDefaultAlike (alike "on_delete") rfl nofun) fun _ => rfl

theorem Constraint.readSpelled (spelled : constraintForm.Spelled j j') : ofJson j = ofJson j' := by
  refine Form.readAlike spelled fun fields fields' alike => ?_
  refine thenAlike (Fields.requiredAlike (alike "name") rfl nofun) fun _ => ?_
  refine thenAlike (Fields.requiredAlike (alike "kind") rfl nofun) fun _ => ?_
  refine thenAlike (Fields.requiredAlike (alike "columns") rfl nofun) fun _ => ?_
  exact thenAlike (Fields.withDefaultAlike (alike "definition") rfl nofun) fun _ => rfl

theorem readColumns (v w : Json) (items : TableItems "columns" v w) :
    readList Column.ofJson v = readList Column.ofJson w := by
  cases items with
  | columns _ each => exact mapMAlike each fun _ _ => Column.readSpelled
  | foreignKeys field | constraints field => exact absurd field (by decide)

theorem readForeignKeys (v w : Json) (items : TableItems "foreign_keys" v w) :
    readList ForeignKey.ofJson v = readList ForeignKey.ofJson w := by
  cases items with
  | foreignKeys _ each => exact mapMAlike each fun _ _ => ForeignKey.readSpelled
  | columns field | constraints field => exact absurd field (by decide)

theorem readConstraints (v w : Json) (items : TableItems "constraints" v w) :
    readList Constraint.ofJson v = readList Constraint.ofJson w := by
  cases items with
  | constraints _ each => exact mapMAlike each fun _ _ => Constraint.readSpelled
  | columns field | foreignKeys field => exact absurd field (by decide)

theorem readNoItems {name : String} {α : Type} {read : Reader α}
    (other : name ∉ ["columns", "foreign_keys", "constraints"]) (v w : Json)
    (items : TableItems name v w) : read v = read w := by
  cases items with
  | columns field | foreignKeys field | constraints field => exact absurd field (by simp_all)

theorem Table.readSpelled (spelled : tableForm.Spelled j j') : ofJson j = ofJson j' := by
  refine Form.readAlike spelled fun fields fields' alike => ?_
  refine thenAlike (Fields.requiredAlike (alike "schema") rfl (readNoItems (by decide))) fun _ => ?_
  refine thenAlike (Fields.requiredAlike (alike "name") rfl (readNoItems (by decide))) fun _ => ?_
  refine thenAlike (Fields.requiredAlike (alike "columns") rfl readColumns) fun _ => ?_
  refine thenAlike
    (Fields.withDefaultAlike (alike "indexes") rfl (readNoItems (by decide))) fun _ => ?_
  refine thenAlike (Fields.withDefaultAlike (alike "foreign_keys") rfl readForeignKeys) fun _ => ?_
  refine thenAlike (Fields.withDefaultAlike (alike "constraints") rfl readConstraints) fun _ => ?_
  exact thenAlike
    (Fields.withDefaultAlike (alike "comment") rfl (readNoItems (by decide))) fun _ => rfl

/-- A dump, on one line or indented, is read back as the tables it was written from, and so has
their fingerprint. Where two dumps differ only in fields that one of them leaves out, and the other
gives at their defaults, both are read alike, or both are refused. -/
theorem dumpsReadBack :
    (∀ tables : List Table, (∀ t ∈ tables, t.Fits) →
      readDump (dump tables).compact = some tables ∧ readDump (dump tables).pretty = some tables ∧
        (readDump (dump tables).compact).map fingerprintText = some (fingerprintText tables)) ∧
    ∀ (s s' : String) (items items' : List Json), parse s = some (.array items) →
      parse s' = some (.array items') → List.Forall₂ tableForm.Spelled items items' →
        readDump s = readDump s' := by
  constructor
  · intro tables fits
    have plain : Plain (dump tables) := plainMap Table.plain tables
    have compact := readDumpText fits (parseCompact plain)
    exact ⟨compact, readDumpText fits (parsePretty plain), congrArg (Option.map _) compact⟩
  · intro s s' items items' parsed parsed' each
    rw [readDump, readDump, parsed, parsed']
    exact mapMAlike each fun _ _ => Table.readSpelled

def strangeTable : Table where
  schema := "public"
  name := "a\"\\\n"
  columns := [
    { name := "é\x00", dataType := "text", nullable := true, maxLength := some (-1),
      references := some ⟨"😀", ""⟩ }]
  constraints := [⟨"c", .other "EXCLUDE \"x\"", [], none⟩]

def shortColumn : List (String × Json) :=
  [("name", text "id"), ("data_type", text "text"), ("nullable", .bool true)]

def shortTable (spelled : List (String × Json)) : List (String × Json) :=
  [("schema", text "public"), ("name", text "notes"),
    ("columns", .array [record (spelled ++ shortColumn)])]

theorem strangeDumpReadBack :
    let short := Json.array [record (shortTable [])]
    let long := Json.array [record (("indexes", .array []) :: shortTable [("comment", .null)])]
    strangeTable.Fits ∧ readDump (dump [strangeTable]).compact = some [strangeTable] ∧
      readDump short.compact = readDump long.pretty := by
  intro short long
  have fits : strangeTable.Fits := by
    intro c member n known
    obtain rfl : c = _ := List.mem_singleton.mp member
    simp at known
    omega
  have plain (spelled : List (String × Json)) (each : ∀ e ∈ spelled, Plain e.2) :
      ∀ e ∈ shortTable spelled, Plain e.2 := by
    have column : Plain (record (spelled ++ shortColumn)) :=
      plainRecord (List.forall_mem_append.mpr ⟨each, by simp [shortColumn, Plain.text, Plain.bool]⟩)
    simp [shortTable, Plain.text, Plain.array, column]
  have column : columnForm.Spelled (record shortColumn)
      (record (("comment", .null) :: shortColumn)) :=
    .object (.add rfl (.keep (.inl rfl) (.keep (.inl rfl) (.keep (.inl rfl) .nil)))) (by simp)
      (by simp [shortColumn])
  have table : tableForm.Spelled (record (shortTable []))
      (record (("indexes", .array []) :: shortTable [("comment", .null)])) :=
    .object (.add rfl (.keep (.inl rfl) (.keep (.inl rfl)
      (.keep (.inr ⟨_, rfl, .columns rfl (.cons column .nil)⟩) .nil)))) (by simp)
      (by simp [shortTable])
  refine ⟨fits, (dumpsReadBack.1 [strangeTable] (by simpa using fits)).1,
    dumpsReadBack.2 _ _ _ _ (parseCompact ?_) (parsePretty ?_) (.cons table .nil)⟩
  · exact .array (by simpa using plainRecord (plain [] (by simp)))
  · have spelled := plain [("comment", .null)] (by simp [Plain.null])
    exact .array (by simpa using plainRecord (List.forall_mem_cons.mpr ⟨.array (by simp), spelled⟩))

end RestScaffold.Catalog
