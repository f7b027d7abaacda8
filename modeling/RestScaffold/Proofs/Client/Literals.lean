import RestScaffold.Policy.Validation
import RestScaffold.Proofs.Artifact.Paths
import RestScaffold.Proofs.Code.Rows
import RestScaffold.Proofs.Text.ScriptLiteral
import RestScaffold.Proofs.Text.Span

/-! Texts of the settings in the client's code. Literals are read back as long as no text breaks
a line; a row with a broken one cannot be read. -/
namespace RestScaffold
open Catalog Code Layout Text

namespace Text.ScriptString

def union (values : List String) : String := " | ".intercalate (values.map quote)

theorem unionMore (v w : String) (rest : List String) :
    (union (v :: w :: rest)).toList =
      (quote v).toList ++ (" | ".toList ++ (union (w :: rest)).toList) := by
  rw [union, List.map_cons, List.map_cons, String.intercalate_cons_cons, String.append_assoc,
    String.toList_append, String.toList_append]
  rfl

theorem unionSingle (v : String) : union [v] = quote v := by
  simp [union]

theorem unionSpells {values : List String} (whole : ∀ v ∈ values, Unbroken v.toList) :
    Spells literalKind (union values).toList values := by
  have bare : literalKind.mark ∉ " | ".toList := by decide
  have listed := spellsListed " | " bare (values.map fun s => (quote s, [s]))
    (List.forall_mem_map.mpr fun s member => spellsQuote (whole s member))
  simp only [List.map_map, List.flatMap_map, Function.comp_def, List.flatMap_singleton'] at listed
  exact listed

theorem quoteOneLine {s : String} (whole : Unbroken s.toList) : OneLine (quote s) := by
  have inside : '\n' ∉ s.toList.flatMap escape := by
    rw [List.mem_flatMap]
    rintro ⟨c, member, feed⟩
    have other := (whole c member).1
    unfold escape at feed
    split at feed <;> simp_all [eq_comm]
  simpa [OneLine, quote, encode] using inside

theorem unionOneLine {values : List String} (whole : ∀ v ∈ values, Unbroken v.toList) :
    OneLine (union values) :=
  oneLineIntercalate (by decide)
    (List.forall_mem_map.mpr fun s member => quoteOneLine (whole s member))

theorem unionBroken {values : List String} (broken : ¬∀ v ∈ values, Unbroken v.toList) :
    ∃ before texts, ∃ bad : List Char, ∃ after, (union values).toList =
        before ++ '\'' :: (bad.flatMap escape ++ after) ∧
      '\n' ∉ before ∧ Spells literalKind before texts ∧ ¬Unbroken bad := by
  induction values with
  | nil => exact absurd nofun broken
  | cons v rest ih =>
      by_cases first : Unbroken v.toList
      · have others : ¬∀ v ∈ rest, Unbroken v.toList := fun others =>
          broken (List.forall_mem_cons.mpr ⟨first, others⟩)
        obtain ⟨before, texts, bad, after, split, noFeed, spells, bad'⟩ := ih others
        cases rest with
        | nil => exact absurd nofun others
        | cons w more =>
            have bare : literalKind.mark ∉ " | ".toList := by decide
            refine ⟨(quote v).toList ++ " | ".toList ++ before, [v] ++ texts, bad, after, ?_, ?_,
              ((spellsQuote first).followed bare).append spells, bad'⟩
            · rw [unionMore, split]
              simp
            · have own : '\n' ∉ (quote v).toList := quoteOneLine first
              simp [own, noFeed]
      · obtain ⟨after, split⟩ : ∃ after,
            (union (v :: rest)).toList = (quote v).toList ++ after := by
          cases rest with
          | nil => exact ⟨[], by rw [unionSingle, List.append_nil]⟩
          | cons w more => exact ⟨_, unionMore v w more⟩
        refine ⟨[], [], v.toList, '\'' :: after, ?_, List.not_mem_nil,
          spellsCode List.not_mem_nil, first⟩
        rw [split, quoteSplit]
        rfl

end Text.ScriptString

namespace Client
open ScriptString

variable {ls : List Line} {l : Line} {front back : String} {values : List String}

theorem literalsRow (member : l ∈ ls)
    (spelled : lineText l = front ++ union values ++ back)
    (bare : '\'' ∉ front.toList) (oneLine : OneLine front)
    (bare' : '\'' ∉ back.toList) (oneLine' : OneLine back) {c : Char}
    (last : back.toList.getLast? = some c) (full : isBlank c = false) :
    ∃ row ∈ rows (fileText ls).toList, front.toList <+: row ∧
      literals literalKind row =
        if ∀ v ∈ values, Unbroken v.toList then some (values.map fun v => utf16 v.toList)
        else none := by
  split
  · rename_i whole
    have solid : Solid (front ++ union values ++ back).toList :=
      solidEnd (by simp [oneLine, oneLine', unionOneLine whole]) last full
    have spells := (unionSpells whole).inside front.toList back.toList bare bare'
    refine ⟨_, fileRow member spelled solid, ?_, ?_⟩
    · rw [String.append_assoc, String.toList_append]
      exact List.prefix_append _ _
    · rw [String.toList_append, String.toList_append, spells.whole]
      rfl
  · rename_i broken
    obtain ⟨before, texts, bad, after, split, noFeed, spells, broken⟩ := unionBroken broken
    have text : (lineText l).toList = (front.toList ++ before ++ ['\'']) ++
        (bad.flatMap escape ++ after ++ back.toList) := by
      rw [spelled, String.toList_append, String.toList_append, split]
      simp
    have noFeed' : '\n' ∉ front.toList ++ before ++ ['\''] := by
      simp [noFeed, show '\n' ∉ front.toList from oneLine]
    obtain ⟨cut, others, begins, split'⟩ := rowsBegin noFeed' (List.getLast?_concat ..) (by decide)
      (bad.flatMap escape ++ after ++ back.toList)
    rw [← text] at split'
    have own := split' ▸ List.mem_cons_self
    rw [List.append_assoc] at begins
    refine ⟨_, fileRows member own, ⟨before ++ ['\''] ++ cut, by simp⟩, ?_⟩
    have opening := (spellsCode (k := literalKind) bare).append spells
    have row := opening.broken (readTextCut broken begins)
    rw [List.append_assoc (_ ++ _)]
    exact row

def apiHead (s : Subject) (baseUrl : String) : Line :=
  line [line ["export function ", declared (newApiName s.typeName), "(baseUrl: string = ",
    quote baseUrl, ", init: RequestInit = \x7b\x7d)"], " \x7b"]

theorem apiHeadMember (s : Subject) (baseUrl : String) :
    apiHead s baseUrl ∈ (Api.of baseUrl s).code := by
  simp only [Api.code, Code.block, List.mem_append, List.mem_cons]
  exact .inl (.inr (.inl (.inl rfl)))

theorem apiLiteral {s : Subject} (plain : Naming.isPlainIdentifier s.table.name = true)
    (baseUrl : String) :
    ∃ row ∈ rows (fileText (Api.of baseUrl s).code).toList,
      ("export function " ++ newApiName s.typeName ++ "(baseUrl: string = ").toList <+: row ∧
      literals literalKind row =
        if Unbroken baseUrl.toList then some [utf16 baseUrl.toList] else none := by
  have wordly : Naming.Wordly s.typeName.toList := Naming.pascalWordly plain
  have bare : '\'' ∉ s.typeName.toList := wordly.without (by decide)
  have feedless : OneLine s.typeName := Server.wordlyOneLine wordly
  have fixed : OneLine "export function " ∧ OneLine "create" ∧ OneLine "Api" ∧
    OneLine "(baseUrl: string = " := by decide
  have spelled : lineText (apiHead s baseUrl) =
      "export function " ++ newApiName s.typeName ++ "(baseUrl: string = " ++ union [baseUrl] ++
        ", init: RequestInit = \x7b\x7d) \x7b" := by
    rw [unionSingle]
    simp [apiHead, line, declared, Fragment.string, String.append_assoc]
  obtain ⟨row, own, begins, read⟩ := literalsRow (apiHeadMember s baseUrl) spelled
    (by simp [newApiName, bare]) (by simp [newApiName, feedless, fixed]) (by decide) (by decide) rfl
    (by decide)
  exact ⟨row, own, begins, by simpa using read⟩

theorem enumLiterals {s : Subject} {c : ColumnShape} (member : c ∈ s.table.columns)
    (plain : Naming.isPlainIdentifier c.name = true) {values : List String}
    (listed : s.policy.validation.enums.get? c.name = some values) (some : values ≠ []) :
    ∃ row ∈ rows (fileText (Types.of s).code).toList,
      ("  " ++ Naming.camel c.name ++ ": ").toList <+: row ∧
      literals literalKind row =
        if ∀ v ∈ values, Unbroken v.toList then .some (values.map fun v => utf16 v.toList)
        else none := by
  have wordly : Naming.Wordly (Naming.camel c.name).toList := Naming.camelWordly plain
  have bare : '\'' ∉ (Naming.camel c.name).toList := wordly.without (by decide)
  have feedless : OneLine (Naming.camel c.name) := Server.wordlyOneLine wordly
  have fixed : OneLine "  " ∧ OneLine ": " := by decide
  have unempty : values.isEmpty = false := by simpa using some
  have type : (valueType s c c.nullable).text =
      union values ++ (if c.nullable then " | null" else "") := by
    simp only [valueType, listed, Option.filter_some, unempty]
    cases c.nullable
    · exact (String.append_empty).symm
    · rfl
  have inside : (.text "  " :: (Property.ofColumn s c false).code : Line) ∈ (Types.of s).code := by
    have row : (.text "  " :: (Property.ofColumn s c false).code : Line) ∈
        indented "  " ((Types.of s).row.map Property.code) :=
      List.mem_map_of_mem (List.mem_map_of_mem (List.mem_map_of_mem member))
    simp only [Types.code, interfaceCode, Code.block, List.mem_append, List.mem_cons]
    exact .inl (.inl (.inl (.inl (.inl (.inr (.inl (.inr row)))))))
  have spelled : lineText (.text "  " :: (Property.ofColumn s c false).code) =
      "  " ++ Naming.camel c.name ++ ": " ++ union values ++
        ((if c.nullable then " | null" else "") ++ ";") := by
    simp [Property.ofColumn, Property.code, type, line, Fragment.string, String.append_assoc]
  have ending : '\'' ∉ ((if c.nullable then " | null" else "") ++ ";").toList ∧
      OneLine ((if c.nullable then " | null" else "") ++ ";") ∧
      ((if c.nullable then " | null" else "") ++ ";").toList.getLast? = .some ';' := by
    cases c.nullable <;> decide
  exact literalsRow inside spelled (by simp [bare]) (by simp [feedless, fixed]) ending.1 ending.2.1
    ending.2.2 (by decide)

end Client

open ScriptString

/-- A literal is read back, whatever follows it, unless its text breaks a line; then it has no end.
In the same way the base path and the enumerated values are read back from their rows. -/
theorem scriptTextsReadBackUnlessBroken (text : String) (rest : List Char) :
    read ((quote text).toList ++ rest) =
      (if Unbroken text.toList then some (utf16 text.toList, rest) else none) ∧
    (∀ other : String, utf16 text.toList = utf16 other.toList → text = other) ∧
    ∀ {r : Rendering} {table : TableShape} {policy : Policy} {plan : List Endpoint}
      {targets : List Target} {files : List Artifact},
      r.tableArtifacts table policy plan targets = .ok files →
      let s : Subject := ⟨table, policy, plan⟩
      ∀ f ∈ files,
        (f.category = .clientApi →
          ∃ row ∈ rows f.contents.toList,
            ("export function " ++ Client.newApiName s.typeName ++
              "(baseUrl: string = ").toList <+: row ∧
            literals literalKind row =
              if Unbroken r.apiBasePath.toList then some [utf16 r.apiBasePath.toList] else none) ∧
        (f.category = .clientTypes →
          ∀ c ∈ table.columns, ∀ values, policy.validation.enums.get? c.name = some values →
            values ≠ [] →
            ∃ row ∈ rows f.contents.toList, ("  " ++ Naming.camel c.name ++ ": ").toList <+: row ∧
              literals literalKind row =
                if ∀ v ∈ values, Unbroken v.toList then some (values.map fun v => utf16 v.toList)
                else none) := by
  refine ⟨readQuoted text rest, utf16Injective text, ?_⟩
  intro r table policy plan targets files rendered s f member
  obtain ⟨s', made, rendered⟩ := Rendering.tableArtifactsMade rendered
  obtain ⟨rfl, plain, columns, -⟩ := Rendering.subjectOk made
  have printed := Rendering.printed rendered member
  refine ⟨fun category => ?_, fun category c inside values listed some => ?_⟩
  · rw [Rendering.apiPrinted printed category]
    exact Client.apiLiteral plain r.apiBasePath
  · rw [Rendering.typesPrinted printed category]
    exact Client.enumLiterals inside (columns c inside) listed some

def moodsTable : TableShape where
  schema := "public"
  name := "moods"
  columns := [⟨"mood", "text", true, false, none, none⟩]
  comment := none

def moodsPolicy : Policy where
  endpoints := []
  validation := { enums := SortedMap.ofList [("mood", ["it's", "a\\b\u2028"])] }

def brokenBasePath : Settings where
  targets := [.client]
  apiBasePath := "/a\nb"
  defaults := { endpoints := some [] }

theorem moodsRendered (r : Rendering) : ∃ files,
    r.tableArtifacts moodsTable moodsPolicy [] [.client] = .ok files ∧
      r.artifacts ⟨moodsTable, moodsPolicy, []⟩ [.client] = .ok files := ⟨_, rfl, rfl⟩

theorem moodsReadBack : ∃ files,
    Rendering.tableArtifacts ⟨"app", "/it's"⟩ moodsTable moodsPolicy [] [.client] = .ok files ∧
      (∃ f ∈ files, ∃ row ∈ rows f.contents.toList,
        literals literalKind row = some [utf16 "/it's".toList]) ∧
      ∃ f ∈ files, ∃ row ∈ rows f.contents.toList,
        literals literalKind row = some [utf16 "it's".toList, utf16 "a\\b\u2028".toList] := by
  obtain ⟨files, rendered, printed⟩ := moodsRendered ⟨"app", "/it's"⟩
  obtain ⟨-, -, read⟩ := scriptTextsReadBackUnlessBroken "it's" []
  have complete := Rendering.clientComplete (List.mem_singleton_self _) printed
  obtain ⟨api, member, category, -⟩ := complete .clientApi _ rfl
  obtain ⟨types, member', category', -⟩ := complete .clientTypes _ rfl
  obtain ⟨row, own, -, base⟩ := (read rendered api member).1 category
  obtain ⟨row', own', -, values⟩ := (read rendered types member').2 category' _
    (List.mem_singleton_self _) ["it's", "a\\b\u2028"] (by decide) (by decide)
  exact ⟨files, rendered, ⟨api, member, row, own, base⟩, types, member', row', own', values⟩

theorem brokenBasePathUnread :
    brokenBasePath.validate = .ok () ∧ (∀ rest, read ((quote "/a\nb").toList ++ rest) = none) ∧
      ∃ files, Rendering.tableArtifacts ⟨brokenBasePath.goModule, brokenBasePath.apiBasePath⟩
          moodsTable moodsPolicy [] brokenBasePath.targets = .ok files ∧
        ∃ f ∈ files, f.category = .clientApi ∧
          HasRow f.contents "export function createMoodsApi(baseUrl: string = '/a" ∧
          literals literalKind "export function createMoodsApi(baseUrl: string = '/a".toList =
            none := by
  obtain ⟨files, rendered, printed⟩ := moodsRendered ⟨"generated", "/a\nb"⟩
  obtain ⟨f, member, category, contents⟩ :=
    Rendering.clientComplete (List.mem_singleton_self _) printed .clientApi _ rfl
  refine ⟨by decide, fun rest => ?_, files, rendered, f, member, category, ?_, ?_⟩
  · rw [quoteSplit]
    exact readTextBroken (by decide) _
  · have own : "export function createMoodsApi(baseUrl: string = '/a".toList ∈
        rows (lineText (Client.apiHead ⟨moodsTable, moodsPolicy, []⟩ "/a\nb")).toList := by
      decide +kernel
    rw [contents]
    exact fileRows (Client.apiHeadMember _ _) own
  · have row : "export function createMoodsApi(baseUrl: string = '/a".toList =
        "export function createMoodsApi(baseUrl: string = ".toList ++ '\'' :: ['/', 'a'] := by
      decide
    have bare : literalKind.mark ∉ "export function createMoodsApi(baseUrl: string = ".toList := by
      decide
    have broken : ¬Unbroken ['/', 'a', '\n', 'b'] := by decide
    rw [row]
    exact (spellsCode bare).broken (readTextCut broken ⟨['\n', 'b'], rfl⟩)

end RestScaffold
