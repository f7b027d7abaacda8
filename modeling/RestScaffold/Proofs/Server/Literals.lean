import RestScaffold.Proofs.Artifact.Paths
import RestScaffold.Proofs.Code.Rows
import RestScaffold.Proofs.Server.Columns
import RestScaffold.Proofs.Text.GoLiteral
import RestScaffold.Proofs.Text.Literals
import RestScaffold.Proofs.Text.Span

/-! Texts in the server's code. Paths, roles, permissions and column names stand in literals, and
what is read from the lines of the files is these texts and nothing else, in their order. -/
namespace RestScaffold
open Catalog Code Layout Text

namespace Text.GoString

def literalKind : LiteralKind (List UInt8) where
  mark := '"'
  value s := utf8 s.toList
  read := readText
  shorter := by
    intro cs rest value read
    obtain ⟨used, rfl, -⟩ := readSpends read
    rw [List.length_append, List.length_cons]
    omega

@[simp]
theorem literalMark : literalKind.mark = '"' := rfl

theorem spellsQuote (s : String) : Spells literalKind (quote s).toList [s] := by
  have split : (quote s).toList = '"' :: (s.toList.flatMap escape ++ ['"']) := by
    simp [quote, encode]
  rw [split]
  exact spellsLiteral fun rest => by
    rw [List.append_assoc]
    exact readTextQuoted _ rest

theorem commaBare : literalKind.mark ∉ ", ".toList := by decide

theorem spellsStrings (values : List String) :
    Spells literalKind (Go.strings values).toList values := by
  have listed := spellsListed ", " commaBare (values.map fun s => (quote s, [s]))
    (List.forall_mem_map.mpr fun s _ => spellsQuote s)
  simp only [List.map_map, List.flatMap_map, Function.comp_def, List.flatMap_singleton'] at listed
  unfold Go.strings
  split
  · rename_i none
    rw [List.isEmpty_iff.mp none]
    exact spellsCode (by decide)
  · rw [String.toList_append, String.toList_append]
    exact listed.inside _ _ (by decide) (by decide)

theorem quoteLast (s : String) : (quote s).toList.getLast? = some '"' := by
  rw [quote, String.toList_ofList, encode, List.getLast?_concat]

theorem quoteSpan (s : String) : Span (quote s).toList where
  noFeed := quoteOneLine s
  first := ⟨'"', by simp [quote, encode], by decide, by decide, by decide⟩
  last := ⟨'"', quoteLast s, by decide, by decide, by decide⟩

end Text.GoString

namespace Server

def MiddlewareCall.texts : MiddlewareCall → List String
  | .authorize roles permissions => roles ++ permissions
  | .audit table action => [table, action]
  | .bare _ | .rateLimit _ | .cache _ => []

theorem pairSpells {front first last back : String} {texts others : List String}
    (bare : '"' ∉ front.toList) (spells : Spells GoString.literalKind first.toList texts)
    (spells' : Spells GoString.literalKind last.toList others) (bare' : '"' ∉ back.toList) :
    Spells GoString.literalKind (front ++ first ++ ", " ++ last ++ back).toList
      (texts ++ others) := by
  simp only [String.toList_append]
  rw [List.append_assoc (_ ++ _ ++ _)]
  exact (spells.inside _ _ bare GoString.commaBare).append (spells'.followed bare')

theorem numberSpells {front back : String} (bare : '"' ∉ front.toList) (n : Nat)
    (bare' : '"' ∉ back.toList) :
    Spells GoString.literalKind (front ++ toString n ++ back).toList [] := by
  have digits : '"' ∉ n.repr.toList := fun quote =>
    absurd (Nat.isDigit_of_mem_toDigits (by decide) (by decide) (Nat.toList_repr ▸ quote))
      (by decide)
  simp only [String.toList_append]
  exact (spellsCode digits).inside _ _ bare bare'

theorem callSpells (c : MiddlewareCall) : Spells GoString.literalKind c.text.toList c.texts := by
  cases c with
  | bare m => exact spellsCode (by cases m <;> decide)
  | authorize roles permissions =>
      exact pairSpells (by decide) (GoString.spellsStrings roles)
        (GoString.spellsStrings permissions) (by decide)
  | rateLimit perMinute => exact numberSpells (by decide) perMinute (by decide)
  | audit table action =>
      exact pairSpells (by decide) (GoString.spellsQuote table) (GoString.spellsQuote action)
        (by decide)
  | cache ttlSeconds => exact numberSpells (by decide) ttlSeconds (by decide)

theorem registrationSpells {r : Registration} (bare : '"' ∉ r.handler.toList) :
    Spells GoString.literalKind (Go.inner (Routes.registrationCode r))
      (r.path :: r.chain.flatMap MiddlewareCall.texts) := by
  obtain ⟨-, bare', -⟩ := methodBare r.method
  have listed := spellsListed ", " GoString.commaBare
    ((GoString.quote r.path, [r.path]) :: r.chain.map (fun c => (c.text, c.texts)) ++
      [("h." ++ r.handler, [])]) <| by
    refine List.forall_mem_append.mpr ⟨List.forall_mem_cons.mpr ⟨GoString.spellsQuote _,
      List.forall_mem_map.mpr fun c _ => callSpells c⟩, List.forall_mem_singleton.mpr ?_⟩
    exact spellsCode (by simp [bare])
  have inside := listed.inside ('\t' :: ("r." ++ r.method.name ++ "(").toList) ")".toList
    (by simp [bare']) (by decide)
  simpa [Go.inner, Routes.registrationCode, plainText, List.flatMap_map, Function.comp_def] using
    inside

def endpointTexts (s : Subject) (e : Endpoint) : List String :=
  e.path :: e.middleware.flatMap fun
    | .authorize => s.policy.security.roles ++ s.policy.security.permissions
    | .audit => [s.stem, e.kind.name]
    | _ => []

theorem endpointTextsOf (s : Subject) (e : Endpoint) :
    (Routes.registration s e).path ::
      (Routes.registration s e).chain.flatMap MiddlewareCall.texts = endpointTexts s e := by
  rw [endpointTexts, Routes.registration, List.flatMap_map]
  refine congrArg (e.path :: ·) (congrArg (List.flatMap · _) (funext fun m => ?_))
  cases m <;> rfl

theorem routesTexts {s : Subject} (goModule : String)
    (plain : Naming.isPlainIdentifier s.table.name = true)
    (planned : Plan.endpoints s.table s.policy = .ok s.plan) :
    (Go.statements ((Routes.of s).file.text goModule)).map (literals GoString.literalKind) =
      (s.plan.map fun e => some ((endpointTexts s e).map fun t => utf8 t.toList)) ++ [some []] := by
  have wordly : Naming.Wordly s.typeName.toList := Naming.pascalWordly plain
  obtain ⟨kinds, -, plan⟩ := Plan.endpointsOk planned
  have handlers : ∀ e ∈ s.plan, OneLine e.handler ∧ '"' ∉ e.handler.toList := by
    have bare : '"' ∉ s.typeName.toList := wordly.without (by decide)
    rw [plan]
    refine List.forall_mem_map.mpr fun k _ => ⟨handlerOneLine k (wordlyOneLine wordly), ?_⟩
    have named : '"' ∉ (Naming.pascal s.table.name).toList := bare
    cases k <;> simp [Plan.endpoint, EndpointKind.handler, named]
  have bare : '(' ∉ (registerName s.typeName).toList := by
    have own : '(' ∉ s.typeName.toList := wordly.without (by decide)
    simp [registerName, own]
  obtain ⟨parameters, head, noFeed⟩ := routesHead wordly
  have ends : (Routes.of s).file.body = [] ++ (Routes.of s).code := rfl
  obtain ⟨-, statements⟩ := Go.functionRead goModule [] ends head bare noFeed
    (List.forall_mem_map.mpr (List.forall_mem_map.mpr fun e member =>
      registrationSolid (handlers e member).1))
  have closing : literals GoString.literalKind "\x7d".toList = some [] :=
    (spellsCode (by decide)).whole
  rw [statements, List.map_append, List.map_singleton, closing, Routes.of, List.map_map,
    List.map_map, List.map_map]
  refine congrArg (· ++ _) (List.map_congr_left fun e member => ?_)
  have spells := registrationSpells (r := Routes.registration s e) (handlers e member).2
  rw [endpointTextsOf] at spells
  exact spells.whole

theorem stringsLast (values : List String) :
    ∃ c, (Go.strings values).toList.getLast? = some c ∧ isBlank c = false := by
  unfold Go.strings
  split
  · exact ⟨'l', by decide, by decide⟩
  · exact ⟨'\x7d', by rw [String.toList_append, List.getLast?_append]; rfl, by decide⟩

theorem modelTexts {s : Subject} (goModule : String)
    (plain : Naming.isPlainIdentifier s.table.name = true) :
    ∃ row, HasRow ((Model.of s).file.text goModule) row ∧
      ("var " ++ columnsName s.typeName ++ " = ").toList <+: row.toList ∧
      literals GoString.literalKind row.toList =
        some (s.table.columns.map fun c => utf8 c.name.toList) := by
  have wordly : Naming.Wordly s.typeName.toList := Naming.pascalWordly plain
  have bare : '"' ∉ s.typeName.toList := wordly.without (by decide)
  have feedless : OneLine s.typeName := wordlyOneLine wordly
  have fixed : OneLine "var " ∧ OneLine "Columns" ∧ OneLine " = " := by decide
  have opening : '"' ∉ ("var " ++ columnsName s.typeName ++ " = ").toList := by
    simp [columnsName, bare]
  have spells := (spellsCode opening).append (GoString.spellsStrings (columnNames s))
  rw [← String.toList_append, List.nil_append] at spells
  have member : (line ["var ", declared (columnsName s.typeName), " = ",
      Go.strings (columnNames s)] : Line) ∈ (Model.of s).file.body := by
    simp [Model.file, Model.code, Model.of]
  obtain ⟨c, ends, full⟩ := stringsLast (columnNames s)
  have solid : Solid ("var " ++ columnsName s.typeName ++ " = " ++
      Go.strings (columnNames s)).toList :=
    solidEnd (by simp [columnsName, feedless, fixed, stringsOneLine]) ends full
  refine ⟨_, goRow goModule member ?_ solid, ?_, ?_⟩
  · simp [line, declared, Fragment.string, String.append_assoc]
  · exact ⟨_, (String.toList_append ..).symm⟩
  · rw [spells.whole, columnNames, List.map_map]
    rfl

theorem orderingTexts {s : Subject} (goModule : String) (lists : s.listsRows = true) :
    (∀ c ∈ s.sortColumns, ∃ row, HasRow ((Repository.of s).file.text goModule) row ∧
      ": true,".toList <:+ row.toList ∧
      literals GoString.literalKind row.toList = some [utf8 c.name.toList]) ∧
    ∃ row, HasRow ((Repository.of s).file.text goModule) row ∧
      "\tcol := ".toList <+: row.toList ∧
      literals GoString.literalKind row.toList = some [utf8 s.defaultSort.toList] := by
  have made : (Repository.of s).ordering = some (.of s) := if_pos lists
  have inside : ∀ l ∈ (Ordering.of s).code, l ∈ (Repository.of s).file.body :=
    fun l member => (orderingCode made).subset member
  constructor
  · intro c member
    have own : (.text "\t" :: plain (GoString.quote c.name ++ ": true,") : Line) ∈
        (Ordering.of s).code := by
      have listed : plain (GoString.quote c.name ++ ": true,") ∈ (Ordering.of s).columns.map
          fun c => plain (GoString.quote c ++ ": true,") :=
        List.mem_map_of_mem (List.mem_map_of_mem member)
      have shifted : (.text "\t" :: plain (GoString.quote c.name ++ ": true,") : Line) ∈
          indented "\t" ((Ordering.of s).columns.map
            fun c => plain (GoString.quote c ++ ": true,")) := List.mem_map_of_mem listed
      simp only [Ordering.code, Ordering.sortableCode]
      exact List.mem_append_left _ (List.mem_append_left _ (List.mem_append_right _ shifted))
    have spells := (GoString.spellsQuote c.name).inside "\t".toList ": true,".toList
      (by decide) (by decide)
    have solid : Solid ("\t" ++ GoString.quote c.name ++ ": true,").toList :=
      solidEnd (by simp [quoteOneLine]; decide) (by decide) (by decide : isBlank ',' = false)
    refine ⟨_, goRow goModule (inside _ own) ?_ solid, ?_, ?_⟩
    · simp [plainText, Fragment.string, String.append_assoc]
    · exact ⟨_, (String.toList_append ..).symm⟩
    · rw [String.toList_append, String.toList_append, spells.whole]
      rfl
  · have own : (.text "\t" :: line ["col := ", GoString.quote s.defaultSort] : Line) ∈
        (Ordering.of s).code := by
      refine List.mem_append_right _ (functionMember ?_)
      exact List.mem_append_left _ (List.mem_append_left _ (List.mem_singleton_self _))
    have opening : '"' ∉ "\tcol := ".toList := by decide
    have spells := (spellsCode opening).append (GoString.spellsQuote s.defaultSort)
    rw [← String.toList_append, List.nil_append] at spells
    have solid : Solid ("\tcol := " ++ GoString.quote s.defaultSort).toList :=
      solidEnd (by simp [quoteOneLine]; decide) (GoString.quoteLast _) (by decide)
    refine ⟨_, goRow goModule (inside _ own) ?_ solid, ?_, spells.whole⟩
    · simp [line, Fragment.string, ← String.append_assoc]
    · exact ⟨_, (String.toList_append ..).symm⟩

end Server

variable {r : Rendering} {table : TableShape} {policy : Policy} {plan : List Endpoint}
  {targets : List Target} {files : List Artifact}

/-- Any text is read back from its literal, whatever follows; the literal holds no control character
and comes out of the layout as it went in, in surroundings that do not depend on it. So the texts
that the files of a table hold are those of the catalog and the policy. -/
theorem textsReadBack :
    (∀ (s : String) (rest : List Char),
      GoString.read ((GoString.quote s).toList ++ rest) = some (utf8 s.toList, rest)) ∧
    (∀ s t : String, utf8 s.toList = utf8 t.toList → s = t) ∧
    (∀ (s : String), ∀ c ∈ (GoString.quote s).toList, isControl c = false) ∧
    (∃ front back : List Char → List Char, ∀ (s : String) (before after : List Char),
      tidyChars (before ++ (GoString.quote s).toList ++ after) =
        front before ++ (GoString.quote s).toList ++ back after) ∧
    ∀ {r : Rendering} {table : TableShape} {policy : Policy} {plan : List Endpoint}
      {targets : List Target} {files : List Artifact},
      Plan.endpoints table policy = .ok plan →
      r.tableArtifacts table policy plan targets = .ok files →
      let s : Subject := ⟨table, policy, plan⟩
      ∀ f ∈ files,
        (f.category = .routes →
          (Go.statements f.contents).map (literals GoString.literalKind) =
            (plan.map fun e =>
              some ((Server.endpointTexts s e).map fun t => utf8 t.toList)) ++ [some []]) ∧
        (f.category = .model →
          ∃ row, HasRow f.contents row ∧
            ("var " ++ Server.columnsName s.typeName ++ " = ").toList <+: row.toList ∧
            literals GoString.literalKind row.toList =
              some (table.columns.map fun c => utf8 c.name.toList)) ∧
        (f.category = .repository → s.listsRows = true →
          (∀ c ∈ s.sortColumns, ∃ row, HasRow f.contents row ∧ ": true,".toList <:+ row.toList ∧
            literals GoString.literalKind row.toList = some [utf8 c.name.toList]) ∧
          ∃ row, HasRow f.contents row ∧ "\tcol := ".toList <+: row.toList ∧
            literals GoString.literalKind row.toList = some [utf8 s.defaultSort.toList]) := by
  refine ⟨GoString.readQuoted, utf8Injective, GoString.quoteFree, ⟨Layout.front, Layout.back,
    fun s before after => (GoString.quoteSpan s).tidied before after⟩, ?_⟩
  intro r table policy plan targets files planned rendered s f member
  obtain ⟨s', made, rendered⟩ := Rendering.tableArtifactsMade rendered
  obtain ⟨rfl, plain, -⟩ := Rendering.subjectOk made
  have printed := Rendering.printed rendered member
  refine ⟨fun category => ?_, fun category => ?_, fun category lists => ?_⟩
  · rw [Rendering.serverPrinted printed fun _ => by rw [category]; rfl]
    exact Server.routesTexts r.goModule plain planned
  · rw [Rendering.serverPrinted printed fun _ => by rw [category]; rfl]
    exact Server.modelTexts r.goModule plain
  · rw [Rendering.repositoryPrinted printed category]
    exact Server.orderingTexts r.goModule lists

def shiftsTable : TableShape where
  schema := "public"
  name := "shifts"
  columns := [⟨"day", "date", false, true, none, none⟩]
  comment := none

def shiftsPolicy : Policy where
  endpoints := ["create"]
  security := {
    requireAuth := true
    roles := ["night\x07lead", "a\"b\n"]
    permissions := ["c\\\u0085"]
    audit := true }

def shiftsPlan : List Endpoint := [Plan.endpoint shiftsTable shiftsPolicy .create]

theorem shiftsTextsReadBack :
    ∃ files, Plan.endpoints shiftsTable shiftsPolicy = .ok shiftsPlan ∧
      Rendering.tableArtifacts ⟨"app", "/api"⟩ shiftsTable shiftsPolicy shiftsPlan [.server] =
        .ok files ∧
      ∃ f ∈ files, (Go.statements f.contents).map (literals GoString.literalKind) =
        [some (["/shifts", "night\x07lead", "a\"b\n", "c\\\u0085", "shifts", "create"].map
          fun s => utf8 s.toList), some []] := by
  have planned : Plan.endpoints shiftsTable shiftsPolicy = .ok shiftsPlan := rfl
  obtain ⟨files, rendered⟩ : ∃ files, Rendering.tableArtifacts ⟨"app", "/api"⟩ shiftsTable
      shiftsPolicy shiftsPlan [.server] = .ok files := Rendering.filesOf (by decide +kernel)
  obtain ⟨s, -, printed⟩ := Rendering.tableArtifactsMade rendered
  obtain ⟨dto, -, all⟩ := Rendering.serverComplete (List.mem_singleton_self _) printed
  obtain ⟨f, member, category, -⟩ := all .routes _ rfl
  obtain ⟨-, -, -, -, read⟩ := textsReadBack
  refine ⟨files, planned, rendered, f, member, ?_⟩
  rw [(read planned rendered f member).1 category]
  decide +kernel

end RestScaffold
