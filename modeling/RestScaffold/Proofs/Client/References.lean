import RestScaffold.Proofs.Artifact.Comments
import RestScaffold.Proofs.Client.Literals
import RestScaffold.Proofs.Server.HandlerReferences

/-! What the words of the client's code refer to. The types of a table are exported by the modules
they are declared in. -/
namespace RestScaffold

namespace Word

variable {P : Word → Prop} {cs : List Char} {n : Char}

theorem runBlock (cs : List Char) :
    (Client.EndFree (cs ++ ['*']) → run .block (cs ++ ['*', '/']) = ([], .code)) ∧
      (Client.EndFree ('*' :: (cs ++ ['*'])) → run .star (cs ++ ['*', '/']) = ([], .code)) := by
  induction cs with
  | nil => exact ⟨fun _ => by decide, fun _ => by decide⟩
  | cons c rest ih =>
      obtain ⟨block, star⟩ := ih
      refine ⟨fun free => ?_, fun free => ?_⟩
      · by_cases same : c = '*'
        · have first : step .block '*' = (none, .star) := by decide
          subst same
          rw [List.cons_append, run, first, star free]
          rfl
        · rw [List.cons_append, run, step, if_neg (by simpa using same),
            block (Client.endFreeCons.mp free).2]
          rfl
      · obtain ⟨noSlash, later⟩ := Client.endFreeCons.mp free
        have other : c ≠ '/' := fun slash => noSlash ⟨rfl, by simp [slash]⟩
        by_cases same : c = '*'
        · have again : step .star '*' = (none, .star) := by decide
          subst same
          rw [List.cons_append, run, again, star later]
          rfl
        · rw [List.cons_append, run, step, if_neg (by simpa using other),
            if_neg (by simpa using same), block (Client.endFreeCons.mp later).2]
          rfl

theorem readsBlock (free : Client.EndFree (cs ++ ['*'])) (n : Char) :
    Reads P ('/' :: '*' :: (cs ++ ['*', '/'])) n := by
  have opened : step .code '/' = (none, .slash) ∧ step .slash '*' = (none, .block) := by decide
  have spelled : run .code ('/' :: '*' :: (cs ++ ['*', '/'])) = ([], .code) := by
    simp [run, opened, (runBlock cs).1 free]
  refine ⟨by simp [spelled], ?_⟩
  rw [spelled]
  trivial

end Word

namespace Client
open Catalog Code Layout Naming Text Word

def exportedType? (row : List Char) : Option String :=
  if Go.begins "export interface " row then some (Go.upTo ' ' (row.drop 17))
  else if Go.begins "export type " row then some (Go.upTo ' ' (row.drop 12))
  else none

def exportedTypes (text : String) : List String := (rows text.toList).filterMap exportedType?

def provided : List (List Char) :=
  ["Promise", "T", "RequestInit", "Record", "JSON.stringify", "Error", "URLSearchParams",
    "Object.entries", "String", "ReturnType", "204"].map String.toList

def namesType (w : Word) : Bool :=
  w.follow != .label && w.letters.head?.any fun c => c.isUpper || c.isDigit

/-- If the word refers to a type, that is one of these or comes with the language. -/
def Typed (types : List String) (w : Word) : Prop :=
  namesType w = true → w.letters ∈ provided ∨ String.ofList w.letters ∈ types

def known (w : Word) : Bool := !namesType w || provided.contains w.letters

def wordsOf (text : String) : List Word := ofRows (rows text.toList)

theorem interfaceExported {name : String} (bare : ' ' ∉ name.toList) (rest : List Char) :
    exportedType? ("export interface ".toList ++ (name.toList ++ ' ' :: rest)) = some name := by
  have dropped : ("export interface ".toList ++ (name.toList ++ ' ' :: rest)).drop 17 =
      name.toList ++ ' ' :: rest := rfl
  rw [exportedType?, if_pos (Go.beginsAppend _ _), dropped, Go.upToFirst bare,
    String.ofList_toList]

theorem aliasExported {name : String} (bare : ' ' ∉ name.toList) (rest : List Char) :
    exportedType? ("export type ".toList ++ (name.toList ++ ' ' :: rest)) = some name := by
  have other : ¬Go.begins "export interface " ("export type ".toList ++
      (name.toList ++ ' ' :: rest)) = true := by
    simp [Go.begins]
  have dropped : ("export type ".toList ++ (name.toList ++ ' ' :: rest)).drop 12 =
      name.toList ++ ' ' :: rest := rfl
  rw [exportedType?, if_neg other, if_pos (Go.beginsAppend _ _), dropped, Go.upToFirst bare,
    String.ofList_toList]

variable {P : Word → Prop} {types : List String} {n : Char} {name : String} {ls more : List Line}

theorem knownTyped (w : Word) (holds : known w = true) : Typed types w := by
  intro names
  rw [known, names] at holds
  exact .inl (List.contains_iff_mem.mp (by simpa using holds))

theorem fitsType (wordly : Wordly name.toList) (member : name ∈ types) (n : Char)
    (outside : inWord n = false) : FitsWord (Typed types) n name :=
  ⟨Go.wordlyInside wordly, outside, fun _ => .inr ((String.ofList_toList).symm ▸ member)⟩

theorem fitsSmall (wordly : Wordly name.toList) {c : Char} (first : name.toList.head? = some c)
    (small : (c.isUpper || c.isDigit) = false) (n : Char) (outside : inWord n = false) :
    FitsWord (Typed types) n name := by
  refine ⟨Go.wordlyInside wordly, outside, fun names => ?_⟩
  simp [namesType, first, small] at names

theorem fitsLabel (wordly : Wordly name.toList) (n : Char) (label : n ∈ [':', '?']) :
    FitsWord (Typed types) n name := by
  obtain ⟨outside, follow⟩ : inWord n = false ∧ Follow.of n = .label := by
    rcases List.mem_pair.mp label with rfl | rfl <;> decide
  refine ⟨Go.wordlyInside wordly, outside, fun names => ?_⟩
  simp [namesType, follow] at names

theorem scriptPart {s : String} (whole : ScriptString.Unbroken s.toList) :
    Part P '\'' n (ScriptString.quote s) :=
  ⟨⟨readsScriptString s n, ScriptString.quoteOneLine whole⟩,
    followsFirst (by simp [ScriptString.quote, ScriptString.encode])⟩

def AllRead (P : Word → Prop) (ls : List Line) : Prop := ∀ l ∈ ls, Reads P (lineText l).toList '\n'

theorem AllRead.append (first : AllRead P ls) (second : AllRead P more) : AllRead P (ls ++ more) :=
  List.forall_mem_append.mpr ⟨first, second⟩

theorem readsShifted {step : String} (shift : Shift step) {s : String}
    (reads : Reads P s.toList n) : Reads P (step ++ s).toList n := by
  obtain ⟨words, finished⟩ := reads
  have same : run .code (step ++ s).toList = run .code s.toList := by
    rw [String.toList_append, runAppend, shift.2, List.nil_append]
  exact ⟨same.symm ▸ words, same.symm ▸ finished⟩

theorem AllRead.indented {step : String} (shift : Shift step) (reads : AllRead P ls) :
    AllRead P (Code.indented step ls) :=
  List.forall_mem_map.mpr fun l member => by
    rw [textCons]
    exact readsShifted shift (reads l member)

theorem AllRead.block (head : Line) (opens : Reads P (lineText (line [head, " \x7b"])).toList '\n')
    (reads : AllRead P ls) : AllRead P (Code.block "  " head ls) := by
  have closing :
      Reads P (lineText (plain "\x7d")).toList '\n' := (plainText _).symm ▸ fitsClosing.reads
  have shift : Shift "  " := by decide
  exact .append (List.forall_mem_cons.mpr ⟨opens, reads.indented shift⟩)
    (List.forall_mem_singleton.mpr closing)

theorem AllRead.nil : AllRead P [] := nofun

theorem AllRead.spelled {c : Char} {l : Line} (spells : Spells (Typed types) known c l)
    (later : AllRead (Typed types) ls) : AllRead (Typed types) (l :: ls) :=
  List.forall_mem_cons.mpr ⟨(spelledLine knownTyped spells).reads, later⟩

theorem AllRead.headed {c : Char} {head : Line}
    (spells : Spells (Typed types) known c (line [head, " \x7b"]))
    (inside : AllRead (Typed types) ls) : AllRead (Typed types) (Code.block "  " head ls) :=
  .block head (spelledLine knownTyped spells).reads inside

theorem AllRead.words (reads : AllRead P ls) : ∀ w ∈ wordsOf (fileText ls), P w := by
  rw [wordsOf, rowsOfFile, ofRowsLines (List.forall_mem_map.mpr fun l member =>
    (reads l member).line.1)]
  intro w member
  obtain ⟨t, own, inside⟩ := List.mem_flatMap.mp member
  obtain ⟨l, known, rfl⟩ := List.mem_map.mp own
  exact (reads l known).line.2 w inside

theorem fixedRead (checked : ∀ l ∈ ls, check known '\n' (lineText l).toList = true) :
    AllRead (Typed types) ls := fun l member => readsCheck knownTyped (checked l member)

theorem docRead {text : String} (free : EndFree (text.toList ++ [' ', '*'])) :
    Reads P (lineText (plain ("/** " ++ text ++ " */"))).toList n := by
  have split : (lineText (plain ("/** " ++ text ++ " */"))).toList =
      '/' :: '*' :: (('*' :: ' ' :: text.toList ++ [' ']) ++ ['*', '/']) := by
    simp [plainText]
  rw [split]
  exact readsBlock (by simp [endFreeCons, free]) n

theorem starlessRead {text : String} (starless : '*' ∉ text.toList) :
    Reads P (lineText (plain ("/** " ++ text ++ " */"))).toList n := by
  have ends : EndFree [' ', '*'] := by
    unfold EndFree
    decide
  exact docRead (starFree starless ends)

theorem unionRead (values : List String) (n : Char) :
    Reads P (ScriptString.union values).toList n := by
  have checked : Checked (fun _ => false) 'a' [' ', '|', ' '] := by decide
  have bar : Reads P " | ".toList 'a' := (fitsWordless checked).reads
  induction values with
  | nil => exact readsNil
  | cons v rest ih =>
      cases rest with
      | nil =>
          rw [ScriptString.unionSingle]
          exact readsScriptString v n
      | cons w more =>
          rw [ScriptString.unionMore]
          exact (readsScriptString v _).append ((bar.apart _).append ih)

theorem typeRead (t : ScriptType) (n : Char) (outside : inWord n = false) :
    Reads (Typed types) t.text.toList n := by
  have small {cs : List Char} (inside : cs.all isWordly = true) {c : Char}
      (first : cs.head? = some c) (low : (c.isUpper || c.isDigit) = false) (n : Char)
      (outside : inWord n = false) : Reads (Typed types) (String.ofList cs).toList n :=
    (fitsSmall (Go.wordlyFixed inside) (by rwa [String.toList_ofList]) low n outside).fits.reads
  induction t generalizing n with
  | string | number | boolean | unknown => exact small (by decide) rfl (by decide) n outside
  | array element ih =>
      have brackets : Reads (Typed types) "[]".toList 'a' :=
        readsCheck knownTyped (by decide)
      rw [ScriptType.text, String.toList_append]
      exact (ih '[' (by decide)).append (brackets.apart n)
  | oneOf values => exact unionRead values n
  | orNull type ih =>
      have bar : Reads (Typed types) " | ".toList 'a' := readsCheck knownTyped (by decide)
      have null : Reads (Typed types) "null".toList n := small (by decide) rfl (by decide) n outside
      rw [ScriptType.text, String.toList_append]
      exact (ih ' ' (by decide)).append ((bar.apart _).append null)

theorem propertyRead {p : Property} (wordly : Wordly p.name.toList) :
    Reads (Typed types) (lineText p.code).toList '\n' := by
  have fixed : ∀ s ∈ ["?", ": ", ";"], check known 'a' s.toList = true := by decide
  have colon : Reads (Typed types) ": ".toList 'a' := readsCheck knownTyped (fixed _ (by simp))
  have mark : Reads (Typed types) "?".toList 'a' := readsCheck knownTyped (fixed _ (by simp))
  have stop : Reads (Typed types) ";".toList 'a' := readsCheck knownTyped (fixed _ (by simp))
  have type : Reads (Typed types) (": ".toList ++ (p.type.text.toList ++ ";".toList)) '\n' :=
    (colon.apart _).append ((typeRead p.type ';' (by decide)).append (stop.apart _))
  cases asked : p.optional with
  | false =>
      have split : (lineText p.code).toList = p.name.toList ++
          (": ".toList ++ (p.type.text.toList ++ ";".toList)) := by
        simp [Property.code, line, asked]
      rw [split]
      exact (fitsLabel wordly ':' (by decide)).fits.reads.append type
  | true =>
      have split : (lineText p.code).toList = p.name.toList ++
          ("?".toList ++ (": ".toList ++ (p.type.text.toList ++ ";".toList))) := by
        simp [Property.code, line, asked]
      rw [split]
      exact (fitsLabel wordly '?' (by decide)).fits.reads.append ((mark.apart _).append type)

theorem interfaceTyped (wordly : Wordly name.toList) (member : name ∈ types)
    (reads : AllRead (Typed types) ls) : AllRead (Typed types) (interfaceCode name ls) := by
  have word := fitsType wordly member
  refine .block _ (spelledLine knownTyped (.fixed (.declared (.fixed .nil ?_)
      (word _ ?_)) ?_)).reads
    reads <;> decide

theorem interfaceExports (wordly : Wordly name.toList) {properties : List Line}
    (inside : interfaceCode name properties ⊆ ls) : name ∈ exportedTypes (fileText ls) := by
  let head : Line := line [line ["export interface ", declared name], " \x7b"]
  have spelled : lineText head = "export interface " ++ name ++ " \x7b" := by
    simp [head, line, declared, String.append_assoc]
  have fixed : OneLine "export interface " ∧ OneLine " \x7b" := by decide
  have oneLine : OneLine ("export interface " ++ name ++ " \x7b") := by
    simp [fixed, Server.wordlyOneLine wordly]
  have row := fileRow (inside (List.mem_append_left _ List.mem_cons_self)) spelled
    (solidEnd oneLine rfl (by decide))
  refine List.mem_filterMap.mpr ⟨_, row, ?_⟩
  have split : ("export interface " ++ name ++ " \x7b").toList =
      "export interface ".toList ++ (name.toList ++ ' ' :: ['\x7b']) := by simp
  rw [split]
  exact interfaceExported (wordly.without (by decide)) _

variable {s : Subject}

structure Exports (types : List String) (s : Subject) : Prop where
  row : s.typeName ∈ types
  create : s.needsCreateShape = true → Names.createRequest s.typeName ∈ types
  update : s.has .update = true → Names.updateRequest s.typeName ∈ types
  params : s.needsListParams = true → Names.listParams s.typeName ∈ types
  page : s.needsPageShape = true → Names.page s.typeName ∈ types
  stats : s.has .stats = true → Names.stats s.typeName ∈ types
  api : apiName s.typeName ∈ types

theorem shapeExports {item : Option (List Property)} {properties : List Property}
    (given : item = some properties) (wordly : Wordly name.toList)
    (inside : ((item.map (Types.shapeCode name)).getD []) ⊆ ls) :
    name ∈ exportedTypes (fileText ls) := by
  subst given
  exact interfaceExports wordly fun l member => inside (List.mem_cons_of_mem _ member)

theorem askedExports {asked : Bool} {properties : List Line} (holds : asked = true)
    (wordly : Wordly name.toList)
    (inside : (if asked then blank :: interfaceCode name properties else []) ⊆ ls) :
    name ∈ exportedTypes (fileText ls) := by
  subst holds
  exact interfaceExports wordly fun l member => inside (List.mem_cons_of_mem _ member)

section
variable (type : Wordly s.typeName.toList)
include type

theorem typesExported :
    let exported := exportedTypes (fileText (Types.of s).code)
    s.typeName ∈ exported ∧
      (s.needsCreateShape = true → Names.createRequest s.typeName ∈ exported) ∧
      (s.has .update = true → Names.updateRequest s.typeName ∈ exported) ∧
      (s.needsListParams = true → Names.listParams s.typeName ∈ exported) ∧
      (s.needsPageShape = true → Names.page s.typeName ∈ exported) ∧
      (s.has .stats = true → Names.stats s.typeName ∈ exported) := by
  refine ⟨?_, fun needed => ?_, fun asked => ?_, fun needed => ?_, fun needed => ?_,
    fun asked => ?_⟩
  · exact interfaceExports type fun l member => List.mem_append_left _ (List.mem_append_left _
      (List.mem_append_left _ (List.mem_append_left _ (List.mem_append_left _
        (List.mem_append_right _ member)))))
  · have given : (Types.of s).create = some _ := if_pos needed
    exact shapeExports given
      (Go.wordlyBefore (Go.wordlyAfter (by decide) type) (by decide)) fun l member =>
        List.mem_append_left _ (List.mem_append_left _ (List.mem_append_left _
          (List.mem_append_left _ (List.mem_append_right _ member))))
  · have given : (Types.of s).update = some _ := if_pos asked
    exact shapeExports given
      (Go.wordlyBefore (Go.wordlyAfter (by decide) type) (by decide)) fun l member =>
        List.mem_append_left _ (List.mem_append_left _ (List.mem_append_left _
          (List.mem_append_right _ member)))
  · have given : (Types.of s).listParams = some _ := if_pos needed
    exact shapeExports given
      (Go.wordlyBefore type (by decide)) fun l member =>
        List.mem_append_left _ (List.mem_append_left _ (List.mem_append_right _ member))
  · exact askedExports needed (Go.wordlyBefore type (by decide)) fun l member =>
      List.mem_append_left _ (List.mem_append_right _ member)
  · exact askedExports asked (Go.wordlyBefore type (by decide)) fun l member =>
      List.mem_append_right _ member

theorem apiExported (baseUrl : String) :
    apiName s.typeName ∈ exportedTypes (fileText (Api.of baseUrl s).code) := by
  have wordly : Wordly (apiName s.typeName).toList := Go.wordlyBefore type (by decide)
  have maker : Wordly (newApiName s.typeName).toList :=
    Go.wordlyBefore (Go.wordlyAfter (by decide) type) (by decide)
  let row := "export type " ++ apiName s.typeName ++ " = ReturnType<typeof " ++
    newApiName s.typeName ++ ">;"
  have member : line ["export type ", declared (apiName s.typeName), " = ReturnType<typeof ",
      own (newApiName s.typeName), ">;"] ∈ (Api.of baseUrl s).code :=
    List.mem_append_right _ (List.mem_cons_of_mem _ List.mem_cons_self)
  have spelled : lineText (line ["export type ", declared (apiName s.typeName),
      " = ReturnType<typeof ", own (newApiName s.typeName), ">;"]) = row := by
    simp [row, line, declared, own, String.append_assoc]
  have fixed : OneLine "export type " ∧ OneLine " = ReturnType<typeof " ∧ OneLine ">;" := by decide
  have oneLine : OneLine row := by
    simp [row, fixed, Server.wordlyOneLine wordly, Server.wordlyOneLine maker]
  have split : row.toList = "export type ".toList ++ ((apiName s.typeName).toList ++
      ' ' :: ("= ReturnType<typeof " ++ newApiName s.typeName ++ ">;").toList) := by
    simp [row]
  refine List.mem_filterMap.mpr ⟨_, fileRow member spelled (solidEnd oneLine rfl (by decide)), ?_⟩
  rw [split]
  exact aliasExported (wordly.without (by decide)) _

end

theorem spacedRead (reads : AllRead P ls) : AllRead P (blank :: ls) :=
  List.forall_mem_cons.mpr ⟨readsNil, reads⟩

theorem optionRead {α : Type} {item : Option α} {code : α → List Line}
    (each : ∀ a, item = some a → AllRead P (code a)) : AllRead P ((item.map code).getD []) := by
  cases item with
  | none => exact fun _ => nofun
  | some a => exact each a rfl

theorem askedRead {asked : Bool} (each : asked = true → AllRead P ls) :
    AllRead P (if asked then ls else []) := by
  cases asked with
  | false => exact fun _ => nofun
  | true => exact each rfl

theorem propertiesRead {properties : List Property}
    (wordly : ∀ p ∈ properties, Wordly p.name.toList) :
    AllRead (Typed types) (properties.map Property.code) :=
  List.forall_mem_map.mpr fun p member => propertyRead (wordly p member)

section
variable (spelled : Server.Spelled (fun name => Wordly name.toList) s.table)
  (exports : Exports types s)
include spelled exports

theorem typesTyped (columns : ∀ c ∈ s.table.columns, isPlainIdentifier c.name = true) :
    AllRead (Typed types) (Types.of s).code := by
  have type := spelled.type
  have starless : Server.Spelled (fun name => '*' ∉ name.toList) s.table :=
    spelled.mono fun wordly => wordly.without (by decide)
  have named {cs : List ColumnShape} (within : ∀ c ∈ cs, c ∈ s.table.columns)
      (optional : ColumnShape → Bool) :
      ∀ p ∈ cs.map fun c => Property.ofColumn s c (optional c), Wordly p.name.toList :=
    List.forall_mem_map.mpr fun c member => camelWordly (columns c (within c member))
  have writable : ∀ c ∈ s.writable, c ∈ s.table.columns := fun c member =>
    (List.mem_filter.mp member).1
  have word {name : String} (wordly : Wordly name.toList) (member : name ∈ types) :=
    fitsType wordly member
  refine .append (.append (.append (.append (.append (.append ?head ?row) ?create) ?update)
    ?params) ?page) ?stats
  case head =>
    have fixed : AllRead (Typed types) [plain generatedNotice, blank] :=
      fixedRead (by decide)
    exact fixed.append (List.forall_mem_singleton.mpr (docRead (docFree starless)))
  case row =>
    exact interfaceTyped type exports.row (propertiesRead (named (fun _ member => member) _))
  case create =>
    refine optionRead fun properties given => ?_
    by_cases needed : s.needsCreateShape = true
    · obtain rfl := Option.some.inj ((if_pos needed).symm.trans given)
      exact spacedRead (interfaceTyped (Go.wordlyBefore (Go.wordlyAfter (by decide) type)
        (by decide)) (exports.create needed) (propertiesRead (named writable _)))
    · cases (if_neg needed).symm.trans given
  case update =>
    refine optionRead fun properties given => ?_
    by_cases asked : s.has .update = true
    · obtain rfl := Option.some.inj ((if_pos asked).symm.trans given)
      exact spacedRead (interfaceTyped (Go.wordlyBefore (Go.wordlyAfter (by decide) type)
        (by decide)) (exports.update asked) (propertiesRead (named writable _)))
    · cases (if_neg asked).symm.trans given
  case params =>
    refine optionRead fun properties given => ?_
    by_cases needed : s.needsListParams = true
    · obtain rfl := Option.some.inj ((if_pos needed).symm.trans given)
      refine spacedRead (interfaceTyped (Go.wordlyBefore type (by decide)) (exports.params needed)
        (propertiesRead ?_))
      have fixed : ∀ name ∈ ["page", "limit", "sort", "order", "q"], Wordly name.toList := by
        have each : ∀ name ∈ ["page", "limit", "sort", "order", "q"],
            name.toList.all isWordly = true := by decide
        exact fun name known => List.all_eq_true.mp (each name known)
      have filters : ∀ c ∈ s.filterColumns, Wordly c.name.toList := fun c member =>
        (spelled.columns c (TableShape.namedMember member)).1
      intro p member
      simp only [Types.paramProperties, List.mem_append, List.mem_cons, List.not_mem_nil, or_false,
        List.mem_map] at member
      rcases member with ((rfl | rfl | rfl | rfl) | searched) | ⟨c, member, rfl⟩
      · exact fixed _ (by simp)
      · exact fixed _ (by simp)
      · exact fixed _ (by simp)
      · exact fixed _ (by simp)
      · split at searched
        · obtain rfl := List.mem_singleton.mp searched
          exact fixed _ (by simp)
        · contradiction
      · exact filters c member
    · cases (if_neg needed).symm.trans given
  case page =>
    refine askedRead fun needed => spacedRead (interfaceTyped (Go.wordlyBefore type (by decide))
      (exports.page needed) (List.forall_mem_cons.mpr ⟨?_, fixedRead (by decide)⟩))
    refine (spelledLine knownTyped (.fixed (.own (.fixed .nil ?_) (word type exports.row _ ?_))
      ?_)).reads <;> decide
  case stats =>
    exact askedRead fun asked => spacedRead (interfaceTyped (Go.wordlyBefore type (by decide))
      (exports.stats asked) (fixedRead (by decide)))

omit spelled exports in
theorem listedRead {names : List String}
    (each : ∀ name ∈ names, Wordly name.toList ∧ name ∈ types) :
    Reads (Typed types) (lineText (separated ", " (names.map own))).toList ' ' := by
  have comma : Reads (Typed types) ", ".toList 'a' := readsCheck knownTyped (by decide)
  induction names with
  | nil => exact readsNil
  | cons name rest ih =>
      obtain ⟨⟨wordly, member⟩, others⟩ := List.forall_mem_cons.mp each
      cases rest with
      | nil =>
          have single : (lineText (separated ", " ([name].map own))).toList = name.toList := by
            simp [separated, own]
          rw [single]
          exact (fitsType wordly member ' ' (by decide)).fits.reads
      | cons next more =>
          have split : (lineText (separated ", " ((name :: next :: more).map own))).toList =
              name.toList ++ (", ".toList ++
                (lineText (separated ", " ((next :: more).map own))).toList) := by
            simp [separated, own]
          rw [split]
          exact (fitsType wordly member ',' (by decide)).fits.reads.append
            ((comma.apart _).append (ih others))

omit spelled in
theorem importedKnown (type : Wordly s.typeName.toList) :
    ∀ name ∈ Api.importedTypes s, Wordly name.toList ∧ name ∈ types := by
  intro name member
  simp only [Api.importedTypes, List.mem_append, List.mem_ite_nil_right, List.mem_singleton]
    at member
  rcases member with ((((rfl | ⟨needed, rfl⟩) | ⟨asked, rfl⟩) | ⟨needed, rfl⟩) | ⟨needed, rfl⟩) |
    ⟨asked, rfl⟩
  · exact ⟨type, exports.row⟩
  · exact ⟨Go.wordlyBefore (Go.wordlyAfter (by decide) type) (by decide), exports.create needed⟩
  · exact ⟨Go.wordlyBefore (Go.wordlyAfter (by decide) type) (by decide), exports.update asked⟩
  · exact ⟨Go.wordlyBefore type (by decide), exports.params needed⟩
  · exact ⟨Go.wordlyBefore type (by decide), exports.page needed⟩
  · exact ⟨Go.wordlyBefore type (by decide), exports.stats asked⟩

omit spelled in
theorem importRead (type : Wordly s.typeName.toList) {stem : String} (wordly : Wordly stem.toList) :
    Reads (Typed types) (lineText (line ["import type \x7b ",
      separated ", " ((Api.importedTypes s).map own), " \x7d from '../types/", stem,
      "';"])).toList '\n' := by
  have fixed :
      ∀ s ∈ ["import type \x7b ", " \x7d from ", ";"], check known 'a' s.toList = true := by
    decide
  have part {s : String} (member : s ∈ ["import type \x7b ", " \x7d from ", ";"]) (n : Char) :
      Reads (Typed types) s.toList n :=
    (readsCheck knownTyped (fixed s member) : Reads (Typed types) s.toList 'a').apart n
  have bare : ∀ c ∈ stem.toList, c ≠ '\'' ∧ (c ≠ '\\' ∨ Quote.single = .raw) := fun c member =>
    ⟨fun same => wordly.without (by decide) (same ▸ member),
      .inl fun same => wordly.without (by decide) (same ▸ member)⟩
  have path : Inside .single ("../types/".toList ++ stem.toList) :=
    Inside.append (show run _ _ = _ by decide) (insidePlain bare)
  have split : (lineText (line ["import type \x7b ",
      separated ", " ((Api.importedTypes s).map own), " \x7d from '../types/", stem,
      "';"])).toList = "import type \x7b ".toList ++
        ((lineText (separated ", " ((Api.importedTypes s).map own))).toList ++
          (" \x7d from ".toList ++ (('\'' :: (("../types/".toList ++ stem.toList) ++ ['\''])) ++
            ";".toList))) := by
    simp [line]
  rw [split]
  exact (part (by simp) _).append ((listedRead (importedKnown exports type)).append
    ((part (by simp) _).append ((readsLiteral path _).append (part (by simp) _))))

end

end Client
end RestScaffold
