import RestScaffold.Proofs.Artifact.LegalNames
import RestScaffold.Proofs.Client.References
import RestScaffold.Proofs.Code.Declarations
import RestScaffold.Proofs.Endpoint.Descriptors

/-! The client object has one member for each endpoint of the plan. It sends the method of the
endpoint to its path, with the key of the row in the place of the parameter. -/
namespace RestScaffold.Client
open Catalog Code Layout Naming Text Word

variable {types : List String} {s : Subject} {baseUrl : String} {table : TableShape}

theorem alphanumeric {c : Char} (alphanum : c.isAlphanum = true) : isAlphanumeric c = true := by
  rw [wordlyAlphanumeric (by simp [isWordly, alphanum]), bne_iff_ne]
  rintro rfl
  contradiction

theorem handlerAlphanum (plain : isPlainIdentifier table.name = true) (k : EndpointKind) :
    Alphanum (k.handler table.name).toList := by
  have named : Alphanum (pascal table.name).toList := (pascalForm plain).1
  have fixed : ∀ k ∈ EndpointKind.all, k.wording.1.toList.all Char.isAlphanum = true ∧
      k.wording.2.toList.all Char.isAlphanum = true := by decide
  obtain ⟨before, after⟩ := fixed k (EndpointKind.memAll k)
  rw [EndpointKind.handlerWording, String.toList_append, String.toList_append]
  exact List.forall_mem_append.mpr ⟨List.forall_mem_append.mpr
    ⟨List.all_eq_true.mp before, named⟩, List.all_eq_true.mp after⟩

theorem handlerCapital (k : EndpointKind) (name : String) :
    ∃ c rest, (k.handler name).toList = c :: rest ∧ c.isAlpha = true ∧ upperChar c = [c] := by
  have begins := EndpointKind.handlerHead k name
  have capitals : ∀ k ∈ EndpointKind.all, (k.wording.1.toList.head?.any fun c =>
      c.isAlpha && upperChar c == [c]) = true := by decide
  obtain ⟨c, first, both⟩ := Option.any_eq_true _ _ |>.mp (capitals k (EndpointKind.memAll k))
  have capital : c.isAlpha = true ∧ upperChar c = [c] := by simpa using both
  rw [first] at begins
  obtain ⟨rest, own⟩ := List.head?_eq_some_iff.mp begins
  exact ⟨c, rest, own, capital⟩

theorem handlerRaised (plain : isPlainIdentifier table.name = true) (k : EndpointKind) :
    capitalized (camel (k.handler table.name)).toList = (k.handler table.name).toList := by
  obtain ⟨c, rest, own, -, upper⟩ := handlerCapital k table.name
  have alphanum := handlerAlphanum plain k
  have whole : words (k.handler table.name).toList = [(k.handler table.name).toList] :=
    (wordsFirst (by simp [own]) fun d member => alphanumeric (alphanum d member)).1
  rw [(camelPascal (EndpointKind.handlerPlain k plain)).1, pascal, String.toList_ofList, whole,
    List.flatMap_singleton, own, capitalized, upper]
  rfl

theorem membersDistinct (plain : isPlainIdentifier s.table.name = true)
    (planned : Plan.endpoints s.table s.policy = .ok s.plan) :
    (s.plan.map fun e => camel e.handler).Nodup := by
  have handlers := (Plan.endpointsHold planned).handlers
  have raised : (s.plan.map fun e => camel e.handler).map
      (fun name => String.ofList (capitalized name.toList)) = s.plan.map Endpoint.handler := by
    rw [List.map_map]
    refine List.map_congr_left fun e member => ?_
    rw [Plan.plannedEndpoint planned member]
    exact String.toList_inj.mp ((String.toList_ofList).trans (handlerRaised plain e.kind))
  exact (raised ▸ handlers).of_map _

set_option linter.auxLemma false in
theorem interpolatedOther {c : Char} (other : c ≠ ':') (rest : List Char) :
    Api.interpolated (c :: rest) = c :: Api.interpolated rest := by
  -- The recursion is opened by hand: its equations are too large to be brought up.
  delta Api.interpolated Api.interpolated._f Api.interpolated.match_1
  simp only [List.brecOn.go]
  rw [dif_neg other]

theorem interpolatedKey {cs : List Char} (bare : ':' ∉ cs) :
    Api.interpolated (cs ++ [':', 'i', 'd']) =
      cs ++ "$\x7bencodeURIComponent(String(id))\x7d".toList := by
  induction cs with
  | nil => with_unfolding_all rfl
  | cons c rest ih =>
      obtain ⟨other, later⟩ := not_or.mp (mt List.mem_cons.mpr bare)
      rw [List.cons_append, interpolatedOther (Ne.symm other), ih later]
      rfl

def Targets (e : Endpoint) (target : String) : Prop :=
  if e.kind.isSingular then
    ∃ before, ':' ∉ before.toList ∧ e.path = before ++ ":id" ∧
      target = "`" ++ before ++ "$\x7bencodeURIComponent(String(id))\x7d`"
  else
    ':' ∉ e.path.toList ∧
      (target = ScriptString.quote e.path ∨ target = "`" ++ e.path ++ "$\x7bquery(params)\x7d`")

def pathLetter (c : Char) : Bool := isWordly c || c == '/'

theorem pathSplit {table : String} (plain : isPlainIdentifier table = true) (k : EndpointKind) :
    if k.isSingular then
      ∃ before, (∀ c ∈ before.toList, pathLetter c = true) ∧ k.path table = before ++ ":id"
    else ∀ c ∈ (k.path table).toList, pathLetter c = true := by
  have stem : ∀ c ∈ (lower table).toList, pathLetter c = true := fun c member => by
    simp [pathLetter, lowerWordly plain c member]
  have endings : ∀ ending ∈ ["", "/", "/bulk", "/search", "/stats", "/export"],
      ending.toList.all pathLetter = true := by decide
  have whole {ending : String}
      (known : ending ∈ ["", "/", "/bulk", "/search", "/stats", "/export"]) :
      ∀ c ∈ ("/" ++ (lower table ++ ending)).toList, pathLetter c = true := by
    rw [String.toList_append, String.toList_append]
    exact List.forall_mem_append.mpr ⟨List.all_eq_true.mp (endings "/" (by simp)),
      List.forall_mem_append.mpr ⟨stem, List.all_eq_true.mp (endings ending known)⟩⟩
  have key : "/" ++ (lower table ++ "/:id") = "/" ++ (lower table ++ "/") ++ ":id" :=
    String.toList_inj.mp (by simp)
  rw [k.pathEnding]
  cases k with
  | get | update | delete => exact ⟨_, whole (by simp), key⟩
  | _ => exact whole (by simp [EndpointKind.ending])

theorem pathLetters {t : String} (letters : ∀ c ∈ t.toList, pathLetter c = true) {c : Char}
    (odd : pathLetter c = false) : c ∉ t.toList := fun member => by
  rw [letters c member] at odd
  contradiction

theorem rawLetters {t : String} (letters : ∀ c ∈ t.toList, pathLetter c = true) : Raw t :=
  ⟨pathLetters letters (by decide), pathLetters letters (by decide)⟩

variable {policy : Policy} {n : Char}

theorem memberTargets (k : EndpointKind) (plain : isPlainIdentifier table.name = true) :
    Targets (Plan.endpoint table policy k)
      (lineText (Api.pathCode (Api.member (Plan.endpoint table policy k)))) := by
  have split := pathSplit plain k
  cases k with
  | get | update | delete =>
      obtain ⟨before, letters, own⟩ := split
      have bare : ':' ∉ before.toList := pathLetters letters (by decide)
      refine ⟨before, bare, own, String.toList_inj.mp ?_⟩
      have key := interpolatedKey bare
      simp [Api.pathCode, Api.member, plainText, Plan.endpoint, own, key]
  | create | bulk => exact ⟨pathLetters split (by decide), .inl (plainText _)⟩
  | _ => exact ⟨pathLetters split (by decide), .inr (plainText _)⟩

theorem sendingSpells (types : List String) (policy : Policy) (k : EndpointKind)
    (plain : isPlainIdentifier table.name = true) :
    let m := Api.member (Plan.endpoint table policy k)
    Spells (Typed types) known '>' (line [">(", ScriptString.quote m.method.name, ", ",
      Api.pathCode m, if Api.sendsBody m.kind then ", body" else "", "),"]) := by
  intro m
  have split := pathSplit plain k
  have methods : ∀ m : Method, ScriptString.Unbroken m.name.toList := by
    intro m
    cases m <;> decide
  have method {n : Char} : Part (Typed types) '\'' n (ScriptString.quote m.method.name) :=
    scriptPart (methods m.method)
  have raw {before : String} (letters : ∀ c ∈ before.toList, pathLetter c = true) {ending : String}
      (fixed : Raw ending) : Raw (before ++ ending) := by
    obtain ⟨bare, oneLine⟩ := rawLetters letters
    exact ⟨by simp [bare, fixed.1], oneLineAppend.mpr ⟨oneLine, fixed.2⟩⟩
  cases k with
  | get | update | delete =>
      obtain ⟨before, letters, own⟩ := split
      have bare : ':' ∉ before.toList := pathLetters letters (by decide)
      have path : String.ofList (Api.interpolated m.path.toList) =
          before ++ "$\x7bencodeURIComponent(String(id))\x7d" := by
        refine String.toList_inj.mp ?_
        have key := interpolatedKey bare
        simp [m, Api.member, Plan.endpoint, own, key]
      have key : Raw (String.ofList (Api.interpolated m.path.toList)) :=
        path ▸ raw letters (by decide)
      first
        | refine .fixed (.text (.fixed (.raw
              (.empty (.fixed .nil ?_)) key) ?_) method) ?_ <;> decide
        | refine .fixed (.text (.fixed (.raw (.fixed (.fixed .nil ?_) ?_) key) ?_) method) ?_ <;>
            decide
  | create | bulk =>
      have whole : ScriptString.Unbroken m.path.toList := fun c member =>
        ⟨fun same => pathLetters split (by decide) (same ▸ member),
          fun same => pathLetters split (by decide) (same ▸ member)⟩
      refine .fixed (.text (.fixed (.text (.fixed (.fixed .nil ?_) ?_) (scriptPart whole)) ?_)
        method) ?_ <;> decide
  | _ =>
      have whole : "`" ++ m.path ++ "$\x7bquery(params)\x7d`" =
          "`" ++ (m.path ++ "$\x7bquery(params)\x7d") ++ "`" := String.toList_inj.mp (by simp)
      have query {n : Char} :
          Part (Typed types) '`' n ("`" ++ m.path ++ "$\x7bquery(params)\x7d`") :=
        whole ▸ rawPart (raw split (by decide))
      refine .fixed (.text (.fixed (.text (.empty (.fixed .nil ?_)) query) ?_) method) ?_ <;> decide

def callCode (a : Api) (m : Member) : Line :=
  line [m.name, ": (", a.memberArguments m.kind, ") => request<", a.memberResult m.kind, ">(",
    ScriptString.quote m.method.name, ", ", Api.pathCode m,
    if Api.sendsBody m.kind then ", body" else "", "),"]

theorem callFits (baseUrl : String) (policy : Policy) (type : Wordly s.typeName.toList)
    (exports : Exports types s) (plain : isPlainIdentifier table.name = true)
    {k : EndpointKind} (planned : s.has k = true) :
    Fits (Typed types) '\n'
      (lineText (callCode (Api.of baseUrl s) (Api.member (Plan.endpoint table policy k)))) := by
  have sending := sendingSpells types policy k plain
  have row := fitsType type exports.row
  have label : FitsWord (Typed types) ':' (camel (k.handler table.name)) :=
    fitsLabel (camelWordly (EndpointKind.handlerPlain k plain)) ':' (by decide)
  have key : ∀ n, inWord n = false → FitsWord (Typed types) n (Api.of baseUrl s).keyType.text := by
    intro n outside
    have typed : (Api.of baseUrl s).keyType = .number ∨ (Api.of baseUrl s).keyType = .string := by
      simp only [Api.of, keyType]
      split <;> simp
    rcases typed with own | own
    · rw [own]
      exact fitsSmall (Go.wordlyFixed (by decide)) rfl (by decide) n outside
    · rw [own]
      exact fitsSmall (Go.wordlyFixed (by decide)) rfl (by decide) n outside
  refine (?_ : Spells (Typed types) known 'a' _ → Fits _ _ _) ?_
  · exact spelledLine knownTyped
  cases k with
  | list | search =>
      have params := fitsType (Go.wordlyBefore type (by decide)) (exports.params (by
        simp [Subject.needsListParams, Subject.listsRows, planned]))
      have page := fitsType (Go.wordlyBefore type (by decide)) (exports.page (by
        simp [Subject.needsPageShape, planned]))
      refine .word (.fixed (.fixed (.own (.fixed (.fixed (.own sending (page _ ?_)) ?_) ?_)
        (params _ ?_)) ?_) ?_) label <;> decide
  | stats =>
      have params := fitsType (Go.wordlyBefore type (by decide)) (exports.params (by
        simp [Subject.needsListParams, planned]))
      have stats := fitsType (Go.wordlyBefore type (by decide)) (exports.stats planned)
      refine .word (.fixed (.fixed (.own (.fixed (.fixed (.own sending (stats _ ?_)) ?_) ?_)
        (params _ ?_)) ?_) ?_) label <;> decide
  | get =>
      refine .word (.fixed (.split (.fixed (.word (.fixed (.own sending (row _ ?_)) ?_) (key _ ?_))
        ?_)) ?_) label <;> decide
  | delete =>
      refine .word (.fixed (.split (.fixed (.word (.fixed (.fixed sending ?_) ?_) (key _ ?_))
        ?_)) ?_) label <;> decide
  | create =>
      have body := fitsType (Go.wordlyBefore (Go.wordlyAfter (by decide) type) (by decide))
        (exports.create (by simp [Subject.needsCreateShape, planned]))
      refine .word (.fixed (.fixed (.own (.fixed (.own sending (row _ ?_)) ?_) (body _ ?_)) ?_) ?_)
        label <;> decide
  | bulk =>
      have body := fitsType (Go.wordlyBefore (Go.wordlyAfter (by decide) type) (by decide))
        (exports.create (by simp [Subject.needsCreateShape, planned]))
      refine .word (.fixed (.fixed (.own (.fixed (.fixed (.own (.fixed sending ?_) (row _ ?_)) ?_)
        ?_) (body _ ?_)) ?_) ?_) label <;> decide
  | update =>
      have body := fitsType (Go.wordlyBefore (Go.wordlyAfter (by decide) type) (by decide))
        (exports.update planned)
      refine .word (.fixed (.split (.fixed (.word (.fixed (.own (.fixed (.own sending
          (row _ ?_)) ?_)
        (body _ ?_)) ?_) (key _ ?_)) ?_)) ?_) label <;> decide
  | _ =>
      have params := fitsType (Go.wordlyBefore type (by decide)) (exports.params (by
        simp [Subject.needsListParams, Subject.listsRows, planned]))
      refine .word (.fixed (.fixed (.own (.fixed (.fixed (.own (.fixed sending ?_)
          (row _ ?_)) ?_) ?_)
        (params _ ?_)) ?_) ?_) label <;> decide

theorem requestRead : AllRead (Typed types) Api.requestCode := by
  refine .headed (.fixed (.fixed .nil ?_) ?_) (.append (.append (.append (.append ?fetch
    (.headed (.fixed (.fixed .nil ?_) ?_) ?failed))
    (.headed (.fixed (.fixed .nil ?_) ?_) (.spelled (.fixed .nil ?_) .nil)))
    (.headed (.fixed (.fixed .nil ?_) ?_) (.spelled (.fixed .nil ?_) .nil)))
    (.spelled (.fixed .nil ?_) .nil))
  case fetch =>
    refine .spelled (.fixed .nil ?_) (.spelled (.fixed .nil ?_) (.spelled (.fixed .nil ?_) (.spelled
      (.split (.fixed (.fixed .nil ?_) ?_)) (.spelled (.fixed .nil ?_) (.spelled (.fixed .nil ?_)
        .nil))))) <;> decide
  -- The template of the error goes from one literal into the next.
  case failed => exact fixedRead (by decide +kernel)
  all_goals decide

theorem queryRead : AllRead (Typed types) Api.queryCode := by
  refine .spelled .nil (.headed (.fixed (.fixed .nil ?_) ?_) (.append (.append
    (.spelled (.fixed .nil ?_) .nil) (.headed (.fixed (.fixed .nil ?_) ?_)
      (.headed (.fixed (.fixed .nil ?_) ?_) (.spelled (.fixed .nil ?_) .nil))))
    (.spelled (.fixed .nil ?_) (.spelled (.fixed .nil ?_) .nil))))
  all_goals decide

theorem descriptionPlain (k : EndpointKind) (policy : Policy) {c : Char}
    (odd : c ∈ ['*', '\n']) (absent : c ∉ table.name.toList) :
    c ∉ (Plan.description k table policy).toList := by
  simp only [List.mem_cons, List.not_mem_nil, or_false] at odd
  rcases odd with rfl | rfl
  all_goals
    delta Plan.description
    cases k with
    | delete | search =>
        dsimp only
        split <;> simp [toString, absent]
    | _ => simp [toString, absent]

section
variable (spelled : Server.Spelled (fun name => Wordly name.toList) s.table)
  (exports : Exports types s) (plain : isPlainIdentifier s.table.name = true)
  (planned : Plan.endpoints s.table s.policy = .ok s.plan)
include spelled exports plain planned

theorem apiRead (baseUrl : String) : AllRead (Typed types) (Api.of baseUrl s).code := by
  have type := spelled.type
  have stem : Wordly s.stem.toList := lowerWordly plain
  have maker : Wordly (newApiName s.typeName).toList :=
    Go.wordlyBefore (Go.wordlyAfter (by decide) type) (by decide)
  have made (n : Char) (outside : inWord n = false) :
      FitsWord (Typed types) n (newApiName s.typeName) :=
    fitsSmall (c := 'c') maker (by simp [newApiName]) (by decide) n outside
  have starless : '*' ∉ s.table.name.toList := spelled.name.without (by decide)
  refine .append (.append ?front (.block _ ?head (.append (.append ?request ?query) ?object))) ?last
  case front =>
    have notice : Reads (Typed types) (lineText (Code.plain generatedNotice)).toList '\n' :=
      readsCheck knownTyped (by decide)
    have bare : '*' ∉ ("Fetch wrappers for the " ++ s.stem ++ " endpoints.").toList := by
      have own : '*' ∉ s.stem.toList := stem.without (by decide)
      simp [own]
    have same : "/** Fetch wrappers for the " ++ s.stem ++ " endpoints. */" =
        "/** " ++ ("Fetch wrappers for the " ++ s.stem ++ " endpoints.") ++ " */" :=
      String.toList_inj.mp (by simp)
    have doc : Reads (Typed types) (lineText (Code.plain ("/** Fetch wrappers for the " ++ s.stem ++
        " endpoints. */"))).toList '\n' := by
      rw [same]
      exact starlessRead bare
    exact List.forall_mem_cons.mpr ⟨notice, spacedRead (List.forall_mem_cons.mpr
      ⟨importRead exports type stem, spacedRead (List.forall_mem_singleton.mpr doc)⟩)⟩
  case head =>
    have opening : Reads (Typed types) "export function ".toList 'a' :=
      readsCheck knownTyped (by decide)
    have base : Reads (Typed types) "(baseUrl: string = ".toList 'a' :=
      readsCheck knownTyped (by decide)
    have ending : Reads (Typed types) ", init: RequestInit = \x7b\x7d) \x7b".toList '\n' :=
      readsCheck knownTyped (by decide)
    have split : (lineText (line [line ["export function ", declared (newApiName s.typeName),
        "(baseUrl: string = ", ScriptString.quote baseUrl, ", init: RequestInit = \x7b\x7d)"],
        " \x7b"])).toList = "export function ".toList ++ ((newApiName s.typeName).toList ++
          ("(baseUrl: string = ".toList ++ ((ScriptString.quote baseUrl).toList ++
            ", init: RequestInit = \x7b\x7d) \x7b".toList))) := by
      simp [line, declared]
    exact split ▸ (opening.apart _).append ((made '(' (by decide)).fits.reads.append
      ((base.apart _).append ((readsScriptString baseUrl _).append ending)))
  case request => exact requestRead
  case query => exact askedRead fun _ => queryRead
  case object =>
    have shift : Shift "  " := by decide
    refine .append (.append (fixedRead (by decide)) (.indented shift fun l member => ?_))
      (fixedRead (by decide))
    obtain ⟨m, known, inside⟩ := List.mem_flatMap.mp member
    obtain ⟨e, own, rfl⟩ := List.mem_map.mp known
    have asked : s.has e.kind = true := Server.plannedKind own
    rw [Plan.plannedEndpoint planned own] at inside
    rcases List.mem_cons.mp inside with rfl | last
    · exact starlessRead (descriptionPlain e.kind s.policy (by simp) starless)
    · obtain rfl := List.mem_singleton.mp last
      exact (callFits _ _ type exports plain asked).reads
  case last =>
    have named := fitsType (Go.wordlyBefore type (by decide)) exports.api
    refine spacedRead (List.forall_mem_singleton.mpr (spelledLine knownTyped (.fixed (.declared
      (.fixed (.own (.fixed .nil ?_) (made _ ?_)) ?_) (named _ ?_)) ?_)).reads) <;> decide

end

def objectRows (text : String) : List (List Char) :=
  ((((rows text.toList).reverse.dropWhile (· ≠ "  \x7d;".toList)).drop 1).takeWhile
    (· ≠ "  return \x7b".toList)).reverse

def members (text : String) : List (List Char) :=
  (objectRows text).filter fun row => !Go.begins "    /**" row

def calling (a : Api) (e : Endpoint) (target : String) : String :=
  String.join ["    ", camel e.handler, ": (", lineText (a.memberArguments e.kind),
    ") => request<", lineText (a.memberResult e.kind), ">(", ScriptString.quote e.method.name, ", ",
    target, if e.kind.isValidated then ", body" else "", "),"]

theorem objectRead {text : String} {above inside below : List (List Char)}
    (split : rows text.toList = above ++ ("  return \x7b".toList ::
      (inside ++ ("  \x7d;".toList :: below))))
    (own : ∀ row ∈ inside, row ≠ "  return \x7b".toList)
    (others : ∀ row ∈ below, row ≠ "  \x7d;".toList) : objectRows text = inside := by
  have reversed : (rows text.toList).reverse = below.reverse ++ ("  \x7d;".toList ::
      (inside.reverse ++ ("  return \x7b".toList :: above.reverse))) := by
    rw [split]
    simp only [List.reverse_append, List.reverse_cons, List.append_assoc, List.nil_append,
      List.cons_append]
  have after : ∀ row ∈ below.reverse, decide (row ≠ "  \x7d;".toList) = true := fun row member =>
    decide_eq_true (others row (List.mem_reverse.mp member))
  have within : ∀ row ∈ inside.reverse, decide (row ≠ "  return \x7b".toList) = true :=
    fun row member => decide_eq_true (own row (List.mem_reverse.mp member))
  rw [objectRows, reversed, List.dropWhile_append_of_pos after,
    List.dropWhile_cons_of_neg (by simp), List.drop_succ_cons, List.drop_zero,
    List.takeWhile_append_of_pos within, List.takeWhile_cons_of_neg (by simp), List.append_nil,
    List.reverse_reverse]

section
variable (a : Api) {e : Endpoint}

def memberTexts (e : Endpoint) : List String :=
  ["    /** " ++ e.description ++ " */", "    " ++ lineText (callCode a (Api.member e))]

theorem memberRows (plan : List Endpoint) :
    (indented "  " (indented "  " ((plan.map Api.member).flatMap a.memberCode))).map lineText =
      plan.flatMap (memberTexts a) := by
  have twice (t : String) : "  " ++ ("  " ++ t) = "    " ++ t := String.toList_inj.mp (by simp)
  simp only [indented, List.map_map, List.flatMap_map, List.map_flatMap]
  refine List.flatMap_congr fun e _ => ?_
  have doc : lineText (plain ("/** " ++ (Api.member e).description ++ " */")) =
      "/** " ++ e.description ++ " */" := plainText _
  have text : "    " ++ ("/** " ++ e.description ++ " */") = "    /** " ++ e.description ++ " */" :=
    String.toList_inj.mp (by simp)
  have lines : a.memberCode (Api.member e) = [plain ("/** " ++ (Api.member e).description ++ " */"),
      callCode a (Api.member e)] := rfl
  rw [lines, memberTexts]
  simp only [List.map_cons, List.map_nil, Function.comp_apply, textCons, Fragment.stringText, doc,
    twice, text]

theorem indentedAppend (step : String) (ls more : List Line) :
    indented step (ls ++ more) = indented step ls ++ indented step more := List.map_append

theorem codeSplit : ∃ opened, a.code = opened ++ [.text "  " :: plain "return \x7b"] ++
    indented "  " (indented "  " (a.members.flatMap a.memberCode)) ++
      [.text "  " :: plain "\x7d;"] ++
    [plain "\x7d", blank, line ["export type ", declared (apiName a.typeName),
      " = ReturnType<typeof ", own (newApiName a.typeName), ">;"]] := by
  have object : indented "  " a.objectCode =
      [.text "  " :: blank, .text "  " :: plain "return \x7b"] ++
        indented "  " (indented "  " (a.members.flatMap a.memberCode)) ++
          [.text "  " :: plain "\x7d;"] := by
    rw [Api.objectCode, indentedAppend, indentedAppend]
    rfl
  rw [Api.code, Code.block, indentedAppend, object]
  generalize indented "  " (Api.requestCode ++ if a.queries then Api.queryCode else []) = helpers
  generalize indented "  " (indented "  " (a.members.flatMap a.memberCode)) = inside
  generalize line [line ["export function ", _, _, _, _], " \x7b"] = head
  exact ⟨[_, _, _, _, _] ++ head :: helpers ++ [.text "  " :: blank], by
    simp only [List.append_assoc, List.cons_append, List.nil_append]; rfl⟩

theorem callingText (e : Endpoint) : "    " ++ lineText (callCode a (Api.member e)) =
    calling a e (lineText (Api.pathCode (Api.member e))) := by
  rw [callCode, lineJoins, calling, String.join_cons]
  simp only [List.map_cons, List.map_nil, textCons, textNil, Fragment.stringText,
    String.append_empty, apply_ite lineText]
  rfl

end

theorem fixedRow {t : String} {c : Char} (oneLine : OneLine t) (ends : t.toList.getLast? = some c)
    (full : isBlank c = false) : Solid t.toList := by
  refine ⟨fun none => ?_, oneLine, fun d last => ?_⟩
  · rw [none] at ends
    contradiction
  · rw [ends] at last
    exact Option.some.inj last ▸ full

theorem objectPrinted {ls opened inside closed : List Line} {texts : List String}
    (code : ls = opened ++ [.text "  " :: plain "return \x7b"] ++ inside ++
      [.text "  " :: plain "\x7d;"] ++ closed)
    (own : inside.map lineText = texts)
    (solid : ∀ t ∈ texts, Solid t.toList ∧ "    ".toList <+: t.toList)
    (below : ∀ t ∈ closed.map lineText, OneLine t ∧ t.toList.head? ≠ some ' ') :
    objectRows (fileText ls) = texts.map String.toList := by
  have returns : rowsOf ([.text "  " :: plain "return \x7b"].map lineText) =
      ["  return \x7b".toList] := by
    have spelled : lineText (.text "  " :: plain "return \x7b") = "  return \x7b" := by decide
    rw [List.map_singleton, spelled]
    exact rowsOfSolid (List.forall_mem_singleton.mpr (fixedRow (by decide) rfl (by decide)))
  have closes : rowsOf ([.text "  " :: plain "\x7d;"].map lineText) = ["  \x7d;".toList] := by
    have spelled : lineText (.text "  " :: plain "\x7d;") = "  \x7d;" := by decide
    rw [List.map_singleton, spelled]
    exact rowsOfSolid (List.forall_mem_singleton.mpr (fixedRow (by decide) rfl (by decide)))
  have split : rows (fileText ls).toList = rowsOf (opened.map lineText) ++
      ("  return \x7b".toList :: (texts.map String.toList ++
        ("  \x7d;".toList :: rowsOf (closed.map lineText)))) := by
    rw [rowsOfFile, code, List.map_append, List.map_append, List.map_append, List.map_append,
      rowsOfAppend, rowsOfAppend, rowsOfAppend, rowsOfAppend, returns, closes, own,
      rowsOfSolid fun t member => (solid t member).1]
    simp only [List.append_assoc, List.cons_append, List.nil_append]
  refine objectRead split (List.forall_mem_map.mpr fun t member same => ?_)
    fun row member same => ?_
  · obtain ⟨rest, begins⟩ := (solid t member).2
    rw [same] at begins
    simp at begins
  · obtain ⟨t, known, inside⟩ := List.mem_flatMap.mp member
    exact (rowHead (below t known).1 inside).trans_ne (below t known).2 (same ▸ rfl)

theorem callingBegins (plain : isPlainIdentifier table.name = true) {k : EndpointKind} {a : Api}
    (target : String) : Go.begins "    /**"
      (calling a (Plan.endpoint table policy k) target).toList = false := by
  have wordly := camelWordly (EndpointKind.handlerPlain k plain)
  have raised := handlerRaised plain k
  obtain ⟨c, tail, own, -⟩ := handlerCapital k table.name
  obtain ⟨rest, text⟩ : ∃ rest, calling a (Plan.endpoint table policy k) target =
      "    " ++ (camel (k.handler table.name) ++ rest) :=
    ⟨_, by rw [calling, String.join_cons, String.join_cons]; rfl⟩
  cases spelled : (camel (k.handler table.name)).toList with
  | nil =>
      rw [spelled, own] at raised
      contradiction
  | cons d more =>
      have other : '/' ≠ d := fun same => by
        rw [spelled, ← same] at wordly
        exact absurd (wordly '/' List.mem_cons_self) (by decide)
      simp [Go.begins, text, spelled, List.isPrefixOf, other]

theorem anyExports (s : Subject) : ∃ types, Exports types s := by
  refine ⟨apiName s.typeName :: Api.importedTypes s, ?_⟩
  constructor <;> simp +contextual [Api.importedTypes]

section
variable (spelled : Server.Spelled (fun name => Wordly name.toList) s.table)
  (plain : isPlainIdentifier s.table.name = true)
  (planned : Plan.endpoints s.table s.policy = .ok s.plan)
include spelled plain planned

theorem memberSolid {e : Endpoint} (member : e ∈ s.plan) :
    ∀ t ∈ memberTexts (Api.of baseUrl s) e, Solid t.toList ∧ "    ".toList <+: t.toList := by
  have feedless : '\n' ∉ s.table.name.toList := spelled.name.without (by decide)
  obtain ⟨types, exports⟩ := anyExports s
  have call := (callFits baseUrl s.policy spelled.type exports plain
    (Server.plannedKind member)).oneLine
  have description : OneLine e.description := by
    rw [Plan.plannedEndpoint planned member]
    exact descriptionPlain e.kind s.policy (by simp) feedless
  rw [← Plan.plannedEndpoint planned member] at call
  have fixed : OneLine "    /** " ∧ OneLine " */" ∧ OneLine "    " := by decide
  have whole : OneLine ("    " ++ lineText (callCode (Api.of baseUrl s) (Api.member e))) :=
    oneLineAppend.mpr ⟨fixed.2.2, call⟩
  rw [memberTexts]
  refine List.forall_mem_cons.mpr ⟨?_, List.forall_mem_singleton.mpr ?_⟩
  · exact ⟨solidEnd (by simp [fixed, description]) rfl (by decide), by simp⟩
  · rw [callingText] at whole ⊢
    exact ⟨solidEnd whole rfl (by decide), by simp [calling]⟩

theorem membersRead (baseUrl : String) : members (fileText (Api.of baseUrl s).code) =
    s.plan.map fun e =>
      (calling (Api.of baseUrl s) e (lineText (Api.pathCode (Api.member e)))).toList := by
  have type := spelled.type
  have maker : OneLine (newApiName s.typeName) := Server.wordlyOneLine
    (Go.wordlyBefore (Go.wordlyAfter (by decide) type) (by decide))
  have named : OneLine (apiName s.typeName) := Server.wordlyOneLine
    (Go.wordlyBefore type (by decide))
  obtain ⟨opened, code⟩ := codeSplit (Api.of baseUrl s)
  have solid : ∀ t ∈ s.plan.flatMap (memberTexts (Api.of baseUrl s)),
      Solid t.toList ∧ "    ".toList <+: t.toList := by
    intro t member
    obtain ⟨e, known, own⟩ := List.mem_flatMap.mp member
    exact memberSolid spelled plain planned known t own
  have below : ∀ t ∈ [Code.plain "\x7d", blank, line ["export type ",
      declared (apiName s.typeName), " = ReturnType<typeof ", own (newApiName s.typeName),
      ">;"]].map lineText, OneLine t ∧ t.toList.head? ≠ some ' ' := by
    have fixed : OneLine "export type " ∧ OneLine " = ReturnType<typeof " ∧ OneLine ">;" ∧
      OneLine "\x7d" ∧ OneLine "" := by decide
    simp [line, declared, own, blank, plainText, fixed, maker, named]
  have object := objectPrinted code (memberRows _ _) solid below
  have kept : ∀ e ∈ s.plan, ((memberTexts (Api.of baseUrl s) e).map String.toList).filter
      (fun row => !Go.begins "    /**" row) =
        [(calling (Api.of baseUrl s) e (lineText (Api.pathCode (Api.member e)))).toList] := by
    intro e member
    have doc : Go.begins "    /**" ("    /** " ++ e.description ++ " */").toList = true := by
      simp [Go.begins]
    have call : Go.begins "    /**" (calling (Api.of baseUrl s) e
        (lineText (Api.pathCode (Api.member e)))).toList = false := by
      rw [Plan.plannedEndpoint planned member]
      exact callingBegins plain _
    rw [memberTexts, callingText, List.map_cons, List.map_singleton,
      List.filter_cons_of_neg (by simpa using doc), List.filter_cons_of_pos (by simpa using call),
      List.filter_nil]
  rw [members, object, List.map_flatMap, List.filter_flatMap, List.flatMap_congr kept]
  exact List.map_eq_flatMap.symm

end

end RestScaffold.Client
