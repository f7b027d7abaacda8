import RestScaffold.Artifact.Rendering
import RestScaffold.Proofs.Endpoint.Routes
import RestScaffold.Proofs.Text.Identifier
import RestScaffold.Proofs.Text.Layout

/-! What the files that register routes do, read off their text: the last function of such a file,
the functions that it calls and the routes that it binds. -/
namespace RestScaffold
open Catalog Code Layout

namespace Go

def begins (start : String) (l : List Char) : Bool := start.toList.isPrefixOf l

def opensFunction (l : List Char) : Bool := begins "func " l

def lastFunction (text : String) : Option (List Char × List (List Char)) :=
  let back := (Text.lines text.toList).reverse
  match back.dropWhile (!opensFunction ·) with
  | [] => none
  | head :: _ => some (head, (back.takeWhile (!opensFunction ·)).reverse)

def upTo (c : Char) (l : List Char) : String := String.ofList (l.takeWhile (· ≠ c))

def functionName (head : List Char) : String := upTo '(' (head.drop 5)

def declared? (text : String) : Option String := (lastFunction text).map (functionName ·.1)

def statements (text : String) : List (List Char) := ((lastFunction text).map Prod.snd).getD []

def call? (l : List Char) : Option String :=
  if begins "\tRegister" l then some (upTo '(' (l.drop 1)) else none

def calls (text : String) : List String := (statements text).filterMap call?

def binding? (l : List Char) : Option (String × String) :=
  if begins "\tr." l then
    some (upTo '(' (l.drop 3), upTo '"' ((l.dropWhile (· ≠ '"')).drop 1))
  else none

def bindings (text : String) : List (String × String) := (statements text).filterMap binding?

theorem beginsAppend (start : String) (rest : List Char) :
    begins start (start.toList ++ rest) = true :=
  List.isPrefixOf_iff_prefix.mpr (List.prefix_append _ _)

theorem lastFunctionEnd {text : String} {head : List Char} {before body : List (List Char)}
    (lines : Text.lines text.toList = before ++ head :: body) (opens : opensFunction head = true)
    (others : ∀ l ∈ body, opensFunction l = false) : lastFunction text = some (head, body) := by
  have all : ∀ l ∈ body.reverse, (!opensFunction l) = true := fun l member => by
    rw [others l (List.mem_reverse.mp member)]
    rfl
  have back : (Text.lines text.toList).reverse = body.reverse ++ (head :: before.reverse) := by
    rw [lines]
    simp
  have stops : (!opensFunction head) = false := by rw [opens]; rfl
  simp only [lastFunction, back, List.dropWhile_append_of_pos all, List.takeWhile_append_of_pos all]
  rw [List.dropWhile_cons_of_neg (by simp [stops]), List.takeWhile_cons_of_neg (by simp [stops])]
  simp

theorem upToFirst {c : Char} {cs : List Char} (free : c ∉ cs) (rest : List Char) :
    upTo c (cs ++ c :: rest) = String.ofList cs := by
  have before : ∀ d ∈ cs, decide (d ≠ c) = true := fun d member =>
    decide_eq_true fun same => free (same ▸ member)
  rw [upTo, List.takeWhile_append_of_pos before]
  simp

end Go

namespace Code

theorem lineChars (l : Line) : (lineText l).toList = l.flatMap (·.string.toList) := by
  rw [lineText, String.toList_join, List.flatMap_def, List.map_map]
  rfl

theorem fileLines (lines : List Line) : (fileText lines).toList =
    tidyChars (List.intercalate ['\n'] (lines.map fun l => (lineText l).toList)) := by
  rw [fileText, tidy, String.toList_ofList, String.toList_intercalate, List.map_map]
  rfl

theorem plainText (s : String) : lineText (plain s) = s := by
  simp [lineText, plain, Fragment.string]

end Code

namespace Go

variable {f : GoFile} {comment : Option String}
  {head : Line} {body : List Line}

def opening (head : Line) : List Char := ("func " ++ lineText head ++ " \x7b").toList

def inner (l : Line) : List Char := '\t' :: (lineText l).toList

theorem openingSplit (head : Line) :
    opening head = "func ".toList ++ ((lineText head).toList ++ " \x7b".toList) := by
  rw [opening, String.toList_append, String.toList_append, List.append_assoc]

theorem openingText (head : Line) :
    (lineText (line [line ["func ", head], " \x7b"])).toList = opening head := by
  rw [openingSplit, lineChars, lineChars]
  simp only [line, List.flatten_cons, List.flatten_nil, List.append_nil, List.flatMap_append,
    List.append_assoc]
  rfl

theorem functionLines (comment : Option String) (head : Line) (body : List Line) :
    ∃ doc, (function comment head body).map (fun l => (lineText l).toList) =
      doc ++ (opening head :: (body.map inner ++ ["\x7d".toList])) := by
  have inside : (indented "\t" body).map (fun l => (lineText l).toList) = body.map inner := by
    rw [indented, List.map_map]
    refine List.map_congr_left fun l _ => ?_
    rw [Function.comp_apply, lineChars, List.flatMap_cons, inner, lineChars]
    rfl
  have closing : (lineText (plain "\x7d")).toList = "\x7d".toList := congrArg _ (plainText _)
  refine ⟨(blank :: (comment.map fun c => plain ("// " ++ c)).toList).map
    fun l => (lineText l).toList, ?_⟩
  simp only [function, block, Code.block, List.map_append, List.map_cons, List.map_nil,
    List.cons_append, openingText, inside, closing]

theorem functionNamed {name parameters : List Char}
    (text : (lineText head).toList = name ++ '(' :: parameters) (bare : '(' ∉ name) :
    functionName (opening head) = String.ofList name := by
  have named : (opening head).drop 5 = name ++ '(' :: (parameters ++ " \x7b".toList) := by
    rw [openingSplit, text]
    simp
  rw [functionName, named, upToFirst bare]

theorem lastFunctionPrinted (goModule : String) (front : List Line)
    (ends : f.body = front ++ function comment head body)
    (noFeed : '\n' ∉ (lineText head).toList)
    (solid : ∀ l ∈ body, Solid (lineText l).toList) :
    lastFunction (f.text goModule) =
      some (opening head, body.map inner ++ ["\x7d".toList]) := by
  obtain ⟨doc, printed⟩ := functionLines comment head body
  have split : ∃ before, before ≠ [] ∧ (f.lines goModule).map (fun l => (lineText l).toList) =
      before ++ (opening head :: (body.map inner ++ ["\x7d".toList])) := by
    refine ⟨(([plain generatedNotice, blank, plain ("package " ++ f.package)] ++
      GoFile.importLines goModule f.imports ++ front).map fun l => (lineText l).toList) ++ doc,
      by simp, ?_⟩
    rw [List.append_assoc, ← printed, GoFile.lines, ends]
    simp only [List.map_append, List.append_assoc]
  obtain ⟨before, named, whole⟩ := split
  have solid' : ∀ l ∈ opening head :: (body.map inner ++ ["\x7d".toList]), Solid l := by
    have first : Solid (opening head) := by
      have split : opening head =
          ("func ".toList ++ (lineText head).toList ++ [' ']) ++ ['\x7b'] := by
        rw [openingSplit]
        simp
      rw [split]
      exact solidConcat (by simp [noFeed]) (by decide)
    have last : Solid "\x7d".toList := solidConcat List.not_mem_nil (by decide)
    refine List.forall_mem_cons.mpr ⟨first, List.forall_mem_append.mpr
      ⟨List.forall_mem_map.mpr fun l member => ?_, List.forall_mem_singleton.mpr last⟩⟩
    obtain ⟨named', noFeed', noBlank⟩ := solid l member
    refine ⟨by simp [inner], by simp [inner, noFeed'], ?_⟩
    rwa [inner, List.getLast?_cons_of_ne_nil named']
  obtain ⟨kept, lines⟩ := tidyEnd named (by simp) solid'
  rw [← whole, ← fileLines] at lines
  refine lastFunctionEnd lines (openingSplit _ ▸ beginsAppend _ _) fun l member => ?_
  rcases List.mem_append.mp member with own | last
  · obtain ⟨l', -, rfl⟩ := List.mem_map.mp own
    rfl
  · obtain rfl := List.mem_singleton.mp last
    rfl

theorem functionRead (goModule : String) (front : List Line) {name : String}
    {parameters : List Char} (ends : f.body = front ++ function comment head body)
    (text : (lineText head).toList = name.toList ++ '(' :: parameters) (bare : '(' ∉ name.toList)
    (noFeed : '\n' ∉ name.toList ++ '(' :: parameters)
    (solid : ∀ l ∈ body, Solid (lineText l).toList) :
    declared? (f.text goModule) = some name ∧
      statements (f.text goModule) = body.map inner ++ ["\x7d".toList] := by
  have read := lastFunctionPrinted goModule front ends (text ▸ noFeed) solid
  rw [declared?, statements, read, Option.map_some, functionNamed text bare, String.ofList_toList]
  exact ⟨rfl, rfl⟩

theorem bindingRead {method path : List Char} (bare : '(' ∉ method) (bare' : '"' ∉ method)
    (bare'' : '"' ∉ path) (rest : List Char) :
    binding? ("\tr.".toList ++ (method ++ '(' :: '"' :: (path ++ '"' :: rest))) =
      some (String.ofList method, String.ofList path) := by
  have before : ∀ c ∈ "\tr.".toList ++ (method ++ ['(']), decide (c ≠ '"') = true := by
    intro c member
    refine decide_eq_true ?_
    rintro rfl
    simp [bare'] at member
  have quoted : (("\tr.".toList ++ (method ++ '(' :: '"' :: (path ++ '"' :: rest))).dropWhile
      (· ≠ '"')) = '"' :: (path ++ '"' :: rest) := by
    have split : "\tr.".toList ++ (method ++ '(' :: '"' :: (path ++ '"' :: rest)) =
        ("\tr.".toList ++ (method ++ ['('])) ++ '"' :: (path ++ '"' :: rest) := by simp
    rw [split, List.dropWhile_append_of_pos before]
    rfl
  rw [binding?, if_pos (beginsAppend _ _), quoted]
  exact congrArg some (Prod.ext (upToFirst bare _) (upToFirst bare'' _))

theorem callRead {name : List Char} (bare : '(' ∉ name) (rest : List Char) :
    call? ("\tRegister".toList ++ (name ++ '(' :: rest)) =
      some (String.ofList ("Register".toList ++ name)) := by
  have bare' : '(' ∉ "Register".toList ++ name := by simp [bare]
  rw [call?, if_pos (beginsAppend _ _)]
  exact congrArg some (upToFirst bare' rest)

theorem closingRead : call? "\x7d".toList = none ∧ binding? "\x7d".toList = none := by decide

end Go

namespace Text

theorem hexOneLine (width n : Nat) : '\n' ∉ hex width n := by
  have digits : ∀ d < 16, Nat.digitChar d ≠ '\n' := by decide
  induction width generalizing n with
  | zero => exact List.not_mem_nil
  | succ width ih =>
      rw [hex, List.mem_append, List.mem_singleton, not_or]
      exact ⟨ih _, Ne.symm (digits _ (Nat.mod_lt _ (by decide)))⟩

theorem escapeOneLine (c : Char) : '\n' ∉ GoString.escape c := by
  by_cases feed : c = '\n'
  · subst feed
    decide
  · unfold GoString.escape
    split_ifs <;> simp [hexOneLine, Ne.symm feed]

theorem quoteOneLine (s : String) : OneLine (GoString.quote s) := by
  have inside : '\n' ∉ s.toList.flatMap GoString.escape := by
    rw [List.mem_flatMap]
    rintro ⟨c, -, feed⟩
    exact escapeOneLine c feed
  simpa [OneLine, GoString.quote, GoString.encode] using inside

theorem decimalOneLine (n : Nat) : OneLine n.repr := by
  intro feed
  have digit := Nat.isDigit_of_mem_toDigits (by decide) (by decide) (Nat.toList_repr ▸ feed)
  exact absurd digit (by decide)

end Text

namespace Server
open Text

theorem stringsOneLine (values : List String) : OneLine (Go.strings values) := by
  have listed : OneLine (", ".intercalate (values.map GoString.quote)) :=
    oneLineIntercalate (by decide) (List.forall_mem_map.mpr fun s _ => quoteOneLine s)
  have brackets : OneLine "[]string\x7b" ∧ OneLine "\x7d" := by decide
  unfold Go.strings
  split
  · decide
  · simp [listed, brackets]

theorem callOneLine (c : MiddlewareCall) : OneLine c.text := by
  have comma : OneLine ", " := by decide
  have closing : OneLine ")" := by decide
  cases c with
  | bare middleware => cases middleware <;> decide
  | authorize roles permissions =>
      show OneLine ("mw.Authorize(" ++ Go.strings roles ++ ", " ++ Go.strings permissions ++ ")")
      have opening : OneLine "mw.Authorize(" := by decide
      simp only [oneLineAppend]
      exact ⟨⟨⟨⟨opening, stringsOneLine _⟩, comma⟩, stringsOneLine _⟩, closing⟩
  | rateLimit perMinute =>
      show OneLine ("mw.RateLimit(" ++ perMinute.repr ++ ")")
      have opening : OneLine "mw.RateLimit(" := by decide
      simp only [oneLineAppend]
      exact ⟨⟨opening, decimalOneLine _⟩, closing⟩
  | audit table action =>
      show OneLine ("mw.Audit(" ++ GoString.quote table ++ ", " ++ GoString.quote action ++ ")")
      have opening : OneLine "mw.Audit(" := by decide
      simp only [oneLineAppend]
      exact ⟨⟨⟨⟨opening, quoteOneLine _⟩, comma⟩, quoteOneLine _⟩, closing⟩
  | cache ttlSeconds =>
      show OneLine ("mw.Cache(" ++ ttlSeconds.repr ++ ")")
      have opening : OneLine "mw.Cache(" := by decide
      simp only [oneLineAppend]
      exact ⟨⟨opening, decimalOneLine _⟩, closing⟩

theorem handlerOneLine (k : EndpointKind) {table : String} (plain : OneLine (Naming.pascal table)) :
    OneLine (k.handler table) := by
  have fixed : ∀ s ∈ ["List", "Create", "Get", "Update", "Delete", "BulkCreate", "Search", "Stats",
      "Export"], OneLine s := by decide
  cases k <;> simp [EndpointKind.handler, plain, fixed]

theorem pathUnescaped (k : EndpointKind) {table : String}
    (plain : Naming.isPlainIdentifier table = true) :
    GoString.Unescaped (k.path table).toList := by
  have slash : GoString.Unescaped "/".toList := by decide
  have ending : GoString.Unescaped k.ending.toList := by cases k <;> decide
  rw [EndpointKind.pathEnding, String.toList_append, String.toList_append]
  exact GoString.unescapedAppend.mpr ⟨slash, GoString.unescapedAppend.mpr
    ⟨Naming.wordlyUnescaped (Naming.lowerWordly plain), ending⟩⟩

theorem intercalateHead (separator first : String) (rest : List String) :
    ∃ more, separator.intercalate (first :: rest) = first ++ more := by
  cases rest with
  | nil => exact ⟨"", by simp⟩
  | cons second rest => exact ⟨_, by rw [String.intercalate_cons_cons, String.append_assoc]⟩

theorem methodBare (m : Method) : '(' ∉ m.name.toList ∧ '"' ∉ m.name.toList ∧ OneLine m.name := by
  cases m <;> decide

theorem methodNames : Function.Injective Method.name := by
  intro m n
  cases m <;> cases n <;> decide

theorem registrationSolid {r : Registration} (handler : OneLine r.handler) :
    Solid (lineText (Routes.registrationCode r)).toList := by
  have fixed : ∀ s ∈ ["r.", "(", ", ", "h.", ")"], OneLine s := by decide
  have arguments : OneLine (", ".intercalate (GoString.quote r.path ::
      r.chain.map MiddlewareCall.text ++ ["h." ++ r.handler])) :=
    oneLineIntercalate (by decide) (List.forall_mem_append.mpr
      ⟨List.forall_mem_cons.mpr ⟨quoteOneLine _, List.forall_mem_map.mpr fun c _ => callOneLine c⟩,
        by simp [handler, fixed]⟩)
  have whole : OneLine ("r." ++ r.method.name ++ "(" ++ ", ".intercalate (GoString.quote r.path ::
      r.chain.map MiddlewareCall.text ++ ["h." ++ r.handler])) := by
    simp only [oneLineAppend, arguments, (methodBare r.method).2.2, and_true]
    decide
  rw [Routes.registrationCode, plainText, String.toList_append]
  exact solidConcat whole (by decide)

theorem registrationRead {r : Registration} (unescaped : GoString.Unescaped r.path.toList) :
    Go.binding? (Go.inner (Routes.registrationCode r)) = some (r.method.name, r.path) := by
  obtain ⟨bare, bare', -⟩ := methodBare r.method
  obtain ⟨more, listed⟩ := intercalateHead ", " (GoString.quote r.path)
    (r.chain.map MiddlewareCall.text ++ ["h." ++ r.handler])
  have read := Go.bindingRead bare bare' unescaped.noQuote (more.toList ++ [')'])
  rw [String.ofList_toList, String.ofList_toList] at read
  rw [← read, Go.inner, Routes.registrationCode, plainText, List.cons_append, listed]
  simp [unescaped.quoted]

theorem wordlyOneLine {s : String} (wordly : Naming.Wordly s.toList) : OneLine s :=
  wordly.without (by decide)

theorem routesHead {typeName : String} (wordly : Naming.Wordly typeName.toList) :
    ∃ parameters, (lineText (line [declared (registerName typeName), "(r ",
        imported .gin "IRouter", ", h *", imported .handlers (handlerName typeName), ", mw ",
        own "Middleware", ")"])).toList = (registerName typeName).toList ++ '(' :: parameters ∧
      '\n' ∉ (registerName typeName).toList ++ '(' :: parameters := by
  have noFeed : '\n' ∉ typeName.toList := wordly.without (by decide)
  refine ⟨"r gin.IRouter, h *handlers.".toList ++ (handlerName typeName).toList ++
    ", mw Middleware)".toList, ?_, ?_⟩
  · simp [lineChars, line, declared, imported, own, Fragment.string, Package.name]
  · simp [registerName, handlerName, noFeed]

theorem routesRead {s : Subject} (goModule : String) (wordly : Naming.Wordly s.typeName.toList)
    (plan : ∀ e ∈ s.plan, GoString.Unescaped e.path.toList ∧ OneLine e.handler) :
    Go.declared? ((Routes.of s).file.text goModule) = some (registerName s.typeName) ∧
      Go.bindings ((Routes.of s).file.text goModule) =
        s.plan.map fun e => (e.method.name, e.path) := by
  have bare : '(' ∉ (registerName s.typeName).toList := by
    have own : '(' ∉ s.typeName.toList := wordly.without (by decide)
    simp [registerName, own]
  have solid : ∀ l ∈ (Routes.of s).registrations.map Routes.registrationCode,
      Solid (lineText l).toList :=
    List.forall_mem_map.mpr (List.forall_mem_map.mpr fun e member =>
      registrationSolid (plan e member).2)
  obtain ⟨parameters, head, noFeed⟩ := routesHead wordly
  have ends : (Routes.of s).file.body = [] ++ (Routes.of s).code := rfl
  obtain ⟨named, statements⟩ := Go.functionRead goModule [] ends head bare noFeed solid
  refine ⟨named, ?_⟩
  have inside : ((Routes.of s).registrations.map Routes.registrationCode).filterMap
      (Go.binding? ∘ Go.inner) = s.plan.map fun e => (e.method.name, e.path) := by
    rw [List.filterMap_map, Routes.of, List.filterMap_map]
    refine List.filterMap_eq_map_iff_forall_eq_some.mpr fun e member => ?_
    rw [Function.comp_apply, Function.comp_apply]
    exact registrationRead (plan e member).1
  rw [Go.bindings, statements, List.filterMap_append, List.filterMap_map, inside,
    List.filterMap_cons_none Go.closingRead.2, List.filterMap_nil, List.append_nil]

theorem planRead {s : Subject} (goModule : String)
    (plain : Naming.isPlainIdentifier s.table.name = true)
    (planned : Plan.endpoints s.table s.policy = .ok s.plan) :
    Go.declared? ((Routes.of s).file.text goModule) = some (registerName s.typeName) ∧
      Go.bindings ((Routes.of s).file.text goModule) =
        s.plan.map fun e => (e.method.name, e.path) := by
  have wordly : Naming.Wordly s.typeName.toList := Naming.pascalWordly plain
  obtain ⟨kinds, -, plan⟩ := Plan.endpointsOk planned
  refine routesRead goModule wordly ?_
  rw [plan]
  exact List.forall_mem_map.mpr fun k _ =>
    ⟨pathUnescaped k plain, handlerOneLine k (wordlyOneLine wordly)⟩

theorem planOwn {t : TableShape} {p : Policy} {plan : List Endpoint}
    (plain : Naming.isPlainIdentifier t.name = true) (planned : Plan.endpoints t p = .ok plan) :
    (plan.map fun e => (e.method.name, e.path)).Nodup ∧
      ∀ e ∈ plan, EndpointKind.collection e.path = lower t.name := by
  constructor
  · have split : (plan.map fun e => (e.method.name, e.path)) =
        (plan.map Endpoint.routeKey).map (Prod.map Method.name id) := by
      rw [List.map_map]
      rfl
    rw [split]
    exact (Plan.routesDistinct planned).map fun one other same =>
      Prod.ext (methodNames (Prod.mk.inj same).1) (Prod.mk.inj same).2
  · intro e member
    rw [(Prod.mk.inj (Plan.endpointRoutes planned member)).2]
    exact (EndpointKind.pathSplit plain e.kind).1

theorem tableLine {typeName : String} (wordly : Naming.Wordly typeName.toList) :
    ∃ arguments, '\n' ∉ arguments ∧ (lineText (RoutesIndex.registerTable typeName)).toList =
      "Register".toList ++ (typeName ++ "Routes").toList ++ '(' :: arguments ++ [')'] := by
  have noFeed : '\n' ∉ typeName.toList := wordly.without (by decide)
  refine ⟨"r, handlers.".toList ++ (newHandlerName typeName).toList ++ "(repository.".toList ++
    (newRepositoryName typeName).toList ++ "(db)), mw".toList, ?_, ?_⟩
  · simp [newHandlerName, handlerName, newRepositoryName, repositoryName, noFeed]
  · simp [lineChars, RoutesIndex.registerTable, registerName, line, imported, own, Fragment.string,
      Package.name]

theorem tableSolid {typeName : String} (wordly : Naming.Wordly typeName.toList) :
    Solid (lineText (RoutesIndex.registerTable typeName)).toList := by
  have noFeed : '\n' ∉ typeName.toList := wordly.without (by decide)
  obtain ⟨arguments, noFeed', text⟩ := tableLine wordly
  rw [text]
  exact solidConcat (by simp [noFeed, noFeed']) (by decide)

theorem tableRead {typeName : String} (wordly : Naming.Wordly typeName.toList) :
    Go.call? (Go.inner (RoutesIndex.registerTable typeName)) = some (registerName typeName) := by
  have bare : '(' ∉ (typeName ++ "Routes").toList := by
    have own : '(' ∉ typeName.toList := wordly.without (by decide)
    simp [own]
  obtain ⟨arguments, -, text⟩ := tableLine wordly
  have split : Go.inner (RoutesIndex.registerTable typeName) =
      "\tRegister".toList ++ ((typeName ++ "Routes").toList ++ '(' :: (arguments ++ [')'])) := by
    rw [Go.inner, text]
    simp
  rw [split, Go.callRead bare, registerName, String.append_assoc]
  exact congrArg some (String.toList_inj.mp (by simp))

theorem indexHead : (lineText (line [declared "RegisterAll", "(r ", imported .gin "IRouter",
    ", db *", imported .sql "DB", ", mw ", own "Middleware", ")"])).toList =
      "RegisterAll".toList ++ '(' :: "r gin.IRouter, db *sql.DB, mw Middleware)".toList := by
  decide

theorem indexRead (goModule : String) {tables : List String}
    (wordly : ∀ t ∈ tables, Naming.Wordly t.toList) :
    Go.calls ((RoutesIndex.file ⟨tables⟩).text goModule) = tables.map registerName := by
  have ends : (RoutesIndex.file ⟨tables⟩).body = RoutesIndex.code ⟨tables⟩ := rfl
  obtain ⟨-, statements⟩ := Go.functionRead goModule RoutesIndex.middlewareCode ends indexHead
    (by decide) (by decide) (List.forall_mem_map.mpr fun t member => tableSolid (wordly t member))
  have inside : (tables.map RoutesIndex.registerTable).filterMap (Go.call? ∘ Go.inner) =
      tables.map registerName := by
    rw [List.filterMap_map]
    refine List.filterMap_eq_map_iff_forall_eq_some.mpr fun t member => ?_
    rw [Function.comp_apply, Function.comp_apply, tableRead (wordly t member)]
  rw [Go.calls, statements, List.filterMap_append, List.filterMap_map, inside,
    List.filterMap_cons_none Go.closingRead.1, List.filterMap_nil, List.append_nil]

end Server
end RestScaffold
