import RestScaffold.Proofs.Generation.Repetition
import RestScaffold.Proofs.Server.Bindings

/-! Which routes the file of all tables binds, by way of the files of the tables that are there.
Paths begin with the names of their tables, so no route is bound twice unless a function is called
twice, and that happens if two tables of one pass have the same type name. -/
namespace RestScaffold.Pass
open Catalog Rendering FileTree

variable {s : Settings} {root : String} {start tree tabled indexed after t : FileTree}
  {shape : TableShape} {shapes : List TableShape} {outcomes : List Outcome} {report : Report}

def routesFile (root : String) (t : FileTree) (stem : String) : Option String :=
  t.text? (base root ++ ["server", "routes", stem ++ "_routes.go"])

def indexFile (root : String) (t : FileTree) : Option String :=
  t.text? (base root ++ Path.names (indexPath .server))

def called (root : String) (t : FileTree) : List String := ((indexFile root t).map Go.calls).getD []

def boundBy (function : String) (file : Option String) : List (String × String) :=
  match file with
  | some text => if Go.declared? text = some function then Go.bindings text else []
  | none => []

def boundRoutes (root : String) (t : FileTree) (stems : List String) : List (String × String) :=
  (called root t).flatMap fun function => stems.flatMap fun stem =>
    boundBy function (routesFile root t stem)

structure BindsOnce (root : String) (t : FileTree) : Prop where
  functions : (called root t).Nodup
  routes : ∀ stems : List String, stems.Nodup → (boundRoutes root t stems).Nodup

def Own (stem text : String) : Prop :=
  (Go.bindings text).Nodup ∧ ∀ b ∈ Go.bindings text, EndpointKind.collection b.2 = stem

def OwnRoutes (root : String) (t : FileTree) : Prop :=
  ∀ stem text, routesFile root t stem = some text → Own stem text

theorem boundSome {function : String} {file : Option String} {b : String × String}
    (member : b ∈ boundBy function file) :
    ∃ text, file = some text ∧ Go.declared? text = some function ∧ b ∈ Go.bindings text := by
  unfold boundBy at member
  split at member
  · split at member
    · exact ⟨_, rfl, ‹_›, member⟩
    · contradiction
  · contradiction

section
variable (own : OwnRoutes root t)
include own

theorem boundStem {function stem : String} {b : String × String}
    (member : b ∈ boundBy function (routesFile root t stem)) :
    EndpointKind.collection b.2 = stem := by
  obtain ⟨text, found, -, inside⟩ := boundSome member
  exact (own stem text found).2 b inside

theorem boundNodup (function stem : String) :
    (boundBy function (routesFile root t stem)).Nodup := by
  unfold boundBy
  split
  · rename_i text found
    split
    · exact (own stem text found).1
    · exact .nil
  · exact .nil

theorem bindsOnceIff : BindsOnce root t ↔ (called root t).Nodup := by
  refine ⟨BindsOnce.functions, fun functions => ⟨functions, fun stems distinct => ?_⟩⟩
  refine List.nodup_flatMap.mpr ⟨fun function _ => List.nodup_flatMap.mpr
    ⟨fun stem _ => boundNodup own function stem, distinct.imp fun different b one other => ?_⟩,
    functions.imp fun different b one other => ?_⟩
  · exact different ((boundStem own one).symm.trans (boundStem own other))
  · obtain ⟨stem, -, inside⟩ := List.mem_flatMap.mp one
    obtain ⟨stem', -, inside'⟩ := List.mem_flatMap.mp other
    obtain rfl : stem = stem' := (boundStem own inside).symm.trans (boundStem own inside')
    obtain ⟨text, found, declared, -⟩ := boundSome inside
    obtain ⟨text', found', declared', -⟩ := boundSome inside'
    obtain rfl : text = text' := Option.some.inj (found.symm.trans found')
    exact different (Option.some.inj (declared.symm.trans declared'))

end

theorem routesFolder {folder ending stem other : String} (holds : Holds folder ending)
    (plain : '/' ∉ stem.toList) (named : Path.names (folder ++ stem ++ ending) =
      ["server", "routes", other ++ "_routes.go"]) :
    Path.names folder = ["server", "routes"] ∧ stem ++ ending = other ++ "_routes.go" := by
  rw [String.append_assoc, fileNames holds plain] at named
  have split : Path.names folder ++ [stem ++ ending] =
      ["server", "routes"] ++ [other ++ "_routes.go"] := named
  obtain ⟨folder, file⟩ := List.append_inj' split rfl
  exact ⟨folder, List.singleton_inj.mp file⟩

theorem routesArtifact {r : Rendering} {subject : Subject} {target : Target} {own : List Artifact}
    {a : Artifact} {stem : String} (plain : Naming.isPlainIdentifier subject.table.name = true)
    (rendered : r.targetArtifacts subject target = .ok own) (member : a ∈ own)
    (named : Path.names a.path = ["server", "routes", stem ++ "_routes.go"]) :
    stem = subject.stem ∧ a.contents = (Server.Routes.of subject).file.text r.goModule := by
  have slashless : '/' ∉ subject.stem.toList := Text.lowerPlain plain (by decide) (by decide)
  have elsewhere : ∀ place ∈ folders .client ++ (folders .server).dropLast,
      Path.names (place.1 ++ subject.stem ++ place.2) ≠
        ["server", "routes", stem ++ "_routes.go"] := by
    intro place known same
    have apart : ∀ place ∈ folders .client ++ (folders .server).dropLast,
        Holds place.1 place.2 ∧ Path.names place.1 ≠ ["server", "routes"] := by decide
    obtain ⟨holds, other⟩ := apart place known
    exact other (routesFolder holds slashless same).1
  cases target with
  | client =>
      cases rendered
      simp only [clientArtifacts, List.mem_cons, List.not_mem_nil, or_false] at member
      rcases member with rfl | rfl
      · exact absurd named (elsewhere ("client/types/", ".ts") (by decide))
      · exact absurd named (elsewhere ("client/api/", ".ts") (by decide))
  | server =>
      simp only [targetArtifacts, serverArtifacts] at rendered
      cases dto : Server.Dto.of subject with
      | error e =>
          rw [dto] at rendered
          cases rendered
      | ok dto' =>
          rw [dto] at rendered
          cases rendered
          simp only [serverFile, List.mem_cons, List.not_mem_nil, or_false] at member
          rcases member with rfl | rfl | rfl | rfl | rfl
          · exact absurd named (elsewhere ("server/models/", ".go") (by decide))
          · exact absurd named (elsewhere ("server/repository/", "_repository.go") (by decide))
          · exact absurd named (elsewhere ("server/dto/", "_dto.go") (by decide))
          · exact absurd named (elsewhere ("server/handlers/", "_handler.go") (by decide))
          · obtain ⟨-, file⟩ := routesFolder (by decide) slashless named
            exact ⟨((String.append_left_inj _).mp file).symm, rfl⟩

def Registers (table : String) (plan : List Endpoint) (text : String) : Prop :=
  Go.declared? text = some (Server.registerName (Naming.pascal table)) ∧
    Go.bindings text = plan.map fun e => (e.method.name, e.path)

theorem textRegisters {f : FileText} {stem : String} (member : f ∈ texts s shape)
    (named : Path.names f.path = ["server", "routes", stem ++ "_routes.go"]) :
    stem = Text.lower shape.name ∧ ∃ plan files, prepare s shape = .ok (some (plan, files)) ∧
      Registers shape.name plan f.contents ∧ Own stem f.contents := by
  unfold texts at member
  split at member
  · rename_i plan files prepared
    obtain ⟨a, artifact, rfl⟩ := List.mem_map.mp member
    obtain ⟨-, planned, rendered⟩ := prepareSome.mp prepared
    obtain ⟨subject, made, rendered⟩ := tableArtifactsMade rendered
    obtain ⟨same, plain, -⟩ := subjectOk made
    obtain ⟨table, planOf⟩ : subject.table = shape ∧ subject.plan = plan := by simp [same]
    have plain' : Naming.isPlainIdentifier subject.table.name = true := by rw [table]; exact plain
    have planned' : Plan.endpoints subject.table subject.policy = .ok subject.plan := by
      rw [same]
      exact planned
    obtain ⟨target, -, own, one, inside⟩ := (memArtifacts rendered).mp artifact
    obtain ⟨stem', contents⟩ := routesArtifact plain' one inside named
    obtain ⟨declared, bound⟩ := Server.planRead s.goModule plain' planned'
    obtain ⟨distinct, collections⟩ := Server.planOwn plain planned
    have stem'' : stem = Text.lower shape.name := by rw [stem', Subject.stem, table]
    have registers : Registers shape.name plan a.contents := by
      rw [contents]
      rw [Subject.typeName, table] at declared
      rw [planOf] at bound
      exact ⟨declared, bound⟩
    refine ⟨stem'', plan, files, prepared, registers, ?_⟩
    show Own stem a.contents
    rw [Own, registers.2, stem'']
    exact ⟨distinct, List.forall_mem_map.mpr collections⟩
  · contradiction

theorem indexApart (target : Target) (stem : String) :
    Path.names (indexPath target) ≠ ["server", "routes", stem ++ "_routes.go"] := by
  have names : Path.names (indexPath target) = ["server", "routes", "routes.go"] ∨
      (Path.names (indexPath target)).length = 2 := by
    cases target <;> decide
  rcases names with server | client
  · rw [server]
    intro same
    have long := congrArg String.length (List.cons.inj (List.cons.inj (List.cons.inj same).2).2).1
    rw [String.length_append] at long
    have short : "routes.go".length < "_routes.go".length := by decide
    omega
  · intro same
    rw [same] at client
    exact absurd client (by simp)

section
variable {here : FileTree.Location} {contents : String}

def Rendered (s : Settings) (here : FileTree.Location) (contents : String) : Prop :=
  ∃ f, ((∃ shape, f ∈ texts s shape) ∨ ∃ names, f ∈ indexTexts s names) ∧
    here = base s.outputRoot ++ Path.names f.path ∧ f.contents = contents

theorem indexedText {result : Except WriteError Unit}
    (tables : Pass.tables s tree shapes = (tabled, outcomes))
    (index : writeIndex s tabled outcomes = (after, result))
    (found : after.text? here = some contents) :
    tree.text? here = some contents ∨ Rendered s here contents := by
  rw [writeAllText (indexWritable s _) index] at found
  rcases Option.or_eq_some_iff.mp found with own | ⟨-, before⟩
  · obtain ⟨f, member, there⟩ := lastTextSome own
    exact .inr ⟨f, .inr ⟨_, (writtenPrefix _ _ _).subset member⟩, there⟩
  · have text := tablesText s tree shapes here
    rw [tables, before] at text
    rcases Option.or_eq_some_iff.mp text.symm with own | ⟨-, before⟩
    · obtain ⟨f, member, there⟩ := lastTextSome own
      obtain ⟨shape, -, inside⟩ := memTablesWritten member
      exact .inr ⟨f, .inl ⟨shape, inside⟩, there⟩
    · exact .inl before

theorem runText (found : (run s tree shapes).1.text? here = some contents) :
    here = Manifest.place s.outputRoot ∨ tree.text? here = some contents ∨
      Rendered s here contents := by
  have removed {indexed : FileTree} {paths : List String}
      (found : (indexed.removeAll s.outputRoot paths).1.text? here = some contents) :
      indexed.text? here = some contents :=
    textIff.mpr (removeAllNodes _ _ _ (textIff.mp found))
  have course := runCourse s tree shapes
  generalize run s tree shapes = result at found course
  obtain ⟨after, result⟩ := result
  cases course with
  | unindexed tables index => exact .inr (indexedText tables index found)
  | unrecorded tables index cleared =>
      rw [cleared] at found
      exact .inr (indexedText tables index (removed found))
  | done tables index record failures =>
      rw [recordText record] at found
      split at found
      · exact .inl ‹_›
      · exact .inr (indexedText tables index (removed found))

end

theorem runOwn (own : OwnRoutes s.outputRoot tree) (shapes : List TableShape) :
    OwnRoutes s.outputRoot (run s tree shapes).1 := by
  intro stem text found
  rcases runText found with record | before | ⟨f, written, there, rfl⟩
  · have short := congrArg List.length (List.append_cancel_left record)
    exact absurd short (by simp)
  · exact own stem text before
  · have named := (List.append_cancel_left there).symm
    rcases written with ⟨shape, member⟩ | ⟨names, member⟩
    · exact (textRegisters member named).2.elim fun _ ⟨_, _, _, own⟩ => own
    · obtain ⟨target, -, rfl⟩ := memIndexTexts.mp member
      exact absurd named (indexApart target stem)

theorem earlierOwn (own : OwnRoutes root start) (earlier : Earlier root start tree) :
    OwnRoutes root tree := by
  induction earlier with
  | none => exact own
  | pass earlier sameRoot shapes ih =>
      subst sameRoot
      exact runOwn ih shapes
  | aside earlier undisturbed ih =>
      intro stem text found
      refine ih stem text ?_
      rw [routesFile, textIff, undisturbed.below] at found
      exact textIff.mpr found

theorem indexesDiffer : ∀ target, Path.names (indexPath .server) = Path.names (indexPath target) →
    target = .server := by
  intro target
  cases target <;> decide

theorem serverIndex (s : Settings) (names : List String) :
    lastText s.outputRoot (base s.outputRoot ++ Path.names (indexPath .server))
        (indexTexts s names) =
      if .server ∈ s.targets then
        some ((Server.RoutesIndex.file ⟨names.map Naming.pascal⟩).text s.goModule)
      else none := by
  split
  · rename_i server
    refine lastTextOnly ⟨_, memIndexTexts.mpr ⟨.server, server, rfl⟩, rfl⟩ fun f member there => ?_
    obtain ⟨target, -, rfl⟩ := memIndexTexts.mp member
    obtain rfl := indexesDiffer target (List.append_cancel_left there)
    rfl
  · rename_i server
    refine lastTextNone.mpr fun f member there => server ?_
    obtain ⟨target, known, rfl⟩ := memIndexTexts.mp member
    obtain rfl := indexesDiffer target (List.append_cancel_left there)
    exact known

section
variable (known : Known s.outputRoot tree)
  (ended : Ended s tree shapes outcomes tabled indexed after report)
include known ended

theorem endedIndex : indexFile s.outputRoot after =
    if .server ∈ s.targets then
      some ((Server.RoutesIndex.file ⟨report.tableNames.map Naming.pascal⟩).text s.goModule)
    else indexFile s.outputRoot tree := by
  have shared := indexShared .server
  have unrecorded : base s.outputRoot ++ Path.names (indexPath .server) ≠
      Manifest.place s.outputRoot := fun same =>
    absurd (List.append_cancel_left same) (by decide)
  have fresh : ¬∃ path ∈ stalePaths s tree outcomes,
      base s.outputRoot ++ Path.names (indexPath .server) =
        base s.outputRoot ++ Path.names path := by
    rintro ⟨path, old, same⟩
    exact (staleNames known old).2 _ shared (List.append_cancel_left same).symm
  have tables : lastText s.outputRoot (base s.outputRoot ++ Path.names (indexPath .server))
      (tablesWritten s tree shapes) = none := by
    refine lastTextNone.mpr fun f member same => ?_
    obtain ⟨shape, -, inside⟩ := memTablesWritten member
    obtain ⟨plain, path⟩ := textsOwn inside
    exact (tablePathNames plain path).2.2.2 _ shared (List.append_cancel_left same).symm
  have names : report.tableNames =
      (outcomes.filterMap Outcome.generated?).map TableReport.table := by
    rw [ended.reports]
    rfl
  rw [indexFile, endedText known ended, if_neg unrecorded, if_neg fresh, lastTextAppend, tables,
    Option.or_none, serverIndex, names]
  split
  · rfl
  · exact Option.none_or

theorem endedCalled : called s.outputRoot after =
    if .server ∈ s.targets then
      report.tableNames.map fun name => Server.registerName (Naming.pascal name)
    else called s.outputRoot tree := by
  have plain : ∀ t ∈ report.tableNames.map Naming.pascal, Naming.Wordly t.toList := by
    have faithful := (tablesWrite ended.tables).faithful
    rw [ended.reports]
    refine List.forall_mem_map.mpr (List.forall_mem_map.mpr fun r member => ?_)
    exact Naming.pascalWordly (faithful r member).1
  rw [called, endedIndex known ended]
  split
  · rw [Option.map_some, Option.getD_some, Server.indexRead s.goModule plain, List.map_map]
    rfl
  · rfl

end

theorem generatedTexts {r : TableReport}
    (member : r ∈ (tables s tree shapes).2.filterMap Outcome.generated?) :
    ∃ shape ∈ shapes, ∃ plan files, prepare s shape = .ok (some (plan, files)) ∧
      r.table = shape.name ∧ r.endpoints = plan ∧
      ∀ f ∈ texts s shape, f ∈ tablesWritten s tree shapes := by
  induction shapes generalizing tree with
  | nil => contradiction
  | cons shape rest ih =>
      rw [tablesCons] at member
      obtain ⟨outcome, among, generated⟩ := List.mem_filterMap.mp member
      rcases List.mem_cons.mp among with rfl | later
      · rw [tableSteps] at generated
        unfold outcomeOf at generated
        split at generated
        · cases generated
        · cases generated
        · rename_i plan files prepared
          split at generated
          · cases generated
          · rename_i result wrote
            cases generated
            refine ⟨shape, List.mem_cons_self, plan, files, prepared, rfl, rfl, fun f own => ?_⟩
            rw [tablesWritten, writtenAll (Prod.ext rfl wrote)]
            exact List.mem_append_left _ own
      · obtain ⟨shape', inside, plan, files, prepared, name, endpoints, whole⟩ :=
          ih (List.mem_filterMap.mpr ⟨outcome, later, generated⟩)
        exact ⟨shape', List.mem_cons_of_mem _ inside, plan, files, prepared, name, endpoints,
          fun f own => List.mem_append_right _ (whole f own)⟩

theorem routesNamed {targets : List Target} {table : String}
    (plain : Naming.isPlainIdentifier table = true) (server : .server ∈ targets) :
    ∃ path ∈ tablePaths targets table,
      Path.names path = ["server", "routes", Text.lower table ++ "_routes.go"] := by
  have holds : Holds "server/routes/" "_routes.go" := by decide
  refine ⟨"server/routes/" ++ Text.lower table ++ "_routes.go", List.mem_flatMap.mpr
    ⟨.server, server, List.mem_map.mpr ⟨("server/routes/", "_routes.go"), by decide, rfl⟩⟩, ?_⟩
  rw [String.append_assoc, fileNames holds (Text.lowerPlain plain (by decide) (by decide))]
  rfl

theorem registerNames : Function.Injective Server.registerName := by
  intro one other same
  rw [Server.registerName, Server.registerName] at same
  exact (String.append_right_inj _).mp ((String.append_left_inj _).mp same)

theorem flatMapOnly {α β : Type} {l : List α} {a : α} (distinct : l.Nodup) (member : a ∈ l)
    {f : α → List β} (others : ∀ b ∈ l, b ≠ a → f b = []) : l.flatMap f = f a := by
  obtain ⟨before, after, rfl⟩ := List.append_of_mem member
  obtain ⟨unique, -⟩ := List.nodup_cons.mp (List.nodup_middle.mp distinct)
  obtain ⟨notBefore, notAfter⟩ := not_or.mp (mt List.mem_append.mpr unique)
  have none : before.flatMap f = [] ∧ after.flatMap f = [] := by
    constructor
    all_goals
      refine List.flatMap_eq_nil_iff.mpr fun b inside => others b (by simp [inside]) ?_
      rintro rfl
      contradiction
  rw [List.flatMap_append, List.flatMap_cons, none.1, none.2, List.append_nil, List.nil_append]

section
variable (apart : (shapes.map fun shape => Text.lower shape.name).Nodup)
include apart

theorem lastRegisters {plan : List Endpoint} {files : List Artifact} {path : String}
    (inside : shape ∈ shapes) (prepared : prepare s shape = .ok (some (plan, files)))
    (whole : ∀ f ∈ texts s shape, f ∈ tablesWritten s tree shapes)
    (own : path ∈ tablePaths s.targets shape.name)
    (named : Path.names path = ["server", "routes", Text.lower shape.name ++ "_routes.go"]) :
    ∃ text, lastText s.outputRoot (base s.outputRoot ++ Path.names path)
        (tablesWritten s tree shapes) = some text ∧ Registers shape.name plan text := by
  have written : lastText s.outputRoot (base s.outputRoot ++ Path.names path)
      (tablesWritten s tree shapes) ≠ none := by
    obtain ⟨f, among, rfl⟩ : ∃ f ∈ texts s shape, f.path = path := by
      rw [← List.mem_map, textsPaths prepared]
      exact own
    exact fun none => lastTextNone.mp none f (whole f among) rfl
  obtain ⟨text, last⟩ := Option.ne_none_iff_exists'.mp written
  obtain ⟨f, among, there, rfl⟩ := lastTextSome last
  obtain ⟨shape', inside', own'⟩ := memTablesWritten among
  obtain ⟨same, plan', files', prepared', registers, -⟩ := textRegisters own'
    ((List.append_cancel_left there).symm.trans named)
  obtain rfl : shape = shape' := List.inj_on_of_nodup_map apart inside inside' same
  obtain rfl : plan = plan' := by
    rw [prepared] at prepared'
    cases prepared'
    rfl
  exact ⟨_, last, registers⟩

variable (known : Known s.outputRoot tree)
  (ended : Ended s tree shapes outcomes tabled indexed after report) (server : .server ∈ s.targets)
include known ended server

theorem generatedRoutes {r : TableReport} (member : r ∈ report.generated) :
    ∃ text, routesFile s.outputRoot after (Text.lower r.table) = some text ∧
      Registers r.table r.endpoints text := by
  have faithful := (tablesWrite ended.tables).faithful
  rw [ended.reports] at member
  obtain ⟨plain, files⟩ := faithful r member
  obtain ⟨path, own, named⟩ := routesNamed plain server
  have made : r ∈ (tables s tree shapes).2.filterMap Outcome.generated? := by
    rw [ended.tables]
    exact member
  obtain ⟨shape, inside, plan, artifacts, prepared, name, endpoints, whole⟩ := generatedTexts made
  have kept : path ∈ (nextRecord s tree outcomes).paths :=
    generatedRecorded faithful (List.mem_flatMap.mpr ⟨r, member, files ▸ own⟩)
  have text := recordedText known ended kept
  rw [name] at own named
  obtain ⟨contents, last, registers⟩ := lastRegisters apart inside prepared whole own named
  rw [last, named] at text
  exact ⟨contents, by rw [name]; exact text, by rw [name, endpoints]; exact registers⟩

theorem reportedRoutesBound (types : (report.tableNames.map Naming.pascal).Nodup) :
    boundRoutes s.outputRoot after (report.tableNames.map Text.lower) =
      report.generated.flatMap fun r => r.endpoints.map fun e => (e.method.name, e.path) := by
  rw [Report.tableNames, List.map_map] at types
  rw [boundRoutes, endedCalled known ended, if_pos server, Report.tableNames, List.flatMap_map,
    List.flatMap_map]
  refine List.flatMap_congr fun r member => ?_
  rw [List.flatMap_map, List.flatMap_map]
  have alone := flatMapOnly (types.of_map _) member
    (f := fun q => boundBy (Server.registerName (Naming.pascal r.table))
      (routesFile s.outputRoot after (Text.lower q.table))) fun q other different => ?_
  · obtain ⟨text, found, declared, bound⟩ := generatedRoutes apart known ended server member
    rw [alone, found, boundBy, if_pos declared, bound]
  · obtain ⟨text, found, declared, -⟩ := generatedRoutes apart known ended server other
    rw [found, boundBy, declared, if_neg]
    intro same
    exact different (List.inj_on_of_nodup_map types other member
      (registerNames (Option.some.inj same)))

end

/-- Once a pass has written the file of all tables, it calls no function twice and binds no route
twice if and only if no two generated tables have the same type name. If no two names of tables are
the same in lower case either, it binds the endpoints that the pass reports. A pass that does not
write the file leaves it as it was. -/
theorem routesBoundOnceButForNamesakes (fresh : ¬start.IsFile (Manifest.place s.outputRoot))
    (own : OwnRoutes s.outputRoot start) (earlier : Earlier s.outputRoot start tree)
    (ran : run s tree shapes = (after, .ok report)) :
    OwnRoutes s.outputRoot after ∧
      (.server ∈ s.targets →
        called s.outputRoot after =
            report.tableNames.map (fun name => Server.registerName (Naming.pascal name)) ∧
          (BindsOnce s.outputRoot after ↔ (report.tableNames.map Naming.pascal).Nodup) ∧
          ((report.tableNames.map Naming.pascal).Nodup →
            (shapes.map fun shape => Text.lower shape.name).Nodup →
              boundRoutes s.outputRoot after (report.tableNames.map Text.lower) =
                report.generated.flatMap fun r =>
                  r.endpoints.map fun e => (e.method.name, e.path))) ∧
      (.server ∉ s.targets →
        called s.outputRoot after = called s.outputRoot tree ∧
          (BindsOnce s.outputRoot after ↔ BindsOnce s.outputRoot tree)) := by
  have known := earlierKnown fresh earlier
  have before := earlierOwn own earlier
  have own' : OwnRoutes s.outputRoot after := by
    have later := runOwn before shapes
    rwa [ran] at later
  obtain ⟨outcomes, tabled, indexed, ended⟩ := runEnded ran
  have calls := endedCalled known ended
  refine ⟨own', fun server => ?_, fun server => ?_⟩
  · rw [if_pos server] at calls
    have split : (report.tableNames.map fun name => Server.registerName (Naming.pascal name)) =
        (report.tableNames.map Naming.pascal).map Server.registerName := by
      rw [List.map_map]
      rfl
    refine ⟨calls, ?_, fun types apart => reportedRoutesBound apart known ended server types⟩
    rw [bindsOnceIff own', calls, split, List.nodup_map_iff registerNames]
  · rw [if_neg server] at calls
    exact ⟨calls, by rw [bindsOnceIff own', bindsOnceIff before, calls]⟩

def serverOnly (endpoints : List String) : Settings :=
  { getSettings [.server] with
    schemas := ["public", "sales"], defaults := { endpoints := some endpoints } }

def reportedRoutes (report : Report) : List (String × List (String × String)) :=
  report.generated.map fun r => (r.table, r.endpoints.map fun e => (e.method.name, e.path))

theorem reportedNames (report : Report) :
    (reportedRoutes report).map Prod.fst = report.tableNames := by
  rw [reportedRoutes, List.map_map]
  rfl

theorem reportedPairs (report : Report) : (reportedRoutes report).flatMap Prod.snd =
    report.generated.flatMap fun r => r.endpoints.map fun e => (e.method.name, e.path) := by
  rw [reportedRoutes, List.flatMap_map]

theorem nothingBound (root : String) : OwnRoutes root {} := fun stem text found => by
  simp [routesFile, text?, node?] at found

def twoRoutes : Settings := serverOnly ["list", "get"]

theorem twoRoutesReported :
    (run twoRoutes {} [idTable "items"]).2.toOption.map reportedRoutes =
      some [("items", [("GET", "/items"), ("GET", "/items/:id")])] := by
  decide +kernel

theorem twoRoutesBoundOnce :
    ¬({} : FileTree).IsFile (Manifest.place twoRoutes.outputRoot) ∧
      OwnRoutes twoRoutes.outputRoot {} ∧ Earlier twoRoutes.outputRoot {} {} ∧
      ∃ after report, run twoRoutes {} [idTable "items"] = (after, .ok report) ∧
        BindsOnce twoRoutes.outputRoot after ∧
        boundRoutes twoRoutes.outputRoot after (report.tableNames.map Text.lower) =
          [("GET", "/items"), ("GET", "/items/:id")] := by
  have fresh : ¬({} : FileTree).IsFile (Manifest.place twoRoutes.outputRoot) := by decide
  obtain ⟨report, ran, seen⟩ := okRan twoRoutesReported
  obtain ⟨-, wrote, -⟩ := routesBoundOnceButForNamesakes fresh (nothingBound _) .none ran
  obtain ⟨-, once, bound⟩ := wrote (by decide)
  have types : (report.tableNames.map Naming.pascal).Nodup := by
    rw [← reportedNames, seen]
    decide +kernel
  have routes := bound types (by decide)
  rw [← reportedPairs, seen] at routes
  exact ⟨fresh, nothingBound _, .none, _, report, ran, once.mpr types, routes⟩

def oneRoute : Settings := serverOnly ["list"]

def namesakes : List TableShape :=
  [idTable "items", { idTable "items" with schema := "sales" }]

theorem namesakesReported : (run oneRoute {} namesakes).2.toOption.map reportedRoutes =
    some [("items", [("GET", "/items")]), ("items", [("GET", "/items")])] := by
  decide +kernel

theorem namesakesBoundTwice :
    ∃ after report, run oneRoute {} namesakes = (after, .ok report) ∧
      called oneRoute.outputRoot after = ["RegisterItemsRoutes", "RegisterItemsRoutes"] ∧
      ¬BindsOnce oneRoute.outputRoot after := by
  have fresh : ¬({} : FileTree).IsFile (Manifest.place oneRoute.outputRoot) := by decide
  obtain ⟨report, ran, seen⟩ := okRan namesakesReported
  obtain ⟨outcomes, tabled, indexed, ended⟩ := runEnded ran
  have calls := endedCalled (earlierKnown fresh .none) ended
  have names : report.tableNames.map (fun name => Server.registerName (Naming.pascal name)) =
      ["RegisterItemsRoutes", "RegisterItemsRoutes"] := by
    rw [← reportedNames, seen]
    decide +kernel
  rw [if_pos (by decide), names] at calls
  refine ⟨_, report, ran, calls, fun once => ?_⟩
  have distinct := once.functions
  rw [calls] at distinct
  exact absurd distinct (by decide)

end RestScaffold.Pass
