import RestScaffold.Proofs.Generation.Failure

/-! What becomes of one table among others. If no other table has its name in lower case, a pass
reports of it and writes to its files what the settings and the table say, whatever the other tables
are and whatever earlier passes have left. -/
namespace RestScaffold

def Outcome.table : Outcome → String
  | .generated r => r.table
  | .disabled table => table
  | .failed f => f.table

def Report.of (report : Report) (table : String) : List Outcome :=
  (report.generated.filter (·.table = table)).map .generated ++
    (report.disabled.filter (· = table)).map .disabled ++
    (report.failures.filter (·.table = table)).map .failed

namespace Pass
open Catalog Rendering FileTree

variable {s : Settings} {start tree tree' tabled indexed after after' : FileTree}
  {shape : TableShape} {shapes shapes' : List TableShape} {outcomes : List Outcome}
  {report report' : Report} {table path : String}

def Alone (shape : TableShape) (shapes : List TableShape) : Prop :=
  (shapes.filter fun other => Text.lower other.name = Text.lower shape.name) = [shape]

instance (shape : TableShape) (shapes : List TableShape) : Decidable (Alone shape shapes) :=
  inferInstanceAs (Decidable (_ = _))

theorem aloneSplit (alone : Alone shape shapes) : ∃ before rest, shapes = before ++ shape :: rest ∧
    ∀ other ∈ before ++ rest, Text.lower other.name ≠ Text.lower shape.name := by
  obtain ⟨before, rest, split, others, -, later⟩ := List.filter_eq_cons_iff.mp alone
  refine ⟨before, rest, split, List.forall_mem_append.mpr ⟨fun other member => ?_, ?_⟩⟩
  · simpa using others other member
  · simpa using List.filter_eq_nil_iff.mp later

theorem outcomeTable (s : Settings) (shape : TableShape) (result : Except WriteError Unit) :
    (outcomeOf s shape result).table = shape.name := by
  unfold outcomeOf
  split
  · rfl
  · rfl
  · split <;> rfl

theorem outcomesOfTables (s : Settings) (tree : FileTree) (shapes : List TableShape) :
    ∀ outcome ∈ (tables s tree shapes).2, ∃ shape ∈ shapes, outcome.table = shape.name := by
  induction shapes generalizing tree with
  | nil => nofun
  | cons shape rest ih =>
      rw [tablesCons, tableSteps]
      refine List.forall_mem_cons.mpr ⟨⟨shape, List.mem_cons_self, outcomeTable ..⟩, ?_⟩
      intro outcome member
      obtain ⟨other, later, named⟩ := ih _ outcome member
      exact ⟨other, List.mem_cons_of_mem _ later, named⟩

theorem nothingOf (others : ∀ outcome ∈ outcomes, outcome.table ≠ table) :
    (outcomes.filterMap Outcome.generated?).filter (·.table = table) = [] ∧
      (outcomes.filterMap Outcome.disabled?).filter (· = table) = [] ∧
      (outcomes.filterMap Outcome.failed?).filter (·.table = table) = [] := by
  simp only [List.filter_eq_nil_iff, List.mem_filterMap, decide_eq_true_eq]
  refine ⟨?_, ?_, ?_⟩
  all_goals
    rintro reported ⟨outcome, member, same⟩
    cases outcome <;> cases same
    exact others _ member

theorem oneOf {first second : List Outcome} {outcome : Outcome}
    (others : ∀ other ∈ first ++ second, other.table ≠ outcome.table) (removed : Nat) :
    (reported s (first ++ [outcome] ++ second) removed).of outcome.table = [outcome] := by
  obtain ⟨before, later⟩ := List.forall_mem_append.mp others
  obtain ⟨generated, disabled, failed⟩ := nothingOf before
  obtain ⟨generated', disabled', failed'⟩ := nothingOf later
  simp only [Report.of, reported, List.filterMap_append, List.filter_append, generated, disabled,
    failed, generated', disabled', failed', List.nil_append, List.append_nil]
  cases outcome with
  | generated r =>
      show ([r].filter (·.table = r.table)).map Outcome.generated ++ [] ++ [] =
        [Outcome.generated r]
      simp
  | disabled name =>
      show [] ++ ([name].filter (· = name)).map Outcome.disabled ++ [] =
        [Outcome.disabled name]
      simp
  | failed f =>
      show ([f].filter (·.table = f.table)).map Outcome.failed = [Outcome.failed f]
      simp

theorem tablesAppend (s : Settings) (tree : FileTree) (first second : List TableShape) :
    tables s tree (first ++ second) =
      ((tables s (tables s tree first).1 second).1,
        (tables s tree first).2 ++ (tables s (tables s tree first).1 second).2) := by
  induction first generalizing tree with
  | nil => rfl
  | cons shape rest ih => rw [List.cons_append, tablesCons, ih, tablesCons, List.cons_append]

theorem tablesWrittenAppend (s : Settings) (tree : FileTree) (first second : List TableShape) :
    tablesWritten s tree (first ++ second) =
      tablesWritten s tree first ++ tablesWritten s (tables s tree first).1 second := by
  induction first generalizing tree with
  | nil => rfl
  | cons shape rest ih =>
      rw [List.cons_append, tablesWritten, ih, tablesWritten, tablesCons, List.append_assoc]

theorem textsReach {result : Except WriteError Unit}
    (wrote : tree.writeAll s.outputRoot (texts s shape) = (after, result))
    (unhindered : ∀ f, outcomeOf s shape result = .failed f → f.error.stage ≠ "write") :
    result = .ok () := by
  unfold texts at wrote
  unfold outcomeOf at unhindered
  split at wrote
  · rename_i plan artifacts prepared
    rw [prepared] at unhindered
    cases result with
    | error e => exact absurd rfl (unhindered _ rfl)
    | ok made => rfl
  · cases wrote
    rfl

theorem textsFiles {r : TableReport} (generated : outcomeOf s shape (.ok ()) = .generated r) :
    r.files = (texts s shape).map FileText.path := by
  unfold outcomeOf at generated
  unfold texts
  split at generated
  · cases generated
  · cases generated
  · rename_i plan artifacts prepared
    cases generated
    rw [prepared, fileTextPaths]

theorem generatedText (plain : PlainRecord s.outputRoot tree)
    (ended : Ended s tree shapes outcomes tabled indexed after report)
    (generated : path ∈ generatedPaths outcomes) :
    held s after path = (lastText s.outputRoot (base s.outputRoot ++ Path.names path)
      (tablesWritten s tree shapes)).or (held s tree path) := by
  have faithful := (tablesWrite ended.tables).faithful
  obtain ⟨r, reported, inside⟩ := List.mem_flatMap.mp generated
  obtain ⟨plainName, files⟩ := faithful r reported
  obtain ⟨-, whole, -, own⟩ := tablePathNames plainName (files ▸ inside)
  exact keptText plain ended (generatedRecorded faithful generated) whole own

theorem aloneText {before rest : List TableShape} {done : FileTree}
    (others : ∀ other ∈ before ++ rest, Text.lower other.name ≠ Text.lower shape.name)
    (wrote : (tables s tree before).1.writeAll s.outputRoot (texts s shape) = (done, .ok ()))
    (member : path ∈ (texts s shape).map FileText.path) :
    ∃ contents,
      lastText s.outputRoot (base s.outputRoot ++ Path.names path) (texts s shape) =
        some contents ∧
      lastText s.outputRoot (base s.outputRoot ++ Path.names path)
        (tablesWritten s tree (before ++ shape :: rest)) = some contents := by
  obtain ⟨f, own, rfl⟩ := List.mem_map.mp member
  obtain ⟨plain, inside⟩ := textsOwn own
  have later : lastText s.outputRoot (base s.outputRoot ++ Path.names f.path)
      (tablesWritten s (table s (tables s tree before).1 shape).1 rest) = none := by
    refine lastTextNone.mpr fun g written same => ?_
    obtain ⟨other, among, own'⟩ := memTablesWritten written
    obtain ⟨plain', inside'⟩ := textsOwn own'
    exact others other (List.mem_append_right _ among)
      (tablePathsApart plain plain' inside inside' (List.append_cancel_left same)).symm
  obtain ⟨contents, found⟩ : ∃ contents, lastText s.outputRoot
      (base s.outputRoot ++ Path.names f.path) (texts s shape) = some contents :=
    lastTextThere ⟨f, own, rfl⟩
  refine ⟨contents, found, ?_⟩
  rw [tablesWrittenAppend, tablesWritten, lastTextAppend, lastTextAppend, later, writtenAll wrote,
    found]
  rfl

theorem aloneServed (plain : PlainRecord s.outputRoot tree) (alone : Alone shape shapes)
    (ran : run s tree shapes = (after, .ok report))
    (unhindered : ∀ f ∈ report.failures, f.table = shape.name → f.error.stage ≠ "write") :
    report.of shape.name = [outcomeOf s shape (.ok ())] ∧
      ∀ r, outcomeOf s shape (.ok ()) = .generated r → ∀ path ∈ r.files, ∃ contents,
        lastText s.outputRoot (base s.outputRoot ++ Path.names path) (texts s shape) =
          some contents ∧ held s after path = some contents := by
  obtain ⟨before, rest, rfl, others⟩ := aloneSplit alone
  obtain ⟨outcomes, tabled, indexed, ended⟩ := runEnded ran
  obtain ⟨⟨done, result⟩, wrote⟩ :
    ∃ one, (tables s tree before).1.writeAll s.outputRoot (texts s shape) = one := ⟨_, rfl⟩
  have split : outcomes = (tables s tree before).2 ++ [outcomeOf s shape result] ++
      (tables s done rest).2 := by
    have tables := congrArg Prod.snd ended.tables
    rw [tablesAppend, tablesCons, tableSteps, wrote] at tables
    rw [List.append_assoc]
    exact tables.symm
  have among : outcomeOf s shape result ∈ outcomes := by simp [split]
  obtain rfl : result = .ok () := by
    refine textsReach wrote fun f failed => unhindered f ?_ ?_
    · rw [ended.reports]
      exact List.mem_filterMap.mpr ⟨_, among, by rw [failed]; rfl⟩
    · have named := outcomeTable s shape result
      rwa [failed] at named
  have apart : ∀ other ∈ (tables s tree before).2 ++ (tables s done rest).2,
      other.table ≠ (outcomeOf s shape (.ok ())).table := by
    rw [outcomeTable]
    obtain ⟨earlier, later⟩ := List.forall_mem_append.mp others
    refine List.forall_mem_append.mpr ⟨fun outcome member same => ?_, fun outcome member same => ?_⟩
    · obtain ⟨other, inside, named⟩ := outcomesOfTables s _ _ outcome member
      exact earlier other inside (by rw [← named, same])
    · obtain ⟨other, inside, named⟩ := outcomesOfTables s _ _ outcome member
      exact later other inside (by rw [← named, same])
  refine ⟨?_, fun r generated path member => ?_⟩
  · have one := oneOf (s := s) apart
      (indexed.removeAll s.outputRoot (stalePaths s tree outcomes)).2
    rw [outcomeTable, ← split, ← ended.reports] at one
    exact one
  · rw [textsFiles generated] at member
    have listed : path ∈ generatedPaths outcomes := by
      refine List.mem_flatMap.mpr ⟨r, List.mem_filterMap.mpr ⟨_, among, by rw [generated]; rfl⟩, ?_⟩
      rwa [textsFiles generated]
    obtain ⟨contents, found, last⟩ := aloneText others wrote member
    exact ⟨contents, found, by rw [generatedText plain ended listed, last]; rfl⟩

/-- Two passes with the same settings do the same with a table that is alone with its name in both
of their lists. They report the same single outcome of it, and if it is generated then each of its
files holds the same text after both. -/
theorem tablesDoNotInterfere (plain : PlainRecord s.outputRoot tree)
    (plain' : PlainRecord s.outputRoot tree') (alone : Alone shape shapes)
    (alone' : Alone shape shapes') (ran : run s tree shapes = (after, .ok report))
    (ran' : run s tree' shapes' = (after', .ok report'))
    (unhindered : ∀ f ∈ report.failures, f.table = shape.name → f.error.stage ≠ "write")
    (unhindered' : ∀ f ∈ report'.failures, f.table = shape.name → f.error.stage ≠ "write") :
    ∃ outcome, report.of shape.name = [outcome] ∧ report'.of shape.name = [outcome] ∧
      ∀ r, outcome = .generated r → ∀ path ∈ r.files,
        ∃ contents, held s after path = some contents ∧ held s after' path = some contents := by
  obtain ⟨said, files⟩ := aloneServed plain alone ran unhindered
  obtain ⟨said', files'⟩ := aloneServed plain' alone' ran' unhindered'
  refine ⟨_, said, said', fun r generated path member => ?_⟩
  obtain ⟨contents, text, held⟩ := files r generated path member
  obtain ⟨contents', text', held'⟩ := files' r generated path member
  obtain rfl : contents = contents' := Option.some.inj (text.symm.trans text')
  exact ⟨contents, held, held'⟩

def unlabelled : Settings := { clientOnly with
  tables := .ofList [("labels", { enabled := some false })] }

def tagsTree : FileTree := (run unlabelled {} [idTable "tags"]).1

def mixedTables : List TableShape := [idTable "labels", bareTable "orders", idTable "items"]

structure Census where
  generated : List String
  disabled : List String
  failed : List (String × String)
  removed : Nat
  deriving DecidableEq

def census (report : Report) : Census :=
  ⟨report.tableNames, report.disabled, report.failures.map fun f => (f.table, f.error.stage),
    report.filesRemoved⟩

def mixedCensus : Census := ⟨["items"], ["labels"], [("orders", "emit")], 2⟩

theorem itemsServed :
    (run unlabelled {} [idTable "items"]).2.toOption.map census = some ⟨["items"], [], [], 0⟩ ∧
      (run unlabelled tagsTree mixedTables).2.toOption.map census =
        some mixedCensus := by
  decide +kernel

theorem itemsAmongOthers :
    PlainRecord "out" {} ∧ PlainRecord "out" tagsTree ∧ Alone (idTable "items") mixedTables ∧
      ∃ after after' report report', run unlabelled {} [idTable "items"] = (after, .ok report) ∧
        run unlabelled tagsTree mixedTables = (after', .ok report') ∧
        census report' = mixedCensus ∧
        ∃ outcome, report.of "items" = [outcome] ∧ report'.of "items" = [outcome] ∧
          ∀ r, outcome = .generated r → ∀ path ∈ r.files, ∃ contents,
            held unlabelled after path = some contents ∧
              held unlabelled after' path = some contents := by
  have fresh : ¬({} : FileTree).IsFile (Manifest.place unlabelled.outputRoot) := by decide
  have plain : PlainRecord unlabelled.outputRoot {} := knownPlain (earlierKnown fresh .none)
  have plain' : PlainRecord unlabelled.outputRoot tagsTree := by
    refine knownPlain (earlierKnown fresh ?_)
    rw [tagsTree]
    exact .pass .none rfl _
  have alone : Alone (idTable "items") [idTable "items"] := by decide
  have alone' : Alone (idTable "items") mixedTables := by decide
  obtain ⟨done, done'⟩ := itemsServed
  obtain ⟨report, ran, seen⟩ := okRan done
  obtain ⟨report', ran', seen'⟩ := okRan done'
  have unfailing : report.failures = [] := List.map_eq_nil_iff.mp (congrArg Census.failed seen)
  have failing : report'.failures.map (fun f => (f.table, f.error.stage)) = [("orders", "emit")] :=
    congrArg Census.failed seen'
  have unhindered : ∀ f ∈ report.failures, f.table = "items" → f.error.stage ≠ "write" := by
    rw [unfailing]
    exact nofun
  have unhindered' : ∀ f ∈ report'.failures, f.table = "items" → f.error.stage ≠ "write" := by
    intro f member named
    have orders := List.mem_map_of_mem (f := fun f => (f.table, f.error.stage)) member
    rw [failing, List.mem_singleton, Prod.mk.injEq, named] at orders
    exact absurd orders.1 (by decide)
  exact ⟨plain, plain', alone', _, _, report, report', ran, ran', seen',
    tablesDoNotInterfere plain plain' alone alone' ran ran' unhindered unhindered'⟩

end Pass
end RestScaffold
