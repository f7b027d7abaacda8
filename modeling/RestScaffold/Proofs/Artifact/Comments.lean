import RestScaffold.Proofs.Client.Tokens
import RestScaffold.Proofs.Server.Tags
import RestScaffold.Proofs.Text.Span

/-! What the comment of a table can do to its files. It goes into one line on the server and one in
the client, whatever its text is. Both stay comments, and nothing else depends on it. -/
namespace RestScaffold
open Catalog Code Layout Text

namespace Layout

variable {p tail before after : List Char}

theorem leadEnded (ended : ∀ c ∈ before.getLast?, c = '\n') : lead before = [] := by
  rw [List.getLast?_eq_head?_reverse] at ended
  rw [lead]
  cases reversed : before.reverse with
  | nil => rfl
  | cons c rest =>
      rw [reversed] at ended
      rw [ended c rfl]
      rfl

theorem endedLinesEnd (ls : List (List Char)) : ∀ c ∈ (endedLines ls).getLast?, c = '\n' := by
  intro c last
  cases ls with
  | nil => contradiction
  | cons l rest =>
      simp [endedLines] at last
      exact last.symm

theorem placedBelow {l last : List Char} (filled : l ≠ []) (some : last ≠ [])
    (ls : List (List Char)) : (l :: ls).foldl place [last] = ls.foldl place [l] ++ [last] := by
  obtain ⟨above, below, own⟩ := placedOver filled filled rfl [] [last] ls
  rw [List.nil_append] at below own
  rw [List.foldl_cons, placeAfter filled some, below, own, List.append_assoc]
  rfl

theorem trailEnded (noFeed : '\n' ∉ tail) (after : List Char) :
    trail (tail ++ '\n' :: after) = tail ∧ coming (tail ++ '\n' :: after) = after := by
  have other : ∀ c ∈ tail, decide (c ≠ '\n') = true := fun c member =>
    decide_eq_true fun same => noFeed (same ▸ member)
  rw [trail, coming, List.takeWhile_append_of_pos other, List.dropWhile_append_of_pos other]
  simp

theorem firstFilled (filled : ∃ c ∈ after.head?, isBlank c = false) :
    ∃ l more, (lines after).map trimEnd = l :: more ∧ l ≠ [] := by
  obtain ⟨c, first, full⟩ := filled
  obtain ⟨rest, rfl⟩ := List.head?_eq_some_iff.mp first
  have noFeed : '\n' ∉ [c] := by
    rw [List.mem_singleton]
    rintro rfl
    revert full
    decide
  have whole : trimEnd ([c] ++ trail rest) = [c] ++ trimEnd (trail rest) :=
    trimEndAppend (by simpa using full) (List.cons_ne_nil _ _) _
  refine ⟨_, _, afterLines noFeed (List.cons_ne_nil _ _) rest, ?_⟩
  rw [whole]
  exact List.cons_ne_nil _ _

theorem keptBelow (filled : ∃ c ∈ after.head?, isBlank c = false) {last : List Char}
    (some : last ≠ []) : placed [last] after = placed [] after ++ [last] := by
  obtain ⟨l, more, own, filled⟩ := firstFilled filled
  obtain ⟨c, rest, rfl⟩ := List.exists_cons_of_ne_nil filled
  rw [placed, placed, own, placedBelow filled some]
  rfl

theorem tidiedFilled (filled : ∃ c ∈ after.head?, isBlank c = false) :
    tidyChars after = endedLines ((placed [] after).dropWhile List.isEmpty) := by
  obtain ⟨l, more, own, filled⟩ := firstFilled filled
  obtain ⟨above, -, below⟩ := placedOver filled filled rfl [] [] more
  have stays : placed [] after = above ++ [l] := by
    obtain ⟨c, rest, rfl⟩ := List.exists_cons_of_ne_nil filled
    rw [placed, own]
    exact below
  have some : ((placed [] after).dropWhile List.isEmpty).reverse ≠ [] := by
    rw [stays, ne_eq, List.reverse_eq_nil_iff, List.dropWhile_eq_nil_iff]
    simp [filled]
  exact unlinesEnded some

theorem tidiedLine (span : Span p) (ended : ∀ c ∈ before.getLast?, c = '\n') (noFeed : '\n' ∉ tail)
    (filled : ∃ c ∈ after.head?, isBlank c = false) :
    tidyChars (before ++ (p ++ tail) ++ '\n' :: after) =
      endedLines (keptBefore before) ++ (p ++ trimEnd tail) ++ '\n' :: tidyChars after := by
  obtain ⟨trails, comes⟩ := trailEnded noFeed after
  have below : keptAfter (tail ++ '\n' :: after) = (placed [] after).dropWhile List.isEmpty := by
    rw [keptAfter, trails, comes, keptBelow filled (by simp [mark]), List.dropLast_concat]
  calc tidyChars (before ++ (p ++ tail) ++ '\n' :: after)
    _ = tidyChars (before ++ p ++ (tail ++ '\n' :: after)) := by simp
    _ = front before ++ p ++ back (tail ++ '\n' :: after) := span.tidied ..
    _ = _ := by simp [front, back, leadEnded ended, trails, below, tidiedFilled filled]

end Layout

namespace Code

theorem joinedHead (next : Line) (rest : List Line) :
    ∀ c ∈ (lineText next).toList.head?, c ∈ (List.intercalate ['\n']
      ((next :: rest).map fun l => (lineText l).toList)).head? := by
  intro c first
  obtain ⟨more, own⟩ := List.head?_eq_some_iff.mp first
  cases rest <;> simp [List.intercalate, own]

theorem fileAround {above : List Line} {next : Line} {p : String} (some : above ≠ [])
    (span : Span p.toList) (filled : ∃ c ∈ (lineText next).toList.head?, isBlank c = false)
    (rest : List Line) :
    ∃ before after : List Char, (∀ c ∈ before.getLast?, c = '\n') ∧ ∀ tail, OneLine tail →
      (fileText (above ++ plain (p ++ tail) :: next :: rest)).toList =
        before ++ (p.toList ++ trimEnd tail.toList) ++ '\n' :: after := by
  let chars := fun l : Line => (lineText l).toList
  refine ⟨endedLines (keptBefore (List.intercalate ['\n'] (above.map chars) ++ ['\n'])),
    tidyChars (List.intercalate ['\n'] ((next :: rest).map chars)), endedLinesEnd _,
    fun tail oneLine => ?_⟩
  obtain ⟨c, first, full⟩ := filled
  have filled : ∃ c ∈ (List.intercalate ['\n'] ((next :: rest).map chars)).head?,
      isBlank c = false := ⟨c, joinedHead next rest c first, full⟩
  rw [fileLines, ← tidiedLine span (by simp) oneLine filled, List.map_append,
    joinedAppend (by simpa using some) (by simp), List.map_cons, List.map_cons, plainText]
  simp [List.intercalate, chars]

end Code

structure Go.CommentLine (line : List Char) : Prop where
  opens : "//".toList <+: line
  noFeed : '\n' ∉ line

structure Client.CommentLine (line : List Char) : Prop where
  opens : "/**".toList <+: line
  noFeed : '\n' ∉ line
  closes : "*/".toList <:+ line
  once : ∀ before after, line = before ++ "*/".toList ++ after → after = []

namespace Client

variable {cs : List Char}

theorem closesOnce (free : EndFree (cs ++ ['*'])) (before after : List Char)
    (same : cs ++ "*/".toList = before ++ "*/".toList ++ after) : after = [] := by
  rcases List.eq_nil_or_concat after with none | ⟨later, last, rfl⟩
  · exact none
  · have split : (cs ++ ['*']) ++ ['/'] = (before ++ "*/".toList ++ later) ++ [last] := by
      simpa using same
    obtain ⟨shorter, -⟩ := List.append_inj' split rfl
    exact absurd ⟨before, later, shorter.symm⟩ free

end Client

/-- Two texts that are the same but for one line, which is proper in both. -/
def SameButForLine (proper : List Char → Prop) (text text' : String) : Prop :=
  ∃ before line line' after, text.toList = before ++ line ++ '\n' :: after ∧
    text'.toList = before ++ line' ++ '\n' :: after ∧ (∀ c ∈ before.getLast?, c = '\n') ∧
    proper line ∧ proper line'

structure Artifact.Recommented (f f' : Artifact) : Prop where
  path : f.path = f'.path
  target : f.target = f'.target
  category : f.category = f'.category
  model : f.category = .model → SameButForLine Go.CommentLine f.contents f'.contents
  types : f.category = .clientTypes → SameButForLine Client.CommentLine f.contents f'.contents
  others : f.category ≠ .model → f.category ≠ .clientTypes → f.contents = f'.contents

theorem Artifact.Recommented.same {f : Artifact} (unmodelled : f.category ≠ .model)
    (untyped : f.category ≠ .clientTypes) : f.Recommented f :=
  ⟨rfl, rfl, rfl, fun model => absurd model unmodelled, fun types => absurd types untyped,
    fun _ _ => rfl⟩

theorem Server.modelAround (m : Server.Model) (goModule : String) :
    ∃ before after : List Char, (∀ c ∈ before.getLast?, c = '\n') ∧ ∀ doc, OneLine doc →
      ({ m with doc }.file.text goModule).toList =
        before ++ ("//".toList ++ trimEnd (" " ++ doc).toList) ++ '\n' :: after := by
  let above := [plain generatedNotice, blank, plain ("package " ++ m.file.package)] ++
    GoFile.importLines goModule m.file.imports ++ [blank]
  let next := line [line ["type ", declared m.typeName, " struct"], " \x7b"]
  have lines : ∀ doc, { m with doc }.file.lines goModule =
      above ++ plain ("//" ++ (" " ++ doc)) :: next :: m.code.drop 3 := by
    intro doc
    rw [← String.append_assoc, List.append_assoc]
    rfl
  have some : above ≠ [] := by simp [above]
  have span : Span "//".toList := ⟨by decide, ⟨'/', rfl, by decide⟩, ⟨'/', rfl, by decide⟩⟩
  have filled : ∃ c ∈ (lineText next).toList.head?, isBlank c = false := by
    refine ⟨'t', ?_, by decide⟩
    simp [lineChars, next, line, Fragment.string]
  obtain ⟨before, after, ended, around⟩ := fileAround some span filled (m.code.drop 3)
  refine ⟨before, after, ended, fun doc oneLine => ?_⟩
  rw [GoFile.text, lines]
  exact around _ (oneLineAppend.mpr ⟨by decide, oneLine⟩)

theorem Client.typesAround (t : Client.Types) :
    ∃ before after : List Char, (∀ c ∈ before.getLast?, c = '\n') ∧ ∀ doc, OneLine doc →
      (fileText { t with doc }.code).toList =
        before ++ ("/**".toList ++ (" " ++ doc ++ " */").toList) ++ '\n' :: after := by
  let above := [plain generatedNotice, blank]
  let next := line [line ["export interface ", declared t.typeName], " \x7b"]
  have lines : ∀ doc, { t with doc }.code =
      above ++ plain ("/**" ++ (" " ++ doc ++ " */")) :: next :: t.code.drop 4 := by
    intro doc
    rw [← String.append_assoc, ← String.append_assoc]
    rfl
  have span : Span "/**".toList := ⟨by decide, ⟨'/', rfl, by decide⟩, ⟨'*', rfl, by decide⟩⟩
  have filled : ∃ c ∈ (lineText next).toList.head?, isBlank c = false := by
    refine ⟨'e', ?_, by decide⟩
    simp [lineChars, next, line, Fragment.string]
  obtain ⟨before, after, ended, around⟩ :=
    fileAround (List.cons_ne_nil _ _ : above ≠ []) span filled (t.code.drop 4)
  refine ⟨before, after, ended, fun doc oneLine => ?_⟩
  have whole : OneLine (" " ++ doc ++ " */") := by
    have fixed : OneLine " " ∧ OneLine " */" := by decide
    simp [oneLine, fixed]
  have trimmed : trimEnd (" " ++ doc ++ " */").toList = (" " ++ doc ++ " */").toList := by
    have split : (" " ++ doc ++ " */").toList = (" " ++ doc ++ " *").toList ++ ['/'] := by simp
    have fixed : OneLine " " ∧ OneLine " *" := by decide
    have body : OneLine (" " ++ doc ++ " *") := by simp [oneLine, fixed]
    rw [split]
    exact solidTrim (solidConcat body (by decide))
  rw [lines, around _ whole, trimmed]

section
variable {s : Subject}

namespace Client

theorem brokenMembers (cs : List Char) :
    ∀ c ∈ Types.withoutCommentEnds cs, c = ' ' ∨ c ∈ cs := by
  fun_induction Types.withoutCommentEnds cs with
  | case1 rest ih =>
      intro c member
      simp only [List.mem_cons] at member ⊢
      rcases member with star | blank | slash | later
      · exact .inr (.inl star)
      · exact .inl blank
      · exact .inr (.inr (.inl slash))
      · exact (ih c later).imp_right (.inr ∘ .inr)
  | case2 d rest noEnd ih =>
      intro c member
      rcases List.mem_cons.mp member with own | later
      · exact .inr (own ▸ List.mem_cons_self)
      · exact (ih c later).imp_right (List.mem_cons_of_mem d)
  | case3 => exact List.forall_mem_nil _

theorem docOneLine (spelled : Server.Spelled OneLine s.table) : OneLine (Types.docOf s) := by
  have schema := spelled.schema
  have name := spelled.name
  have fixed : OneLine "Row of " ∧ OneLine ": " ∧ OneLine "." := by decide
  unfold Types.docOf
  split
  · rename_i comment made
    have broken : OneLine (String.ofList (Types.withoutCommentEnds comment.toList)) := by
      refine oneLineFixed fun feed => ?_
      rcases brokenMembers _ _ feed with blank | own
      · contradiction
      · exact Server.commentOneLine made own
    simp [TableShape.qualifiedName, schema, name, broken, fixed]
  · simp [TableShape.qualifiedName, schema, name, fixed]

theorem docComment (spelled : Server.Spelled OneLine s.table)
    (starless : Server.Spelled (fun name => '*' ∉ name.toList) s.table) :
    CommentLine ("/**".toList ++ (" " ++ Types.docOf s ++ " */").toList) := by
  have split : "/**".toList ++ (" " ++ Types.docOf s ++ " */").toList =
      ("/** ".toList ++ ((Types.docOf s).toList ++ " ".toList)) ++ "*/".toList := by simp
  have doc : EndFree ((Types.docOf s).toList ++ [' ', '*']) := docFree starless
  rw [split]
  constructor
  case opens => simp
  case noFeed =>
    have oneLine : '\n' ∉ (Types.docOf s).toList := docOneLine spelled
    simp [oneLine]
  case closes => exact List.suffix_append ..
  case once => exact closesOnce (by simp [endFreeCons, doc])

end Client

theorem Server.docComment (spelled : Spelled OneLine s.table) :
    Go.CommentLine ("//".toList ++ trimEnd (" " ++ Model.docOf s).toList) := by
  refine ⟨List.prefix_append .., fun feed => ?_⟩
  rcases List.mem_append.mp feed with slash | later
  · revert slash
    decide
  · have oneLine : OneLine (" " ++ Model.docOf s) :=
      oneLineAppend.mpr ⟨by decide, docOneLine spelled⟩
    exact oneLine (trimEndSubset _ _ later)

end

def Catalog.TableShape.commented (t : TableShape) (comment : Option String) : TableShape :=
  { t with comment }

namespace Rendering

variable {r : Rendering} {t : TableShape} {p : Policy} {plan : List Endpoint}
  {targets : List Target} {files : List Artifact}

theorem commentedModel (comment : Option String) (spelled : Server.Spelled OneLine t) :
    SameButForLine Go.CommentLine ((Server.Model.of ⟨t, p, plan⟩).file.text r.goModule)
      ((Server.Model.of ⟨t.commented comment, p, plan⟩).file.text r.goModule) := by
  have spelled' : Server.Spelled OneLine (t.commented comment) := { spelled with }
  obtain ⟨before, after, ended, around⟩ :=
    Server.modelAround (Server.Model.of ⟨t, p, plan⟩) r.goModule
  exact ⟨before, _, _, after, around _ (Server.docOneLine spelled),
    around _ (Server.docOneLine spelled'), ended, Server.docComment spelled,
    Server.docComment spelled'⟩

theorem commentedTypes (comment : Option String) (spelled : Server.Spelled OneLine t)
    (starless : Server.Spelled (fun name => '*' ∉ name.toList) t) :
    SameButForLine Client.CommentLine (fileText (Client.Types.of ⟨t, p, plan⟩).code)
      (fileText (Client.Types.of ⟨t.commented comment, p, plan⟩).code) := by
  have spelled' : Server.Spelled OneLine (t.commented comment) := { spelled with }
  have starless' : Server.Spelled (fun name => '*' ∉ name.toList) (t.commented comment) :=
    { starless with }
  obtain ⟨before, after, ended, around⟩ := Client.typesAround (Client.Types.of ⟨t, p, plan⟩)
  exact ⟨before, _, _, after, around _ (Client.docOneLine spelled),
    around _ (Client.docOneLine spelled'), ended, Client.docComment spelled starless,
    Client.docComment spelled' starless'⟩

theorem commentedMade {s : Subject} (made : Subject.of t p plan = .ok s) (comment : Option String) :
    Subject.of (t.commented comment) p plan = .ok ⟨t.commented comment, p, plan⟩ := by
  obtain ⟨-, plain, columns, some⟩ := subjectOk made
  have none : t.columns.find? (!Naming.isPlainIdentifier ·.name) = .none :=
    List.find?_eq_none.mpr fun c member => by simp [columns c member]
  simp [Subject.of, TableShape.commented, plain, schemaPlain made, none, some]

section
variable (comment : Option String) (spelled : Server.Spelled OneLine t)
  (starless : Server.Spelled (fun name => '*' ∉ name.toList) t)
include spelled starless

theorem commentedTarget {target : Target}
    (rendered : r.targetArtifacts ⟨t, p, plan⟩ target = .ok files) :
    ∃ files', r.targetArtifacts ⟨t.commented comment, p, plan⟩ target = .ok files' ∧
      List.Forall₂ Artifact.Recommented files files' := by
  cases target with
  | client =>
      cases rendered
      refine ⟨_, rfl, .cons ?types (.cons ?api .nil)⟩
      case types =>
        exact ⟨rfl, rfl, rfl, (fun other => by cases other),
          fun _ => commentedTypes comment spelled starless, fun _ other => absurd rfl other⟩
      case api => exact .same (fun other => by cases other) fun other => by cases other
  | server =>
      have same : Server.Dto.of ⟨t.commented comment, p, plan⟩ = Server.Dto.of ⟨t, p, plan⟩ := rfl
      simp only [targetArtifacts, serverArtifacts] at rendered ⊢
      rw [same]
      cases dto : Server.Dto.of ⟨t, p, plan⟩ with
      | error e =>
          rw [dto] at rendered
          cases rendered
      | ok dto' =>
          rw [dto] at rendered
          cases rendered
          refine ⟨_, rfl, .cons ?model (.cons ?_ (.cons ?_ (.cons ?_ (.cons ?_ .nil))))⟩
          case model =>
            exact ⟨rfl, rfl, rfl, fun _ => commentedModel comment spelled,
              (fun other => by cases other), fun other => absurd rfl other⟩
          all_goals exact .same (fun other => by cases other) fun other => by cases other

theorem commentedArtifacts (rendered : r.artifacts ⟨t, p, plan⟩ targets = .ok files) :
    ∃ files', r.artifacts ⟨t.commented comment, p, plan⟩ targets = .ok files' ∧
      List.Forall₂ Artifact.Recommented files files' := by
  induction targets generalizing files with
  | nil =>
      cases rendered
      exact ⟨[], rfl, .nil⟩
  | cons target rest ih =>
      simp only [artifacts] at rendered
      split at rendered
      · contradiction
      · contradiction
      · rename_i own more one others
        cases rendered
        obtain ⟨own', one', alike⟩ := commentedTarget comment spelled starless one
        obtain ⟨more', others', alike'⟩ := ih others
        exact ⟨own' ++ more', by simp only [artifacts, one', others'],
          List.rel_append alike alike'⟩

end

/-- A comment reaches one line of the model and one of the client's types, which both stay comments;
neither the plan nor anything else in the files of its table depends on it. -/
theorem commentsKeepTheirLines (rendered : r.tableArtifacts t p plan targets = .ok files)
    (comment : Option String) :
    Plan.endpoints (t.commented comment) p = Plan.endpoints t p ∧
    ∃ files', r.tableArtifacts (t.commented comment) p plan targets = .ok files' ∧
      List.Forall₂ Artifact.Recommented files files' := by
  obtain ⟨s, made, rendered⟩ := tableArtifactsMade rendered
  obtain ⟨rfl, -⟩ := subjectOk made
  have spelled : Server.Spelled OneLine t :=
    Server.spelled made fun wordly => wordly.without (by decide)
  have starless : Server.Spelled (fun name => '*' ∉ name.toList) t :=
    Server.spelled made fun wordly => wordly.without (by decide)
  obtain ⟨files', rendered', alike⟩ := commentedArtifacts comment spelled starless rendered
  refine ⟨rfl, files', ?_, alike⟩
  rw [tableArtifacts, commentedMade made comment]
  exact rendered'

def hostileComment : String := "rows \x7b\r**//*/ ) \x7b\nfunc init() \x7b"

theorem hostileCommentKept :
    let hostile := idleTable.commented (some hostileComment)
    let rendered := fun t =>
      tableArtifacts ⟨"app", "/api"⟩ t idleItems.policy idleItems.plan Target.all
    (∃ files files', rendered idleTable = .ok files ∧ rendered hostile = .ok files' ∧
      List.Forall₂ Artifact.Recommented files files') ∧
    Server.Model.docOf ⟨hostile, idleItems.policy, idleItems.plan⟩ =
      "Items is a row of public.items: rows \x7b\r**//*/ ) \x7b" ∧
    Client.Types.docOf ⟨hostile, idleItems.policy, idleItems.plan⟩ =
      "Row of public.items: rows \x7b\r** //* / ) \x7b" := by
  intro hostile rendered
  refine ⟨?_, by decide +kernel, by decide +kernel⟩
  obtain ⟨files, made⟩ : ∃ files, rendered idleTable = .ok files := ⟨_, rfl⟩
  obtain ⟨-, files', made', alike⟩ := commentsKeepTheirLines made (some hostileComment)
  exact ⟨files, files', made, made', alike⟩

end Rendering
end RestScaffold
