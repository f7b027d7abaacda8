import RestScaffold.Proofs.Code.Struct

/-! What the rows of the server's code open. The rows of a block are the shifted ones that follow.
Of a field only the first key of its tag is read, so that what a policy puts behind it does not
matter. -/
namespace RestScaffold.Go
open Code Layout Text

def codeRows (text : String) : List (List Char) :=
  ((rows text.toList).reverse.takeWhile (· ≠ [')'])).reverse

def blocks (opens? : List Char → Option String) :
    List (List Char) → List (String × List (List Char))
  | [] => []
  | row :: rest =>
      ((opens? row).map fun name => (name, rest.takeWhile (begins "\t"))).toList ++
        blocks opens? rest

def leading? (row : List Char) : Option (Field (List UInt8)) :=
  match row with
  | '\t' :: rest =>
      let more := (rest.dropWhile (· ≠ ' ')).drop 1
      match more.dropWhile (· ≠ ' ') with
      | ' ' :: '`' :: raw =>
          (readPair raw).map fun (pair, _) => ⟨upTo ' ' rest, upTo ' ' more, [pair]⟩
      | _ => none
  | _ => none

def outline? (block : String × List (List Char)) : Option (Struct (List UInt8)) :=
  (block.2.mapM leading?).map (⟨block.1, ·⟩)

def outlines (text : String) : Option (List (Struct (List UInt8))) :=
  (blocks opensStruct? (codeRows text)).mapM outline?

/-- The row opens a block of these rows. -/
def HasBlock (text opening : String) (inside : List (List Char)) : Prop :=
  opening.toList :: (inside ++ [['\x7d']]) <:+: rows text.toList ∧
    ∀ row ∈ inside, begins "\t" row = true

def Field.leading (f : Field String) : Field (List UInt8) :=
  { f with tag := (f.tag.take 1).map fun (key, value) => (key, utf8 value.toList) }

def Struct.outline (s : Struct String) : Struct (List UInt8) :=
  { s with fields := s.fields.map Field.leading }

def Field.Leads (f : Field String) : Prop := ∀ p ∈ f.tag.head?, GoString.Literal p.2.toList

theorem Field.Fits.leads {f : Field String} (fits : f.Fits) : f.Leads := fun p first =>
  (fits p (List.mem_of_mem_head? first)).2

variable {f : Field String} {row : List Char} {opens? : List Char → Option String} {name : String}
  {before inside after : List (List Char)}

theorem leadingRead (regular : f.Regular) (leads : f.Leads) : leading? f.row = some f.leading := by
  obtain ⟨p, more, own⟩ := List.exists_cons_of_ne_nil regular.some
  have key : Key p.1 := (regular.keys p (own ▸ List.mem_cons_self)).1
  have literal : GoString.Literal p.2.toList := leads p (by simp [own])
  obtain ⟨later, text, -⟩ := tagTextCons p more
  have pair : readPair ((GoField.tagText f.tag).toList ++ ['`']) =
      some ((p.1, utf8 p.2.toList), later ++ ['`']) := by
    have split : (GoField.tagText f.tag).toList ++ ['`'] =
        p.1.toList ++ ':' :: '"' :: (p.2.toList ++ '"' :: (later ++ ['`'])) := by
      rw [own, text]
      simp
    rw [split, pairRead key, GoString.readLiteral literal]
    rfl
  obtain ⟨rest, others, row, name, dropped, type, tag⟩ := rowParts regular
  rw [row, leading?]
  simp only [dropped, name, type, tag, pair, Option.map_some, Field.leading]
  rw [own]
  rfl

theorem blocksQuiet (quiet : ∀ row ∈ before, opens? row = none) (after : List (List Char)) :
    blocks opens? (before ++ after) = blocks opens? after := by
  induction before with
  | nil => rfl
  | cons row rest ih =>
      obtain ⟨own, others⟩ := List.forall_mem_cons.mp quiet
      rw [List.cons_append, blocks, own, ih others]
      rfl

theorem blocksFirst (opened : opens? row = some name)
    (tabs : ∀ row ∈ inside, begins "\t" row = true) {stop : List Char}
    (stops : begins "\t" stop = false) :
    blocks opens? (row :: (inside ++ stop :: after)) =
      (name, inside) :: blocks opens? (inside ++ stop :: after) := by
  rw [blocks, opened, List.takeWhile_append_of_pos tabs,
    List.takeWhile_cons_of_neg (by simp [stops]), List.append_nil]
  rfl

theorem structBlock {comment : String} (oneLine : OneLine comment) {s : Struct String}
    (regular : s.Regular) (after : List (List Char)) :
    blocks opensStruct? (rowsOf (s.texts comment) ++ after) =
      (s.name, s.fields.map Field.row) :: blocks opensStruct? after := by
  obtain ⟨quiet, others, split⟩ := structRows oneLine regular
  have closed : ∀ row ∈ quiet, opensStruct? row = none := fun row member =>
    opensNone (by simp [others row member])
  have tabs : ∀ row ∈ s.fields.map Field.row, begins "\t" row = true :=
    List.forall_mem_map.mpr fun f _ => beginsAppend "\t" _
  have rest : ∀ row ∈ s.fields.map Field.row ++ [['\x7d']], opensStruct? row = none :=
    List.forall_mem_append.mpr ⟨List.forall_mem_map.mpr fun f _ => opensNone (by simp [Field.row]),
      List.forall_mem_singleton.mpr (opensNone (by decide))⟩
  have later : blocks opensStruct? (s.fields.map Field.row ++ ['\x7d'] :: after) =
      blocks opensStruct? after := by
    have quiet := blocksQuiet rest after
    rwa [List.append_assoc] at quiet
  rw [split, List.append_assoc, blocksQuiet closed, List.cons_append, List.append_assoc,
    List.singleton_append, blocksFirst (structOpened regular.name.1) tabs (by decide), later]

theorem structsBlocks {shapes : List (String × Struct String)}
    (regular : ∀ s ∈ shapes, OneLine s.1 ∧ s.2.Regular) (after : List (List Char)) :
    blocks opensStruct? (rowsOf (structTexts shapes) ++ after) =
      (shapes.map fun s => (s.2.name, s.2.fields.map Field.row)) ++ blocks opensStruct? after := by
  induction shapes with
  | nil => rfl
  | cons s more ih =>
      obtain ⟨⟨oneLine, first⟩, others⟩ := List.forall_mem_cons.mp regular
      have split : structTexts (s :: more) = s.2.texts s.1 ++ structTexts more := List.flatMap_cons
      rw [split, rowsOfAppend, List.append_assoc, structBlock oneLine first, ih others]
      rfl

theorem codeRowsOf {f : GoFile} (package : Solid ("package " ++ f.package).toList)
    (closed : ∀ row ∈ rowsOf (f.body.map lineText), row ≠ [')']) (goModule : String) :
    ∃ front, (∀ row ∈ front,
        row = generatedNotice.toList ∨ row = ("package " ++ f.package).toList) ∧
      codeRows (f.text goModule) = front ++ rowsOf (f.body.map lineText) := by
  have inside : ∀ row ∈ (rowsOf (f.body.map lineText)).reverse, decide (row ≠ [')']) = true :=
    fun row member => decide_eq_true (closed row (List.mem_reverse.mp member))
  have notice : decide (generatedNotice.toList ≠ [')']) = true := by decide
  have clause : decide (("package " ++ f.package).toList ≠ [')']) = true := by simp
  have whole := goRows package goModule
  rw [blockRows] at whole
  split at whole
  · refine ⟨[generatedNotice.toList, ("package " ++ f.package).toList], by simp, ?_⟩
    have all : ∀ row ∈ (generatedNotice.toList :: ("package " ++ f.package).toList ::
        rowsOf (f.body.map lineText)).reverse, decide (row ≠ [')']) = true := by
      simp only [List.mem_reverse, List.forall_mem_cons] at inside ⊢
      exact ⟨notice, clause, inside⟩
    rw [codeRows, whole, List.nil_append, List.takeWhile_eq_self_iff.mpr all, List.reverse_reverse]
    rfl
  · refine ⟨[], nofun, ?_⟩
    obtain ⟨before, split⟩ : ∃ before, rows (f.text goModule).toList =
        before ++ [')'] :: rowsOf (f.body.map lineText) :=
      ⟨generatedNotice.toList :: ("package " ++ f.package).toList :: "import (".toList ::
        importRows goModule f.imports.flatten, by simp [whole]⟩
    rw [codeRows, split, List.reverse_append, List.reverse_cons, List.append_assoc,
      List.takeWhile_append_of_pos inside, List.singleton_append,
      List.takeWhile_cons_of_neg (by decide), List.append_nil, List.reverse_reverse,
      List.nil_append]

theorem structsClosed {shapes : List (String × Struct String)}
    (regular : ∀ s ∈ shapes, OneLine s.1 ∧ s.2.Regular) :
    ∀ row ∈ rowsOf (structTexts shapes), row ≠ [')'] := by
  intro row member
  obtain ⟨t, own, inside⟩ := List.mem_flatMap.mp member
  obtain ⟨s, known, text⟩ := List.mem_flatMap.mp own
  obtain ⟨oneLine, single⟩ := regular s known
  obtain ⟨quiet, others, split⟩ := structRows oneLine single
  have among : row ∈ rowsOf (s.2.texts s.1) := List.mem_flatMap.mpr ⟨t, text, inside⟩
  rw [split] at among
  rintro rfl
  simp only [List.mem_append, List.mem_cons, List.mem_map, List.not_mem_nil, or_false] at among
  rcases among with comment | opened | ⟨f, -, same⟩ | closing
  · exact absurd (others _ comment) (by decide)
  · exact absurd (congrArg List.head? opened) (by simp)
  · exact absurd (congrArg List.head? same) (by simp [Field.row])
  · exact absurd closing (by decide)

theorem mapMOutlines {ss : List (Struct String)}
    (regular : ∀ s ∈ ss, s.Regular) (leads : ∀ s ∈ ss, ∀ f ∈ s.fields, f.Leads) :
    (ss.map fun s => (s.name, s.fields.map Field.row)).mapM outline? =
      some (ss.map Struct.outline) := by
  have fields {fs : List (Field String)} (regular : ∀ f ∈ fs, f.Regular)
      (leads : ∀ f ∈ fs, f.Leads) :
      (fs.map Field.row).mapM leading? = some (fs.map Field.leading) := by
    induction fs with
    | nil => rfl
    | cons f rest ih =>
        obtain ⟨first, others⟩ := List.forall_mem_cons.mp regular
        obtain ⟨lead, leads'⟩ := List.forall_mem_cons.mp leads
        simp [leadingRead first lead, ih others leads']
  induction ss with
  | nil => rfl
  | cons s rest ih =>
      obtain ⟨first, others⟩ := List.forall_mem_cons.mp regular
      obtain ⟨lead, leads'⟩ := List.forall_mem_cons.mp leads
      simp [outline?, fields first.fields lead, ih others leads', Struct.outline]

theorem outlinesRead {f : GoFile} {goModule : String}
    (package : Solid ("package " ++ f.package).toList)
    {code more : List Line} (body : f.body = code ++ more) {ss : List (Struct String)}
    (prints : Prints code ss) (regular : ∀ s ∈ ss, s.Regular)
    (leads : ∀ s ∈ ss, ∀ f ∈ s.fields, f.Leads)
    (quiet : ∀ l ∈ more, OneLine (lineText l) ∧ (lineText l).toList.head? ∉ [some 't', some ')']) :
    outlines (f.text goModule) = some (ss.map Struct.outline) := by
  obtain ⟨shapes, rfl, comments, texts⟩ := prints
  have each : ∀ s ∈ shapes, OneLine s.1 ∧ s.2.Regular := fun s member =>
    ⟨comments s member, regular _ (List.mem_map_of_mem member)⟩
  have rest : ∀ row ∈ rowsOf (more.map lineText), row.head? ∉ [some 't', some ')'] := by
    intro row member
    obtain ⟨t, known, inside⟩ := List.mem_flatMap.mp member
    obtain ⟨l, own, rfl⟩ := List.mem_map.mp known
    obtain ⟨oneLine, other⟩ := quiet l own
    rw [rowHead oneLine inside]
    exact other
  have closed : ∀ row ∈ rowsOf (f.body.map lineText), row ≠ [')'] := by
    rw [body, List.map_append, texts, rowsOfAppend]
    refine List.forall_mem_append.mpr ⟨structsClosed each, fun row member same => ?_⟩
    exact rest row member (by simp [same])
  have others : ∀ row ∈ rowsOf (more.map lineText), opensStruct? row = none := fun row member =>
    opensNone fun same => rest row member (by simp [same])
  obtain ⟨front, notices, split⟩ := codeRowsOf package closed goModule
  have begun : ∀ row ∈ front, opensStruct? row = none := by
    intro row member
    rcases notices row member with rfl | rfl
    · exact opensNone (by decide)
    · exact opensNone (by simp)
  have last : blocks opensStruct? (rowsOf (more.map lineText)) = [] := by
    have quiet := blocksQuiet others []
    rwa [List.append_nil] at quiet
  rw [outlines, split, blocksQuiet begun, body, List.map_append, texts, rowsOfAppend,
    structsBlocks each, last, List.append_nil]
  have read := mapMOutlines regular leads
  rwa [List.map_map] at read

theorem tabbedSolid {cs : List Char} (solid : Solid cs) : Solid ('\t' :: cs) := by
  refine ⟨List.cons_ne_nil _ _, by simpa using solid.noFeed, ?_⟩
  rw [List.getLast?_cons_of_ne_nil solid.some]
  exact solid.noBlank

theorem hasBlock {f : GoFile} {head : Line} {body : List Line} {opening : String}
    (inside : head :: (indented "\t" body ++ [plain "\x7d"]) <:+: f.body)
    (opened : lineText head = opening) (solid : Solid opening.toList)
    (solids : ∀ l ∈ body, Solid (lineText l).toList) (goModule : String) :
    HasBlock (f.text goModule) opening (body.map fun l => '\t' :: (lineText l).toList) := by
  have texts : (head :: (indented "\t" body ++ [plain "\x7d"])).map lineText =
      opening :: ((body.map fun l => "\t" ++ lineText l) ++ ["\x7d"]) := by
    simp [indented, opened, plainText, Function.comp_def]
  have all : rowsOf ((head :: (indented "\t" body ++ [plain "\x7d"])).map lineText) =
      opening.toList :: ((body.map fun l => '\t' :: (lineText l).toList) ++ [['\x7d']]) := by
    rw [texts, rowsOfSolid]
    · simp [Function.comp_def]
    · refine List.forall_mem_cons.mpr ⟨solid, List.forall_mem_append.mpr
        ⟨List.forall_mem_map.mpr fun l member => ?_, List.forall_mem_singleton.mpr
          (solidConcat List.not_mem_nil (by decide))⟩⟩
      simpa using tabbedSolid (solids l member)
  refine ⟨?_, List.forall_mem_map.mpr fun l _ => beginsAppend "\t" _⟩
  obtain ⟨front, back, split⟩ := inside
  refine ⟨rowsOf (([plain generatedNotice, blank, plain ("package " ++ f.package)] ++
    GoFile.importLines goModule f.imports ++ front).map lineText), rowsOf (back.map lineText), ?_⟩
  rw [GoFile.text, rowsOfFile, GoFile.lines, ← split, ← all]
  simp only [List.map_append, rowsOfAppend, List.append_assoc]

end RestScaffold.Go
