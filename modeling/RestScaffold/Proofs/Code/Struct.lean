import RestScaffold.Proofs.Code.ImportBlock

/-! Structs of the server's code, read off the rows of a file. A field has a name, a type and a tag
in a raw string; a tag is a row of keys with quoted values. -/
namespace RestScaffold.Go
open Code Layout Text

structure Field (Value : Type) where
  name : String
  type : String
  tag : List (String × Value)
  deriving DecidableEq, Repr

structure Struct (Value : Type) where
  name : String
  fields : List (Field Value)
  deriving DecidableEq, Repr

def isKeyCharacter (c : Char) : Bool := ' ' < c && c ≠ ':' && c ≠ '"' && c ≠ '\x7f'

def readPair (cs : List Char) : Option ((String × List UInt8) × List Char) :=
  let key := cs.takeWhile isKeyCharacter
  match cs.dropWhile isKeyCharacter with
  | ':' :: '"' :: rest =>
      if key = [] then none
      else (GoString.readText rest).map fun (value, after) => ((String.ofList key, value), after)
  | _ => none

theorem pairShortens {cs after : List Char} {pair : String × List UInt8}
    (read : readPair cs = some (pair, after)) : after.length < cs.length := by
  simp only [readPair] at read
  split at read
  · rename_i rest found
    have shorter := (List.dropWhile_suffix isKeyCharacter (l := cs)).length_le
    rw [found] at shorter
    split at read
    · contradiction
    · obtain ⟨⟨value, rest'⟩, text, same⟩ := Option.map_eq_some_iff.mp read
      cases same
      obtain ⟨used, rfl, -⟩ := GoString.readSpends text
      simp only [List.length_cons, List.length_append] at shorter
      show rest'.length < cs.length
      omega
  · contradiction

def readTag (cs : List Char) : Option (List (String × List UInt8)) :=
  let start := cs.dropWhile (· = ' ')
  if start = [] then some []
  else
    match pair : readPair start with
    | none => none
    | some (first, after) =>
        have : after.length < cs.length :=
          Nat.lt_of_lt_of_le (pairShortens pair) (List.dropWhile_suffix _).length_le
        (readTag after).map (first :: ·)
termination_by cs.length

theorem readTagStep (cs : List Char) : readTag cs =
    if cs.dropWhile (· = ' ') = [] then some []
    else (readPair (cs.dropWhile (· = ' '))).bind fun (first, after) =>
      (readTag after).map (first :: ·) := by
  rw [readTag]
  split
  · rfl
  · split
    · rename_i none
      rw [none, Option.bind_none]
    · rename_i found
      simp only [found, Option.bind_some]

def field? (row : List Char) : Option (Field (List UInt8)) :=
  match row with
  | '\t' :: rest =>
      let more := (rest.dropWhile (· ≠ ' ')).drop 1
      match more.dropWhile (· ≠ ' ') with
      | ' ' :: '`' :: raw =>
          if raw.dropWhile (· ≠ '`') = ['`'] then
            (readTag (raw.takeWhile (· ≠ '`'))).map fun tag => ⟨upTo ' ' rest, upTo ' ' more, tag⟩
          else none
      | _ => none
  | _ => none

def opensStruct? (row : List Char) : Option String :=
  let name := upTo ' ' (row.drop 5)
  if row = ("type " ++ name ++ " struct \x7b").toList then some name else none

def structsFrom : Option (Struct (List UInt8)) → List (List Char) →
    Option (List (Struct (List UInt8)))
  | none, [] => some []
  | some _, [] => none
  | none, row :: rest => structsFrom ((opensStruct? row).map (⟨·, []⟩)) rest
  | some s, row :: rest =>
      if row = ['\x7d'] then (structsFrom none rest).map (s :: ·)
      else
        match field? row with
        | none => none
        | some f => structsFrom (some { s with fields := s.fields ++ [f] }) rest

def structs (text : String) : Option (List (Struct (List UInt8))) :=
  structsFrom none (rows text.toList)

def Field.text (f : Field String) : String :=
  f.name ++ " " ++ f.type ++ " `" ++ GoField.tagText f.tag ++ "`"

def Field.bytes (f : Field String) : Field (List UInt8) :=
  { f with tag := f.tag.map fun (key, value) => (key, utf8 value.toList) }

def Struct.bytes (s : Struct String) : Struct (List UInt8) :=
  { s with fields := s.fields.map Field.bytes }

def Key (key : String) : Prop := key ≠ "" ∧ ∀ c ∈ key.toList, isKeyCharacter c = true

instance (key : String) : Decidable (Key key) :=
  have : Decidable (∀ c ∈ key.toList, isKeyCharacter c = true) := List.decidableBAll _ _
  inferInstanceAs (Decidable (_ ∧ _))

def Tagged (s : String) : Prop := '`' ∉ s.toList ∧ GoString.Literal s.toList

instance (s : String) : Decidable (Tagged s) := inferInstanceAs (Decidable (_ ∧ _))

variable {key : String} {cs rest : List Char}

theorem pairRead (known : Key key) (rest : List Char) :
    readPair (key.toList ++ ':' :: '"' :: rest) =
      (GoString.readText rest).map fun (value, after) => ((key, value), after) := by
  obtain ⟨some, characters⟩ := known
  have taken : (key.toList ++ ':' :: '"' :: rest).takeWhile isKeyCharacter = key.toList := by
    rw [List.takeWhile_append_of_pos characters, List.takeWhile_cons_of_neg (by decide),
      List.append_nil]
  have left : (key.toList ++ ':' :: '"' :: rest).dropWhile isKeyCharacter = ':' :: '"' :: rest := by
    rw [List.dropWhile_append_of_pos characters, List.dropWhile_cons_of_neg (by decide)]
  have named : key.toList ≠ [] := by simpa using some
  simp only [readPair, taken, left, if_neg named, String.ofList_toList]

theorem readTagBlank (cs : List Char) : readTag (' ' :: cs) = readTag cs := by
  rw [readTagStep, readTagStep cs, List.dropWhile_cons_of_pos (by decide)]

theorem readTagPair (known : Key key) (rest : List Char) :
    readTag (key.toList ++ ':' :: '"' :: rest) =
      (GoString.readText rest).bind fun (value, after) =>
        (readTag after).map ((key, value) :: ·) := by
  obtain ⟨c, more, same⟩ := List.exists_cons_of_ne_nil
    (show key.toList ≠ [] by simpa using known.1)
  have full : decide (c = ' ') = false := by
    refine decide_eq_false fun blank => ?_
    have character := known.2 c (same ▸ List.mem_cons_self)
    rw [blank] at character
    contradiction
  have start : (key.toList ++ ':' :: '"' :: rest).dropWhile (· = ' ') =
      key.toList ++ ':' :: '"' :: rest := by
    rw [same, List.cons_append, List.dropWhile_cons_of_neg (by simp [full])]
  rw [readTagStep, start, if_neg (by simp), pairRead known]
  cases GoString.readText rest <;> rfl

theorem tagTextCons (pair : String × String) (more : List (String × String)) :
    ∃ after, (GoField.tagText (pair :: more)).toList =
        pair.1.toList ++ ':' :: '"' :: (pair.2.toList ++ '"' :: after) ∧
      readTag after = readTag (GoField.tagText more).toList := by
  cases more with
  | nil => exact ⟨[], by simp [GoField.tagText], rfl⟩
  | cons next rest =>
      refine ⟨' ' :: (GoField.tagText (next :: rest)).toList, ?_, readTagBlank _⟩
      rw [GoField.tagText, List.map_cons, List.map_cons, String.intercalate_cons_cons]
      simp [GoField.tagText]

theorem tagRead {tag : List (String × String)} (keys : ∀ p ∈ tag, Key p.1)
    (literal : ∀ p ∈ tag, GoString.Literal p.2.toList) :
    readTag (GoField.tagText tag).toList = some (tag.map fun p => (p.1, utf8 p.2.toList)) := by
  induction tag with
  | nil => exact readTagStep []
  | cons p more ih =>
      obtain ⟨key, keys'⟩ := List.forall_mem_cons.mp keys
      obtain ⟨own, others⟩ := List.forall_mem_cons.mp literal
      obtain ⟨after, text, same⟩ := tagTextCons p more
      rw [text, readTagPair key, GoString.readLiteral own]
      show (readTag after).map _ = _
      rw [same, ih keys' others]
      rfl

theorem tagReadLast {front : List (String × String)} {last : String × String}
    (keys : ∀ p ∈ front ++ [last], Key p.1) (literal : ∀ p ∈ front, GoString.Literal p.2.toList)
    (read : readTag (GoField.tagText (front ++ [last])).toList =
      some ((front ++ [last]).map fun p => (p.1, utf8 p.2.toList))) :
    GoString.Literal last.2.toList := by
  induction front with
  | nil =>
      have key := keys last (List.mem_singleton_self _)
      have text : (GoField.tagText ([] ++ [last])).toList =
          last.1.toList ++ ':' :: '"' :: (last.2.toList ++ ['"']) := by simp [GoField.tagText]
      rw [text, readTagPair key, Option.bind_eq_some_iff] at read
      obtain ⟨⟨value, after⟩, own, others⟩ := read
      obtain ⟨more, -, same⟩ := Option.map_eq_some_iff.mp others
      have same' : value = utf8 last.2.toList := (Prod.mk.inj (List.cons.inj same).1).2
      rw [same'] at own
      exact GoString.readLiteralCut (List.prefix_refl _) own
  | cons p more ih =>
      obtain ⟨key, keys'⟩ := List.forall_mem_cons.mp keys
      obtain ⟨own, others⟩ := List.forall_mem_cons.mp literal
      obtain ⟨after, text, same⟩ := tagTextCons p (more ++ [last])
      rw [List.cons_append, text, readTagPair key, GoString.readLiteral own] at read
      change (readTag after).map _ = _ at read
      rw [same, Option.map_eq_some_iff] at read
      obtain ⟨pairs, read', same'⟩ := read
      exact ih keys' others (read'.trans (congrArg some (List.cons.inj same').2))

structure Field.Regular (f : Field String) : Prop where
  name : ' ' ∉ f.name.toList ∧ OneLine f.name
  type : ' ' ∉ f.type.toList ∧ OneLine f.type
  some : f.tag ≠ []
  keys : ∀ p ∈ f.tag, Key p.1 ∧ '`' ∉ p.1.toList
  front : ∀ p ∈ f.tag.dropLast, Tagged p.2
  oneLine : ∀ p ∈ f.tag, OneLine p.2

def Field.Fits (f : Field String) : Prop := ∀ p ∈ f.tag, Tagged p.2

def Field.row (f : Field String) : List Char := '\t' :: f.text.toList

variable {f : Field String}

theorem tagFree {tag : List (String × String)} : '`' ∉ (GoField.tagText tag).toList ↔
    ∀ p ∈ tag, '`' ∉ p.1.toList ∧ '`' ∉ p.2.toList := by
  induction tag with
  | nil => simp [GoField.tagText]
  | cons p more ih =>
      cases more with
      | nil => simp [GoField.tagText]
      | cons q rest =>
          rw [List.forall_mem_cons, ← ih, GoField.tagText, List.map_cons, List.map_cons,
            String.intercalate_cons_cons]
          simp [GoField.tagText, and_assoc]

theorem fieldRow (f : Field String) : f.row = '\t' :: (f.name.toList ++ ' ' :: (f.type.toList ++
    ' ' :: '`' :: ((GoField.tagText f.tag).toList ++ ['`']))) := by
  simp [Field.row, Field.text]

theorem notBlank {cs : List Char} (solid : ' ' ∉ cs) : ∀ c ∈ cs, decide (c ≠ ' ') = true :=
  fun _ member => decide_eq_true fun same => solid (same ▸ member)

theorem rowParts (regular : f.Regular) : ∃ rest more, f.row = '\t' :: rest ∧
    upTo ' ' rest = f.name ∧ (rest.dropWhile (· ≠ ' ')).drop 1 = more ∧ upTo ' ' more = f.type ∧
    more.dropWhile (· ≠ ' ') = ' ' :: '`' :: ((GoField.tagText f.tag).toList ++ ['`']) := by
  have stop (cs : List Char) : (' ' :: cs).dropWhile (· ≠ ' ') = ' ' :: cs :=
    List.dropWhile_cons_of_neg (by decide)
  refine ⟨_, _, fieldRow f, ?_, rfl, ?_, ?_⟩
  · exact (upToFirst regular.name.1 _).trans String.ofList_toList
  all_goals rw [List.dropWhile_append_of_pos (notBlank regular.name.1), stop, List.drop_succ_cons,
    List.drop_zero]
  · exact (upToFirst regular.type.1 _).trans String.ofList_toList
  · rw [List.dropWhile_append_of_pos (notBlank regular.type.1), stop]

theorem fieldSplit (regular : f.Regular) : field? f.row =
    if ((GoField.tagText f.tag).toList ++ ['`']).dropWhile (· ≠ '`') = ['`'] then
      (readTag (((GoField.tagText f.tag).toList ++ ['`']).takeWhile (· ≠ '`'))).map
        fun tag => ⟨f.name, f.type, tag⟩
    else none := by
  obtain ⟨rest, more, row, name, dropped, type, tag⟩ := rowParts regular
  rw [row, field?]
  simp only [dropped, name, type, tag]

theorem fieldRead (regular : f.Regular) : field? f.row = some f.bytes ↔ f.Fits := by
  have keys : ∀ p ∈ f.tag, Key p.1 := fun p member => (regular.keys p member).1
  rw [fieldSplit regular]
  by_cases free : '`' ∈ (GoField.tagText f.tag).toList
  · have spoilt : ¬f.Fits := fun fits => tagFree.mpr (fun p member =>
      ⟨(regular.keys p member).2, (fits p member).1⟩) free
    obtain ⟨before, after, split, none⟩ := List.eq_append_cons_of_mem free
    have other : ∀ c ∈ before, decide (c ≠ '`') = true := fun c member =>
      decide_eq_true fun same => none (same ▸ member)
    have closing : ((GoField.tagText f.tag).toList ++ ['`']).dropWhile (· ≠ '`') ≠ ['`'] := by
      rw [split, List.append_assoc, List.dropWhile_append_of_pos other, List.cons_append,
        List.dropWhile_cons_of_neg (by decide)]
      simp
    rw [if_neg closing]
    exact ⟨nofun, fun fits => absurd fits spoilt⟩
  · have other : ∀ c ∈ (GoField.tagText f.tag).toList, decide (c ≠ '`') = true := fun c member =>
      decide_eq_true fun same => free (same ▸ member)
    have whole : (readTag (GoField.tagText f.tag).toList).map (fun tag => (⟨f.name, f.type, tag⟩ :
        Field (List UInt8))) = some f.bytes ↔ readTag (GoField.tagText f.tag).toList =
          some (f.tag.map fun p => (p.1, utf8 p.2.toList)) := by
      rw [Option.map_eq_some_iff]
      constructor
      · rintro ⟨tag, read, same⟩
        rw [read]
        exact congrArg some (congrArg Field.tag same)
      · exact fun read => ⟨_, read, rfl⟩
    rw [List.dropWhile_append_of_pos other, List.takeWhile_append_of_pos other,
      List.dropWhile_cons_of_neg (by decide), List.takeWhile_cons_of_neg (by decide),
      List.append_nil, if_pos rfl, whole]
    constructor
    · intro read
      have split := List.dropLast_append_getLast regular.some
      rw [← split] at read keys
      have last := tagReadLast keys (fun p member => (regular.front p member).2) read
      intro p member
      rw [← split] at member
      rcases List.mem_append.mp member with front | own
      · exact regular.front p front
      · obtain rfl := List.mem_singleton.mp own
        exact ⟨((tagFree.mp free) _ (List.getLast_mem _)).2, last⟩
    · exact fun fits => tagRead keys fun p member => (fits p member).2

theorem opensNone {row : List Char} (other : row.head? ≠ some 't') : opensStruct? row = none := by
  rw [opensStruct?, if_neg]
  intro same
  rw [same] at other
  exact other (by simp)

theorem structOpened {name : String} (solid : ' ' ∉ name.toList) :
    opensStruct? ("type " ++ name ++ " struct \x7b").toList = some name := by
  have split : ("type " ++ name ++ " struct \x7b").toList.drop 5 =
      name.toList ++ ' ' :: "struct \x7b".toList := by simp
  rw [opensStruct?, split, upToFirst solid, String.ofList_toList, if_pos rfl]

theorem structsQuiet {quiet rest : List (List Char)}
    (others : ∀ row ∈ quiet, opensStruct? row = none) :
    structsFrom none (quiet ++ rest) = structsFrom none rest := by
  induction quiet with
  | nil => rfl
  | cons row more ih =>
      obtain ⟨own, others'⟩ := List.forall_mem_cons.mp others
      rw [List.cons_append, structsFrom, own]
      exact ih others'

theorem structGrows {s t : Struct (List UInt8)} {rs : List (List Char)}
    {more : List (Struct (List UInt8))} (read : structsFrom (some s) rs = some (t :: more)) :
    s.fields <+: t.fields := by
  induction rs generalizing s with
  | nil => contradiction
  | cons row rest ih =>
      rw [structsFrom] at read
      split at read
      · obtain ⟨others, -, same⟩ := Option.map_eq_some_iff.mp read
        have first := (List.cons.inj same).1
        exact first ▸ List.prefix_refl _
      · split at read
        · contradiction
        · exact (List.prefix_append _ _).trans (ih read)

theorem fieldsRead {name : String} {done : List (Field (List UInt8))} {fields : List (Field String)}
    (regular : ∀ f ∈ fields, f.Regular) {rest : List (List Char)}
    {more : List (Struct (List UInt8))} :
    structsFrom (some ⟨name, done⟩) (fields.map Field.row ++ ['\x7d'] :: rest) =
        some (⟨name, done ++ fields.map Field.bytes⟩ :: more) ↔
      (∀ f ∈ fields, f.Fits) ∧ structsFrom none rest = some more := by
  induction fields generalizing done with
  | nil => simp [structsFrom]
  | cons f others ih =>
      obtain ⟨first, later⟩ := List.forall_mem_cons.mp regular
      have inside : f.row ≠ ['\x7d'] := by simp [Field.row]
      rw [List.map_cons, List.map_cons, List.cons_append, structsFrom, if_neg inside,
        List.forall_mem_cons, ← fieldRead first, and_assoc]
      cases read : field? f.row with
      | none => simp
      | some g =>
          dsimp only
          have split : done ++ f.bytes :: others.map Field.bytes =
              (done ++ [f.bytes]) ++ others.map Field.bytes := by simp
          by_cases same : g = f.bytes
          · subst same
            rw [split, ih later, and_iff_right rfl]
          · constructor
            · intro read'
              have grows := structGrows read'
              rw [split] at grows
              have first' := List.prefix_of_prefix_length_le grows (List.prefix_append _ _)
                (by simp)
              have equal := first'.eq_of_length (by simp)
              exact absurd (List.singleton_inj.mp (List.append_cancel_left equal)) same
            · exact fun both => absurd (Option.some.inj both.1) same

theorem quietLine {text : String} (oneLine : OneLine text) (other : text.toList.head? ≠ some 't') :
    ∀ row ∈ rows text.toList, opensStruct? row = none := fun _ member =>
  opensNone (by rwa [rowHead oneLine member])

theorem fieldSolid (regular : f.Regular) : Solid f.row := by
  have whole : OneLine ("\t" ++ f.text) := by
    have tag : OneLine (GoField.tagText f.tag) := by
      refine oneLineIntercalate (by decide) (List.forall_mem_map.mpr fun p member => ?_)
      have key : OneLine p.1 := fun feed =>
        absurd ((regular.keys p member).1.2 _ feed) (by decide)
      have fixed : OneLine ":\"" ∧ OneLine "\"" := by decide
      simp [key, regular.oneLine p member, fixed]
    have fixed : OneLine "\t" ∧ OneLine " " ∧ OneLine " `" ∧ OneLine "`" := by decide
    simp [Field.text, regular.name.2, regular.type.2, tag, fixed]
  have split : f.row = ("\t" ++ f.name ++ " " ++ f.type ++ " `" ++ GoField.tagText f.tag ++
      "`").toList := by
    simp [Field.row, Field.text]
  rw [split]
  exact solidEnd (by simpa [Field.text, and_assoc] using whole) rfl (by decide)

def Struct.texts (comment : String) (s : Struct String) : List String :=
  (struct comment s.name (s.fields.map fun f => plain f.text)).map lineText

theorem Struct.textsSplit (comment : String) (s : Struct String) :
    s.texts comment = ["", "// " ++ comment] ++ (("type " ++ s.name ++ " struct \x7b") ::
      (s.fields.map (fun f => "\t" ++ f.text) ++ ["\x7d"])) := by
  have inside : (indented "\t" (s.fields.map fun f => plain f.text)).map lineText =
      s.fields.map (fun f => "\t" ++ f.text) := by
    simp [indented, Function.comp_def, plainText, Fragment.string]
  simp [Struct.texts, struct, block, Code.block, inside, plainText, blank, line, declared,
    Fragment.string, String.append_assoc]

structure Struct.Regular (s : Struct String) : Prop where
  name : ' ' ∉ s.name.toList ∧ OneLine s.name
  fields : ∀ f ∈ s.fields, f.Regular

def Struct.Fits (s : Struct String) : Prop := ∀ f ∈ s.fields, f.Fits

theorem commentRows {comment : String} (oneLine : OneLine comment) :
    ∀ row ∈ rows ("// " ++ comment).toList, row.head? = some '/' := by
  have opening : OneLine "// " := by decide
  intro row member
  rw [rowHead (by simp [opening, oneLine]) member]
  simp

theorem structRows {comment : String} (oneLine : OneLine comment) {s : Struct String}
    (regular : s.Regular) : ∃ quiet, (∀ row ∈ quiet, row.head? = some '/') ∧
      rowsOf (s.texts comment) = quiet ++ (("type " ++ s.name ++ " struct \x7b").toList ::
        (s.fields.map Field.row ++ [['\x7d']])) := by
  have fixed : OneLine "type " ∧ OneLine " struct \x7b" := by decide
  have solid : ∀ t ∈ ("type " ++ s.name ++ " struct \x7b") ::
      (s.fields.map (fun f => "\t" ++ f.text) ++ ["\x7d"]), Solid t.toList := by
    refine List.forall_mem_cons.mpr ⟨solidEnd (by simp [fixed, regular.name.2]) rfl (by decide),
      List.forall_mem_append.mpr ⟨List.forall_mem_map.mpr fun f member => ?_,
        List.forall_mem_singleton.mpr (solidConcat List.not_mem_nil (by decide))⟩⟩
    simpa [Field.row] using fieldSolid (regular.fields f member)
  refine ⟨rows ("// " ++ comment).toList, commentRows oneLine, ?_⟩
  have comments : rowsOf ["", "// " ++ comment] = rows ("// " ++ comment).toList := by
    simp [rowsOf, rows, lines, linesFrom]
  rw [Struct.textsSplit, rowsOfAppend, rowsOfSolid solid, comments]
  simp [Field.row, Function.comp_def]

theorem structRead {comment : String} (oneLine : OneLine comment) {s : Struct String}
    (regular : s.Regular) {rest : List (List Char)} {more : List (Struct (List UInt8))} :
    structsFrom none (rowsOf (s.texts comment) ++ rest) = some (s.bytes :: more) ↔
      s.Fits ∧ structsFrom none rest = some more := by
  obtain ⟨quiet, others, split⟩ := structRows oneLine regular
  have closed : ∀ row ∈ quiet, opensStruct? row = none := fun row member =>
    opensNone (by simp [others row member])
  rw [split, List.append_assoc, structsQuiet closed, List.cons_append, List.append_assoc,
    structsFrom, structOpened regular.name.1]
  exact fieldsRead regular.fields

def structTexts (shapes : List (String × Struct String)) : List String :=
  shapes.flatMap fun (comment, s) => s.texts comment

theorem allRead {shapes : List (String × Struct String)}
    (regular : ∀ s ∈ shapes, OneLine s.1 ∧ s.2.Regular) {rest : List (List Char)}
    (quiet : ∀ row ∈ rest, opensStruct? row = none) :
    structsFrom none (rowsOf (structTexts shapes) ++ rest) =
      some (shapes.map fun s => s.2.bytes) ↔ ∀ s ∈ shapes, s.2.Fits := by
  induction shapes with
  | nil =>
      have none : structsFrom none (rest ++ []) = structsFrom none [] := structsQuiet quiet
      rw [List.append_nil] at none
      have done : rowsOf (structTexts []) ++ rest = rest := rfl
      rw [done, none]
      simp [structsFrom]
  | cons s more ih =>
      obtain ⟨⟨oneLine, first⟩, others⟩ := List.forall_mem_cons.mp regular
      have split : structTexts (s :: more) = s.2.texts s.1 ++ structTexts more := List.flatMap_cons
      rw [split, rowsOfAppend, List.append_assoc, List.map_cons, structRead oneLine first,
        ih others, List.forall_mem_cons]

theorem importQuiet {goModule : String} {groups : List (List Package)}
    (oneLine : ∀ p ∈ groups.flatten, OneLine (p.path goModule)) :
    ∀ row ∈ rowsOf ((GoFile.importLines goModule groups).map lineText),
      opensStruct? row = none := by
  rw [blockRows]
  split
  · exact nofun
  · refine List.forall_mem_cons.mpr ⟨opensNone (by decide), List.forall_mem_append.mpr
      ⟨fun row member => ?_, List.forall_mem_singleton.mpr (opensNone (by decide))⟩⟩
    obtain ⟨p, known, inside⟩ := List.mem_flatMap.mp member
    have fixed : OneLine "\t\"" ∧ OneLine "\"" := by decide
    exact quietLine (by simp [importText, oneLine p known, fixed]) (by simp [importText]) row inside

def Prints (code : List Line) (structs : List (Struct String)) : Prop :=
  ∃ shapes : List (String × Struct String), shapes.map Prod.snd = structs ∧
    (∀ s ∈ shapes, OneLine s.1) ∧ code.map lineText = structTexts shapes

theorem printsNone : Prints [] [] := ⟨[], rfl, nofun, rfl⟩

theorem Prints.append {code code' : List Line} {ss ss' : List (Struct String)}
    (prints : Prints code ss) (prints' : Prints code' ss') :
    Prints (code ++ code') (ss ++ ss') := by
  obtain ⟨shapes, rfl, oneLine, texts⟩ := prints
  obtain ⟨more, rfl, oneLine', texts'⟩ := prints'
  refine ⟨shapes ++ more, List.map_append, List.forall_mem_append.mpr ⟨oneLine, oneLine'⟩, ?_⟩
  rw [List.map_append, texts, texts', structTexts, structTexts, structTexts, List.flatMap_append]

theorem printsStruct {comment name : String} {fields : List (Field String)} {body : List Line}
    (oneLine : OneLine comment) (texts : body.map lineText = fields.map Field.text) :
    Prints (struct comment name body) [⟨name, fields⟩] := by
  refine ⟨[(comment, ⟨name, fields⟩)], rfl, List.forall_mem_singleton.mpr oneLine, ?_⟩
  have same : body.map lineText = (fields.map fun f => plain f.text).map lineText := by
    rw [texts, List.map_map]
    exact List.map_congr_left fun f _ => (plainText f.text).symm
  have inside (ls : List Line) : (indented "\t" ls).map lineText =
      (ls.map lineText).map ("\t" ++ ·) := by
    simp [indented, Function.comp_def, Fragment.string]
  rw [structTexts, List.flatMap_singleton]
  simp only [Struct.texts, struct, block, Code.block, List.map_append, List.map_cons, inside, same]

theorem printsOptional {α : Type} (item : Option α) {code : α → List Line} {s : α → Struct String}
    (each : ∀ a, Prints (code a) [s a]) :
    Prints ((item.map code).getD []) (item.map s).toList := by
  cases item with
  | none => exact printsNone
  | some a => exact each a

theorem structsRead {f : GoFile} {goModule : String}
    (oneLine : ∀ p ∈ f.imports.flatten, OneLine (p.path goModule))
    (package : Solid ("package " ++ f.package).toList) {code more : List Line}
    (body : f.body = code ++ more) {ss : List (Struct String)} (prints : Prints code ss)
    (regular : ∀ s ∈ ss, s.Regular)
    (quiet : ∀ l ∈ more, OneLine (lineText l) ∧ (lineText l).toList.head? ≠ some 't') :
    structs (f.text goModule) = some (ss.map Struct.bytes) ↔ ∀ s ∈ ss, s.Fits := by
  obtain ⟨shapes, rfl, comments, texts⟩ := prints
  have each : ∀ s ∈ shapes, OneLine s.1 ∧ s.2.Regular := fun s member =>
    ⟨comments s member, regular _ (List.mem_map_of_mem member)⟩
  have rest : ∀ row ∈ rowsOf (more.map lineText), opensStruct? row = none := fun row member => by
    obtain ⟨t, known, inside⟩ := List.mem_flatMap.mp member
    obtain ⟨l, own, rfl⟩ := List.mem_map.mp known
    exact quietLine (quiet l own).1 (quiet l own).2 row inside
  have clause : opensStruct? ("package " ++ f.package).toList = none := opensNone (by simp)
  have notice : opensStruct? generatedNotice.toList = none := opensNone (by decide)
  have read := allRead each rest
  rw [structs, goRows package, body, List.map_append, texts, rowsOfAppend, structsFrom, notice,
    Option.map_none, structsFrom, clause, Option.map_none, structsQuiet (importQuiet oneLine),
    List.map_map, List.forall_mem_map]
  exact read

end RestScaffold.Go
