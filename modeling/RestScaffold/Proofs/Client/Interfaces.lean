import RestScaffold.Proofs.Client.Tokens

/-! The interfaces that the client's types file declares, read off its tokens. -/
namespace RestScaffold

def ScriptType.tokens : ScriptType → List Client.Token
  | .string => Client.Token.named "string"
  | .number => Client.Token.named "number"
  | .boolean => Client.Token.named "boolean"
  | .unknown => Client.Token.named "unknown"
  | .array element => element.tokens ++ [.sign '[', .sign ']']
  | .oneOf values => (values.map Client.Token.ofText).intersperse (.sign '|')
  | .orNull type => type.tokens ++ .sign '|' :: Client.Token.named "null"

namespace Client
open Catalog Code Naming Text Token

structure Signature where
  name : String
  optional : Bool
  type : List Token
  deriving DecidableEq, Repr

structure Interface where
  name : String
  properties : List Signature
  deriving DecidableEq, Repr

def parted (mark : Token) (ts : List Token) : Option (List Token × List Token) :=
  match ts.dropWhile (· ≠ mark) with
  | [] => none
  | _ :: rest => some (ts.takeWhile (· ≠ mark), rest)

def pieces (stop : Token) : List Token → Option (List (List Token))
  | [] => some []
  | t :: rest =>
      if t = stop then (pieces stop rest).map ([] :: ·)
      else
        match pieces stop rest with
        | some (piece :: more) => some ((t :: piece) :: more)
        | _ => none

def name? : List Token → Option String
  | [] => some ""
  | [Token.word letters] => some (String.ofList letters)
  | _ => none

def signature? (piece : List Token) : Option Signature :=
  (parted (.sign ':') piece).bind fun (label, type) =>
    match parted (.sign '?') label with
    | some (name, []) => (name? name).map (⟨·, true, type⟩)
    | some _ => none
    | none => (name? label).map (⟨·, false, type⟩)

def interface? (piece : List Token) : Option Interface :=
  (parted (.sign '\x7b') piece).bind fun (head, body) =>
    if head.take 2 = [Token.word "export".toList, .word "interface".toList] then
      (name? (head.drop 2)).bind fun name =>
        ((pieces (.sign ';') body).bind (List.mapM signature?)).map (⟨name, ·⟩)
    else none

def interfaces (text : String) : Option (List Interface) :=
  ((tokens text).bind (pieces (.sign '\x7d'))).bind (List.mapM interface?)

def Signature.tokens (p : Signature) : List Token :=
  named p.name ++ (if p.optional then [Token.sign '?'] else []) ++ Token.sign ':' :: p.type

def Interface.tokens (i : Interface) : List Token :=
  [Token.word "export".toList, .word "interface".toList] ++ named i.name ++
    Token.sign '\x7b' :: i.properties.flatMap fun p => p.tokens ++ [Token.sign ';']

def Interface.Apart (i : Interface) : Prop :=
  ∀ p ∈ i.properties, .sign ';' ∉ p.type ∧ .sign '\x7d' ∉ p.type

variable {mark stop : Token} {xs ys : List Token}

theorem partedAt (free : mark ∉ xs) (ys : List Token) :
    parted mark (xs ++ mark :: ys) = some (xs, ys) := by
  have other : ∀ t ∈ xs, decide (t ≠ mark) = true := fun t member =>
    decide_eq_true fun same => free (same ▸ member)
  rw [parted, List.dropWhile_append_of_pos other, List.takeWhile_append_of_pos other,
    List.dropWhile_cons_of_neg (by simp), List.takeWhile_cons_of_neg (by simp), List.append_nil]

theorem partedNone (free : mark ∉ xs) : parted mark xs = none := by
  have other : ∀ t ∈ xs, decide (t ≠ mark) = true := fun t member =>
    decide_eq_true fun same => free (same ▸ member)
  rw [parted, List.dropWhile_eq_nil_iff.mpr other]

theorem pieceRead (free : stop ∉ xs) (ys : List Token) :
    pieces stop (xs ++ stop :: ys) = (pieces stop ys).map (xs :: ·) := by
  induction xs with
  | nil => rw [List.nil_append, pieces, if_pos rfl]
  | cons t rest ih =>
      obtain ⟨other, later⟩ := not_or.mp (mt List.mem_cons.mpr free)
      rw [List.cons_append, pieces, if_neg (Ne.symm other), ih later]
      cases pieces stop ys <;> rfl

theorem piecesRead {ps : List (List Token)} (free : ∀ p ∈ ps, stop ∉ p) :
    pieces stop (ps.flatMap (· ++ [stop])) = some ps := by
  induction ps with
  | nil => rfl
  | cons p rest ih =>
      obtain ⟨first, others⟩ := List.forall_mem_cons.mp free
      rw [List.flatMap_cons, List.append_assoc, List.singleton_append, pieceRead first, ih others]
      rfl

theorem mapMRead {α β : Type} {f : β → Option α} {g : α → β} {as : List α}
    (each : ∀ a ∈ as, f (g a) = some a) : (as.map g).mapM f = some as := by
  induction as with
  | nil => rfl
  | cons a rest ih =>
      obtain ⟨first, others⟩ := List.forall_mem_cons.mp each
      simp [first, ih others]

theorem namedWords {s : String} : ∀ t ∈ named s, t = .word s.toList := by
  unfold named
  split
  · nofun
  · simp

theorem namedNoSign {s : String} (c : Char) : .sign c ∉ named s := fun member =>
  Token.noConfusion (namedWords _ member)

theorem nameRead (s : String) : name? (named s) = some s := by
  unfold named
  split
  · rename_i none
    rw [none]
    rfl
  · exact congrArg some String.ofList_toList

theorem signatureRead (p : Signature) : signature? p.tokens = some p := by
  have name (c : Char) := namedNoSign (s := p.name) c
  cases asked : p.optional with
  | false =>
      have split : p.tokens = named p.name ++ Token.sign ':' :: p.type := by
        simp [Signature.tokens, asked]
      rw [signature?, split, partedAt (name ':')]
      simp only [Option.bind_some, partedNone (name '?'), nameRead, Option.map_some]
      rw [← asked]
  | true =>
      have split : p.tokens = (named p.name ++ [Token.sign '?']) ++ Token.sign ':' :: p.type := by
        simp [Signature.tokens, asked]
      have free : .sign ':' ∉ named p.name ++ [Token.sign '?'] := by simp [name]
      rw [signature?, split, partedAt free]
      simp only [Option.bind_some, partedAt (name '?'), nameRead, Option.map_some]
      rw [← asked]

theorem signatureApart {i : Interface} (apart : i.Apart) {p : Signature}
    (member : p ∈ i.properties) :
    .sign ';' ∉ p.tokens ∧ .sign '\x7d' ∉ p.tokens := by
  obtain ⟨semicolon, brace⟩ := apart p member
  unfold Signature.tokens
  split <;> simp [namedNoSign, semicolon, brace]

theorem interfaceRead {i : Interface} (apart : i.Apart) : interface? i.tokens = some i := by
  have body : pieces (.sign ';') (i.properties.flatMap fun p => p.tokens ++ [Token.sign ';']) =
      some (i.properties.map Signature.tokens) := by
    have read : pieces (.sign ';') ((i.properties.map Signature.tokens).flatMap
        (· ++ [Token.sign ';'])) = some (i.properties.map Signature.tokens) :=
      piecesRead (List.forall_mem_map.mpr fun p member => (signatureApart apart member).1)
    rwa [List.flatMap_map] at read
  have free : .sign '\x7b' ∉
      [Token.word "export".toList, .word "interface".toList] ++ named i.name := by
    simp [namedNoSign]
  rw [interface?, Interface.tokens, partedAt free, Option.bind_some]
  simp only [List.cons_append, List.nil_append, List.take_succ_cons, List.take_zero,
    List.drop_succ_cons, List.drop_zero, if_true, nameRead, Option.bind_some, body,
    mapMRead fun p _ => signatureRead p, Option.map_some]

theorem interfacesRead {text : String} {is : List Interface} (apart : ∀ i ∈ is, i.Apart)
    (read : tokens text = some (is.flatMap fun i => i.tokens ++ [Token.sign '\x7d'])) :
    interfaces text = some is := by
  have free : ∀ piece ∈ is.map Interface.tokens, .sign '\x7d' ∉ piece := by
    refine List.forall_mem_map.mpr fun i member => ?_
    have inside : ∀ p ∈ i.properties, .sign '\x7d' ∉ p.tokens := fun p own =>
      (signatureApart (apart i member) own).2
    simp only [Interface.tokens, List.mem_append, List.mem_cons, List.mem_flatMap]
    simpa [namedNoSign] using inside
  have split := piecesRead free
  rw [List.flatMap_map] at split
  rw [interfaces, read, Option.bind_some, split, Option.bind_some,
    mapMRead fun i member => interfaceRead (apart i member)]

variable {n : Char} {p : Property} {name : String}

def Property.signature (p : Property) : Signature := ⟨p.name, p.optional, p.type.tokens⟩

namespace Types

def pageSignatures (typeName : String) : List Signature :=
  ⟨"data", false, named typeName ++ [Token.sign '[', .sign ']']⟩ ::
    ["page", "limit", "total"].map (⟨·, false, named "number"⟩)

def statsSignatures : List Signature := [⟨"total", false, named "number"⟩]

def interfaces (t : Types) : List Interface :=
  [⟨t.typeName, t.row.map Property.signature⟩] ++
  (t.create.map fun ps => ⟨Names.createRequest t.typeName, ps.map Property.signature⟩).toList ++
  (t.update.map fun ps => ⟨Names.updateRequest t.typeName, ps.map Property.signature⟩).toList ++
  (t.listParams.map fun ps => ⟨Names.listParams t.typeName, ps.map Property.signature⟩).toList ++
  (if t.paged then [⟨Names.page t.typeName, pageSignatures t.typeName⟩] else []) ++
  (if t.stats then [⟨Names.stats t.typeName, statsSignatures⟩] else [])

end Types

theorem shapesNamed (typeName : String) :
    typeName ≠ Names.listParams typeName ∧
      Names.createRequest typeName ≠ Names.listParams typeName ∧
      Names.updateRequest typeName ≠ Names.listParams typeName ∧
      Names.page typeName ≠ Names.listParams typeName ∧
      Names.stats typeName ≠ Names.listParams typeName := by
  have last {front front' : String} : front ++ "Request" ≠ front' ++ "ListParams" := fun same => by
    have ends := congrArg (·.toList.getLast?) same
    simp at ends
  refine ⟨fun same => ?_, last, last, fun same => ?_, fun same => ?_⟩
  · have length := congrArg String.length same
    simp [Names.listParams] at length
  · exact absurd ((String.append_right_inj typeName).mp same) (by decide)
  · exact absurd ((String.append_right_inj typeName).mp same) (by decide)

theorem typeApart (t : ScriptType) : .sign ';' ∉ t.tokens ∧ .sign '\x7d' ∉ t.tokens := by
  have value (s : String) (c : Char) : ofText s ≠ .sign c := by
    unfold ofText
    split <;> nofun
  induction t with
  | string | number | boolean | unknown => exact ⟨namedNoSign _, namedNoSign _⟩
  | array element ih => simp [ScriptType.tokens, ih]
  | orNull type ih => simp [ScriptType.tokens, ih, namedNoSign]
  | oneOf values =>
      have listed (c : Char) (other : c ≠ '|') :
          .sign c ∉ (values.map ofText).intersperse (.sign '|') := by
        induction values with
        | nil => exact List.not_mem_nil
        | cons v rest ih =>
            cases rest with
            | nil => simp [(value v c).symm]
            | cons w more =>
                rw [List.map_cons, List.map_cons, List.intersperse_cons_cons, ← List.map_cons]
                simpa [(value v c).symm, other] using ih
      exact ⟨listed _ (by decide), listed _ (by decide)⟩

theorem unionYields (values : List String) (n : Char) :
    Yields (ScriptString.union values).toList ((values.map ofText).intersperse (.sign '|')) n := by
  have bar (n : Char) : Yields " | ".toList [Token.sign '|'] n := yieldsCode (by decide) n
  induction values with
  | nil => exact yieldsCode rfl n
  | cons v rest ih =>
      cases rest with
      | nil =>
          rw [ScriptString.unionSingle]
          exact yieldsQuote v n
      | cons w more =>
          rw [ScriptString.unionMore]
          exact (yieldsQuote v _).append ((bar _).append ih)

theorem typeYields (t : ScriptType) (wordless : isWordly n = false) :
    Yields t.text.toList t.tokens n := by
  have fixed {s : String} (wordly : s.toList.all isWordly = true) {n : Char}
      (wordless : isWordly n = false) : Yields s.toList (named s) n :=
    yieldsNamed (List.all_eq_true.mp wordly) wordless
  induction t generalizing n with
  | string | number | boolean | unknown => exact fixed (by decide) wordless
  | oneOf values => exact unionYields values n
  | array element ih =>
      have brackets : Yields "[]".toList [Token.sign '[', .sign ']'] n := yieldsCode (by decide) n
      rw [ScriptType.text, String.toList_append]
      exact Yields.append (ih (by simp [isWordly])) brackets
  | orNull type ih =>
      have bar : Yields " | ".toList [Token.sign '|'] 'n' := yieldsCode (by decide) _
      have null : Yields "null".toList (named "null") n := fixed (by decide) wordless
      rw [ScriptType.text, String.toList_append]
      exact Yields.append (ih (by simp [isWordly])) (bar.append null)

theorem indentedCarries {l : Line} {ts : List Token} (carries : Carries l ts) :
    Carries (.text "  " :: l) ts := by
  have shift (n : Char) : Yields "  ".toList [] n := yieldsCode (by decide) n
  rw [Carries, textCons, String.toList_append]
  exact (shift _).append carries

theorem propertyCarries (wordly : Wordly p.name.toList) :
    Carries p.code (p.signature.tokens ++ [Token.sign ';']) := by
  have fixed : run .code ": ".toList = ([Token.sign ':'], .code) ∧
      run .code "?".toList = ([Token.sign '?'], .code) ∧
      run .code ";".toList = ([Token.sign ';'], .code) := by decide
  have type : Yields (": ".toList ++ (p.type.text.toList ++ ";".toList))
      ([Token.sign ':'] ++ (p.type.tokens ++ [Token.sign ';'])) '\n' :=
    (yieldsCode fixed.1 _).append (Yields.append (typeYields p.type (by decide))
      (yieldsCode fixed.2.2 _))
  cases asked : p.optional with
  | false =>
      have split : (lineText p.code).toList = p.name.toList ++
          (": ".toList ++ (p.type.text.toList ++ ";".toList)) := by
        simp [Property.code, line, asked]
      rw [Carries, split]
      have whole := Yields.append (yieldsNamed wordly (by simp [isWordly])) type
      simpa [Property.signature, Signature.tokens, asked] using whole
  | true =>
      have split : (lineText p.code).toList = p.name.toList ++
          ("?".toList ++ (": ".toList ++ (p.type.text.toList ++ ";".toList))) := by
        simp [Property.code, line, asked]
      rw [Carries, split]
      have whole := Yields.append (yieldsNamed wordly (by simp [isWordly]))
        ((yieldsCode fixed.2.1 _).append type)
      simpa [Property.signature, Signature.tokens, asked] using whole

theorem interfaceCarries (wordly : Wordly name.toList) {i : Interface} (same : i.name = name)
    {properties : List Line} (carry : AllCarry (indented "  " properties)
      (i.properties.flatMap fun p => p.tokens ++ [Token.sign ';'])) :
    AllCarry (interfaceCode name properties) (i.tokens ++ [Token.sign '\x7d']) := by
  have opened : run .code "export interface ".toList =
      ([Token.word "export".toList, .word "interface".toList], .code) := by decide
  have brace : run .code " \x7b".toList = ([Token.sign '\x7b'], .code) := by decide
  have head : Carries (line [line ["export interface ", declared name], " \x7b"])
      ([Token.word "export".toList, .word "interface".toList] ++
        (named name ++ [Token.sign '\x7b'])) := by
    have split : (lineText (line [line ["export interface ", declared name], " \x7b"])).toList =
        "export interface ".toList ++ (name.toList ++ " \x7b".toList) := by
      simp [line, declared]
    rw [Carries, split]
    exact (yieldsCode opened _).append (Yields.append (yieldsNamed wordly (by decide))
      (yieldsCode brace _))
  have closing : Carries (plain "\x7d") [Token.sign '\x7d'] := by
    rw [Carries, plainText]
    exact yieldsCode (by decide) _
  have whole := (allCarryCons head carry).append (allCarrySingle closing)
  subst same
  simpa [interfaceCode, Code.block, Interface.tokens] using whole

theorem shapeCarry (wordly : Wordly name.toList) {ps : List Property}
    (names : ∀ p ∈ ps, Wordly p.name.toList) :
    AllCarry (interfaceCode name (ps.map Property.code))
      ((Interface.mk name (ps.map Property.signature)).tokens ++ [Token.sign '\x7d']) := by
  refine interfaceCarries wordly rfl ?_
  rw [indented, List.map_map, List.flatMap_map]
  exact allCarryMap fun p member => indentedCarries (propertyCarries (names p member))

def Declares (ls : List Line) (is : List Interface) : Prop :=
  AllCarry ls (is.flatMap fun i => i.tokens ++ [Token.sign '\x7d'])

theorem Declares.append {ls more : List Line} {is js : List Interface} (first : Declares ls is)
    (second : Declares more js) : Declares (ls ++ more) (is ++ js) := by
  rw [Declares, List.flatMap_append]
  exact AllCarry.append first second

theorem Declares.read {ls : List Line} {is : List Interface} (declares : Declares ls is)
    (apart : ∀ i ∈ is, i.Apart) : interfaces (fileText ls) = some is :=
  interfacesRead apart (AllCarry.file declares)

theorem blankDeclares {ls : List Line} {is : List Interface} (declares : Declares ls is) :
    Declares (blank :: ls) is :=
  allCarryCons (yieldsCode rfl _ : Carries blank []) declares

theorem interfaceDeclares {ls : List Line} {i : Interface}
    (carry : AllCarry ls (i.tokens ++ [Token.sign '\x7d'])) : Declares ls [i] := by
  rwa [Declares, List.flatMap_singleton]

theorem optionDeclares {α : Type} {item : Option α} {code : α → List Line} {i : α → Interface}
    (each : ∀ a ∈ item, Declares (code a) [i a]) :
    Declares ((item.map code).getD []) (item.map i).toList := by
  cases item with
  | none => exact allCarryNone
  | some a => exact each a rfl

theorem askedDeclares {asked : Bool} {ls : List Line} {i : Interface}
    (declares : Declares ls [i]) :
    Declares (if asked then ls else []) (if asked then [i] else []) := by
  cases asked with
  | false => exact allCarryNone
  | true => exact declares

def Types.allProperties (t : Types) : List Property :=
  t.row ++ t.create.getD [] ++ t.update.getD [] ++ t.listParams.getD []

theorem typesDeclare {t : Types} (type : Wordly t.typeName.toList)
    (doc : EndFree (t.doc.toList ++ " *".toList))
    (names : ∀ p ∈ t.allProperties, Wordly p.name.toList) : Declares t.code t.interfaces := by
  have around {front back : String} (fixed : front.toList.all isWordly = true)
      (fixed' : back.toList.all isWordly = true) :
      Wordly (front ++ t.typeName ++ back).toList := by
    simp only [String.toList_append]
    exact List.forall_mem_append.mpr ⟨List.forall_mem_append.mpr
      ⟨List.all_eq_true.mp fixed, type⟩, List.all_eq_true.mp fixed'⟩
  have before {back : String} (fixed : back.toList.all isWordly = true) :
      Wordly (t.typeName ++ back).toList := by
    rw [String.toList_append]
    exact List.forall_mem_append.mpr ⟨type, List.all_eq_true.mp fixed⟩
  simp only [Types.allProperties, List.forall_mem_append] at names
  obtain ⟨⟨⟨row, create⟩, update⟩, params⟩ := names
  have shape {name : String} {item : Option (List Property)} (wordly : Wordly name.toList)
      (each : ∀ p ∈ item.getD [], Wordly p.name.toList) :
      Declares ((item.map (Types.shapeCode name)).getD [])
        (item.map fun ps => ⟨name, ps.map Property.signature⟩).toList :=
    optionDeclares fun ps given => blankDeclares
      (interfaceDeclares (shapeCarry wordly fun p member => each p (by rw [given]; exact member)))
  have head : Declares [plain generatedNotice, blank, plain ("/** " ++ t.doc ++ " */")] [] :=
    allCarryCons noticeCarries (allCarryCons (yieldsCode rfl _ : Carries blank [])
      (allCarrySingle (docCarries doc)))
  refine (((((head.append (interfaceDeclares (shapeCarry type row))).append
    (shape (around (by decide) (by decide)) create)).append
    (shape (around (by decide) (by decide)) update)).append
    (shape (before (by decide)) params)).append (askedDeclares ?page)).append (askedDeclares ?stats)
  case page =>
    have numbers : ∀ name ∈ ["page", "limit", "total"], run .code (name ++ ": number;").toList =
        (Signature.tokens ⟨name, false, named "number"⟩ ++ [Token.sign ';'], .code) := by decide
    have data : run .code "data: ".toList = (named "data" ++ [Token.sign ':'], .code) ∧
        run .code "[];".toList = ([Token.sign '[', .sign ']', .sign ';'], .code) := by decide
    have split : (lineText (line ["data: ", own t.typeName, "[];"])).toList =
        "data: ".toList ++ (t.typeName.toList ++ "[];".toList) := by
      simp [line, own]
    have rows : Carries (line ["data: ", own t.typeName, "[];"])
        ((named "data" ++ [Token.sign ':']) ++
          (named t.typeName ++ [Token.sign '[', .sign ']', .sign ';'])) := by
      rw [Carries, split]
      exact (yieldsCode data.1 _).append (Yields.append (yieldsNamed type (by decide))
        (yieldsCode data.2 _))
    have counts (name : String) (known : name ∈ ["page", "limit", "total"]) :
        Carries (plain (name ++ ": number;"))
          (Signature.tokens ⟨name, false, named "number"⟩ ++ [Token.sign ';']) := by
      rw [Carries, plainText]
      exact yieldsCode (numbers name known) _
    refine blankDeclares (interfaceDeclares (interfaceCarries (before (by decide)) rfl ?_))
    have whole := allCarryCons (indentedCarries rows) (allCarryCons
      (indentedCarries (counts "page" (by simp))) (allCarryCons
        (indentedCarries (counts "limit" (by simp)))
          (allCarrySingle (indentedCarries (counts "total" (by simp))))))
    simpa [Types.pageSignatures, Signature.tokens, indented] using whole
  case stats =>
    have total : run .code "total: number;".toList =
        (Signature.tokens ⟨"total", false, named "number"⟩ ++ [Token.sign ';'], .code) := by decide
    refine blankDeclares (interfaceDeclares (interfaceCarries (before (by decide)) rfl ?_))
    refine allCarrySingle (indentedCarries ?_)
    rw [Carries, plainText]
    exact yieldsCode total _

theorem shapesApart (t : Types) : ∀ i ∈ t.interfaces, i.Apart := by
  have shape {name : String} {ps : List Property} :
      (Interface.mk name (ps.map Property.signature)).Apart :=
    List.forall_mem_map.mpr fun p _ => typeApart p.type
  have optional {name : String} (item : Option (List Property)) :
      ∀ i ∈ (item.map fun ps => Interface.mk name (ps.map Property.signature)).toList, i.Apart := by
    cases item with
    | none => nofun
    | some ps => exact List.forall_mem_singleton.mpr shape
  have asked {asked : Bool} {i : Interface} (apart : i.Apart) :
      ∀ j ∈ if asked then [i] else [], j.Apart := by
    cases asked with
    | false => nofun
    | true => exact List.forall_mem_singleton.mpr apart
  simp only [Types.interfaces, List.forall_mem_append]
  refine ⟨⟨⟨⟨⟨List.forall_mem_singleton.mpr shape, optional _⟩, optional _⟩, optional _⟩, asked ?_⟩,
    asked ?_⟩
  · simp [Interface.Apart, Types.pageSignatures, namedNoSign]
  · simp [Interface.Apart, Types.statsSignatures, namedNoSign]

section
variable {s : Subject}

theorem propertiesNamed (columns : ∀ c ∈ s.table.columns, isPlainIdentifier c.name = true) :
    ∀ p ∈ (Types.of s).allProperties, Wordly p.name.toList := by
  have column {cs : List ColumnShape} (within : ∀ c ∈ cs, c ∈ s.table.columns)
      (optional : ColumnShape → Bool) :
      ∀ p ∈ cs.map fun c => Property.ofColumn s c (optional c), Wordly p.name.toList :=
    List.forall_mem_map.mpr fun c member => camelWordly (columns c (within c member))
  have asked {asked : Bool} {ps : List Property} (named : ∀ p ∈ ps, Wordly p.name.toList) :
      ∀ p ∈ (if asked then some ps else none).getD [], Wordly p.name.toList := by
    cases asked with
    | false => nofun
    | true => exact named
  have writable : ∀ c ∈ s.writable, c ∈ s.table.columns := fun c member =>
    TableShape.writableMember member
  simp only [Types.allProperties, Types.of, List.forall_mem_append]
  refine ⟨⟨⟨column (fun _ member => member) _, asked (column writable _)⟩,
    asked (column writable _)⟩, asked ?_⟩
  have fixed : ∀ name ∈ ["page", "limit", "sort", "order", "q"],
      name.toList.all isWordly = true := by decide
  have known {name : String} (member : name ∈ ["page", "limit", "sort", "order", "q"]) :
      Wordly name.toList := List.all_eq_true.mp (fixed name member)
  simp only [Types.paramProperties, List.forall_mem_append, List.forall_mem_cons,
    List.forall_mem_map]
  refine ⟨⟨⟨known (by simp), known (by simp), known (by simp), known (by simp), nofun⟩, ?_⟩,
    fun c member => plainWordly (columns c (TableShape.namedMember member))⟩
  split
  · exact List.forall_mem_singleton.mpr (known (by simp))
  · nofun

theorem typesRead (plain : isPlainIdentifier s.table.name = true)
    (starless : Server.Spelled (fun name => '*' ∉ name.toList) s.table)
    (columns : ∀ c ∈ s.table.columns, isPlainIdentifier c.name = true) :
    interfaces (fileText (Types.of s).code) = some (Types.of s).interfaces := by
  have type : Wordly (Types.of s).typeName.toList := pascalWordly plain
  have doc : EndFree ((Types.of s).doc.toList ++ " *".toList) := docFree starless
  have declares := typesDeclare type doc (propertiesNamed columns)
  exact declares.read (shapesApart _)

theorem paramsDeclared (needed : s.needsListParams = true) :
    ⟨Names.listParams s.typeName, (Types.paramProperties s).map Property.signature⟩ ∈
      (Types.of s).interfaces := by
  simp [Types.interfaces, Types.of, needed]

theorem paramsOnly {i : Interface} (member : i ∈ (Types.of s).interfaces)
    (named : i.name = Names.listParams s.typeName) :
    i.properties = (Types.paramProperties s).map Property.signature := by
  obtain ⟨row, create, update, page, stats⟩ := shapesNamed s.typeName
  have chosen {asked : Bool} {name : String} {ps : List Property}
      (member : i ∈ ((if asked then some ps else none).map
        fun ps => Interface.mk name (ps.map Property.signature)).toList) :
      i = ⟨name, ps.map Property.signature⟩ := by
    cases asked with
    | false => contradiction
    | true => exact List.mem_singleton.mp member
  have taken {asked : Bool} {j : Interface} (member : i ∈ if asked then [j] else []) : i = j := by
    cases asked with
    | false => contradiction
    | true => exact List.mem_singleton.mp member
  have other {name : String} {ps : List Signature} (apart : name ≠ Names.listParams s.typeName)
      (same : i = ⟨name, ps⟩) : False := apart (by rw [← named, same])
  simp only [Types.interfaces, Types.of, List.mem_append, List.mem_singleton] at member
  rcases member with ((((own | created) | updated) | listed) | paged) | counted
  · exact (other row own).elim
  · exact (other create (chosen created)).elim
  · exact (other update (chosen updated)).elim
  · rw [chosen listed]
  · exact (other page (taken paged)).elim
  · exact (other stats (taken counted)).elim

end

end Client
end RestScaffold
