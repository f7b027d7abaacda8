import RestScaffold.Proofs.Server.HandlerReferences
import RestScaffold.Proofs.Server.Tags

/-! What the code of rows, of requests and of routes refers to. -/
namespace RestScaffold
open Catalog Code Go Naming Text Word Layout

variable {P : Word → Prop} {D : Reference → Prop} {t : String}

theorem GoType.fits (t : GoType) : Fits (Settled D) ' ' t.text ∧ '`' ∉ t.text.toList := by
  have sized {cs : List Char} (wordly : cs.all isWordly = true) (n : Nat) :
      Fits (Settled D) ' ' (String.ofList cs ++ toString n) ∧
        '`' ∉ (String.ofList cs ++ toString n).toList := by
    have whole := wordlyAfter wordly (Server.decimalWordly n)
    exact ⟨(fitsNamed whole (by decide) (by decide)).fits, whole.without (by decide)⟩
  have fixed {cs : List Char} (checked : Checked (within []) ' ' cs) (none : '`' ∉ cs) :
      Fits (Settled D) ' ' (String.ofList cs) ∧ '`' ∉ (String.ofList cs).toList :=
    ⟨fitsFixed free checked, by rwa [String.toList_ofList]⟩
  have slice : Fits (Settled D) 'a' "[]" := fitsFixed free (by decide)
  have pointer : Fits (Settled D) 'a' "*" := fitsFixed free (by decide)
  induction t with
  | string | bool | byte | time | rawJson => exact fixed (by decide) (by decide)
  | int bits =>
      cases bits with
      | zero => exact fixed (by decide) (by decide)
      | succ n => exact sized (by decide) (n + 1)
  | float bits => exact sized (by decide) bits
  | slice element ih => exact ⟨(slice.apart _).append ih.1, by simp [GoType.text, ih.2]⟩
  | pointer target ih => exact ⟨(pointer.apart _).append ih.1, by simp [GoType.text, ih.2]⟩

structure FieldKnown (D : Reference → Prop) (f : Go.Field String) : Prop where
  regular : f.Regular
  name : Wordly f.name.toList
  type : Fits (Settled D) ' ' f.type
  bare : '`' ∉ f.type.toList

theorem fieldUntagged {f : Go.Field String} (known : FieldKnown D f) :
    Untagged (Settled D) ("\t" ++ f.text) := by
  have name := (fitsNamed (D := D) (n := ' ') known.name (by decide) (by decide)).fits
  have blank {n : Char} : Fits (Settled D) n " " := by
    have apart : Fits (Settled D) 'a' " " := fitsFixed free (by decide)
    exact apart.apart n
  have tab : Shift "\t" := by decide
  have opened : Fits (Settled D) '\n' ("\t" ++ (f.name ++ (" " ++ (f.type ++ " ")))) :=
    (fitsShifted tab).mpr (Fits.append (by simpa using name)
      (blank.append (Fits.append (by simpa using known.type) blank)))
  have free : '`' ∉ f.name.toList := known.name.without (by decide)
  have split : "\t" ++ f.text = "\t" ++ (f.name ++ (" " ++ (f.type ++ " "))) ++ "`" ++
      (GoField.tagText f.tag ++ "`") := by
    refine String.toList_inj.mp ?_
    simp [Field.text]
  have whole : OneLine ("\t" ++ f.text) := by
    have solid := (fieldSolid known.regular).noFeed
    simpa [OneLine, Field.row] using solid
  rw [split] at whole ⊢
  exact untaggedAt opened (by simp [free, known.bare]) (oneLineAppend.mp whole).2

theorem structUntagged {comment : String} (oneLine : OneLine comment) {st : Struct String}
    (name : Wordly st.name.toList) (fields : ∀ f ∈ st.fields, FieldKnown D f) :
    ∀ t ∈ st.texts comment, Untagged (Settled D) t := by
  have named := fitsNamed (D := D) (n := ' ') name (by decide) (by decide)
  have head : Fits (Settled D) '\n' ("type " ++ st.name ++ " struct \x7b") := by
    have opening : Fits (Settled D) 'a' "type " := fitsFixed free (by decide)
    have closing : Fits (Settled D) '\n' " struct \x7b" := fitsFixed free (by decide)
    rw [String.append_assoc]
    exact (opening.apart _).append (Fits.append (by simpa using named.fits) closing)
  have bare : '`' ∉ st.name.toList := name.without (by decide)
  rw [Struct.textsSplit]
  simp only [List.cons_append, List.nil_append, List.forall_mem_cons, List.forall_mem_append,
    List.forall_mem_map]
  exact ⟨fitsEmpty.untagged (by decide), untaggedComment oneLine,
    head.untagged (by simp [bare]), fun f member => fieldUntagged (fields f member),
    fitsClosing.untagged (by decide), nofun⟩

theorem printsUntagged {code : List Line} {structs : List (Struct String)}
    (prints : Prints code structs)
    (known : ∀ st ∈ structs, Wordly st.name.toList ∧ ∀ f ∈ st.fields, FieldKnown D f) :
    ∀ t ∈ code.map lineText, Untagged (Settled D) t := by
  obtain ⟨shapes, rfl, comments, texts⟩ := prints
  rw [texts, structTexts]
  intro t member
  obtain ⟨shape, own, inside⟩ := List.mem_flatMap.mp member
  obtain ⟨name, fields⟩ := known _ (List.mem_map_of_mem own)
  exact structUntagged (comments shape own) name fields t inside

namespace Server

theorem meantKnown {f : GoField} (regular : f.meant.Regular) (name : Wordly f.name.toList) :
    FieldKnown D f.meant :=
  ⟨regular, name, (GoType.fits f.type).1, (GoType.fits (D := D) f.type).2⟩

theorem stringsFits {n : Char} (values : List String)
    (outside : inWord n = false) (bare : n ≠ '(') :
    Fits (Settled D) n (Go.strings values) := by
  have nothing : Fits (Settled D) n "nil" :=
    (fitsNamed (wordlyFixed (by decide)) outside bare).fits
  have opening : Fits (Settled D) 'a' "[]string\x7b" := fitsFixed free (by decide)
  have listed : Fits (Settled D) '\x7d' (", ".intercalate (values.map GoString.quote)) :=
    fitsListed (List.forall_mem_map.mpr fun v _ => ⟨⟨readsGoString v _, quoteOneLine v⟩,
      ⟨readsGoString v _, quoteOneLine v⟩⟩)
  unfold Go.strings
  split
  · exact nothing
  · exact ((opening.apart _).append listed).append fitsClosing

theorem stringsBare {values : List String} (wordly : ∀ v ∈ values, Wordly v.toList) :
    '`' ∉ (Go.strings values).toList := by
  have opening : Raw "[]string\x7b" ∧ Raw "\x7d" ∧ Raw ", " := by decide
  have listed : Raw (", ".intercalate (values.map GoString.quote)) := by
    refine joinsIntercalate opening.2.2 (List.forall_mem_map.mpr fun v member => ?_)
    have same : GoString.quote v = "\"" ++ v ++ "\"" :=
      String.toList_inj.mp (by simp [(wordlyUnescaped (wordly v member)).quoted])
    rw [same]
    exact Joins.append (Joins.append (by decide) (wordlyRaw (wordly v member))) (by decide)
  unfold Go.strings
  split
  · decide
  · exact (Joins.append (Joins.append opening.1 listed) opening.2.1).1

section
variable {s : Subject} (spelled : Spelled (fun name => Wordly name.toList) s.table)
include spelled

theorem modelUntagged (columns : ∀ c ∈ s.table.columns, isPlainIdentifier c.name = true) :
    ∀ t ∈ (Model.of s).code.map lineText, Untagged (Settled D) t := by
  have name : Wordly s.typeName.toList := spelled.type
  have prints : Prints (Go.struct (Model.of s).doc (Model.of s).typeName
      ((Model.of s).fields.map GoField.code)) [(Model.of s).struct] :=
    printsStruct (docOneLine (spelled.mono wordlyOneLine)) (GoField.codeTexts _)
  have struct := printsUntagged (D := D) prints (List.forall_mem_singleton.mpr ⟨name,
    List.forall_mem_map.mpr (List.forall_mem_map.mpr fun c member =>
      meantKnown (modelFieldTagged (columns c member)).1 (spelled.columns c member).2)⟩)
  have table : Wordly (tableConstantName s.typeName).toList := wordlyBefore name (by decide)
  have columns' : Wordly (columnsName s.typeName).toList := columnsWordly name
  have table' := fitsNamed (D := D) (n := ' ') table (by decide) (by decide)
  have listed' := fitsNamed (D := D) (n := ' ') columns' (by decide) (by decide)
  have qualified : OneLine (tableName s).text :=
    Sql.tableHolds oneLineWords (wordlyOneLine spelled.schema) (wordlyOneLine spelled.name)
  have fixed : OneLine " is the qualified table name." ∧
      OneLine " lists every column in catalog order." ∧ OneLine "`" := by decide
  have tick : '`' ∉ (tableConstantName s.typeName).toList ∧ '`' ∉ (columnsName s.typeName).toList :=
    ⟨table.without (by decide), columns'.without (by decide)⟩
  have told : ∀ t ∈ ["// " ++ tableConstantName s.typeName ++ " is the qualified table name.",
      "// " ++ columnsName s.typeName ++ " lists every column in catalog order."],
      Untagged (Settled D) t := by
    simp only [List.forall_mem_cons, String.append_assoc]
    exact ⟨untaggedComment (by simp [wordlyOneLine table, fixed]),
      untaggedComment (by simp [wordlyOneLine columns', fixed]), nofun⟩
  have constant : Untagged (Settled D) (lineText (line ["const ",
      declared (tableConstantName s.typeName), " = ", Go.raw (tableName s).text])) := by
    have reads : Fits (Settled D) '\n' (lineText (line ["const ",
        declared (tableConstantName s.typeName), " = "])) :=
      spelledLine free (.fixed (.declared (.fixed .nil (by decide)) table') (by decide))
    have split : lineText (line ["const ", declared (tableConstantName s.typeName), " = ",
        Go.raw (tableName s).text]) = lineText (line ["const ",
          declared (tableConstantName s.typeName), " = "]) ++ "`" ++
            ((tableName s).text ++ "`") := by
      refine String.toList_inj.mp ?_
      simp [line, declared, Go.raw, plain]
    rw [split]
    exact untaggedAt reads (by simp [line, declared, tick]) (by simp [qualified, fixed])
  have listed : Untagged (Settled D) (lineText (line ["var ", declared (columnsName s.typeName),
      " = ", Go.strings (columnNames s)])) := by
    have values : Fits (Settled D) '\n' (Go.strings (columnNames s)) :=
      stringsFits _ (by decide) (by decide)
    have bare : '`' ∉ (Go.strings (columnNames s)).toList :=
      stringsBare (List.forall_mem_map.mpr fun c member => (spelled.columns c member).1)
    have opening : Fits (Settled D) 'a' ("var " ++ (columnsName s.typeName ++ " = ")) := by
      have keyword : Fits (Settled D) 'a' "var " := fitsFixed free (by decide)
      have equals : Fits (Settled D) 'a' " = " := fitsFixed free (by decide)
      exact (keyword.apart _).append (Fits.append (by simpa using listed'.fits) equals)
    have split : lineText (line ["var ", declared (columnsName s.typeName), " = ",
        Go.strings (columnNames s)]) =
        "var " ++ (columnsName s.typeName ++ " = ") ++ Go.strings (columnNames s) := by
      refine String.toList_inj.mp ?_
      simp [line, declared]
    rw [split]
    exact Code.Fits.untagged ((opening.apart _).append values) (by simp [tick, bare])
  rw [Model.code, List.map_append]
  refine List.forall_mem_append.mpr ⟨struct, ?_⟩
  simp only [List.map_cons, List.map_nil, List.forall_mem_cons, plainText, blank, textNil]
  exact ⟨fitsEmpty.untagged (by decide), told _ List.mem_cons_self, constant,
    fitsEmpty.untagged (by decide), told _ (List.mem_cons_of_mem _ List.mem_cons_self),
    listed, nofun⟩

theorem paramFieldWordly : ∀ f ∈ Dto.paramFields s, Wordly f.name.toList := by
  have fixed {name : String} (known : name ∈ fixedParamFields) : Wordly name.toList := by
    have each : ∀ name ∈ fixedParamFields, name.toList.all isWordly = true := by decide
    exact List.all_eq_true.mp (each name known)
  have page : ∀ f ∈ Dto.pageFields, f.name ∈ fixedParamFields := by decide
  simp only [Dto.paramFields, List.forall_mem_append, List.forall_mem_map]
  refine ⟨⟨⟨fun f member => fixed (page f member), fun f member => ?_⟩, fun f member => ?_⟩,
    fun c member => filterWordly spelled (TableShape.namedMember member)⟩
  · obtain ⟨-, rfl⟩ : _ ∧ f = ⟨"Q", .string, [("form", "q")]⟩ := by simpa using member
    exact fixed (by decide)
  · obtain ⟨-, rfl⟩ : _ ∧ f = ⟨"Format", .string, [("form", "format")]⟩ := by simpa using member
    exact fixed (by decide)

theorem dtoUntagged {d : Dto} (plain : isPlainIdentifier s.table.name = true)
    (columns : ∀ c ∈ s.table.columns, isPlainIdentifier c.name = true) (made : Dto.of s = .ok d)
    (row : s.needsPageShape = true → D (.imported .models s.typeName)) :
    ∀ t ∈ d.code.map lineText, Untagged (Settled D) t := by
  obtain ⟨regular, -⟩ := Dto.structsFit plain columns made
  have name : Wordly s.typeName.toList := spelled.type
  simp only [Dto.of] at made
  split at made
  · contradiction
  · cases made
    refine printsUntagged (Dto.codePrints (wordlyOneLine name)) ?_
    simp only [Dto.structs, List.forall_mem_append, Dto.chosen, Dto.taken] at regular ⊢
    obtain ⟨⟨⟨⟨create, update⟩, params⟩, page⟩, stats⟩ := regular
    refine ⟨⟨⟨⟨fun asked => ⟨createWordly name, ?_⟩, fun asked => ⟨updateWordly name, ?_⟩⟩,
      fun asked => ⟨paramsWordly name, ?_⟩⟩, fun asked => ⟨pageWordly name, ?_⟩⟩,
      fun asked => ⟨statsWordly name, ?_⟩⟩
    · refine List.forall_mem_map.mpr (List.forall_mem_map.mpr fun c member => ?_)
      exact meantKnown ((create asked).fields _ (List.mem_map_of_mem (List.mem_map_of_mem member)))
        (spelled.columns c (TableShape.writableMember member)).2
    · refine List.forall_mem_map.mpr (List.forall_mem_map.mpr fun c member => ?_)
      exact meantKnown ((update asked).fields _ (List.mem_map_of_mem (List.mem_map_of_mem member)))
        (spelled.columns c (TableShape.writableMember member)).2
    · refine List.forall_mem_map.mpr fun f member => ?_
      exact meantKnown ((params asked).fields _ (List.mem_map_of_mem member))
        (paramFieldWordly spelled f member)
    · have fields := (page asked).fields
      have row : Fits (Settled D) ' ' ("[]models." ++ s.typeName) := by
        have split :
            "[]models." ++ s.typeName = "[]" ++ (Package.models.name ++ "." ++ s.typeName) := by
          rw [Package.name, ← String.append_assoc]
          rfl
        have slice : Fits (Settled D) 'a' "[]" := fitsFixed free (by decide)
        rw [split]
        exact (slice.apart _).append (fitsImported name (fun _ => row asked) (by decide)).fits
      have bare : '`' ∉ s.typeName.toList := name.without (by decide)
      simp only [Dto.pageStruct, List.forall_mem_cons] at fields ⊢
      obtain ⟨data, page, limit, total, -⟩ := fields
      exact ⟨⟨data, wordlyFixed (by decide), row, by simp [bare]⟩,
        ⟨page, wordlyFixed (by decide), (GoType.fits (.int 0)).1, by decide⟩,
        ⟨limit, wordlyFixed (by decide), (GoType.fits (.int 0)).1, by decide⟩,
        ⟨total, wordlyFixed (by decide), (GoType.fits (.int 64)).1, by decide⟩,
        List.forall_mem_nil _⟩
    · have fields := (stats asked).fields
      simp only [Dto.statsStruct, List.forall_mem_cons] at fields ⊢
      exact ⟨⟨fields.1, wordlyFixed (by decide), (GoType.fits (.int 64)).1, by decide⟩,
        List.forall_mem_nil _⟩

end

theorem callFree (c : MiddlewareCall) (n : Char) : Fits (Settled D) n c.text := by
  have fixed {cs : List Char} (checked : Checked (within []) 'a' cs) :
      Fits (Settled D) 'a' (String.ofList cs) := fitsFixed free checked
  have number (k : Nat) : Fits (Settled D) ')' (toString k) :=
    (fitsNamed (decimalWordly k) (by decide) (by decide)).fits
  have quoted (text : String) (n : Char) : Fits (Settled D) n (GoString.quote text) :=
    ⟨readsGoString text n, quoteOneLine text⟩
  have closing : Fits (Settled D) n ")" :=
    Fits.apart (fitsWordless (by decide)) n
  cases c with
  | bare middleware =>
      refine Fits.apart (fitsText free ?_) n
      cases middleware <;> decide
  | authorize roles permissions =>
      have opening : Fits (Settled D) 'a' "mw.Authorize(" := fixed (by decide)
      have comma : Fits (Settled D) 'a' ", " := fixed (by decide)
      have first : Fits (Settled D) ',' (Go.strings roles) :=
        stringsFits roles (by decide) (by decide)
      have second : Fits (Settled D) ')' (Go.strings permissions) :=
        stringsFits permissions (by decide) (by decide)
      exact (((((opening.apart _).append first).append comma).apart _).append second).append closing
  | rateLimit perMinute =>
      have opening : Fits (Settled D) 'a' "mw.RateLimit(" := fixed (by decide)
      exact ((opening.apart _).append (number perMinute)).append closing
  | audit table action =>
      have opening : Fits (Settled D) 'a' "mw.Audit(" := fixed (by decide)
      have comma : Fits (Settled D) 'a' ", " := fixed (by decide)
      exact (((((opening.apart _).append (quoted table ',')).append comma).apart _).append
        (quoted action ')')).append closing
  | cache ttlSeconds =>
      have opening : Fits (Settled D) 'a' "mw.Cache(" := fixed (by decide)
      exact ((opening.apart _).append (number ttlSeconds)).append closing

theorem registrationFits {r : Registration} (handler : Wordly r.handler.toList)
    (router : D (.method r.method.name)) :
    Fits (Settled D) '\n' (lineText (Routes.registrationCode r)) := by
  have opening : Fits (Settled D) 'a' ("r." ++ r.method.name ++ "(") :=
    fitsText (fun w => withinSettled (w := w) (List.forall_mem_singleton.mpr router))
      (by cases r.method <;> decide)
  have called {n : Char} (outside : inWord n = false) : Fits (Settled D) n ("h." ++ r.handler) := by
    have dotted : "h." = "h" ++ "." := by decide
    rw [dotted]
    exact (fitsLocal (wordlyFixed (by decide)) handler outside rfl).fits
  have listed : Fits (Settled D) ')' (", ".intercalate (GoString.quote r.path ::
      r.chain.map MiddlewareCall.text ++ ["h." ++ r.handler])) := by
    refine fitsListed (List.forall_mem_append.mpr ⟨List.forall_mem_cons.mpr ⟨?_, ?_⟩, ?_⟩)
    · exact ⟨⟨readsGoString _ _, quoteOneLine _⟩, ⟨readsGoString _ _, quoteOneLine _⟩⟩
    · exact List.forall_mem_map.mpr fun c _ => ⟨callFree c _, callFree c _⟩
    · exact List.forall_mem_singleton.mpr ⟨called (by decide), called (by decide)⟩
  have closing : Fits (Settled D) '\n' ")" := fitsFixed free (by decide)
  rw [Routes.registrationCode, plainText]
  exact ((opening.apart _).append listed).append closing

theorem routesFits {s : Subject} (type : Wordly s.typeName.toList) (stem : OneLine s.stem)
    (plan : ∀ e ∈ s.plan, Wordly e.handler.toList) (router : ∀ m : Method, D (.method m.name))
    (handler : D (.imported .handlers (handlerName s.typeName)))
    (own : D (.function (registerName s.typeName))) : AllFit (Settled D) (Routes.of s).code := by
  have named : Wordly (registerName s.typeName).toList :=
    wordlyBefore (wordlyAfter (by decide) type) (by decide)
  have handler {n} := fitsImported (n := n) (handlerWordly type) fun _ => handler
  have own {n} := fitsFunction (n := n) named own
  have told :
      OneLine (registerName s.typeName ++ " binds the " ++ s.stem ++ " endpoints on r.") := by
    have fixed : OneLine " binds the " ∧ OneLine " endpoints on r." := by decide
    simp [wordlyOneLine named, stem, fixed]
  rw [Routes.code, allFitFunction]
  refine ⟨fun c given => Option.some.inj given ▸ fitsComment told, ?_, ?_⟩
  · simp only [Routes.of, line, Code.own, declared, imported, List.flatten_cons, List.flatten_nil,
      List.append_nil, List.cons_append, List.nil_append]
    refine spelledLine free (.fixed (.declared (.fixed (.imported (.fixed (.imported (.fixed (.own
      (.fixed (.fixed .nil ?_) ?_) (fitsNamed (wordlyFixed ?_) ?_ ?_)) ?_) (handler ?_)) ?_)
      (fitsForeign ?_ ?_ ?_)) ?_) (own ?_)) ?_) <;> decide
  · exact List.forall_mem_map.mpr (List.forall_mem_map.mpr fun e member =>
      registrationFits (plan e member) (router e.method))

end Server
end RestScaffold
