import RestScaffold.Proofs.Artifact.Wire
import RestScaffold.Proofs.Client.Interfaces
import RestScaffold.Proofs.Code.Outline
import RestScaffold.Proofs.Server.Tags

/-! What both targets' files say of the wire, read off their texts: the structs of the server and
the interfaces of the client, shape by shape, and the type that each takes a row's key to be. -/
namespace RestScaffold
open Catalog Code Layout Text

def Go.Field.wired (key : String) (f : Go.Field (List UInt8)) : Option (List UInt8 × Bool) :=
  (f.tag.lookup key).map fun value =>
    (value.takeWhile (· ≠ 44), decide (value.dropWhile (· ≠ 44) = utf8 ",omitempty".toList))

def Client.Signature.wired (p : Client.Signature) : Option (List UInt8 × Bool) :=
  some (utf8 p.name.toList, p.optional)

/-- The same shape on the server and in the client. In queries only the server names the format of
an export. -/
structure Alike (queries : String) (st : Go.Struct (List UInt8)) (i : Client.Interface) : Prop where
  name : st.name = i.name
  bodies : st.name ≠ queries →
    st.fields.map (Go.Field.wired "json") = i.properties.map Client.Signature.wired
  queries : st.name = queries →
    (st.fields.filter (·.name ≠ "Format")).map (fun f => (f.wired "form").map Prod.fst) =
      i.properties.map fun p => some (utf8 p.name.toList)

def Code.Opens (text opening : String) : Prop := ∃ row ∈ rows text.toList, opening.toList <+: row

def EndpointKind.keyEnd (k : EndpointKind) : String := if k = .update then "," else ")"

structure ReadAlike (s : Subject) (files : List Artifact) : Prop where
  shapes : ∃ model requests types,
    (∀ f ∈ files, f.category = .model → Go.outlines f.contents = some model) ∧
    (∀ f ∈ files, f.category = .dto → Go.outlines f.contents = some requests) ∧
    (∀ f ∈ files, f.category = .clientTypes → Client.interfaces f.contents = some types) ∧
    List.Forall₂ (Alike (Names.listParams s.typeName)) (model ++ requests) types ∧
    ∀ e ∈ s.plan, ∀ q ∈ e.parametersIn .query, ∃ st ∈ requests,
      st.name = Names.listParams s.typeName ∧
        some (utf8 q.name.toList) ∈ st.fields.map fun f => (f.wired "form").map Prod.fst
  keys : ∃ server client : String, (client = "number" ↔ server ≠ "string") ∧
    ∀ e ∈ s.plan, e.kind.isSingular = true →
      (∀ id ∈ e.parametersIn .path,
        client = "number" ↔ id.type = .integer ∨ id.type = .number) ∧
      ∀ f ∈ files,
        (f.category = .repository → Opens f.contents ("func (r *" ++
          Server.repositoryName s.typeName ++ ") " ++ Server.accessName e.kind ++
            "(ctx context.Context, id " ++ server ++ e.kind.keyEnd)) ∧
        (f.category = .handler → Opens f.contents ("func " ++ Server.readKeyName s.ident ++
          "(c *gin.Context) (" ++ server ++ ", error)")) ∧
        (f.category = .clientApi → Opens f.contents ("    " ++ Naming.camel e.handler ++
          ": (id: " ++ client ++ e.kind.keyEnd))

variable {c : Char} {cs : List Char}

theorem utf8Ascii (small : c.toNat < 128) (cs : List Char) :
    utf8 (c :: cs) = c.toNat.toUInt8 :: utf8 cs := by
  rw [utf8, List.flatMap_cons, GoString.asciiBytes small]
  rfl

theorem commaByte (small : c.toNat < 128) : c.toNat.toUInt8 ≠ 44 ↔ c ≠ ',' := by
  have value : c.toNat % 2 ^ 8 = c.toNat := Nat.mod_eq_of_lt (by omega)
  refine not_congr ?_
  rw [← UInt8.toNat_inj, ← Char.toNat_inj, Nat.toUInt8, UInt8.toNat_ofNat', value]
  rfl

theorem commaBytes (ascii : ∀ c ∈ cs, c.toNat < 128) :
    (utf8 cs).takeWhile (· ≠ 44) = utf8 (cs.takeWhile (· ≠ ',')) ∧
      (utf8 cs).dropWhile (· ≠ 44) = utf8 (cs.dropWhile (· ≠ ',')) := by
  induction cs with
  | nil => exact ⟨rfl, rfl⟩
  | cons c rest ih =>
      obtain ⟨small, others⟩ := List.forall_mem_cons.mp ascii
      obtain ⟨before, after⟩ := ih others
      rw [utf8Ascii small, List.takeWhile_cons, List.takeWhile_cons, List.dropWhile_cons,
        List.dropWhile_cons]
      simp only [commaByte small, before, after]
      split
      · exact ⟨(utf8Ascii small _).symm, rfl⟩
      · exact ⟨rfl, (utf8Ascii small _).symm⟩

theorem GoField.leadWired {f : GoField} {key value : String} {more : List (String × String)}
    (tag : f.tag = (key, value) :: more) (ascii : ∀ c ∈ value.toList, c.toNat < 128) :
    f.meant.leading.wired key =
      some (utf8 (f.wireName key).toList, decide (f.options key = ",omitempty")) := by
  have own : f.tagValue key = value := by
    rw [tagValue, tag, List.lookup_cons_self, Option.getD_some]
  have lead : f.meant.leading.tag = [(key, utf8 value.toList)] := by
    simp [meant, Go.Field.leading, tag]
  have options : utf8 (value.toList.dropWhile (· ≠ ',')) = utf8 ",omitempty".toList ↔
      String.ofList (value.toList.dropWhile (· ≠ ',')) = ",omitempty" := by
    constructor
    · intro same
      refine utf8Injective _ _ ?_
      rwa [String.toList_ofList]
    · intro same
      rw [← same, String.toList_ofList]
  obtain ⟨before, after⟩ := commaBytes ascii
  rw [Go.Field.wired, lead, List.lookup_cons_self, Option.map_some, before, after, wireName,
    GoField.options, own]
  refine congrArg some (Prod.ext ?_ (decide_eq_decide.mpr options))
  dsimp only
  rw [String.toList_ofList]

variable {s : Subject}

def wiredOf (sent : String × Bool) : Option (List UInt8 × Bool) := some (utf8 sent.1.toList, sent.2)

theorem wiredSame {fields : List GoField} {ps : List Client.Property}
    (wired : ∀ f ∈ fields, f.meant.leading.wired "json" = wiredOf f.sent)
    (same : fields.map GoField.sent = ps.map Client.Property.sent) :
    ((fields.map GoField.meant).map Go.Field.leading).map (Go.Field.wired "json") =
      (ps.map Client.Property.signature).map Client.Signature.wired :=
  calc ((fields.map GoField.meant).map Go.Field.leading).map (Go.Field.wired "json")
    _ = (fields.map GoField.sent).map wiredOf := by
      rw [List.map_map, List.map_map, List.map_map]
      exact List.map_congr_left wired
    _ = (ps.map Client.Property.sent).map wiredOf := by rw [same]
    _ = (ps.map Client.Property.signature).map Client.Signature.wired := by
      rw [List.map_map, List.map_map]
      rfl

theorem sentWired {f : GoField} {value : String} {more : List (String × String)}
    (tag : f.tag = ("json", value) :: more) (ascii : ∀ c ∈ value.toList, c.toNat < 128) :
    f.meant.leading.wired "json" = wiredOf f.sent := by
  rw [GoField.leadWired tag ascii]
  rfl

theorem wordlySmall {cs : List Char} (wordly : Naming.Wordly cs) : ∀ c ∈ cs, c.toNat < 128 :=
  fun c member => Naming.wordlyAscii (wordly c member)

section
variable {c : ColumnShape} (plain : Naming.isPlainIdentifier c.name = true)
include plain

theorem modelWired : (Server.Model.field c).meant.leading.wired "json" =
    wiredOf (Server.Model.field c).sent :=
  sentWired rfl (wordlySmall (Naming.camelWordly plain))

theorem modelSent : (Server.Model.field c).sent = (Naming.camel c.name, false) := by
  have tag : (Server.Model.field c).tag =
      [("json", Naming.camel c.name ++ ""), ("db", c.name)] := by
    rw [String.append_empty]
    rfl
  obtain ⟨name, options⟩ :=
    GoField.wireNameFirst tag (Naming.camelWordly plain).commaFree.none (by simp)
  rw [GoField.sent, GoField.omitsEmpty, name, options]
  rfl

theorem requestWired (v : ValidationRules) (type : GoType) (required omits : Bool) :
    (Server.Dto.requestField v c type required omits).meant.leading.wired "json" =
      wiredOf (Server.Dto.requestField v c type required omits).sent := by
  refine sentWired rfl ?_
  have suffix : ",omitempty".toList.all (·.toNat < 128) = true := by decide
  have name := wordlySmall (Naming.camelWordly plain)
  cases omits with
  | false => exact name
  | true =>
      rw [if_pos rfl, String.toList_append]
      exact List.forall_mem_append.mpr
        ⟨name, fun c member => of_decide_eq_true (List.all_eq_true.mp suffix c member)⟩

end

theorem paramWired {f : GoField} {value : String} (tag : f.tag = [("form", value)])
    (wordly : Naming.Wordly value.toList) :
    (f.meant.leading.wired "form").map Prod.fst = some (utf8 (f.wireName "form").toList) := by
  rw [GoField.leadWired tag (wordlySmall wordly), Option.map_some]

theorem paramsWired (plain : s.Plain) : ∀ f ∈ Server.Dto.paramFields s,
    (f.meant.leading.wired "form").map Prod.fst = some (utf8 (f.wireName "form").toList) := by
  have fixed : ∀ name ∈ ["page", "limit", "sort", "order", "q", "format"],
      name.toList.all Naming.isWordly = true := by decide
  have known {name : String} (member : name ∈ ["page", "limit", "sort", "order", "q", "format"]) :
      Naming.Wordly name.toList := List.all_eq_true.mp (fixed name member)
  simp only [Server.Dto.paramFields, Server.Dto.pageFields, List.forall_mem_append,
    List.forall_mem_cons, List.forall_mem_map]
  refine ⟨⟨⟨⟨paramWired rfl (known (by simp)), paramWired rfl (known (by simp)),
    paramWired rfl (known (by simp)), paramWired rfl (known (by simp)),
    List.forall_mem_nil _⟩, ?_⟩, ?_⟩,
    fun c member => paramWired rfl (Naming.plainWordly (plain c (TableShape.namedMember member)))⟩
  · split
    · exact List.forall_mem_singleton.mpr (paramWired rfl (known (by simp)))
    · exact List.forall_mem_nil _
  · split
    · exact List.forall_mem_singleton.mpr (paramWired rfl (known (by simp)))
    · exact List.forall_mem_nil _

theorem alikeBodies {queries name : String} (other : name ≠ queries)
    {fields : List (Go.Field String)}
    {ps : List Client.Signature}
    (same : (fields.map Go.Field.leading).map (Go.Field.wired "json") =
      ps.map Client.Signature.wired) :
    Alike queries (Go.Struct.mk name fields).outline ⟨name, ps⟩ :=
  ⟨rfl, fun _ => same, fun own => absurd own other⟩

theorem chosenAlike {asked : Bool} {α β : Type} {x : α} {y : β} {st : α → Go.Struct String}
    {i : β → Client.Interface} {queries : String}
    (alike : asked = true → Alike queries (st x).outline (i y)) :
    List.Forall₂ (Alike queries)
      ((((if asked then some x else none).map st).toList).map Go.Struct.outline)
      (((if asked then some y else none).map i).toList) := by
  cases asked with
  | false => exact .nil
  | true => exact .cons (alike rfl) .nil

theorem takenAlike {asked : Bool} {st : Go.Struct String} {i : Client.Interface} {queries : String}
    (alike : Alike queries st.outline i) :
    List.Forall₂ (Alike queries) ((if asked then [st] else []).map Go.Struct.outline)
      (if asked then [i] else []) := by
  cases asked with
  | false => exact .nil
  | true => exact .cons alike .nil

section
variable (plain : s.Plain)
include plain

theorem rowAlike : Alike (Names.listParams s.typeName) (Server.Model.of s).struct.outline
    ⟨s.typeName, (Client.Types.of s).row.map Client.Property.signature⟩ := by
  refine alikeBodies (Client.shapesNamed s.typeName).1 (wiredSame ?_ ?_)
  · exact List.forall_mem_map.mpr fun c member => modelWired (plain c member)
  · simp only [Server.Model.of, Client.Types.of, List.map_map]
    exact List.map_congr_left fun c member => modelSent (plain c member)

theorem requestAlike {name : String} (other : name ≠ Names.listParams s.typeName)
    (v : ValidationRules) (type : ColumnShape → GoType) (required omits : ColumnShape → Bool) :
    Alike (Names.listParams s.typeName)
      (Go.Struct.mk name ((s.writable.map fun c =>
        Server.Dto.requestField v c (type c) (required c) (omits c)).map GoField.meant)).outline
      ⟨name, (s.writable.map fun c =>
        Client.Property.ofColumn s c (omits c)).map Client.Property.signature⟩ := by
  refine alikeBodies other (wiredSame ?_ (requestsSent plain v type required omits))
  exact List.forall_mem_map.mpr fun c member =>
    requestWired (plain c (TableShape.writableMember member)) ..

theorem paramsAlike : Alike (Names.listParams s.typeName)
    (Go.Struct.mk (Names.listParams s.typeName)
      ((Server.Dto.paramFields s).map GoField.meant)).outline
    ⟨Names.listParams s.typeName,
      (Client.Types.paramProperties s).map Client.Property.signature⟩ := by
  refine ⟨rfl, fun other => absurd rfl other, fun _ => ?_⟩
  have kept : (((Server.Dto.paramFields s).map GoField.meant).map Go.Field.leading).filter
      (·.name ≠ "Format") = ((Server.Dto.paramFields s).filter (!·.isFormat)).map
        fun f => f.meant.leading := by
    rw [List.map_map, List.filter_map]
    refine congrArg (List.map _) (congrArg (List.filter · _) (funext fun f => ?_))
    simp [GoField.isFormat, GoField.meant, Go.Field.leading]
  rw [Go.Struct.outline, kept, List.map_map]
  calc ((Server.Dto.paramFields s).filter (!·.isFormat)).map _
    _ = (((Server.Dto.paramFields s).filter (!·.isFormat)).map (GoField.wireName "form")).map
        fun name => some (utf8 name.toList) := by
      rw [List.map_map]
      exact List.map_congr_left fun f member => paramsWired plain f (List.mem_filter.mp member).1
    _ = ((Client.Types.paramProperties s).map Client.Property.name).map
        fun name => some (utf8 name.toList) := by rw [paramNames plain]
    _ = _ := by
      rw [List.map_map, List.map_map]
      rfl

theorem shapesAlike {d : Server.Dto} (made : Server.Dto.of s = .ok d) :
    List.Forall₂ (Alike (Names.listParams s.typeName))
      ([(Server.Model.of s).struct.outline] ++ d.structs.map Go.Struct.outline)
      (Client.Types.of s).interfaces := by
  obtain ⟨-, create, update, page, stats⟩ := Client.shapesNamed s.typeName
  simp only [Server.Dto.of] at made
  split at made
  · contradiction
  · cases made
    have bytes : ∀ name ∈ ["data", "page", "limit", "total"],
        (Go.Field.mk "" "" [("json", utf8 name.toList)]).wired "json" =
          some (utf8 name.toList, false) := by decide
    have count {field type name : String} {type' : List Client.Token}
        (known : name ∈ ["data", "page", "limit", "total"]) :
        (Go.Field.mk field type [("json", name)]).leading.wired "json" =
          (Client.Signature.mk name false type').wired := bytes name known
    simp only [Server.Dto.structs, Client.Types.interfaces, Client.Types.of, List.map_append,
      List.append_assoc, List.singleton_append]
    refine .cons (rowAlike plain) (List.rel_append (chosenAlike fun _ => ?_)
      (List.rel_append (chosenAlike fun _ => ?_) (List.rel_append (chosenAlike fun _ => ?_)
        (List.rel_append (takenAlike ?_) (takenAlike ?_)))))
    · exact requestAlike plain create ..
    · exact requestAlike plain update ..
    · exact paramsAlike plain
    · refine alikeBodies page ?_
      simp only [Client.Types.pageSignatures, List.map_cons, List.map_nil]
      rw [count (by simp), count (by simp), count (by simp), count (by simp)]
    · refine alikeBodies stats ?_
      simp only [Client.Types.statsSignatures, List.map_cons, List.map_nil]
      rw [count (by simp)]

end

theorem opensRow {ls : List Line} {l : Line} {opening : String} {c : Char} (member : l ∈ ls)
    (begins : ∃ rest, lineText l = opening ++ rest) (oneLine : OneLine opening)
    (last : opening.toList.getLast? = some c) (full : isBlank c = false) :
    Opens (fileText ls) opening := by
  obtain ⟨rest, split⟩ := begins
  obtain ⟨cut, more, -, own⟩ := rowsBegin oneLine last full rest.toList
  refine ⟨opening.toList ++ cut, fileRows member ?_, List.prefix_append _ _⟩
  rw [split, String.toList_append, own]
  exact List.mem_cons_self

theorem functionOpens {comment : Option String} (head : Line) (body : List Line) :
    (line [line ["func ", head], " \x7b"] : Line) ∈ Go.function comment head body := by
  simp [Go.function, Go.block, block]

theorem keyEndLast (k : EndpointKind) (front : String) :
    ∃ c, (front ++ k.keyEnd).toList.getLast? = some c ∧ isBlank c = false := by
  unfold EndpointKind.keyEnd
  split
  · exact ⟨',', by simp, by decide⟩
  · exact ⟨')', by simp, by decide⟩

theorem keyEndOneLine (k : EndpointKind) : OneLine k.keyEnd := by
  unfold EndpointKind.keyEnd
  split <;> decide

theorem separatedPair (separator : String) (first second : Line) (more : List Line) :
    lineText (separated separator (first :: second :: more)) =
      lineText first ++ (separator ++ lineText (separated separator (second :: more))) := by
  simp [separated]

theorem separatedSingle (separator : String) (first : Line) :
    lineText (separated separator [first]) = lineText first := by
  simp [separated]

theorem keyArguments (r : Server.Repository) {k : EndpointKind} (singular : k.isSingular = true) :
    ∃ rest, lineText (separated ", " (Server.Repository.context :: r.accessArguments k)) ++ ")" =
      "ctx context.Context, id " ++ r.keyType.text ++ k.keyEnd ++ rest := by
  have context : lineText Server.Repository.context = "ctx context.Context" := rfl
  have key : lineText r.key = "id " ++ r.keyType.text := by
    simp [Server.Repository.key, line, GoType.lineText]
  have front : "ctx context.Context" ++ ", " ++ "id " = "ctx context.Context, id " := rfl
  have alone : lineText (separated ", " [Server.Repository.context, r.key]) ++ ")" =
      "ctx context.Context, id " ++ r.keyType.text ++ ")" ++ "" := by
    rw [separatedPair, separatedSingle, context, key, ← front]
    simp only [String.append_assoc, String.append_empty]
  cases k with
  | get | delete => exact ⟨"", alone⟩
  | update =>
      refine ⟨" " ++ lineText (line ["req ", r.updateRequest]) ++ ")", ?_⟩
      have comma : ", " = "," ++ " " := rfl
      rw [Server.Repository.accessArguments, separatedPair, separatedPair, separatedSingle, context,
        key, ← front, EndpointKind.keyEnd, if_pos rfl]
      conv_lhs => rw [comma]
      simp only [String.append_assoc]
      rfl
  | list | search | «export» | stats | create | bulk => contradiction

theorem methodText (r : Server.Repository) (name : String) (arguments : List Line)
    (results : Line) :
    ∃ rest, lineText (line [line ["func ",
        line ["(r *", own (Server.repositoryName r.typeName), ") ", declared name, "(",
          separated ", " arguments, ") ", results]], " \x7b"]) =
      "func (r *" ++ Server.repositoryName r.typeName ++ ") " ++ name ++ "(" ++
        (lineText (separated ", " arguments) ++ ")") ++ rest :=
  ⟨" " ++ lineText results ++ " \x7b", String.toList_inj.mp (by simp [line, own, declared])⟩

theorem repositoryKey (wordly : Naming.Wordly s.typeName.toList) (goModule : String) {e : Endpoint}
    (member : e ∈ s.plan) (singular : e.kind.isSingular = true) :
    Opens ((Server.Repository.of s).file.text goModule) ("func (r *" ++
      Server.repositoryName s.typeName ++ ") " ++ Server.accessName e.kind ++
        "(ctx context.Context, id " ++ (Server.keyType s).text ++ e.kind.keyEnd) := by
  have type : OneLine s.typeName := wordly.without (by decide)
  have fixed : OneLine "func (r *" ∧ OneLine "Repository" ∧ OneLine ") " ∧
      OneLine "(ctx context.Context, id " := by decide
  have name : ∀ k ∈ EndpointKind.all, OneLine (Server.accessName k) := by decide
  have access : Server.Repository.access s e.kind ∈ (Server.Repository.of s).accesses :=
    List.mem_map_of_mem member
  have own : (Server.Repository.access s e.kind).kind = e.kind := by cases e.kind <;> rfl
  have held {l : Line} (inside : l ∈ (Server.Repository.of s).accessCode
      (Server.Repository.access s e.kind)) : l ∈ (Server.Repository.of s).code :=
    Server.Repository.memCode.mpr (.inr (.inr (.inr (.inr (.inr ⟨_, access, inside⟩)))))
  obtain ⟨c, last, full⟩ := keyEndLast e.kind ("func (r *" ++ Server.repositoryName s.typeName ++
    ") " ++ Server.accessName e.kind ++ "(ctx context.Context, id " ++ (Server.keyType s).text)
  obtain ⟨rest, arguments⟩ := keyArguments (Server.Repository.of s) singular
  refine opensRow (List.mem_append_right _ (held (functionOpens _ _))) ?_ ?_ last full
  · rw [own]
    obtain ⟨more, whole⟩ := methodText (Server.Repository.of s) (Server.accessName e.kind)
      (Server.Repository.context :: (Server.Repository.of s).accessArguments e.kind)
      ((Server.Repository.of s).accessResults e.kind)
    have front : "(" ++ "ctx context.Context, id " = "(ctx context.Context, id " := rfl
    refine ⟨rest ++ more, whole.trans ?_⟩
    rw [arguments, ← front]
    simp only [String.append_assoc]
    rfl
  · simp [Server.repositoryName, type, fixed, name e.kind (EndpointKind.memAll _), keyEndOneLine,
      (Server.keyType s).textSolid]

theorem handlerKey (wordly : Naming.Wordly s.ident.toList) (goModule : String) {e : Endpoint}
    (member : e ∈ s.plan) (singular : e.kind.isSingular = true) :
    Opens ((Server.Handler.of s).file.text goModule) ("func " ++ Server.readKeyName s.ident ++
      "(c *gin.Context) (" ++ (Server.keyType s).text ++ ", error)") := by
  have ident : OneLine s.ident := wordly.without (by decide)
  have fixed : OneLine "func " ∧ OneLine "ID" ∧ OneLine "(c *gin.Context) (" ∧
      OneLine ", error)" := by decide
  have key : (Server.Handler.of s).key = some (Server.keyType s) :=
    if_pos (List.any_eq_true.mpr ⟨e, member, singular⟩)
  have held {l : Line} (inside : l ∈ (Server.Handler.of s).keyCode (Server.keyType s)) :
      l ∈ (Server.Handler.of s).code := by
    simp [Server.Handler.code, key, inside]
  have last : ("func " ++ Server.readKeyName s.ident ++ "(c *gin.Context) (" ++
      (Server.keyType s).text ++ ", error)").toList.getLast? = some ')' := by
    rw [String.toList_append, List.getLast?_append]
    rfl
  refine opensRow (List.mem_append_right _ (held (functionOpens _ _))) ⟨" \x7b", ?_⟩ ?_ last
    (by decide)
  · refine String.toList_inj.mp ?_
    have context : lineText Server.Handler.context = "c *gin.Context" := rfl
    simp [line, declared, context, GoType.lineText, Server.Handler.of]
  · simp [Server.readKeyName, ident, fixed, (Server.keyType s).textSolid]

theorem memberListed {a : Client.Api} {m : Client.Member} (member : m ∈ a.members) {l : Line}
    (inside : l ∈ a.memberCode m) : (.text "  " :: .text "  " :: l : Line) ∈ a.code := by
  have listed : (.text "  " :: l : Line) ∈ a.objectCode := by
    have shifted : (.text "  " :: l : Line) ∈ indented "  " (a.members.flatMap a.memberCode) :=
      List.mem_map_of_mem (List.mem_flatMap.mpr ⟨m, member, inside⟩)
    simp [Client.Api.objectCode, shifted]
  have shifted : (.text "  " :: .text "  " :: l : Line) ∈ indented "  " (Client.Api.requestCode ++
      (if a.queries then Client.Api.queryCode else []) ++ a.objectCode) :=
    List.mem_map_of_mem (List.mem_append_right _ listed)
  exact List.mem_append_left _ (List.mem_append_right _
    (List.mem_append_left _ (List.mem_cons_of_mem _ shifted)))

theorem memberArguments (a : Client.Api) {k : EndpointKind} (singular : k.isSingular = true) :
    ∃ rest, lineText (a.memberArguments k) ++ ")" =
      "id: " ++ a.keyType.text ++ k.keyEnd ++ rest := by
  have key : lineText a.keyArgument = "id: " ++ a.keyType.text := by
    simp [Client.Api.keyArgument, plainText]
  cases k with
  | get | delete =>
      refine ⟨"", ?_⟩
      rw [Client.Api.memberArguments, key, String.append_empty]
      rfl
  | update =>
      refine ⟨" body: " ++ Names.updateRequest a.typeName ++ ")", String.toList_inj.mp ?_⟩
      simp [Client.Api.memberArguments, line, own, key, EndpointKind.keyEnd]
  | list | search | «export» | stats | create | bulk => contradiction

theorem memberText (a : Client.Api) (m : Client.Member) (more : List Line) :
    ∃ rest, lineText (.text "  " :: .text "  " :: line (m.name :: ": (" ::
      a.memberArguments m.kind :: ") => request<" :: more)) =
        "    " ++ m.name ++ ": (" ++ (lineText (a.memberArguments m.kind) ++ ")") ++ rest :=
  ⟨" => request<" ++ lineText (line more), String.toList_inj.mp (by simp [line])⟩

theorem clientKey (baseUrl : String) {e : Endpoint} (handler : OneLine (Naming.camel e.handler))
    (member : e ∈ s.plan) (singular : e.kind.isSingular = true) :
    Opens (fileText (Client.Api.of baseUrl s).code) ("    " ++ Naming.camel e.handler ++
      ": (id: " ++ (Client.keyType s).text ++ e.kind.keyEnd) := by
  have fixed : OneLine "    " ∧ OneLine ": (id: " := by decide
  have type : OneLine (Client.keyType s).text := by
    unfold Client.keyType
    split <;> decide
  obtain ⟨c, last, full⟩ := keyEndLast e.kind ("    " ++ Naming.camel e.handler ++ ": (id: " ++
    (Client.keyType s).text)
  obtain ⟨rest, arguments⟩ := memberArguments (Client.Api.of baseUrl s) singular
  have held := memberListed (a := Client.Api.of baseUrl s) (List.mem_map_of_mem member)
    (List.mem_cons_of_mem _ (List.mem_singleton_self _))
  obtain ⟨more, whole⟩ := memberText (Client.Api.of baseUrl s) (Client.Api.member e) _
  refine opensRow held ⟨rest ++ more, whole.trans ?_⟩ ?_ last full
  · have front : ": (" ++ "id: " = ": (id: " := rfl
    simp only [Client.Api.member, arguments, ← front, String.append_assoc]
    rfl
  · simp [fixed, handler, type, keyEndOneLine]

section
variable (plain : Naming.isPlainIdentifier s.table.name = true) (columns : s.Plain)
include plain columns

theorem modelOutlined (spelled : Server.Spelled OneLine s.table) (goModule : String) :
    Go.outlines ((Server.Model.of s).file.text goModule) =
      some [(Server.Model.of s).struct.outline] := by
  obtain ⟨more, body, quiet⟩ := Server.modelQuiet spelled
  have each : ∀ f ∈ (Server.Model.of s).struct.fields, f.Regular ∧ f.Fits :=
    List.forall_mem_map.mpr (List.forall_mem_map.mpr fun c member =>
      Server.modelFieldTagged (columns c member))
  have regular : (Server.Model.of s).struct.Regular :=
    Server.structRegular (Naming.pascalWordly plain) fun f member => (each f member).1
  have package : Solid ("package " ++ (Server.Model.of s).file.package).toList :=
    Server.packageSolid "models" (by decide)
  exact Go.outlinesRead package body
    (Go.printsStruct (Server.docOneLine spelled) (GoField.codeTexts _))
    (List.forall_mem_singleton.mpr regular)
    (List.forall_mem_singleton.mpr fun f member => (each f member).2.leads) quiet

omit plain in
theorem requestLeads (v : ValidationRules) (type : ColumnShape → GoType)
    (required omits : ColumnShape → Bool) : ∀ f ∈ (s.writable.map fun c =>
      Server.Dto.requestField v c (type c) (required c) (omits c)).map GoField.meant, f.Leads := by
  refine List.forall_mem_map.mpr (List.forall_mem_map.mpr fun c member p first => ?_)
  have suffix : Go.Tagged ",omitempty" := by decide
  have name : Go.Tagged (Server.jsonName c) := Go.wordlyTagged
    (Naming.camelWordly (columns c (TableShape.writableMember member)))
  obtain rfl := Option.some.inj first
  have json : Go.Tagged (if omits c then Server.jsonName c ++ ",omitempty"
      else Server.jsonName c) := by
    split
    · exact Go.taggedAppend.mpr ⟨name, suffix⟩
    · exact name
  exact json.2

theorem dtoLeads {d : Server.Dto} (made : Server.Dto.of s = .ok d) :
    ∀ st ∈ d.structs, ∀ f ∈ st.fields, f.Leads := by
  have name : Naming.Wordly s.typeName.toList := Naming.pascalWordly plain
  have params : ∀ f ∈ (Server.Dto.paramFields s).map GoField.meant, f.Leads :=
    List.forall_mem_map.mpr fun f member => (Server.Dto.paramsTagged columns f member).2.leads
  have page {d : Server.Dto} (type : d.typeName = s.typeName) :
      ∀ f ∈ d.pageStruct.fields, f.Leads :=
    fun f member => ((Server.Dto.pageTagged (type ▸ name)).2 f member).leads
  have stats {d : Server.Dto} (type : d.typeName = s.typeName) :
      ∀ f ∈ d.statsStruct.fields, f.Leads :=
    fun f member => ((Server.Dto.statsTagged (type ▸ name)).2 f member).leads
  have create := requestLeads columns s.policy.validation Server.columnType s.requires
    fun c => !s.requires c
  have update := requestLeads columns s.policy.validation Server.optionalType (fun _ => false)
    fun _ => true
  simp only [Server.Dto.of] at made
  split at made
  · contradiction
  · cases made
    simp only [Server.Dto.structs, List.forall_mem_append, Server.Dto.chosen, Server.Dto.taken]
    exact ⟨⟨⟨⟨fun _ => create, fun _ => update⟩, fun _ => params⟩, fun _ => page rfl⟩,
      fun _ => stats rfl⟩

theorem dtoOutlined {d : Server.Dto} (made : Server.Dto.of s = .ok d) (goModule : String) :
    Go.outlines (d.file.text goModule) = some (d.structs.map Go.Struct.outline) := by
  have type : OneLine d.typeName := by
    simp only [Server.Dto.of] at made
    split at made
    · contradiction
    · cases made
      exact (Naming.pascalWordly plain).without (by decide)
  have package : Solid ("package " ++ d.file.package).toList :=
    Server.packageSolid "dto" (by decide)
  have body : d.file.body = d.code ++ [] := (List.append_nil _).symm
  exact Go.outlinesRead package body
    (Server.Dto.codePrints type) (Server.Dto.structsFit plain columns made).1
    (dtoLeads plain columns made) fun _ none => absurd none List.not_mem_nil

omit plain in
theorem queriesOutlined {d : Server.Dto} (made : Server.Dto.of s = .ok d)
    (planned : Plan.endpoints s.table s.policy = .ok s.plan) :
    ∀ e ∈ s.plan, ∀ q ∈ e.parametersIn .query, ∃ st ∈ d.structs.map Go.Struct.outline,
      st.name = Names.listParams s.typeName ∧
        some (utf8 q.name.toList) ∈ st.fields.map fun f => (f.wired "form").map Prod.fst := by
  intro e member q inside
  obtain ⟨fields, params, form⟩ := (onWire columns made planned "").queries e member q inside
  obtain ⟨-, -, own⟩ := dtoOf made
  rw [own] at params
  split at params
  · rename_i needed
    obtain rfl := Option.some.inj params
    have type : d.typeName = s.typeName := by
      simp only [Server.Dto.of] at made
      split at made
      · contradiction
      · cases made
        rfl
    have listed : Go.Struct.mk (Names.listParams s.typeName)
        ((Server.Dto.paramFields s).map GoField.meant) ∈ d.structs := by
      simp [Server.Dto.structs, own, needed, type]
    refine ⟨_, List.mem_map_of_mem listed, rfl, ?_⟩
    obtain ⟨f, among, named⟩ := List.mem_map.mp form
    simp only [Go.Struct.outline, List.map_map]
    exact List.mem_map.mpr ⟨f, among, by rw [← named]; exact paramsWired columns f among⟩
  · contradiction

end

theorem serverKeyText (s : Subject) :
    (Client.keyType s).text = "number" ↔ (Server.keyType s).text ≠ "string" := by
  have text (t : GoType) : t.text = "string" ↔ t = .string := by
    refine ⟨fun same => ?_, fun same => by rw [same]; rfl⟩
    have head := congrArg (·.toList.head?) same
    cases t with
    | string => rfl
    | int bits =>
        cases bits with
        | zero => simp [GoType.text] at head
        | succ n =>
            have own : (GoType.int (n + 1)).text = "int" ++ toString (n + 1) := rfl
            simp [own] at head
    | float bits =>
        have own : (GoType.float bits).text = "float" ++ toString bits := rfl
        simp [own] at head
    | bool | byte | time | rawJson | slice _ | pointer _ => simp [GoType.text] at head
  have number : (Client.keyType s).text = "number" ↔ Client.keyType s = .number := by
    unfold Client.keyType
    split <;> decide
  rw [number, clientKeyNumeric, ← serverKeyNumeric, Ne, Ne, text]

variable {r : Rendering} {table : TableShape} {policy : Policy} {plan : List Endpoint}
  {targets : List Target} {files : List Artifact}

theorem keysRead (plain : Naming.isPlainIdentifier s.table.name = true)
    (planned : Plan.endpoints s.table s.policy = .ok s.plan)
    (rendered : r.artifacts s targets = .ok files) {e : Endpoint} (member : e ∈ s.plan)
    (singular : e.kind.isSingular = true) : ∀ f ∈ files,
      (f.category = .repository → Opens f.contents ("func (r *" ++
        Server.repositoryName s.typeName ++ ") " ++ Server.accessName e.kind ++
          "(ctx context.Context, id " ++ (Server.keyType s).text ++ e.kind.keyEnd)) ∧
      (f.category = .handler → Opens f.contents ("func " ++ Server.readKeyName s.ident ++
        "(c *gin.Context) (" ++ (Server.keyType s).text ++ ", error)")) ∧
      (f.category = .clientApi → Opens f.contents ("    " ++ Naming.camel e.handler ++
        ": (id: " ++ (Client.keyType s).text ++ e.kind.keyEnd)) := by
  intro f inside
  have printed := Rendering.printed rendered inside
  refine ⟨fun category => ?_, fun category => ?_, fun category => ?_⟩
  · rw [Rendering.repositoryPrinted printed category]
    exact repositoryKey (Naming.pascalWordly plain) r.goModule member singular
  · rw [Rendering.serverPrinted printed fun _ => by rw [category]; rfl]
    exact handlerKey (Naming.camelWordly plain) r.goModule member singular
  · rw [Rendering.apiPrinted printed category]
    have handler : OneLine (Naming.camel e.handler) := by
      rw [Plan.plannedEndpoint planned member]
      exact (Naming.camelWordly (EndpointKind.handlerPlain e.kind plain)).without (by decide)
    exact clientKey r.apiBasePath handler member singular

theorem clientKeyText (s : Subject) :
    (Client.keyType s).text = "number" ↔ Client.keyType s = .number := by
  unfold Client.keyType
  split <;> decide

theorem readAlike (plain : Naming.isPlainIdentifier s.table.name = true) (columns : s.Plain)
    (spelled : Server.Spelled OneLine s.table)
    (starless : Server.Spelled (fun name => '*' ∉ name.toList) s.table)
    (planned : Plan.endpoints s.table s.policy = .ok s.plan) {dto : Server.Dto}
    (made : Server.Dto.of s = .ok dto) (rendered : r.artifacts s targets = .ok files) :
    ReadAlike s files where
  shapes := by
    have printed {f : Artifact} (member : f ∈ files) := Rendering.printed rendered member
    refine ⟨[(Server.Model.of s).struct.outline], dto.structs.map Go.Struct.outline,
      (Client.Types.of s).interfaces, fun f member category => ?_, fun f member category => ?_,
      fun f member category => ?_, shapesAlike columns made, queriesOutlined columns made planned⟩
    · rw [Rendering.serverPrinted (printed member) fun _ => by rw [category]; rfl]
      exact modelOutlined plain columns spelled r.goModule
    · rw [Rendering.dtoPrinted (printed member) category made]
      exact dtoOutlined plain columns made r.goModule
    · rw [Rendering.typesPrinted (printed member) category]
      exact Client.typesRead plain starless columns
  keys := by
    refine ⟨_, _, serverKeyText s, fun e member singular =>
      ⟨fun id inside => ?_, keysRead plain planned rendered member singular⟩⟩
    rw [clientKeyText]
    exact (onWire columns made planned "").paths e member id inside

/-- Where files for both targets are rendered from a table and its plan, they are printed from
shapes that agree on the wire, and the same is read off their texts. -/
theorem targetsAgreeOnWire (planned : Plan.endpoints table policy = .ok plan)
    (server : .server ∈ targets) (client : .client ∈ targets)
    (rendered : r.tableArtifacts table policy plan targets = .ok files) :
    let s : Subject := ⟨table, policy, plan⟩
    ∃ dto, Server.Dto.of s = .ok dto ∧
      (∀ category contents, r.printed? s dto category = some contents ↔
        ∃ f ∈ files, f.category = category ∧ f.contents = contents) ∧
      OnWire (.of s) (.of s) dto (.of s) (.of s) (.of r.apiBasePath s) plan ∧
      ReadAlike s files := by
  obtain ⟨s, made, rendered⟩ := Rendering.tableArtifactsMade rendered
  have spelled := Server.spelled made Server.wordlyOneLine
  have starless : Server.Spelled (fun name => '*' ∉ name.toList) table :=
    Server.spelled made fun wordly => wordly.without (by decide)
  obtain ⟨rfl, plain, columns, -⟩ := Rendering.subjectOk made
  obtain ⟨dto, shapes, printed⟩ := printedFiles server client rendered
  exact ⟨dto, shapes, printed,
    onWire (s := ⟨table, policy, plan⟩) columns shapes planned r.apiBasePath,
    readAlike plain columns spelled starless planned shapes rendered⟩

def stockTable : TableShape where
  schema := "public"
  name := "stock_items"
  columns := [⟨"id", "integer", false, true, none, none⟩,
    ⟨"unit_price", "numeric", true, false, none, none⟩,
    ⟨"format", "text", false, false, none, none⟩]
  comment := none

def stockPolicy : Policy where
  endpoints := ["search", "create", "update", "export"]
  filtering := { filterFields := ["format"], searchFields := ["format"] }

def stockPlan : List Endpoint :=
  [.search, .create, .update, .export].map (Plan.endpoint stockTable stockPolicy)

theorem stockPlanned : Plan.endpoints stockTable stockPolicy = .ok stockPlan := by
  have kinds : stockPolicy.endpointKinds stockTable.name =
      .ok [.search, .create, .update, .export] := rfl
  rw [Plan.endpoints, kinds]
  rfl

theorem stockRendered : ∃ files, Rendering.tableArtifacts ⟨"shop", "/api"⟩ stockTable stockPolicy
    stockPlan [.client, .server] = .ok files := Rendering.filesOf (by decide +kernel)

theorem stockItemsAgreeOnWire :
    let s : Subject := ⟨stockTable, stockPolicy, stockPlan⟩
    ∃ files dto, Rendering.tableArtifacts ⟨"shop", "/api"⟩ s.table s.policy s.plan
        [.client, .server] = .ok files ∧
      OnWire (.of s) (.of s) dto (.of s) (.of s) (.of "/api" s) s.plan ∧ ReadAlike s files ∧
      (Client.Types.of s).row.map Client.Property.name = ["id", "unitPrice", "format"] := by
  intro s
  obtain ⟨files, rendered⟩ := stockRendered
  obtain ⟨dto, -, -, agree, read⟩ :=
    targetsAgreeOnWire stockPlanned (by decide) (by decide) rendered
  exact ⟨files, dto, rendered, agree, read, by decide +kernel⟩

end RestScaffold
