import RestScaffold.Proofs.Generation.Files

/-! What files hold once others have been written and removed: the last text written to a place is
what stays there. Where writing stops at a failure, the files before it count. -/
namespace RestScaffold.FileTree

variable {t u v : FileTree} {root path : String} {here there : Location} {names : List String}
  {files : List FileText}

def text? (t : FileTree) (here : Location) : Option String :=
  match t.node? here with
  | some (.file contents) => some contents
  | _ => none

theorem textIff {contents : String} :
    t.text? here = some contents ↔ t.node? here = some (.file contents) := by
  unfold text?
  split <;> simp_all

theorem fileText : t.IsFile here ↔ t.text? here ≠ none := by
  simp only [IsFile, ← textIff, Option.ne_none_iff_exists']

theorem textSame (same : ∀ contents,
      u.node? here = some (.file contents) ↔ t.node? here = some (.file contents)) :
    u.text? here = t.text? here :=
  Option.ext fun contents => by rw [textIff, textIff, same]

theorem putText {contents : String} (free : ¬t.IsDirectory there) (here : Location) :
    (t.put there (.file contents)).text? here =
      if here = there then some contents else t.text? here := by
  unfold text?
  rw [putFile free]
  by_cases same : here = there <;> simp [same]

def lastText (root : String) (here : Location) : List FileText → Option String
  | [] => none
  | f :: rest =>
      (lastText root here rest).or
        (if here = base root ++ Path.names f.path then some f.contents else none)

theorem lastTextNone : lastText root here files = none ↔
    ∀ f ∈ files, here ≠ base root ++ Path.names f.path := by
  induction files with
  | nil => simp [lastText]
  | cons f rest ih => simp [lastText, ih, and_comm]

theorem lastTextSome {contents : String} (last : lastText root here files = some contents) :
    ∃ f ∈ files, here = base root ++ Path.names f.path ∧ f.contents = contents := by
  induction files with
  | nil => cases last
  | cons f rest ih =>
      rcases Option.or_eq_some_iff.mp last with later | ⟨-, own⟩
      · obtain ⟨g, member, found⟩ := ih later
        exact ⟨g, List.mem_cons_of_mem _ member, found⟩
      · split at own
        · rename_i there
          cases own
          exact ⟨f, List.mem_cons_self, there, rfl⟩
        · cases own

theorem lastTextThere (there : ∃ f ∈ files, here = base root ++ Path.names f.path) :
    ∃ contents, lastText root here files = some contents :=
  Option.ne_none_iff_exists'.mp fun none =>
    there.elim fun f place => lastTextNone.mp none f place.1 place.2

theorem lastTextOnly {contents : String}
    (there : ∃ f ∈ files, here = base root ++ Path.names f.path)
    (only : ∀ f ∈ files, here = base root ++ Path.names f.path → f.contents = contents) :
    lastText root here files = some contents := by
  obtain ⟨last, found⟩ := lastTextThere there
  obtain ⟨f, member, place, rfl⟩ := lastTextSome found
  rw [found, only f member place]

theorem lastTextAppend (first second : List FileText) :
    lastText root here (first ++ second) =
      (lastText root here second).or (lastText root here first) := by
  induction first with
  | nil => simp [lastText]
  | cons f rest ih => rw [List.cons_append, lastText, ih, lastText, Option.or_assoc]

def written (t : FileTree) (root : String) : List FileText → List FileText
  | [] => []
  | f :: rest =>
      match t.writeBelow root f with
      | (_, .error _) => []
      | (u, .ok _) => f :: u.written root rest

-- What one file does need not be looked into.
attribute [local irreducible] writeBelow in
theorem writtenCons (t : FileTree) (root : String) (f : FileText) (rest : List FileText) :
    t.written root (f :: rest) =
      match t.writeBelow root f with
      | (_, .error _) => []
      | (u, .ok _) => f :: u.written root rest := rfl

theorem writtenPrefix (t : FileTree) (root : String) (files : List FileText) :
    t.written root files <+: files := by
  induction files generalizing t with
  | nil => exact List.prefix_refl []
  | cons f rest ih =>
      rw [writtenCons]
      split
      · exact List.nil_prefix
      · exact (List.prefix_cons_inj f).mpr (ih _)

theorem writtenAll (wrote : t.writeAll root files = (u, .ok ())) :
    t.written root files = files := by
  induction files generalizing t with
  | nil => rfl
  | cons f rest ih =>
      obtain ⟨⟨first, result⟩, same⟩ : ∃ one, t.writeBelow root f = one := ⟨_, rfl⟩
      rw [writeAllCons, same] at wrote
      rw [writtenCons, same]
      cases result with
      | error e => cases wrote
      | ok made => exact congrArg _ (ih wrote)

theorem writeBelowFails {f : FileText} {e : WriteError}
    (wrote : t.writeBelow root f = (u, .error e)) : t.Grows u := by
  have grows := makeParentGrows t (Path.join root f.path)
  unfold writeBelow at wrote
  dsimp only at wrote
  split at wrote
  · rename_i parents e' same
    rw [same] at grows
    cases wrote
    exact grows
  · rename_i parents made same
    rw [same] at grows
    split at wrote
    · cases wrote
    · cases wrote
      exact grows

theorem writeAllWritten {result : Except WriteError Unit} (writable : Writable files)
    (wrote : t.writeAll root files = (u, result)) :
    t.Adds u root ((t.written root files).map FileText.path) := by
  induction files generalizing t with
  | nil =>
      cases wrote
      exact addsNothing _ root
  | cons f rest ih =>
      obtain ⟨⟨descends, some⟩, others⟩ := List.forall_mem_cons.mp writable
      obtain ⟨⟨first, result'⟩, same⟩ : ∃ one, t.writeBelow root f = one := ⟨_, rfl⟩
      rw [writeAllCons, same] at wrote
      rw [writtenCons, same]
      cases result' with
      | error e =>
          cases wrote
          exact ⟨(writeBelowFails same).spares root _, nofun, nofun⟩
      | ok made => exact (writeBelowAdds descends some same).then (ih others wrote)

theorem writeBelowText {f : FileText} (descends : Path.Descends f.path)
    (some : Path.names f.path ≠ []) (wrote : t.writeBelow root f = (u, .ok ())) (here : Location) :
    u.text? here =
      if here = base root ++ Path.names f.path then .some f.contents else t.text? here := by
  obtain ⟨parents, grows, found⟩ := writeBelowOk wrote
  obtain ⟨-, -, free, rfl⟩ := writeReaches descends some found
  rw [putText free, textSame (grows.files here)]

theorem writeAllText {result : Except WriteError Unit} (writable : Writable files)
    (wrote : t.writeAll root files = (u, result)) (here : Location) :
    u.text? here = (lastText root here (t.written root files)).or (t.text? here) := by
  induction files generalizing t with
  | nil =>
      cases wrote
      rfl
  | cons f rest ih =>
      obtain ⟨descends, some⟩ := writable f List.mem_cons_self
      have writable' : Writable rest := fun g member => writable g (List.mem_cons_of_mem _ member)
      obtain ⟨⟨first, result'⟩, same⟩ : ∃ one, t.writeBelow root f = one := ⟨_, rfl⟩
      rw [writeAllCons, same] at wrote
      rw [writtenCons, same]
      cases result' with
      | error e =>
          cases wrote
          exact textSame ((writeBelowFails same).files here)
      | ok made =>
          rw [ih writable' wrote, writeBelowText descends some same, lastText, Option.or_assoc]
          split <;> rfl

theorem dropsText {paths : List String} (drops : t.Drops u root paths) (here : Location) :
    u.text? here =
      if ∃ path ∈ paths, here = base root ++ Path.names path then none else t.text? here := by
  refine Option.ext fun contents => ?_
  rw [textIff, drops.others]
  split
  · rename_i dropped
    simp [dropped]
  · rename_i kept
    simp [kept, textIff]

end RestScaffold.FileTree
