import RestScaffold.Generation.Files
import RestScaffold.Proofs.FileTree.Path
import RestScaffold.Proofs.FileTree.Walk

/-! What writing and removing do to the files below a root. No step of either loses a directory, so
a file that was written once can always be reached again. -/
namespace RestScaffold.FileTree

variable {t u : FileTree} {root path : String} {here there : Location} {names : List String}

structure Grows (t u : FileTree) : Prop where
  keeps : t.Keeps u
  files : ∀ here contents,
    u.node? here = some (.file contents) ↔ t.node? here = some (.file contents)

theorem growsSelf (t : FileTree) : t.Grows t := ⟨keepsSelf t, fun _ _ => Iff.rfl⟩

theorem Grows.then {v : FileTree} (first : t.Grows u) (second : u.Grows v) : t.Grows v :=
  ⟨first.keeps.then second.keeps, fun here contents =>
    (second.files here contents).trans (first.files here contents)⟩

theorem putDirectoryGrows (missing : t.node? there = none) : t.Grows (t.put there .directory) := by
  have below : there ≠ [] := by
    rintro rfl
    contradiction
  refine ⟨fun here directory => ?_, fun here contents => ?_⟩
  · rw [IsDirectory, nodePut t there here .directory below]
    split
    · rfl
    · exact directory
  · rw [nodePut t there here .directory below]
    split
    · rename_i same
      simp [same, missing]
    · rfl

theorem makeDirectoriesGrows (t : FileTree) (here : Location) (names : List String) :
    t.Grows (t.makeDirectories here names).1 := by
  induction names generalizing t here with
  | nil => exact growsSelf t
  | cons name rest ih =>
      simp only [makeDirectories]
      split
      · exact growsSelf t
      · rename_i there stepped
        split
        · exact ih t there
        · exact growsSelf t
        · rename_i missing
          exact (putDirectoryGrows missing).then (ih (t.put there .directory) there)

theorem createDirectoriesGrows (t : FileTree) (path : String) :
    t.Grows (t.createDirectories path).1 := by
  have made := fun names => makeDirectoriesGrows t [] names
  simp only [createDirectories]
  split
  · exact growsSelf t
  · split
    · split
      · rename_i u result same
        exact (congrArg Prod.fst same) ▸ made (Path.names path).dropLast
      · rename_i u error same
        exact (congrArg Prod.fst same) ▸ made (Path.names path).dropLast
    · exact made (Path.names path)

theorem makeParentGrows (t : FileTree) (path : String) : t.Grows (t.makeParent path).1 := by
  simp only [makeParent]
  split
  · exact growsSelf t
  · rename_i parent found
    have made := createDirectoriesGrows t parent
    split
    · rename_i u result same
      exact (congrArg Prod.fst same) ▸ made
    · rename_i u error same
      exact (congrArg Prod.fst same) ▸ made

theorem writeOk {contents : String} (wrote : t.write path contents = .ok u) :
    refusal? path = none ∧ Path.endsInDirectory path = false ∧
      ∃ above name here there, Path.names path = above ++ [name] ∧
        t.follow [] above = .ok (here, .directory) ∧ next here name = .ok there ∧
        ¬t.IsDirectory there ∧ u = t.put there (.file contents) := by
  simp only [write] at wrote
  split at wrote
  · contradiction
  · rename_i name allowed ends last
    refine ⟨allowed, ends, (Path.names path).dropLast, name, ?_⟩
    obtain ⟨above, same⟩ := List.getLast?_eq_some_iff.mp last
    split at wrote
    · rename_i here followed
      split at wrote
      · rename_i there stepped
        refine ⟨here, there, by rw [same, List.dropLast_concat], followed, stepped, ?_⟩
        simp only [writeAt] at wrote
        split at wrote
        · contradiction
        · rename_i free
          cases wrote
          exact ⟨free, rfl⟩
      · contradiction
    · contradiction
    · contradiction
  · contradiction

theorem putFileKeeps {contents : String} (free : ¬t.IsDirectory there) :
    t.Keeps (t.put there (.file contents)) := by
  have below : there ≠ [] := by
    rintro rfl
    exact free rfl
  intro here directory
  rw [IsDirectory, nodePut t there here _ below, if_neg]
  · exact directory
  · rintro rfl
    exact free directory

theorem putFile {contents : String} (free : ¬t.IsDirectory there) (here : Location) :
    (t.put there (.file contents)).node? here =
      if here = there then some (.file contents) else t.node? here := by
  refine nodePut t there here _ ?_
  rintro rfl
  exact free rfl

def base (root : String) : Location := place [] (Path.names root)

theorem placeBelow (root : String) (descends : Path.Descends path) :
    place [] (Path.names (Path.join root path)) = base root ++ Path.names path := by
  rw [Path.namesJoin root descends.relative, placeAppend, placeDown _ descends.down]
  rfl

def ReachesRoot (t : FileTree) (root : String) : Prop :=
  t.follow [] (Path.names root) = .ok (base root, .directory)

structure Reaches (t : FileTree) (root path : String) : Prop where
  descends : Path.Descends path
  allowed : refusal? (Path.join root path) = none
  named : Path.endsInDirectory (Path.join root path) = false
  leads : ∃ above name, Path.names path = above ++ [name] ∧
    t.follow (base root) above = .ok (base root ++ above, .directory) ∧
    next (base root ++ above) name = .ok (base root ++ above ++ [name])

theorem ReachesRoot.kept (reaches : t.ReachesRoot root) (keeps : t.Keeps u) : u.ReachesRoot root :=
  followKept reaches keeps

theorem Reaches.kept (reaches : t.Reaches root path) (keeps : t.Keeps u) : u.Reaches root path := by
  obtain ⟨above, name, split, followed, stepped⟩ := reaches.leads
  exact ⟨reaches.descends, reaches.allowed, reaches.named, above, name, split,
    followKept followed keeps, stepped⟩

theorem writeReaches {contents : String} (descends : Path.Descends path)
    (some : Path.names path ≠ []) (wrote : t.write (Path.join root path) contents = .ok u) :
    t.ReachesRoot root ∧ t.Reaches root path ∧ ¬t.IsDirectory (base root ++ Path.names path) ∧
      u = t.put (base root ++ Path.names path) (.file contents) := by
  obtain ⟨allowed, named, above, name, here, there, split, followed, stepped, free, rfl⟩ :=
    writeOk wrote
  obtain ⟨lower, last, own⟩ : ∃ lower last, Path.names path = lower ++ [last] :=
    ⟨_, _, (List.dropLast_concat_getLast some).symm⟩
  have joined : Path.names root ++ lower ++ [last] = above ++ [name] := by
    rw [← split, Path.namesJoin root descends.relative, own, List.append_assoc]
  obtain ⟨rfl, same⟩ := List.append_inj' joined rfl
  obtain rfl : last = name := List.singleton_inj.mp same
  have down := descends.down
  rw [own] at down
  obtain ⟨lowerDown, lastDown⟩ : ".." ∉ lower ∧ ".." ∉ [last] := by simpa using down
  have root' : t.ReachesRoot root := followSplit followed
  rw [followAppend root'] at followed
  obtain rfl : here = base root ++ lower :=
    (followPlace followed).trans (placeDown _ lowerDown)
  obtain rfl : there = base root ++ lower ++ [last] :=
    (nextPlace stepped).trans (placeDown _ lastDown)
  rw [own, ← List.append_assoc]
  exact ⟨root', ⟨descends, allowed, named, lower, last, own, followed, stepped⟩, free, rfl⟩

theorem findReached (atRoot : t.ReachesRoot root) (reaches : t.Reaches root path) :
    t.find (Path.join root path) =
      match t.node? (base root ++ Path.names path) with
      | some node => .ok (base root ++ Path.names path, node)
      | none => .error .notFound := by
  obtain ⟨above, name, split, followed, stepped⟩ := reaches.leads
  have whole : t.follow [] (Path.names (Path.join root path)) =
      t.follow (base root ++ above) [name] := by
    rw [Path.namesJoin root reaches.descends.relative, followAppend atRoot, split,
      followAppend followed]
  rw [split, ← List.append_assoc]
  simp only [find, reaches.allowed, whole, follow, stepped]
  cases found : t.node? (base root ++ above ++ [name]) with
  | none => rfl
  | some node =>
      cases node with
      | directory => rfl
      | file contents => simp [reaches.named]

structure Spares (t u : FileTree) (root : String) (paths : List String) : Prop where
  keeps : t.Keeps u
  stays : ∀ here, t.IsFile here → u.IsFile here
  others : ∀ here, (∀ path ∈ paths, here ≠ base root ++ Path.names path) → ∀ contents,
    u.node? here = some (.file contents) ↔ t.node? here = some (.file contents)

theorem Grows.spares (grows : t.Grows u) (root : String) (paths : List String) :
    t.Spares u root paths := by
  refine ⟨grows.keeps, fun here file => ?_, fun here _ => grows.files here⟩
  obtain ⟨contents, file⟩ := file
  exact ⟨contents, (grows.files here contents).mpr file⟩

theorem Spares.then {v : FileTree} {paths more : List String} (first : t.Spares u root paths)
    (second : u.Spares v root more) : t.Spares v root (paths ++ more) := by
  refine ⟨first.keeps.then second.keeps, fun here file => second.stays here (first.stays here file),
    fun here other contents => ?_⟩
  rw [second.others here fun path member => other path (List.mem_append_right _ member),
    first.others here fun path member => other path (List.mem_append_left _ member)]

theorem writeSpares {contents : String} (descends : Path.Descends path)
    (some : Path.names path ≠ []) (wrote : t.write (Path.join root path) contents = .ok u) :
    t.Spares u root [path] := by
  obtain ⟨-, -, free, rfl⟩ := writeReaches descends some wrote
  refine ⟨putFileKeeps free, fun here file => ?_, fun here other contents' => ?_⟩
  · rw [IsFile, putFile free]
    split
    · exact ⟨contents, rfl⟩
    · exact file
  · rw [putFile free, if_neg (other path (List.mem_singleton_self path))]

theorem writeBelowSpares {f : FileText} {result : Except WriteError Unit}
    (descends : Path.Descends f.path) (some : Path.names f.path ≠ [])
    (wrote : t.writeBelow root f = (u, result)) : t.Spares u root [f.path] := by
  have grows := makeParentGrows t (Path.join root f.path)
  unfold writeBelow at wrote
  dsimp only at wrote
  split at wrote
  · rename_i parents e same
    rw [same] at grows
    cases wrote
    exact grows.spares root _
  · rename_i parents made same
    rw [same] at grows
    split at wrote
    · rename_i written found
      cases wrote
      exact (grows.spares root []).then (writeSpares descends some found)
    · cases wrote
      exact grows.spares root _

-- The two sides are the same text; what one file does need not be looked into.
attribute [local irreducible] writeBelow in
theorem writeAllCons (t : FileTree) (root : String) (f : FileText) (rest : List FileText) :
    t.writeAll root (f :: rest) =
      match t.writeBelow root f with
      | (u, .error e) => (u, .error e)
      | (u, .ok _) => u.writeAll root rest := rfl

def Writable (files : List FileText) : Prop :=
  ∀ f ∈ files, Path.Descends f.path ∧ Path.names f.path ≠ []

theorem writeAllSpares {files : List FileText} {result : Except WriteError Unit}
    (writable : Writable files) (wrote : t.writeAll root files = (u, result)) :
    t.Spares u root (files.map FileText.path) := by
  induction files generalizing t with
  | nil =>
      cases wrote
      exact (growsSelf _).spares root []
  | cons f rest ih =>
      obtain ⟨descends, some⟩ := writable f List.mem_cons_self
      rw [writeAllCons] at wrote
      split at wrote
      · rename_i first e same
        cases wrote
        exact (writeBelowSpares descends some same).then ((growsSelf _).spares root _)
      · rename_i first made same
        exact (writeBelowSpares descends some same).then
          (ih (fun g member => writable g (List.mem_cons_of_mem _ member)) wrote)

structure Adds (t u : FileTree) (root : String) (paths : List String) : Prop
    extends Spares t u root paths where
  written : ∀ path ∈ paths, u.IsFile (base root ++ Path.names path)
  reaches : ∀ path ∈ paths, u.ReachesRoot root ∧ u.Reaches root path

theorem Adds.files {paths : List String} (adds : t.Adds u root paths) (here : Location) :
    u.IsFile here ↔ t.IsFile here ∨ ∃ path ∈ paths, here = base root ++ Path.names path := by
  constructor
  · rintro ⟨contents, file⟩
    refine Classical.or_iff_not_imp_right.mpr fun other => ⟨contents, ?_⟩
    exact (adds.others here (fun path member same => other ⟨path, member, same⟩) contents).mp file
  · rintro (file | ⟨path, member, rfl⟩)
    · exact adds.stays here file
    · exact adds.written path member

theorem addsNothing (t : FileTree) (root : String) : t.Adds t root [] :=
  ⟨(growsSelf t).spares root [], nofun, nofun⟩

theorem Adds.then {v : FileTree} {paths more : List String} (first : t.Adds u root paths)
    (second : u.Adds v root more) : t.Adds v root (paths ++ more) := by
  refine ⟨first.toSpares.then second.toSpares, fun path member => ?_, fun path member => ?_⟩
  all_goals rcases List.mem_append.mp member with earlier | later
  · exact second.stays _ (first.written path earlier)
  · exact second.written path later
  · exact (first.reaches path earlier).imp (·.kept second.keeps) (·.kept second.keeps)
  · exact second.reaches path later

theorem writeAdds {contents : String} (descends : Path.Descends path) (some : Path.names path ≠ [])
    (wrote : t.write (Path.join root path) contents = .ok u) : t.Adds u root [path] := by
  have spares := writeSpares descends some wrote
  obtain ⟨atRoot, reaches, free, rfl⟩ := writeReaches descends some wrote
  refine ⟨spares, fun other member => ?_, fun other member => ?_⟩
  all_goals obtain rfl := List.mem_singleton.mp member
  · exact ⟨contents, by rw [putFile free, if_pos rfl]⟩
  · exact ⟨atRoot.kept spares.keeps, reaches.kept spares.keeps⟩

theorem writeBelowOk {f : FileText} (wrote : t.writeBelow root f = (u, .ok ())) :
    ∃ parents : FileTree, t.Grows parents ∧
      parents.write (Path.join root f.path) f.contents = .ok u := by
  have grows := makeParentGrows t (Path.join root f.path)
  unfold writeBelow at wrote
  dsimp only at wrote
  split at wrote
  · cases wrote
  · rename_i parents made same
    rw [same] at grows
    split at wrote
    · rename_i written found
      cases wrote
      exact ⟨parents, grows, found⟩
    · cases wrote

theorem writeBelowAdds {f : FileText} (descends : Path.Descends f.path)
    (some : Path.names f.path ≠ []) (wrote : t.writeBelow root f = (u, .ok ())) :
    t.Adds u root [f.path] := by
  obtain ⟨parents, grows, found⟩ := writeBelowOk wrote
  have adds := writeAdds descends some found
  exact ⟨(grows.spares root []).then adds.toSpares, adds.written, adds.reaches⟩

theorem writeAllAdds {files : List FileText} (writable : Writable files)
    (wrote : t.writeAll root files = (u, .ok ())) : t.Adds u root (files.map FileText.path) := by
  induction files generalizing t with
  | nil =>
      cases wrote
      exact addsNothing _ root
  | cons f rest ih =>
      rw [writeAllCons] at wrote
      split at wrote
      · cases wrote
      · rename_i first result same
        obtain ⟨descends, some⟩ := writable f List.mem_cons_self
        have others := ih (fun g member => writable g (List.mem_cons_of_mem _ member)) wrote
        exact (writeBelowAdds descends some same).then others

structure Drops (t u : FileTree) (root : String) (paths : List String) : Prop where
  keeps : t.Keeps u
  others : ∀ here contents, u.node? here = some (.file contents) ↔
    t.node? here = some (.file contents) ∧ ¬∃ path ∈ paths, here = base root ++ Path.names path

theorem Drops.files {paths : List String} (drops : t.Drops u root paths) (here : Location) :
    u.IsFile here ↔ t.IsFile here ∧ ¬∃ path ∈ paths, here = base root ++ Path.names path := by
  simp only [IsFile, drops.others, exists_and_right]

theorem dropsNothing (free : ¬t.IsFile (base root ++ Path.names path)) :
    t.Drops t root [path] := by
  refine ⟨keepsSelf t, fun here contents => ?_⟩
  simp only [List.mem_singleton, exists_eq_left, iff_self_and]
  rintro file rfl
  exact free ⟨contents, file⟩

theorem eraseKeeps (file : t.IsFile there) : t.Keeps (t.erase there) := by
  intro here directory
  rw [IsDirectory, nodeErase t there here (fileBelow file), if_neg]
  · exact directory
  · rintro rfl
    obtain ⟨contents, found⟩ := file
    rw [IsDirectory, found] at directory
    cases directory

theorem eraseDrops (file : t.IsFile (base root ++ Path.names path)) :
    t.Drops (t.erase (base root ++ Path.names path)) root [path] := by
  refine ⟨eraseKeeps file, fun here contents => ?_⟩
  simp only [List.mem_singleton, exists_eq_left]
  rw [nodeErase t _ here (fileBelow file)]
  split <;> simp_all

theorem removeBelowDrops (atRoot : t.ReachesRoot root) (reaches : t.Reaches root path) :
    t.Drops (t.removeBelow root path).1 root [path] := by
  have found := findReached atRoot reaches
  unfold removeBelow remove
  cases node : t.node? (base root ++ Path.names path) with
  | none =>
      rw [node] at found
      rw [found]
      exact dropsNothing (by simp [IsFile, node])
  | some last =>
      rw [node] at found
      rw [found]
      cases last with
      | directory => exact dropsNothing (by simp [IsFile, node])
      | file contents => exact eraseDrops ⟨contents, node⟩

theorem removeAllDrops {paths : List String}
    (reaches : ∀ path ∈ paths, t.ReachesRoot root ∧ t.Reaches root path) :
    t.Drops (t.removeAll root paths).1 root paths := by
  induction paths generalizing t with
  | nil => exact ⟨keepsSelf t, by simp [removeAll]⟩
  | cons path rest ih =>
      obtain ⟨atRoot, first⟩ := reaches path List.mem_cons_self
      have one := removeBelowDrops atRoot first
      have others := ih fun other member =>
        (reaches other (List.mem_cons_of_mem _ member)).imp (·.kept one.keeps) (·.kept one.keeps)
      refine ⟨one.keeps.then others.keeps, fun here contents => ?_⟩
      rw [removeAll, others.others, one.others]
      simp only [List.mem_cons, List.not_mem_nil, or_false, exists_eq_left, or_and_right, exists_or,
        not_or, and_assoc]

theorem removeBelowErases (t : FileTree) (root path : String) :
    (t.removeBelow root path).1 = t ∨
      ∃ there, there = place [] (Path.names (Path.join root path)) ∧ t.IsFile there ∧
        (t.removeBelow root path).1 = t.erase there := by
  unfold removeBelow
  split
  · rename_i u removed
    unfold remove at removed
    split at removed
    · rename_i there contents found
      cases removed
      obtain ⟨-, followed, -⟩ := findOk found
      exact .inr ⟨there, followPlace followed, ⟨contents, followNode followed rfl⟩, rfl⟩
    · cases removed
    · cases removed
  · exact .inl rfl
  · exact .inl rfl

theorem removeAllKeeps (t : FileTree) (root : String) (paths : List String) :
    t.Keeps (t.removeAll root paths).1 := by
  induction paths generalizing t with
  | nil => exact keepsSelf t
  | cons path rest ih =>
      rw [removeAll]
      refine Keeps.then ?_ (ih _)
      rcases removeBelowErases t root path with same | ⟨there, -, file, same⟩
      · rw [same]
        exact keepsSelf t
      · rw [same]
        exact eraseKeeps file

theorem removeAllOthers (t : FileTree) (root : String) (paths : List String)
    (other : ∀ path ∈ paths, here ≠ place [] (Path.names (Path.join root path))) :
    (t.removeAll root paths).1.node? here = t.node? here := by
  induction paths generalizing t with
  | nil => rfl
  | cons path rest ih =>
      obtain ⟨first, others⟩ := List.forall_mem_cons.mp other
      rw [removeAll, ih _ others]
      rcases removeBelowErases t root path with same | ⟨there, rfl, file, same⟩
      · rw [same]
      · rw [same, nodeErase t _ here (fileBelow file), if_neg first]

theorem removeAllNodes (t : FileTree) (root : String) (paths : List String) {node : Node} :
    (t.removeAll root paths).1.node? here = some node → t.node? here = some node := by
  induction paths generalizing t with
  | nil => exact id
  | cons path rest ih =>
      intro found
      rw [removeAll] at found
      have kept := ih _ found
      rcases removeBelowErases t root path with same | ⟨there, -, file, same⟩
      · rwa [same] at kept
      · rw [same, nodeErase t _ here (fileBelow file)] at kept
        split at kept
        · cases kept
        · exact kept

end RestScaffold.FileTree
