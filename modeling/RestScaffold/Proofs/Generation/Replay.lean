import RestScaffold.Proofs.Generation.Contents

/-! What was written once, written again. Files are replaced where they stand, and what could not be
written still cannot: whatever was in its way has stayed, as nothing but files deep below the root
is ever removed. -/
namespace RestScaffold.FileTree

variable {t u v done : FileTree} {root path : String} {here there : Location}
  {names paths : List String} {files : List FileText} {result : Except WriteError Unit}

def Passing (root : String) (here : Location) : Prop :=
  ∃ above first rest, ".." ∉ above ∧ above.length < 3 ∧
    Path.names root ++ above = first ++ rest ∧ here = place [] first

structure Ready (root : String) (done v : FileTree) : Prop where
  directories : ∀ here, v.IsDirectory here ↔ done.IsDirectory here
  bars : ∀ here, Passing root here → done.IsFile here → v.IsFile here

theorem fileNoDirectory (file : t.IsFile here) : ¬t.IsDirectory here := by
  obtain ⟨contents, found⟩ := file
  simp [IsDirectory, found]

theorem readyPut (ready : Ready root done v) (free : ¬done.IsDirectory there)
    (contents : String) : Ready root done (v.put there (.file contents)) := by
  have free' : ¬v.IsDirectory there := mt (ready.directories there).mp free
  refine ⟨fun here => ?_, fun here passing file => ?_⟩
  · rw [IsDirectory, putFile free', ← ready.directories]
    split
    · rename_i same
      subst same
      simp [free']
    · rfl
  · rw [IsFile, putFile free']
    split
    · exact ⟨contents, rfl⟩
    · exact ready.bars here passing file

theorem makeDirectoriesAgain {result : Except FileError Unit}
    (made : t.makeDirectories here names = (u, result)) (keeps : u.Keeps v)
    (bars : ∀ first rest, names = first ++ rest →
      u.IsFile (place here first) → v.IsFile (place here first)) :
    v.makeDirectories here names = (v, result) := by
  induction names generalizing t here with
  | nil =>
      cases made
      rfl
  | cons name rest ih =>
      simp only [makeDirectories] at made ⊢
      split at made
      · rename_i e refused
        cases made
        rfl
      · rename_i there stepped
        have through : ∀ first, place there first = place here (name :: first) := fun first => by
          rw [nextPlace stepped, ← placeAppend]
          rfl
        have further : ∀ first rest', rest = first ++ rest' →
            u.IsFile (place there first) → v.IsFile (place there first) := by
          intro first rest' split
          rw [through]
          exact bars (name :: first) rest' (by rw [split]; rfl)
        have directory : u.IsDirectory there → v.node? there = some .directory := keeps there
        split at made
        -- A directory that was there and one that had to be made are both there now.
        · rename_i known
          have grows := makeDirectoriesGrows t there rest
          rw [made] at grows
          rw [directory (grows.keeps _ known)]
          exact ih made further
        · rename_i contents found
          cases made
          obtain ⟨contents', barred⟩ := bars [name] rest rfl
            ⟨contents, by rw [← nextPlace stepped]; exact found⟩
          rw [← nextPlace stepped] at barred
          rw [barred]
        · rename_i missing
          have grows := makeDirectoriesGrows (t.put there .directory) there rest
          rw [made] at grows
          have below : there ≠ [] := by
            rintro rfl
            contradiction
          have put : (t.put there .directory).IsDirectory there := by
            rw [IsDirectory, nodePut t there there _ below, if_pos rfl]
          rw [directory (grows.keeps _ put)]
          exact ih made further

theorem makeDirectoriesLead (made : t.makeDirectories here names = (u, .ok ())) :
    u.follow here names = .ok (place here names, .directory) := by
  induction names generalizing t here with
  | nil => rfl
  | cons name rest ih =>
      simp only [makeDirectories] at made
      split at made
      · cases made
      · rename_i there stepped
        have lead : u.IsDirectory there → u.follow there rest = .ok (place there rest, .directory) →
            u.follow here (name :: rest) = .ok (place here (name :: rest), .directory) := by
          intro directory further
          rw [followDirectory stepped directory, further, nextPlace stepped, ← placeAppend]
          rfl
        split at made
        · rename_i known
          have grows := makeDirectoriesGrows t there rest
          rw [made] at grows
          exact lead (grows.keeps _ known) (ih made)
        · cases made
        · rename_i missing
          have grows := makeDirectoriesGrows (t.put there .directory) there rest
          rw [made] at grows
          have below : there ≠ [] := by
            rintro rfl
            contradiction
          have put : (t.put there .directory).IsDirectory there := by
            rw [IsDirectory, nodePut t there there _ below, if_pos rfl]
          exact lead (grows.keeps _ put) (ih made)

section
variable (housed : Path.Housed path)
include housed

theorem makeParentHoused (root : String) : ∃ parent, ∀ t : FileTree,
    t.makeParent (Path.join root path) =
      match refusal? parent with
      | some e => (t, .error ⟨parent, e⟩)
      | none =>
          match t.makeDirectories [] (Path.names root ++ (Path.names path).dropLast) with
          | (u, .ok _) => (u, .ok ())
          | (u, .error cause) => (u, .error ⟨parent, cause⟩) := by
  obtain ⟨parent, found, names, undotted⟩ := Path.parentJoin root housed
  refine ⟨parent, fun t => ?_⟩
  simp only [makeParent, found, createDirectories, undotted, names, Bool.false_eq_true, if_false]
  cases refusal? parent <;> rfl

theorem passingAbove {first rest : List String}
    (split : Path.names root ++ (Path.names path).dropLast = first ++ rest) :
    Passing root (place [] first) := by
  refine ⟨_, first, rest, fun climbs => ?_, ?_, split, rfl⟩
  · exact housed.down (List.dropLast_subset _ climbs)
  · rw [List.length_dropLast]
    have flat := housed.flat
    omega

theorem makeParentAgain
    (made : t.makeParent (Path.join root path) = (u, result)) (keeps : u.Keeps v)
    (bars : ∀ here, Passing root here → u.IsFile here → v.IsFile here) :
    v.makeParent (Path.join root path) = (v, result) := by
  obtain ⟨parent, same⟩ := makeParentHoused housed root
  rw [same] at made ⊢
  cases allowed : refusal? parent with
  | some e =>
      rw [allowed] at made
      cases made
      rfl
  | none =>
      rw [allowed] at made
      dsimp only at made ⊢
      split at made
      all_goals
        rename_i parents result' steps
        cases made
        rw [makeDirectoriesAgain steps keeps fun first rest split =>
          bars _ (passingAbove housed split)]

theorem makeParentLeads (made : t.makeParent (Path.join root path) = (u, .ok ())) :
    ∃ here, u.follow [] (Path.names (Path.join root path)).dropLast = .ok (here, .directory) := by
  obtain ⟨parent, same⟩ := makeParentHoused housed root
  rw [same] at made
  split at made
  · cases made
  · split at made
    · rename_i parents result steps
      cases made
      have leads := makeDirectoriesLead steps
      rw [← List.dropLast_append_of_ne_nil housed.some,
        ← Path.namesJoin root housed.relative] at leads
      exact ⟨_, leads⟩
    · cases made

end

theorem writeFailsAgain {contents : String} {e : FileError}
    (failed : t.write path contents = .error e) (keeps : t.Keeps v)
    (leads : t.follow [] (Path.names path).dropLast = .ok (here, .directory)) :
    v.write path contents = .error e := by
  have leads' := followKept leads keeps
  unfold write at failed ⊢
  rw [leads] at failed
  rw [leads']
  split at failed
  · exact failed
  · dsimp only at failed ⊢
    split at failed
    · rename_i there stepped
      unfold writeAt at failed ⊢
      split at failed
      · rename_i directory
        rw [keeps there directory]
        exact failed
      · cases failed
    · exact failed
  · rename_i others
    exact failed

theorem writeLed {above : List String} {name contents : String} (allowed : refusal? path = none)
    (ends : Path.endsInDirectory path = false) (split : Path.names path = above ++ [name])
    (leads : v.follow [] above = .ok (here, .directory)) (stepped : next here name = .ok there)
    (free : ¬v.IsDirectory there) :
    v.write path contents = .ok (v.put there (.file contents)) := by
  simp only [write, allowed, ends, split, List.getLast?_concat, List.dropLast_concat, leads,
    stepped, writeAt]
  split
  · rename_i directory
    exact absurd directory free
  · rfl

theorem writeAgain {contents : String} (wrote : t.write path contents = .ok u) (keeps : u.Keeps v)
    (free : ¬v.IsDirectory (place [] (Path.names path))) (contents' : String) :
    v.write path contents' = .ok (v.put (place [] (Path.names path)) (.file contents')) := by
  obtain ⟨allowed, ends, above, name, here, last, split, followed, stepped, free', rfl⟩ :=
    writeOk wrote
  have before : t.Keeps v := (putFileKeeps free').then keeps
  have same : place [] (Path.names path) = last := by
    rw [split, placeAppend, ← followPlace followed, ← nextPlace stepped]
  rw [same] at free ⊢
  exact writeLed allowed ends split (followKept followed before) stepped free

theorem writeRead {contents : String} (found : t.read path = .ok contents) (keeps : t.Keeps v)
    (free : ¬v.IsDirectory (place [] (Path.names path))) (contents' : String) :
    v.write path contents' = .ok (v.put (place [] (Path.names path)) (.file contents')) := by
  simp only [read] at found
  split at found
  · rename_i there contents'' reached
    obtain ⟨allowed, followed, named⟩ := findOk reached
    have some : Path.names path ≠ [] := by
      intro none
      rw [none] at followed
      cases followed
    obtain ⟨above, name, split⟩ : ∃ above name, Path.names path = above ++ [name] :=
      ⟨_, _, (List.dropLast_concat_getLast some).symm⟩
    rw [split] at followed
    have leads := followAbove followed
    rw [followAppend leads] at followed
    obtain ⟨last, stepped, -⟩ := followCons followed
    have same : place [] (Path.names path) = last := by
      rw [split, placeAppend, ← nextPlace stepped]
    rw [same] at free ⊢
    exact writeLed allowed (named (by simp)) split (followKept leads keeps) stepped free
  · contradiction
  · contradiction

theorem writeBelowAgain {f : FileText} (housed : Path.Housed f.path)
    (wrote : t.writeBelow root f = (u, result)) (later : u.Spares done root paths)
    (ready : Ready root done v) :
    ∃ w, v.writeBelow root f = (w, result) ∧ Ready root done w := by
  have keeps : u.Keeps v := fun here directory =>
    (ready.directories here).mpr (later.keeps here directory)
  have bars : ∀ here, Passing root here → u.IsFile here → v.IsFile here :=
    fun here passing file => ready.bars here passing (later.stays here file)
  unfold writeBelow at wrote ⊢
  dsimp only at wrote ⊢
  split at wrote
  · rename_i parents e made
    cases wrote
    rw [makeParentAgain housed made keeps bars]
    exact ⟨v, rfl, ready⟩
  · rename_i parents result' made
    split at wrote
    · rename_i written found
      cases wrote
      obtain ⟨-, -, free, same⟩ := writeReaches housed.toDescends housed.some found
      have file : u.IsFile (base root ++ Path.names f.path) := by
        rw [IsFile, same, putFile free]
        exact ⟨_, if_pos rfl⟩
      have stays : ∀ here, parents.IsFile here → u.IsFile here := by
        intro here file
        rw [IsFile, same, putFile free]
        split
        · exact ⟨_, rfl⟩
        · exact file
      have free' := fileNoDirectory (later.stays _ file)
      rw [makeParentAgain housed made (fun here directory => keeps here (by
          rw [same]
          exact putFileKeeps free here directory))
        fun here passing there => bars here passing (stays here there)]
      dsimp only
      rw [writeAgain found keeps (by
        rw [placeBelow root housed.toDescends, ready.directories]
        exact free'), placeBelow root housed.toDescends]
      exact ⟨_, rfl, readyPut ready free' f.contents⟩
    · rename_i cause failed
      cases wrote
      obtain ⟨here, leads⟩ := makeParentLeads housed made
      rw [makeParentAgain housed made keeps bars]
      dsimp only
      rw [writeFailsAgain failed keeps leads]
      exact ⟨v, rfl, ready⟩

def AllHoused (files : List FileText) : Prop := ∀ f ∈ files, Path.Housed f.path

theorem AllHoused.writable (housed : AllHoused files) : Writable files :=
  fun f member => ⟨(housed f member).toDescends, (housed f member).some⟩

theorem writeAllAgain (housed : AllHoused files) (wrote : t.writeAll root files = (u, result))
    (later : u.Spares done root paths) (ready : Ready root done v) :
    ∃ w, v.writeAll root files = (w, result) ∧ v.written root files = t.written root files ∧
      Ready root done w := by
  induction files generalizing t v with
  | nil =>
      cases wrote
      exact ⟨v, rfl, rfl, ready⟩
  | cons f rest ih =>
      obtain ⟨first, others⟩ := List.forall_mem_cons.mp housed
      have writable : Writable rest := AllHoused.writable others
      obtain ⟨⟨between, result'⟩, same⟩ : ∃ one, t.writeBelow root f = one := ⟨_, rfl⟩
      rw [writeAllCons, same] at wrote
      rw [writtenCons, writtenCons, writeAllCons, same]
      cases result' with
      | error e =>
          cases wrote
          obtain ⟨w, again, ready'⟩ := writeBelowAgain first same later ready
          rw [again]
          exact ⟨w, rfl, rfl, ready'⟩
      | ok made =>
          have spares := (writeAllSpares writable wrote).then later
          obtain ⟨w, again, ready'⟩ := writeBelowAgain first same spares ready
          obtain ⟨w', further, written', ready''⟩ := ih others wrote ready'
          rw [again]
          exact ⟨w', further, congrArg _ written', ready''⟩

theorem removeAllReady (reaches : ∀ path ∈ paths, t.ReachesRoot root ∧ t.Reaches root path)
    (deep : ∀ path ∈ paths, (Path.names path).length = 3) :
    Ready root t (t.removeAll root paths).1 := by
  have drops := removeAllDrops reaches
  refine ⟨fun here => ⟨removeAllNodes t root paths, drops.keeps here⟩,
    fun here passing file => (drops.files here).mpr ⟨file, ?_⟩⟩
  rintro ⟨path, member, rfl⟩
  obtain ⟨above, first, rest, down, shallow, split, same⟩ := passing
  rcases List.append_eq_append_iff.mp split with ⟨inside, rfl, rfl⟩ | ⟨inside, whole, rfl⟩
  · rw [placeAppend, placeDown _ fun climbs => down (List.mem_append_left _ climbs)] at same
    have length := deep path member
    rw [List.append_cancel_left same] at length
    rw [List.length_append] at shallow
    omega
  · have followed := (reaches path member).1
    rw [ReachesRoot, whole] at followed
    refine fileNoDirectory file ?_
    rw [same]
    exact followNode (followSplit followed) rfl

end RestScaffold.FileTree
