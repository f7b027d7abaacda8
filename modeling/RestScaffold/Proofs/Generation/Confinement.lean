import RestScaffold.Proofs.Generation.Failure

/-! What a pass does outside its output root. All that it writes is below the root. It removes by
the paths of the record, whatever those are, and they may climb out of the root or be absolute. -/
namespace RestScaffold.FileTree

variable {t u : FileTree} {root path : String} {here there : Location} {names : List String}
  {contents : String}

def Leads (t : FileTree) (root path : String) (here : Location) : Prop :=
  ∃ contents, t.find (Path.join root path) = .ok (here, .file contents)

theorem findFile : t.find path = .ok (here, .file contents) ↔
    refusal? path = none ∧ Path.endsInDirectory path = false ∧
      t.follow [] (Path.names path) = .ok (here, .file contents) := by
  constructor
  · intro found
    obtain ⟨allowed, followed, named⟩ := findOk found
    exact ⟨allowed, named (by simp), followed⟩
  · rintro ⟨allowed, named, followed⟩
    simp [find, allowed, followed, named]

theorem followErased (file : t.IsFile there) (start : t.IsDirectory here) {last : Location} :
    (t.erase there).follow here names = .ok (last, .file contents) ↔
      t.follow here names = .ok (last, .file contents) ∧ last ≠ there := by
  induction names generalizing here with
  | nil => simp [follow]
  | cons name rest ih =>
      simp only [follow]
      cases next here name with
      | error e => simp
      | ok step =>
          simp only [nodeErase t there step (fileBelow file)]
          by_cases gone : step = there
          · obtain ⟨held, found⟩ := file
            subst gone
            simp only [if_true, found]
            split <;> simp_all
          · rw [if_neg gone]
            cases found : t.node? step with
            | none => simp
            | some node =>
                cases node with
                | directory => exact ih found
                | file held =>
                    simp only
                    split
                    · simp only [Except.ok.injEq, Prod.mk.injEq]
                      grind
                    · simp

theorem leadsErased (file : t.IsFile there) :
    (t.erase there).Leads root path here ↔ t.Leads root path here ∧ here ≠ there := by
  simp only [Leads, findFile, followErased file (nodeTop t)]
  grind

theorem removeBelowLed (t : FileTree) (root path : String) :
    (∃ there, t.Leads root path there ∧ (t.removeBelow root path).1 = t.erase there) ∨
      (∀ there, ¬t.Leads root path there) ∧ (t.removeBelow root path).1 = t := by
  unfold removeBelow remove Leads
  cases found : t.find (Path.join root path) with
  | error e =>
      refine .inr ⟨by simp, ?_⟩
      cases e <;> rfl
  | ok last =>
      obtain ⟨there, node⟩ := last
      cases node with
      | directory => exact .inr ⟨by simp, rfl⟩
      | file contents => exact .inl ⟨there, ⟨contents, rfl⟩, rfl⟩

theorem leadsFile (leads : t.Leads root path here) : t.IsFile here := by
  obtain ⟨contents, found⟩ := leads
  exact ⟨contents, followNode (findFile.mp found).2.2 rfl⟩

theorem leadsPlace (leads : t.Leads root path here) :
    here = place [] (Path.names (Path.join root path)) := by
  obtain ⟨contents, found⟩ := leads
  exact followPlace (findFile.mp found).2.2

theorem removeAllLed (t : FileTree) (root : String) (paths : List String) :
    (t.removeAll root paths).1.text? here = some contents ↔
      t.text? here = some contents ∧ ¬∃ path ∈ paths, t.Leads root path here := by
  induction paths generalizing t with
  | nil => simp [removeAll]
  | cons path rest ih =>
      rw [removeAll, ih]
      rcases removeBelowLed t root path with ⟨there, led, same⟩ | ⟨none, same⟩
      · have file := leadsFile led
        have only : t.Leads root path here ↔ here = there :=
          ⟨fun leads => (leadsPlace leads).trans (leadsPlace led).symm, (· ▸ led)⟩
        simp only [same, textIff, nodeErase t there here (fileBelow file), leadsErased file,
          List.mem_cons, exists_eq_or_imp, only]
        by_cases gone : here = there <;> simp [gone]
      · simp [same, none here]

def Inside (root : String) (here : Location) : Prop := base root <+: here

theorem insideBelow (descends : Path.Descends path) :
    Inside root (place [] (Path.names (Path.join root path))) :=
  placeBelow root descends ▸ List.prefix_append _ _

theorem Spares.outside {paths : List String} (spares : t.Spares u root paths)
    (outside : ¬Inside root here) : u.text? here = t.text? here :=
  textSame (spares.others here fun _ _ same => outside (same ▸ List.prefix_append _ _))

end RestScaffold.FileTree

namespace RestScaffold.Pass
open Catalog Rendering FileTree

variable {s : Settings} {tree after : FileTree} {shapes : List TableShape}
  {here : FileTree.Location}

structure WritesInside (s : Settings) : Prop where
  tables : ∀ shape, ∀ f ∈ texts s shape,
    Inside s.outputRoot (place [] (Path.names (Path.join s.outputRoot f.path)))
  index : ∀ names, ∀ f ∈ indexTexts s names,
    Inside s.outputRoot (place [] (Path.names (Path.join s.outputRoot f.path)))
  record : Inside s.outputRoot (place [] (Path.names (Manifest.path s.outputRoot)))

theorem writesInside (s : Settings) : WritesInside s where
  tables shape f member := insideBelow (textsHoused s shape f member).toDescends
  index names f member := insideBelow (indexTextsHoused s names f member).toDescends
  record := insideBelow Manifest.fileNameDescends

def Removes (s : Settings) (tree : FileTree) (shapes : List TableShape)
    (here : FileTree.Location) : Prop :=
  ∃ indexed, writeIndex s (tables s tree shapes).1 (tables s tree shapes).2 = (indexed, .ok ()) ∧
    ∃ path ∈ stalePaths s tree (tables s tree shapes).2, indexed.Leads s.outputRoot path here

theorem tabledOutside (s : Settings) (tree : FileTree) (shapes : List TableShape)
    (outside : ¬Inside s.outputRoot here) :
    (tables s tree shapes).1.text? here = tree.text? here := by
  have writes : Writes s tree (tables s tree shapes).1 (tables s tree shapes).2 := tablesWrite rfl
  obtain ⟨paths, -, spares⟩ := writes.touched
  exact spares.outside outside

theorem clearedOutside {indexed : FileTree} (outside : ¬Inside s.outputRoot here)
    (index : writeIndex s (tables s tree shapes).1 (tables s tree shapes).2 = (indexed, .ok ()))
    (contents : String) :
    (indexed.removeAll s.outputRoot (stalePaths s tree (tables s tree shapes).2)).1.text? here =
        some contents ↔
      tree.text? here = some contents ∧ ¬Removes s tree shapes here := by
  have removes : Removes s tree shapes here ↔
      ∃ path ∈ stalePaths s tree (tables s tree shapes).2,
        indexed.Leads s.outputRoot path here := by
    simp [Removes, index]
  rw [removeAllLed, removes, (indexSpares index).outside outside,
    tabledOutside s tree shapes outside]

theorem runOutside (s : Settings) (tree : FileTree) (shapes : List TableShape)
    (outside : ¬Inside s.outputRoot here) (contents : String) :
    (run s tree shapes).1.text? here = some contents ↔
      tree.text? here = some contents ∧ ¬Removes s tree shapes here := by
  have course := runCourse s tree shapes
  generalize (run s tree shapes).1 = after at course ⊢
  generalize (run s tree shapes).2 = result at course
  cases course with
  | unindexed same index =>
      obtain rfl := congrArg Prod.fst same
      have none : ¬Removes s tree shapes here := by simp [Removes, index]
      rw [(indexSpares index).outside outside, tabledOutside s tree shapes outside]
      simp [none]
  | unrecorded same index cleared =>
      obtain rfl := congrArg Prod.fst same
      rw [cleared, clearedOutside outside index]
  | done same index record failures =>
      obtain rfl := congrArg Prod.fst same
      rw [(Manifest.writeAdds record).1.toSpares.outside outside, clearedOutside outside index]

theorem removesFile (outside : ¬Inside s.outputRoot here) (removes : Removes s tree shapes here) :
    tree.text? here ≠ none := by
  obtain ⟨indexed, index, path, -, leads⟩ := removes
  rw [← tabledOutside s tree shapes outside, ← (indexSpares index).outside outside]
  exact fileText.mp (leadsFile leads)

theorem descendingStaysInside
    (descends : ∀ path ∈ (Manifest.read tree s.outputRoot).paths, Path.Descends path)
    (removes : Removes s tree shapes here) : Inside s.outputRoot here := by
  obtain ⟨indexed, index, path, member, leads⟩ := removes
  rw [leadsPlace leads]
  exact insideBelow (descends path (staleRecorded (Manifest.readSorted tree s.outputRoot) member))

theorem knownStaysInside (known : Known s.outputRoot tree) (shapes : List TableShape)
    (outside : ¬Inside s.outputRoot here) :
    (run s tree shapes).1.text? here = tree.text? here := by
  have descends := fun path member => ((knownRead known).2 path member).2.descends
  refine Option.ext fun contents => ?_
  rw [runOutside s tree shapes outside]
  exact and_iff_left fun removes => outside (descendingStaysInside descends removes)

/-- The pass writes nothing outside the output root, and there it removes exactly the files to which
recorded paths of tables that are gone lead. It leaves what is outside alone if and only if none of
these paths leads out. -/
theorem staysInsideUnlessRecordLeadsOut (s : Settings) (tree : FileTree)
    (shapes : List TableShape) :
    WritesInside s ∧
    (∀ here, ¬Inside s.outputRoot here → ∀ contents,
      (run s tree shapes).1.text? here = some contents ↔
        tree.text? here = some contents ∧ ¬Removes s tree shapes here) ∧
    ((∀ here, ¬Inside s.outputRoot here →
        (run s tree shapes).1.text? here = tree.text? here) ↔
      ∀ here, Removes s tree shapes here → Inside s.outputRoot here) := by
  refine ⟨writesInside s, fun here outside => runOutside s tree shapes outside,
    fun untouched here removes => ?_, fun inside here outside => Option.ext fun contents => ?_⟩
  · by_contra outside
    obtain ⟨contents, held⟩ := Option.ne_none_iff_exists'.mp (removesFile outside removes)
    have kept := (untouched here outside).trans held
    exact ((runOutside s tree shapes outside contents).mp kept).2 removes
  · rw [runOutside s tree shapes outside]
    exact and_iff_left fun removes => outside (inside here removes)

def recordedOutside (path : String) : FileTree where
  nodes := [(["notes.txt"], .file "mine"), (["out"], .directory),
    (["out", Manifest.fileName], .file (Manifest.text (SortedMap.ofList [("gone", [path])])))]

theorem notesOutside : ¬Inside clientOnly.outputRoot ["notes.txt"] := by
  rw [Inside, show base clientOnly.outputRoot = ["out"] by decide]
  decide

def notesAround (path : String) : Option String × Option String :=
  ((recordedOutside path).text? ["notes.txt"],
    (run clientOnly (recordedOutside path) []).1.text? ["notes.txt"])

theorem recordedPathsLeadOut :
    ¬Inside clientOnly.outputRoot ["notes.txt"] ∧
      notesAround "../notes.txt" = (some "mine", none) ∧
      notesAround "/notes.txt" = (some "mine", none) :=
  ⟨notesOutside, by decide +kernel, by decide +kernel⟩

theorem climbingPathRemovesNotes :
    Removes clientOnly (recordedOutside "../notes.txt") [] ["notes.txt"] ∧
      ¬∀ here, ¬Inside clientOnly.outputRoot here →
        (run clientOnly (recordedOutside "../notes.txt") []).1.text? here =
          (recordedOutside "../notes.txt").text? here := by
  obtain ⟨-, exactly, untouched⟩ :=
    staysInsideUnlessRecordLeadsOut clientOnly (recordedOutside "../notes.txt") []
  have removes : Removes clientOnly (recordedOutside "../notes.txt") [] ["notes.txt"] := by
    by_contra none
    have kept := (exactly ["notes.txt"] notesOutside "mine").mpr ⟨by decide +kernel, none⟩
    exact absurd kept (by decide +kernel)
  exact ⟨removes, fun same => notesOutside (untouched.mp same _ removes)⟩

end RestScaffold.Pass
