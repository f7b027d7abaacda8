import RestScaffold.FileTree.Basic

/-! Where paths lead. The place that names lead to does not depend on the tree; whether they lead
there does, and it stays so as long as the directories on the way are kept. -/
namespace RestScaffold.FileTree

variable {t u : FileTree} {here there : Location} {names : List String} {node : Node}

theorem lookupEntry (place here : Location) (node : Node) (rest : List (Location × Node)) :
    ((place, node) :: rest).lookup here = if here = place then some node else rest.lookup here := by
  by_cases same : here = place
  · simp [same]
  · rw [List.lookup_cons, beq_false_of_ne same, if_neg same]

theorem lookupFilter (nodes : List (Location × Node)) (removed here : Location) :
    (nodes.filter (·.1 ≠ removed)).lookup here =
      if here = removed then none else nodes.lookup here := by
  induction nodes with
  | nil => simp
  | cons entry rest ih =>
      obtain ⟨place, node⟩ := entry
      by_cases gone : place = removed
      · subst gone
        rw [List.filter_cons_of_neg (by simp), ih, lookupEntry]
        split <;> rfl
      · rw [List.filter_cons_of_pos (by simpa using gone), lookupEntry, ih, lookupEntry]
        by_cases same : here = place
        · subst same
          simp [gone]
        · simp [same]

@[simp] theorem nodeTop (t : FileTree) : t.node? [] = some .directory := rfl

theorem nodePut (t : FileTree) (place here : Location) (node : Node) (below : place ≠ []) :
    (t.put place node).node? here = if here = place then some node else t.node? here := by
  by_cases same : here = place
  · subst same
    simp [node?, put, below]
  · simp only [node?, put, lookupEntry, lookupFilter, if_neg same]

theorem nodeErase (t : FileTree) (place here : Location) (below : place ≠ []) :
    (t.erase place).node? here = if here = place then none else t.node? here := by
  by_cases same : here = place
  · subst same
    simp only [node?, erase, lookupFilter, if_neg below, ↓reduceIte]
  · simp only [node?, erase, lookupFilter, if_neg same]

def IsFile (t : FileTree) (here : Location) : Prop :=
  ∃ contents, t.node? here = some (.file contents)

instance (t : FileTree) (here : Location) : Decidable (t.IsFile here) :=
  match found : t.node? here with
  | some (.file contents) => .isTrue ⟨contents, found⟩
  | some .directory => .isFalse fun ⟨_, file⟩ => by simp [found] at file
  | none => .isFalse fun ⟨_, file⟩ => by simp [found] at file

def IsDirectory (t : FileTree) (here : Location) : Prop := t.node? here = some .directory

theorem fileBelow (file : t.IsFile here) : here ≠ [] := by
  rintro rfl
  obtain ⟨contents, found⟩ := file
  cases found

def Keeps (t u : FileTree) : Prop := ∀ here, t.IsDirectory here → u.IsDirectory here

theorem keepsSelf (t : FileTree) : t.Keeps t := fun _ directory => directory

theorem Keeps.then {v : FileTree} (first : t.Keeps u) (second : u.Keeps v) : t.Keeps v :=
  fun here directory => second here (first here directory)

def place (here : Location) (names : List String) : Location :=
  names.foldl (fun here name => if name = ".." then here.dropLast else here ++ [name]) here

theorem placeAppend (here : Location) (first second : List String) :
    place here (first ++ second) = place (place here first) second := by
  rw [place, List.foldl_append]
  rfl

theorem placeDown (here : Location) (down : ".." ∉ names) : place here names = here ++ names := by
  induction names generalizing here with
  | nil => exact (List.append_nil here).symm
  | cons name rest ih =>
      obtain ⟨first, others⟩ := not_or.mp (mt List.mem_cons.mpr down)
      rw [place, List.foldl_cons, if_neg (Ne.symm first)]
      exact (ih (here ++ [name]) others).trans (List.append_assoc here [name] rest)

theorem nextPlace {name : String} (found : next here name = .ok there) :
    there = place here [name] := by
  simp only [next] at found
  split at found
  · rename_i climbs
    cases found
    simp [place, climbs]
  · rename_i plain
    split at found
    · cases found
      simp [place, plain]
    · contradiction

theorem followCons {name : String} {rest : List String}
    (found : t.follow here (name :: rest) = .ok (there, node)) :
    ∃ step, next here name = .ok step ∧
      (t.node? step = some .directory ∧ t.follow step rest = .ok (there, node) ∨
        rest = [] ∧ there = step ∧ t.node? step = some node ∧ node ≠ .directory) := by
  simp only [follow] at found
  split at found
  · contradiction
  · rename_i step stepped
    refine ⟨step, stepped, ?_⟩
    split at found
    · contradiction
    · rename_i directory
      exact .inl ⟨directory, found⟩
    · rename_i contents file
      split at found
      · rename_i last
        cases found
        exact .inr ⟨List.isEmpty_iff.mp last, rfl, file, by simp⟩
      · contradiction

theorem followDirectory {name : String} {rest : List String} {step : Location}
    (stepped : next here name = .ok step) (directory : t.IsDirectory step) :
    t.follow here (name :: rest) = t.follow step rest := by
  rw [IsDirectory] at directory
  simp only [follow, stepped, directory]

theorem followPlace (found : t.follow here names = .ok (there, node)) :
    there = place here names := by
  induction names generalizing here with
  | nil =>
      cases found
      rfl
  | cons name rest ih =>
      obtain ⟨step, stepped, ⟨-, further⟩ | ⟨rfl, rfl, -⟩⟩ := followCons found
      · rw [ih further, nextPlace stepped]
        rfl
      · exact nextPlace stepped

theorem followNode (found : t.follow here names = .ok (there, node))
    (start : t.IsDirectory here) : t.node? there = some node := by
  induction names generalizing here with
  | nil =>
      cases found
      exact start
  | cons name rest ih =>
      obtain ⟨step, -, ⟨directory, further⟩ | ⟨-, rfl, file, -⟩⟩ := followCons found
      · exact ih further directory
      · exact file

theorem followKept (found : t.follow here names = .ok (there, .directory)) (keeps : t.Keeps u) :
    u.follow here names = .ok (there, .directory) := by
  induction names generalizing here with
  | nil => exact found
  | cons name rest ih =>
      obtain ⟨step, stepped, ⟨directory, further⟩ | ⟨-, -, -, file⟩⟩ := followCons found
      · rw [followDirectory stepped (keeps step directory)]
        exact ih further
      · contradiction

theorem followAppend {first second : List String} {middle : Location}
    (found : t.follow here first = .ok (middle, .directory)) :
    t.follow here (first ++ second) = t.follow middle second := by
  induction first generalizing here with
  | nil =>
      cases found
      rfl
  | cons name rest ih =>
      obtain ⟨step, stepped, ⟨directory, further⟩ | ⟨-, -, -, file⟩⟩ := followCons found
      · rw [List.cons_append, followDirectory stepped directory]
        exact ih further
      · contradiction

theorem followSplit {first second : List String}
    (found : t.follow here (first ++ second) = .ok (there, .directory)) :
    t.follow here first = .ok (place here first, .directory) := by
  induction first generalizing here with
  | nil => rfl
  | cons name rest ih =>
      obtain ⟨step, stepped, ⟨directory, further⟩ | ⟨-, -, -, file⟩⟩ := followCons found
      · rw [followDirectory stepped directory, ih further, nextPlace stepped]
        rfl
      · contradiction

theorem followAbove {above : List String} {name : String}
    (found : t.follow here (above ++ [name]) = .ok (there, node)) :
    t.follow here above = .ok (place here above, .directory) := by
  induction above generalizing here with
  | nil => rfl
  | cons first rest ih =>
      obtain ⟨step, stepped, ⟨directory, further⟩ | ⟨nothing, -⟩⟩ := followCons found
      · rw [followDirectory stepped directory, ih further, nextPlace stepped]
        rfl
      · exact absurd nothing (by simp)

theorem followBelow (down : ".." ∉ names)
    (below : ∀ more, u.node? (here ++ more) = t.node? (here ++ more)) :
    u.follow here names = t.follow here names := by
  induction names generalizing here with
  | nil => rfl
  | cons name rest ih =>
      obtain ⟨first, others⟩ := not_or.mp (mt List.mem_cons.mpr down)
      simp only [follow]
      cases stepped : next here name with
      | error e => rfl
      | ok step =>
          obtain rfl : step = here ++ [name] :=
            (nextPlace stepped).trans (placeDown here (by simpa using first))
          have deeper : ∀ more,
              u.node? (here ++ [name] ++ more) = t.node? (here ++ [name] ++ more) :=
            fun more => by simpa using below ([name] ++ more)
          simp only [below [name], ih others deeper]

theorem findOk {path : String} (found : t.find path = .ok (there, node)) :
    refusal? path = none ∧ t.follow [] (Path.names path) = .ok (there, node) ∧
      (node ≠ .directory → Path.endsInDirectory path = false) := by
  simp only [find] at found
  split at found
  · contradiction
  · rename_i allowed followed
    split at found
    · contradiction
    · rename_i notDirectory
      cases found
      exact ⟨allowed, followed, fun _ => by simpa using notDirectory⟩
  · rename_i allowed others
    refine ⟨allowed, found, fun file => ?_⟩
    cases node with
    | directory => contradiction
    | file contents => exact absurd found (others there contents)

theorem readOk {path contents : String} (found : t.read path = .ok contents) :
    t.node? (place [] (Path.names path)) = some (.file contents) := by
  simp only [read] at found
  split at found
  · rename_i there contents' at'
    cases found
    obtain ⟨-, followed, -⟩ := findOk at'
    rw [← followPlace followed]
    exact followNode followed rfl
  · contradiction
  · contradiction

end RestScaffold.FileTree
