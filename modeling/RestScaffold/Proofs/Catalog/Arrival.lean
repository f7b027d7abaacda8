import Mathlib
import RestScaffold.Proofs.Catalog.Discovery

/-! Tables that are read side by side. Each table is read by a task of its own, which asks one query
after another; the tasks have their turns in any order, and in any order they are collected once
they are through. What comes out are the readable tables of the listing, in the order of the
listing. -/
namespace RestScaffold.Catalog

variable {s : Source} {scope : Scope} {refs listed : List TableRef}

def Column.pointing (c : Column) (key : ForeignKey) : Column :=
  { c with isForeignKey := true, references := some key.references }

def Column.linked (keys : List ForeignKey) (c : Column) : Column :=
  ((keys.reverse.find? (·.column = c.name)).map c.pointing).getD c

def linkedAt (keys : List ForeignKey) (columns : List Column) (place : Nat) : Option Column :=
  columns[place]?.map fun c =>
    if c.name ∈ (columns.take place).map Column.name then c else c.linked keys

theorem linkColumnNames (key : ForeignKey) (columns : List Column) :
    (linkColumn key columns).map Column.name = columns.map Column.name := by
  induction columns with
  | nil => rfl
  | cons c rest ih =>
      rw [linkColumn]
      split
      · rfl
      · rw [List.map_cons, List.map_cons, ih]

theorem linkColumnAt (key : ForeignKey) (columns : List Column) (place : Nat) :
    (linkColumn key columns)[place]? = columns[place]?.map fun c =>
      if c.name = key.column ∧ c.name ∉ (columns.take place).map Column.name then c.pointing key
      else c := by
  induction columns generalizing place with
  | nil => rfl
  | cons c rest ih =>
      rw [linkColumn]
      cases place with
      | zero =>
          by_cases own : c.name = key.column <;> simp [own, Column.pointing]
      | succ place =>
          by_cases own : c.name = key.column
          · simp only [own, if_true, List.getElem?_cons_succ, List.take_succ_cons, List.map_cons]
            cases rest[place]? <;> grind
          · simp only [own, if_false, List.getElem?_cons_succ, List.take_succ_cons,
              List.map_cons, ih]
            cases rest[place]? <;> grind

theorem pointingTwice (c : Column) (key later : ForeignKey) :
    (c.pointing key).pointing later = c.pointing later := rfl

theorem linkedCons (key : ForeignKey) (keys : List ForeignKey) (c : Column) :
    c.linked (key :: keys) =
      (if c.name = key.column then c.pointing key else c).linked keys := by
  by_cases own : c.name = key.column
  · have named : (c.pointing key).name = c.name := rfl
    simp only [own, if_true, Column.linked, List.reverse_cons, List.find?_append, named]
    cases keys.reverse.find? (fun k => decide (k.column = key.column)) <;>
      simp [pointingTwice]
  · have other : (key.column = c.name) = False := by simpa using fun same => own same.symm
    simp only [own, if_false, Column.linked, List.reverse_cons, List.find?_append]
    cases keys.reverse.find? (fun k => decide (k.column = c.name)) <;> simp [other]

theorem linkedByKeys (keys : List ForeignKey) (columns : List Column) (place : Nat) :
    (keys.foldl (fun columns key => linkColumn key columns) columns)[place]? =
      linkedAt keys columns place := by
  induction keys generalizing columns with
  | nil => simp [linkedAt, Column.linked]
  | cons key rest ih =>
      rw [List.foldl_cons, ih, linkedAt, linkedAt, linkColumnAt, List.map_take, linkColumnNames,
        List.map_take, Option.map_map]
      refine congrArg (fun f => Option.map f _) (funext fun c => ?_)
      by_cases earlier : c.name ∈ (columns.map Column.name).take place
      · simp [earlier]
      · by_cases own : c.name = key.column
        · have named : (c.pointing key).name = key.column := own
          have first : key.column ∉ (columns.map Column.name).take place := own ▸ earlier
          simp [linkedCons, own, named, first]
        · simp [linkedCons, own, earlier]

theorem linkForeignKeysAt (t : Table) (place : Nat) :
    t.linkForeignKeys.columns[place]? = linkedAt t.foreignKeys t.columns place :=
  linkedByKeys t.foreignKeys t.columns place

inductive Progress where
  | columns
  | indexes (columns : List Column)
  | foreignKeys (columns : List Column) (indexes : List Index)
  | constraints (columns : List Column) (indexes : List Index) (foreignKeys : List ForeignKey)
  | through (read : Option Table)

structure Task where
  place : Nat
  ref : TableRef
  progress : Progress := .columns

def TableRef.described (ref : TableRef) (columns : List Column) (indexes : List Index)
    (foreignKeys : List ForeignKey) (constraints : List Constraint) : Table :=
  Table.linkForeignKeys {
    schema := ref.schema, name := ref.name, comment := ref.comment,
    columns, indexes, foreignKeys, constraints }

namespace Task

def ask (s : Source) (task : Task) : Task :=
  { task with progress := match task.progress with
    | .columns => match s.columns task.ref with
      | .error _ => .through none
      | .ok columns => .indexes columns
    | .indexes columns => .foreignKeys columns (orEmpty (s.indexes task.ref))
    | .foreignKeys columns indexes =>
        .constraints columns indexes (orEmpty (s.foreignKeys task.ref))
    | .constraints columns indexes foreignKeys =>
        .through (some (task.ref.described columns indexes foreignKeys
          (orEmpty (s.constraints task.ref))))
    | .through read => .through read }

def outcome (s : Source) (task : Task) : Option Table :=
  match task.progress with
  | .columns => s.readTable task.ref
  | .indexes columns => some (task.ref.described columns (orEmpty (s.indexes task.ref))
      (orEmpty (s.foreignKeys task.ref)) (orEmpty (s.constraints task.ref)))
  | .foreignKeys columns indexes => some (task.ref.described columns indexes
      (orEmpty (s.foreignKeys task.ref)) (orEmpty (s.constraints task.ref)))
  | .constraints columns indexes foreignKeys => some (task.ref.described columns indexes foreignKeys
      (orEmpty (s.constraints task.ref)))
  | .through read => read

def left (task : Task) : Nat :=
  match task.progress with
  | .columns => 5
  | .indexes _ => 4
  | .foreignKeys .. => 3
  | .constraints .. => 2
  | .through _ => 1

theorem askOutcome (s : Source) (task : Task) : (task.ask s).outcome s = task.outcome s := by
  obtain ⟨place, ref, progress⟩ := task
  cases progress with
  | columns =>
      cases answer : s.columns ref with
      | error e => simp [ask, outcome, Source.readTable, answer]
      | ok columns => simp [ask, outcome, Source.readTable, answer, TableRef.described]
  | _ => rfl

theorem askLeft (s : Source) (task : Task) (pending : ∀ read, task.progress ≠ .through read) :
    (task.ask s).left < task.left := by
  obtain ⟨place, ref, progress⟩ := task
  cases progress with
  | columns => cases answer : s.columns ref <;> simp [ask, left, answer]
  | through read => exact absurd rfl (pending read)
  | _ => simp [ask, left]

end Task

structure Sweep where
  tasks : List Task
  arrived : List (Nat × Option Table) := []

namespace Sweep

def begun (wanted : List TableRef) : Sweep :=
  { tasks := wanted.zipIdx.map fun (ref, place) => { place, ref } }

def turn (s : Source) (r : Sweep) (n : Nat) : Sweep :=
  match r.tasks[n]? with
  | none => r
  | some task => match task.progress with
    | .through read => ⟨r.tasks.eraseIdx n, r.arrived ++ [(task.place, read)]⟩
    | _ => { r with tasks := r.tasks.set n (task.ask s) }

def run (s : Source) (r : Sweep) (schedule : List Nat) : Sweep := schedule.foldl (turn s) r

def due (s : Source) (r : Sweep) : List (Nat × Option Table) :=
  r.arrived ++ r.tasks.map fun task => (task.place, task.outcome s)

def left (r : Sweep) : Nat := (r.tasks.map Task.left).sum

variable {r : Sweep} {n : Nat} {task : Task}

theorem turnCases (s : Source) (found : r.tasks[n]? = some task) :
    (∃ read, task.progress = .through read ∧
      r.turn s n = ⟨r.tasks.eraseIdx n, r.arrived ++ [(task.place, read)]⟩) ∨
    ((∀ read, task.progress ≠ .through read) ∧
      r.turn s n = { r with tasks := r.tasks.set n (task.ask s) }) := by
  obtain ⟨place, ref, progress⟩ := task
  simp only [turn, found]
  cases progress with
  | through read => exact .inl ⟨read, rfl, rfl⟩
  | _ => exact .inr ⟨fun _ => Progress.noConfusion, rfl⟩

theorem turnDue (s : Source) (r : Sweep) (n : Nat) : ((r.turn s n).due s).Perm (r.due s) := by
  cases found : r.tasks[n]? with
  | none => rw [turn, found]
  | some task =>
      obtain ⟨here, rfl⟩ := List.getElem?_eq_some_iff.mp found
      rcases turnCases s found with ⟨read, done, after⟩ | ⟨-, after⟩
      · -- What was the task's outcome has arrived.
        have whole := (List.getElem_cons_eraseIdx_perm here).map
          fun task : Task => (task.place, task.outcome s)
        have own : r.tasks[n].outcome s = read := by rw [Task.outcome, done]
        rw [after, due, due, List.append_assoc]
        refine List.Perm.append_left _ ?_
        rwa [List.map_cons, own] at whole
      · have same := congrArg (List.map fun task : Task => (task.place, task.outcome s))
          (List.set_getElem_self here)
        rw [List.map_set] at same
        rw [after, due, due, List.map_set, Task.askOutcome]
        exact .of_eq (congrArg _ same)

theorem runDue (s : Source) (r : Sweep) (schedule : List Nat) :
    ((r.run s schedule).due s).Perm (r.due s) := by
  induction schedule generalizing r with
  | nil => exact .refl _
  | cons n rest ih => exact (ih (r.turn s n)).trans (turnDue s r n)

theorem begunDue (s : Source) (wanted : List TableRef) :
    (begun wanted).due s = s.reads wanted := by
  simp [begun, due, Source.reads, Task.outcome, Function.comp_def]

theorem turnLeft (s : Source) (found : r.tasks[n]? = some task) : (r.turn s n).left < r.left := by
  obtain ⟨here, rfl⟩ := List.getElem?_eq_some_iff.mp found
  have whole := ((List.getElem_cons_eraseIdx_perm here).map Task.left).sum_nat
  rw [List.map_cons, List.sum_cons] at whole
  rcases turnCases s found with ⟨read, done, after⟩ | ⟨pending, after⟩
  · have own : r.tasks[n].left = 1 := by rw [Task.left, done]
    simp only [after, left]
    omega
  · have fewer := Task.askLeft s _ pending
    have there : n < (r.tasks.set n (r.tasks[n].ask s)).length := by simpa
    have next := ((List.getElem_cons_eraseIdx_perm there).map Task.left).sum_nat
    rw [List.map_cons, List.sum_cons, List.getElem_set_self, List.eraseIdx_set_eq] at next
    simp only [after, left]
    omega

theorem finishes (s : Source) (r : Sweep) : ∃ more, (r.run s more).tasks = [] := by
  generalize size : r.left = k
  induction k using Nat.strongRecOn generalizing r with
  | ind k ih =>
      cases pending : r.tasks with
      | nil => exact ⟨[], pending⟩
      | cons task rest =>
          have fewer := turnLeft s (show r.tasks[0]? = some task by simp [pending])
          obtain ⟨more, ended⟩ := ih _ (size ▸ fewer) (r.turn s 0) rfl
          exact ⟨0 :: more, ended⟩

end Sweep

theorem readsPlaces (s : Source) (wanted : List TableRef) :
    (s.reads wanted).Pairwise fun a b => a.1 < b.1 := by
  have places : (s.reads wanted).map Prod.fst = List.range' 0 wanted.length := by
    rw [Source.reads, List.map_map, ← List.zipIdx_map_snd]
    rfl
  have increasing : ((s.reads wanted).map Prod.fst).Pairwise (· < ·) := by
    rw [places]
    exact List.pairwise_lt_range' 1
  exact List.pairwise_map.mp increasing

def kept (arrival : Nat × Option Table) : Option (Nat × Table) := arrival.2.map (arrival.1, ·)

theorem collectReads {arrived : List (Nat × Option Table)} {wanted : List TableRef}
    (all : arrived.Perm (s.reads wanted)) : collect arrived = wanted.filterMap s.readTable := by
  have places : ((s.reads wanted).filterMap kept).Pairwise fun a b => a.1 < b.1 := by
    refine List.Pairwise.filterMap kept ?_ (readsPlaces s wanted)
    rintro ⟨place, read⟩ ⟨place', read'⟩ before found same found' same'
    simp only [kept, Option.map_eq_some_iff] at same same'
    obtain ⟨_, -, rfl⟩ := same
    obtain ⟨_, -, rfl⟩ := same'
    exact before
  have sorted : (arrived.filterMap kept).mergeSort (fun a b => a.1 ≤ b.1) =
      (s.reads wanted).filterMap kept := by
    have same := (List.mergeSort_perm (arrived.filterMap kept) fun a b => a.1 ≤ b.1).trans
      (all.filterMap kept)
    refine List.Perm.eq_of_pairwise ?_ ?_ (places.imp Nat.le_of_lt) same
    · -- No place is read twice.
      intro a b inA inB le ge
      exact List.inj_on_of_nodup_map (List.pairwise_map.mpr (places.imp Nat.ne_of_lt))
        (same.mem_iff.mp inA) inB (Nat.le_antisymm le ge)
    · refine (List.pairwise_mergeSort ?_ ?_ _).imp fun le => by simpa using le
      · intro a b c; simpa using Nat.le_trans
      · intro a b; simpa using Nat.le_total a.1 b.1
  have read : (s.reads wanted).filterMap kept =
      wanted.zipIdx.filterMap fun (ref, place) => (s.readTable ref).map (place, ·) := by
    rw [Source.reads, List.filterMap_map]
    rfl
  calc collect arrived
      = ((s.reads wanted).filterMap kept).map Prod.snd := congrArg (List.map Prod.snd) sorted
    _ = wanted.zipIdx.filterMap (s.readTable ∘ Prod.fst) := by
        rw [read, List.map_filterMap]
        refine congrArg (List.filterMap · _) (funext fun (ref, place) => ?_)
        simp [Function.comp_def]
    _ = wanted.filterMap s.readTable := by
        rw [← List.filterMap_map, List.zipIdx_map_fst]

structure Answered {α : Type} (answer : Except CatalogError (List α)) (rows : List α) : Prop where
  given : ∀ found, answer = .ok found → rows = found
  failed : ∀ e, answer = .error e → rows = []

theorem orEmptyAnswered {α : Type} (answer : Except CatalogError (List α)) :
    Answered answer (orEmpty answer) := by
  cases answer with
  | error e => exact ⟨fun _ same => (by cases same), fun _ _ => rfl⟩
  | ok rows => exact ⟨fun _ same => Except.ok.inj same, fun _ same => (by cases same)⟩

structure Describes (s : Source) (ref : TableRef) (t : Table) : Prop where
  schema : t.schema = ref.schema
  name : t.name = ref.name
  comment : t.comment = ref.comment
  columns : ∃ columns, s.columns ref = .ok columns ∧
    ∀ place, t.columns[place]? = linkedAt t.foreignKeys columns place
  indexes : Answered (s.indexes ref) t.indexes
  foreignKeys : Answered (s.foreignKeys ref) t.foreignKeys
  constraints : Answered (s.constraints ref) t.constraints

theorem readTableDescribes {ref : TableRef} {t : Table} (read : s.readTable ref = some t) :
    Describes s ref t := by
  simp only [Source.readTable] at read
  cases answer : s.columns ref with
  | error e => simp [answer] at read
  | ok columns =>
      simp only [answer, Option.some.injEq] at read
      subst read
      exact {
        schema := rfl, name := rfl, comment := rfl
        columns := ⟨columns, answer, fun place => linkForeignKeysAt _ place⟩
        indexes := orEmptyAnswered _
        foreignKeys := orEmptyAnswered _
        constraints := orEmptyAnswered _ }

theorem describesInOrder (s : Source) (wanted : List TableRef) :
    List.Forall₂ (Describes s) (wanted.filter fun ref => (s.columns ref).isOk)
      (wanted.filterMap s.readTable) := by
  induction wanted with
  | nil => exact .nil
  | cons ref rest ih =>
      cases answer : s.columns ref with
      | error e =>
          have none : s.readTable ref = none := by simp [Source.readTable, answer]
          rwa [List.filter_cons_of_neg (by simp [answer, Except.isOk, Except.toBool]),
            List.filterMap_cons_none none]
      | ok columns =>
          obtain ⟨t, read⟩ := (readTableIff s ref).mpr ⟨columns, answer⟩
          rw [List.filter_cons_of_pos (by simp [answer, Except.isOk, Except.toBool]),
            List.filterMap_cons_some read]
          exact .cons (readTableDescribes read) ih

theorem discoverCollects {wanted : List TableRef} (found : s.listed scope = .ok wanted)
    {arrived : List (Nat × Option Table)} (all : arrived.Perm (s.reads wanted)) :
    s.discover scope = .ok (collect arrived) := by
  simp only [Source.discover, found]
  exact congrArg Except.ok ((collectReads (.refl _)).trans (collectReads all).symm)

/-- However the reads of the tables are scheduled, what comes out is the readable tables of the
listing, in its order, each with what the source says of it. No schedule leaves them stuck. -/
theorem discoveryIgnoresOrder (s : Source) (scope : Scope) :
    (∀ e, s.discover scope = .error e ↔ s.tables scope.schemas = .error e) ∧
    ∀ refs, s.tables scope.schemas = .ok refs →
      let wanted := refs.filter (!scope.excludes ·.name)
      ∃ tables, s.discover scope = .ok tables ∧
        List.Forall₂ (Describes s) (wanted.filter fun ref => (s.columns ref).isOk) tables ∧
        ∀ schedule, let sweep := (Sweep.begun wanted).run s schedule
          (sweep.tasks = [] → collect sweep.arrived = tables) ∧
          (∀ n < sweep.tasks.length, (sweep.turn s n).left < sweep.left) ∧
          ∃ more, (sweep.run s more).tasks = [] := by
  refine ⟨fun e => ?_, fun refs listing => ?_⟩
  · simp only [Source.discover, Source.listed]
    cases s.tables scope.schemas <;> simp [Except.map, bind, Except.bind]
  · intro wanted
    have found : s.listed scope = .ok wanted := by simp only [Source.listed, listing]; rfl
    refine ⟨wanted.filterMap s.readTable, ?_, describesInOrder s wanted, fun schedule => ?_⟩
    · rw [discoverCollects found (.refl _), collectReads (.refl _)]
    · intro sweep
      have due := Sweep.runDue s (Sweep.begun wanted) schedule
      rw [Sweep.begunDue] at due
      refine ⟨fun ended => collectReads ?_, fun n here => ?_, Sweep.finishes s sweep⟩
      · rwa [Sweep.due, ended, List.map_nil, List.append_nil] at due
      · exact Sweep.turnLeft s (List.getElem?_eq_getElem here)

def blog : Memory where
  tables :=
    [{ schema := "public", name := "posts"
       columns := [{ name := "author", dataType := "integer", nullable := false }]
       foreignKeys := [{ name := "author", column := "author", references := ⟨"users", "id"⟩ }] },
     { schema := "public", name := "drafts", columns := [] },
     { schema := "public", name := "users", columns := [] },
     { schema := "public", name := "Migrations", columns := [] }]
  failingColumns := ["drafts"]
  failingSecondary := ["users"]

def blogTables : List TableRef :=
  [⟨"public", "posts", none⟩, ⟨"public", "drafts", none⟩, ⟨"public", "users", none⟩]

theorem discoveryIgnoresOrderBackwards :
    let sweep := (Sweep.begun blogTables).run blog.source [2, 2, 2, 2, 2, 1, 1, 0, 0, 0, 0, 0]
    sweep.arrived.map Prod.fst = [2, 1, 0] ∧
      blog.source.discover { schemas := ["public"] } = .ok (collect sweep.arrived) ∧
      (collect sweep.arrived).map Table.name = ["posts", "users"] := by
  obtain ⟨tables, found, described, scheduled⟩ :=
    (discoveryIgnoresOrder blog.source { schemas := ["public"] }).2
      (blogTables ++ [⟨"public", "Migrations", none⟩]) rfl
  have wanted : List.filter (!Scope.excludes { schemas := ["public"] } ·.name)
      (blogTables ++ [{ schema := "public", name := "Migrations" }]) = blogTables := by
    decide +kernel
  have readable : blogTables.filter (fun ref => (blog.source.columns ref).isOk) =
      [⟨"public", "posts", none⟩, ⟨"public", "users", none⟩] := by decide +kernel
  simp only [wanted, readable] at described scheduled
  have collected := (scheduled [2, 2, 2, 2, 2, 1, 1, 0, 0, 0, 0, 0]).1 (by rfl)
  refine ⟨by decide +kernel, collected ▸ found, collected ▸ ?_⟩
  obtain _ | ⟨posts, _ | ⟨users, _ | _⟩⟩ := described
  simp [posts.name, users.name]

end RestScaffold.Catalog
