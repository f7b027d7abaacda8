import RestScaffold.Proofs.Watch.Workshop

/-! Which ticks run a pass, and that there is no end to the rest that follows it. A pass keeps the
fingerprint of the tables that it was run on, whether it fails or not, so that a tick that reads the
same again finds nothing to do. -/
namespace RestScaffold
open Catalog
open Gatehouse (Reaches)

variable {w : Watcher} {r : Registry} {text : String} {scope₀ : Scope} {files : FileTree → Prop}
  {tree : FileTree} {jobs : List Job} {tables : List Table}

structure Quiet (r : Registry) (scope₀ : Scope) (files : FileTree → Prop) (w : Watcher)
    (tree : FileTree) (jobs : List Job) : Prop where
  registry : w.registry = r
  scope : w.scope = scope₀
  files : files tree
  checks : ∀ job ∈ jobs, job = ⟨.check, none⟩
  gate : Reaches w.gate (jobs.map Job.phase)

def Regime.quiet (text : String) (r : Registry) (scope₀ : Scope) (files : FileTree → Prop) :
    Regime where
  kinds kind := kind = .check
  reads scope reading := scope = scope₀ → ∀ tables, reading = .ok tables → fingerprint tables = text
  law := Quiet r scope₀ files

theorem quietTimer (h : Quiet r scope₀ files w tree jobs) (timer : Option Timer) :
    Quiet r scope₀ files { w with timer } tree jobs :=
  ⟨h.registry, h.scope, h.files, h.checks, h.gate⟩

theorem quietEnter {entered : Watcher} (h : Quiet r scope₀ files w tree jobs)
    (admitted : w.enter .check = .ok entered) :
    Quiet r scope₀ files entered tree (⟨.check, none⟩ :: jobs) := by
  have gate := gateLasting.enter h.gate admitted
  obtain ⟨gate', -, rfl⟩ := enterOk admitted
  exact ⟨h.registry, h.scope, h.files, List.forall_mem_cons.mpr ⟨rfl, h.checks⟩, gate⟩

theorem quietEnduring (stored : r.fingerprint = some text) :
    Enduring (.quiet text r scope₀ files) where
  checks := rfl
  perm h same :=
    { h with
      checks := fun job there => h.checks job (same.mem_iff.mpr there)
      gate := gateLasting.perm h.gate same }
  alone h := gateLasting.alone h.gate
  enter := by
    rintro w entered tree jobs kind h rfl admitted
    exact quietEnter h admitted
  assess := by
    intro w assessed tree kind reading tables h reads next
    -- A check that reads what is stored does not go on.
    obtain rfl := (Job.mk.inj (h.checks _ List.mem_cons_self)).1
    obtain ⟨rfl, -⟩ := assessOk next
    have known := reads h.scope tables rfl
    simp [Watcher.assess, h.registry, stored, known] at next
  -- Nobody is about to write.
  write h _ := nomatch (Job.mk.inj (h.checks _ List.mem_cons_self)).2
  drop h := ⟨h.registry, h.scope, h.files, nofun, gateLasting.drop h.gate⟩
  tick h := quietTimer h _
  idle h idle := by
    obtain ⟨timer, same⟩ := turnIdle idle
    rw [same]
    exact quietTimer h timer
  begun h begun := by
    obtain ⟨timer, entered⟩ := turnBegun begun
    exact quietEnter (quietTimer h timer) entered

theorem quietStart (h : Quiet r scope₀ files w tree jobs) (now : Nat) :
    Quiet r scope₀ files (w.start now).1 tree jobs := by
  unfold Watcher.start
  split
  · exact h
  · exact quietTimer h _

theorem assessUnchangedIff {kind : RunKind} {reading : Reading} :
    w.assess kind reading = .error .unchanged ↔ kind = .check ∧ ∃ tables, reading = .ok tables ∧
      w.registry.fingerprint = some (fingerprint tables) := by
  cases reading with
  | error e => cases kind <;> simp [Watcher.assess]
  | ok tables =>
      cases kind with
      | trigger => simp [Watcher.assess]
      | check =>
          by_cases same : w.registry.fingerprint = some (fingerprint tables)
          · simp [Watcher.assess, same]
          · cases promoted : w.gate.promote? <;> simp [Watcher.assess, same, promoted]

theorem assessGoesIff {kind : RunKind} {reading : Reading} :
    (∃ next, w.assess kind reading = .ok next) ↔ ∃ tables, reading = .ok tables ∧
      (kind = .trigger ∨ w.gate.stopRequested = false ∧
        w.registry.fingerprint ≠ some (fingerprint tables)) := by
  cases reading with
  | error e => cases kind <;> simp [Watcher.assess]
  | ok tables =>
      cases kind with
      | trigger => simp [Watcher.assess]
      | check =>
          by_cases same : w.registry.fingerprint = some (fingerprint tables)
          · simp [Watcher.assess, same]
          · cases asked : w.gate.stopRequested <;>
              simp [Watcher.assess, same, Gate.promote?, asked]

theorem regeneratePass (w : Watcher) (tree : FileTree) (now : Nat) (tables : List Table) :
    let pass := Pass.run w.settings tree (tables.map Table.shape)
    let regenerated := w.regenerate tree now tables
    regenerated.2.1 = pass.1 ∧
      regenerated.1.registry.fingerprint = some (fingerprint tables) ∧
      regenerated.1.registry.regenerations = w.registry.regenerations + 1 ∧
      ((∃ e, pass.2 = .error e ∧ regenerated.2.2 = .failed (.emission (.write e))) ∨
        ∃ report summary, pass.2 = .ok report ∧ regenerated.2.2 = .regenerated summary ∧
          summary.fingerprint = fingerprint tables) := by
  unfold Watcher.regenerate
  dsimp only
  split
  · rename_i after e ran
    rw [ran]
    exact ⟨rfl, rfl, rfl, .inl ⟨e, rfl, rfl⟩⟩
  · rename_i after report ran
    rw [ran]
    exact ⟨rfl, rfl, rfl, .inr ⟨report, _, rfl, rfl, rfl⟩⟩

theorem regenerateSettings (w : Watcher) (tree : FileTree) (now : Nat) (tables : List Table) :
    (w.regenerate tree now tables).1.settings = w.settings := by
  unfold Watcher.regenerate
  split <;> rfl

theorem settingsLasting (settings : Settings) : Lasting fun w jobs =>
    w.settings = settings ∧ Reaches w.gate (jobs.map Job.phase) where
  perm h same := ⟨h.1, gateLasting.perm h.2 same⟩
  alone h := gateLasting.alone h.2
  enter h entered := by
    have gate := gateLasting.enter h.2 entered
    obtain ⟨next, -, rfl⟩ := enterOk entered
    exact ⟨h.1, gate⟩
  assess h assessed := by
    have gate := gateLasting.assess h.2 assessed
    obtain ⟨-, next, rfl, -⟩ := assessOk assessed
    exact ⟨h.1, gate⟩
  write h tree now :=
    ⟨(regenerateSettings _ tree now _).trans h.1, gateLasting.write h.2 tree now⟩
  drop h := ⟨h.1, gateLasting.drop h.2⟩
  prime h reading := ⟨by cases reading <;> exact h.1, gateLasting.prime h.2 reading⟩
  stop h := ⟨h.1, gateLasting.stop h.2⟩
  timer h timer := ⟨h.1, gateLasting.timer h.2 timer⟩

namespace Workshop

variable {s : Workshop} {ticket : Nat} {job : Job}

structure Renews (jobs : List (Nat × Job)) (issued : Nat) (later : List (Nat × Job))
    (reissued : Nat) : Prop where
  grows : issued ≤ reissued
  tickets : ∀ entry ∈ later,
    entry.1 ∈ jobs.map Prod.fst ∨ entry.1 = issued ∧ issued < reissued

variable {jobs : List (Nat × Job)} {issued : Nat}

theorem renewsFewer {fewer : List (Nat × Job)} (some : fewer.Sublist jobs) :
    Renews jobs issued fewer issued :=
  ⟨Nat.le_refl _, fun _ there => .inl (List.mem_map_of_mem (some.subset there))⟩

theorem renewsArrived (job : Job) : Renews jobs issued ((issued, job) :: jobs) (issued + 1) where
  grows := Nat.le_succ _
  tickets := by
    rintro entry (_ | ⟨_, there⟩)
    · exact .inr ⟨rfl, Nat.lt_succ_self _⟩
    · exact .inl (List.mem_map_of_mem there)

theorem stirsRenews {room : Watchroom} {move : Watchroom.Move} {reply : Watchroom.Reply}
    {later : List (Nat × Job)} {reissued : Nat} (stirs : room.Stirs move reply later reissued) :
    Renews room.jobs room.issued later reissued := by
  cases stirs with
  | arrived kind => exact renewsArrived _
  | @read ticket kind tables known =>
      have fewer : (room.others ticket).Sublist room.jobs := List.filter_sublist
      refine ⟨Nat.le_refl _, ?_⟩
      rintro entry (_ | ⟨_, there⟩)
      · obtain ⟨first, last, jobs, -⟩ := List.lookup_eq_some_iff.mp known
        exact .inl (by simp [jobs])
      · exact (renewsFewer fewer).tickets entry there
  | left move ticket other => exact renewsFewer List.filter_sublist
  | nothing move other => exact renewsFewer (.refl _)

theorem stepRenews (s : Workshop) (deed : Deed) :
    Renews s.jobs s.issued (s.step deed).1.jobs (s.step deed).1.issued := by
  cases deed with
  | prime | arrive | read | write | drop | stop => exact stirsRenews (Watchroom.stepStirs _ _)
  | start | tick | files => exact renewsFewer (.refl _)
  | turn =>
      simp only [step]
      split
      · exact renewsArrived _
      · exact renewsFewer (.refl _)

theorem earlierStays (earlier : ∀ entry ∈ s.jobs, entry.1 < s.issued) (deeds : List Deed) :
    ∀ entry ∈ (s.run deeds).jobs, entry.1 < (s.run deeds).issued := by
  induction deeds generalizing s with
  | nil => exact earlier
  | cons deed rest ih =>
      have renews := stepRenews s deed
      refine ih fun entry there => ?_
      rcases renews.tickets entry there with before | ⟨new, more⟩
      · obtain ⟨old, known, same⟩ := List.mem_map.mp before
        exact same ▸ Nat.lt_of_lt_of_le (earlier old known) renews.grows
      · exact new ▸ more

theorem goneStays (early : ticket < s.issued) (gone : ticket ∉ s.jobs.map Prod.fst)
    (deeds : List Deed) : ticket ∉ (s.run deeds).jobs.map Prod.fst := by
  induction deeds generalizing s with
  | nil => exact gone
  | cons deed rest ih =>
      have renews := stepRenews s deed
      refine ih (Nat.lt_of_lt_of_le early renews.grows) fun there => ?_
      obtain ⟨entry, member, rfl⟩ := List.mem_map.mp there
      rcases renews.tickets entry member with before | ⟨new, -⟩
      · exact gone before
      · omega

def Deed.ticket? : Deed → Option Nat
  | .read ticket _ | .write ticket _ | .drop ticket _ => some ticket
  | .prime _ | .arrive _ | .stop | .start _ | .tick | .turn | .files _ => none

def Gated (s : Workshop) : Prop :=
  s.toWatchroom.Keeps fun w jobs => Reaches w.gate (jobs.map Job.phase)

theorem waitsStep (gated : s.Gated) (alone : s.jobs = [(ticket, job)]) {deed : Deed}
    (other : deed.ticket? ≠ some ticket) : (s.step deed).1.jobs = [(ticket, job)] := by
  -- The gate is taken, so that neither an arrival nor the timer gets in.
  have busy : s.watcher.gate.state ≠ .idle := by
    refine Gatehouse.reachesBusy gated ?_
    simp [alone]
  have absent {asked : Nat} (apart : some asked ≠ some ticket) : s.jobs.lookup asked = none := by
    simpa [alone] using fun same => apart (congrArg some same)
  cases deed with
  | prime | stop | start | tick | files => exact alone
  | arrive kind =>
      simp only [step, moved, Watchroom.step, enterBusy busy, alone]
  | read asked reading =>
      simp only [step, moved, Watchroom.step, absent other]
      exact alone
  | write asked now =>
      simp only [step, moved, Watchroom.step, absent other]
      exact alone
  | drop asked left =>
      simp only [step, moved, Watchroom.step, absent other]
      exact alone
  | turn =>
      simp only [step]
      split
      · rename_i begun
        obtain ⟨timer, entered⟩ := turnBegun begun
        rw [enterBusy (by exact busy)] at entered
        contradiction
      · exact alone

theorem waitsRun (gated : s.Gated) (alone : s.jobs = [(ticket, job)]) (deeds : List Deed)
    (others : ∀ deed ∈ deeds, deed.ticket? ≠ some ticket) :
    (s.run deeds).jobs = [(ticket, job)] := by
  induction deeds generalizing s with
  | nil => exact alone
  | cons deed rest ih =>
      obtain ⟨other, more⟩ := List.forall_mem_cons.mp others
      exact ih (runLasts gateLasting gated [deed]) (waitsStep gated alone other) more

def Deed.Calm (text : String) : Deed → Prop
  | .prime _ | .stop => False
  | .arrive kind => kind = .check
  | .read _ reading => ∀ tables, reading = .ok tables → fingerprint tables = text
  | .write .. | .drop .. | .start _ | .tick | .turn | .files _ => True

def Settled (text : String) (s : Workshop) : Prop :=
  ∀ later, (∀ deed ∈ later, deed.Calm text) → let t := s.run later
    t.watcher.registry = s.watcher.registry ∧
    (∀ deed, deed.Calm text → (∀ tree, deed ≠ .files tree) → (t.step deed).1.tree = t.tree) ∧
    ∀ ticket job tables, t.jobs.lookup ticket = some job → fingerprint tables = text →
      t.step (.read ticket (.ok tables)) =
        (⟨⟨t.watcher.leave, [], t.issued⟩, t.tree⟩, .room (.ended .unchanged))

theorem quietBears (h : s.Keeps (.quiet text r scope₀ files)) {deed : Deed}
    (calm : deed.Calm text) (left : ∀ tree, deed = .files tree → files tree) :
    s.Bears (.quiet text r scope₀ files) deed := by
  cases deed with
  | prime | stop => exact calm.elim
  | arrive kind => exact calm
  | read ticket reading => exact fun _ => calm
  | drop ticket left => exact fun kind tables own =>
      nomatch (Job.mk.inj (own.checks _ List.mem_cons_self)).2
  | start now => exact quietStart h now
  | files tree => exact { h with files := left tree rfl }
  | write | tick | turn => trivial

theorem quietSettled (stored : s.watcher.registry.fingerprint = some text) (gated : s.Gated)
    (nobody : s.jobs = []) : s.Settled text := by
  have start : s.Keeps (.quiet text s.watcher.registry s.watcher.scope fun _ => True) :=
    ⟨rfl, rfl, trivial, by simp [nobody], gated⟩
  intro later calm t
  have quiet : t.Keeps (.quiet text s.watcher.registry s.watcher.scope fun _ => True) :=
    runKeeps (quietEnduring stored) start later fun before deed rest same between =>
      quietBears between (calm deed (by simp [same])) fun _ _ => trivial
  refine ⟨quiet.registry, fun deed mild kept => ?_, fun ticket job tables known same => ?_⟩
  · have here : t.Keeps (.quiet text s.watcher.registry s.watcher.scope (· = t.tree)) :=
      { quiet with files := rfl }
    exact (stepKeeps (quietEnduring stored) here
      (quietBears here mild fun tree found => absurd found (kept tree))).files
  · obtain ⟨own, none⟩ := aloneJob (quietEnduring stored) quiet known
    obtain rfl := own.checks job List.mem_cons_self
    have unchanged : t.watcher.assess .check (.ok tables) = .error .unchanged :=
      assessUnchangedIff.mpr ⟨rfl, tables, rfl, by rw [quiet.registry, stored, same]⟩
    simp only [step, moved, Watchroom.step, known, unchanged, none]

structure RunsPass (s : Workshop) (tables : List Table) (ran : Workshop × Reply) : Prop where
  tree : ran.1.tree = (Pass.run s.watcher.settings s.tree (tables.map Table.shape)).1
  fingerprint : ran.1.watcher.registry.fingerprint = some (fingerprint tables)
  count : ran.1.watcher.registry.regenerations = s.watcher.registry.regenerations + 1
  reply : (∃ e, (Pass.run s.watcher.settings s.tree (tables.map Table.shape)).2 = .error e ∧
      ran.2 = .room (.wrote (.failed (.emission (.write e))))) ∨
    ∃ report summary,
      (Pass.run s.watcher.settings s.tree (tables.map Table.shape)).2 = .ok report ∧
      ran.2 = .room (.wrote (.regenerated summary)) ∧
      summary.fingerprint = Catalog.fingerprint tables

theorem writePass {kind : RunKind} (alone : s.jobs = [(ticket, ⟨kind, some tables⟩)]) (now : Nat) :
    s.RunsPass tables (s.step (.write ticket now)) := by
  obtain ⟨tree, stored, count, reply⟩ := regeneratePass s.watcher s.tree now tables
  have known : s.jobs.lookup ticket = some ⟨kind, some tables⟩ := by simp [alone]
  have wrote : s.step (.write ticket now) =
      (⟨⟨(s.watcher.regenerate s.tree now tables).1.leave, s.others ticket, s.issued⟩,
        (s.watcher.regenerate s.tree now tables).2.1⟩,
        .room (.wrote (s.watcher.regenerate s.tree now tables).2.2)) := by
    simp only [step, moved, Watchroom.step, tables?, known, Option.bind_some]
  rw [wrote]
  refine ⟨tree, stored, count, ?_⟩
  rcases reply with ⟨e, failed, result⟩ | ⟨report, summary, done, result, same⟩
  · exact .inl ⟨e, failed, by rw [result]⟩
  · exact .inr ⟨report, summary, done, by rw [result], same⟩

theorem writeAbsent (gone : ticket ∉ s.jobs.map Prod.fst) (now : Nat) :
    (s.step (.write ticket now)).2 = .room .absent := by
  have absent : s.jobs.lookup ticket = none := by
    refine List.lookup_eq_none_iff.mpr fun entry there => ?_
    simpa using fun same : ticket = entry.1 => gone (same ▸ List.mem_map_of_mem there)
  simp only [step, moved, Watchroom.step, absent]

theorem readStep {kind : RunKind} (alone : s.jobs = [(ticket, ⟨kind, none⟩)]) (reading : Reading) :
    s.step (.read ticket reading) = match s.watcher.assess kind reading with
      | .error result => (⟨⟨s.watcher.leave, [], s.issued⟩, s.tree⟩, .room (.ended result))
      | .ok (watcher, tables) =>
          (⟨⟨watcher, [(ticket, ⟨kind, some tables⟩)], s.issued⟩, s.tree⟩, .room .going) := by
  have known : s.jobs.lookup ticket = some ⟨kind, none⟩ := by simp [alone]
  have none : s.others ticket = [] := by simp [Watchroom.others, alone]
  simp only [step, moved, Watchroom.step, known, none]
  cases s.watcher.assess kind reading <;> rfl

section
variable {kind : RunKind} (alone : s.jobs = [(ticket, ⟨kind, none⟩)])
include alone

theorem readGoesIff : (s.step (.read ticket (.ok tables))).2 = .room .going ↔
    kind = .trigger ∨ s.watcher.gate.stopRequested = false ∧
      s.watcher.registry.fingerprint ≠ some (fingerprint tables) := by
  have goes : (∃ next, s.watcher.assess kind (.ok tables) = .ok next) ↔ _ := assessGoesIff
  simp only [Except.ok.injEq, exists_eq_left'] at goes
  rw [← goes, readStep alone]
  cases s.watcher.assess kind (.ok tables) <;> simp

theorem readGone (early : ticket < s.issued) {reading : Reading}
    (ended : (s.step (.read ticket reading)).2 ≠ .room .going) (later : List Deed) (now : Nat) :
    (((s.step (.read ticket reading)).1.run later).step (.write ticket now)).2 = .room .absent := by
  have absent : ticket ∉ ((s.step (.read ticket reading)).1.run later).jobs.map Prod.fst := by
    have renews := stepRenews s (.read ticket reading)
    refine goneStays (Nat.lt_of_lt_of_le early renews.grows) ?_ later
    rw [readStep alone] at ended ⊢
    cases assessed : s.watcher.assess kind reading with
    | error result => exact List.not_mem_nil
    | ok next => exact absurd (by rw [assessed]) ended
  exact writeAbsent absent now

theorem readPasses (gated : s.Gated)
    (going : (s.step (.read ticket (.ok tables))).2 = .room .going) {meanwhile : List Deed}
    (others : ∀ deed ∈ meanwhile, deed.ticket? ≠ some ticket) (now : Nat) :
    let u := (s.step (.read ticket (.ok tables))).1.run meanwhile
    u.RunsPass tables (u.step (.write ticket now)) ∧
      (u.step (.write ticket now)).1.Settled (fingerprint tables) := by
  intro u
  have next : (s.step (.read ticket (.ok tables))).1.Gated :=
    runLasts gateLasting gated [.read ticket (.ok tables)]
  have waiting : (s.step (.read ticket (.ok tables))).1.jobs =
      [(ticket, ⟨kind, some tables⟩)] := by
    rw [readStep alone] at going ⊢
    cases assessed : s.watcher.assess kind (.ok tables) with
    | error result => simp [assessed] at going
    | ok next => simp [Except.ok.inj (assessOk assessed).1]
  have writing : u.jobs = [(ticket, ⟨kind, some tables⟩)] := waitsRun next waiting meanwhile others
  have pass := writePass writing now
  have written : (u.step (.write ticket now)).1.Gated :=
    runLasts gateLasting (runLasts gateLasting next meanwhile) [.write ticket now]
  refine ⟨pass, quietSettled pass.fingerprint written ?_⟩
  simp [step, moved, Watchroom.step, Watchroom.others, writing]

theorem readUnchanged (gated : s.Gated)
    (unchanged : (s.step (.read ticket (.ok tables))).2 = .room (.ended .unchanged)) :
    (s.step (.read ticket (.ok tables))).1.watcher.registry = s.watcher.registry ∧
      (s.step (.read ticket (.ok tables))).1.tree = s.tree ∧
      (s.step (.read ticket (.ok tables))).1.Settled (fingerprint tables) := by
  have next : (s.step (.read ticket (.ok tables))).1.Gated :=
    runLasts gateLasting gated [.read ticket (.ok tables)]
  rw [readStep alone] at unchanged next ⊢
  cases assessed : s.watcher.assess kind (.ok tables) with
  | ok next => simp [assessed] at unchanged
  | error result =>
      obtain rfl : result = .unchanged := by simpa [assessed] using unchanged
      obtain ⟨-, _, same, stored⟩ := assessUnchangedIff.mp assessed
      rw [assessed] at next
      cases same
      exact ⟨rfl, rfl, quietSettled stored next rfl⟩

end

end Workshop

namespace Session

variable {s t : Session} {kind : RunKind} {waiting : List Run} {outer : List Job} {asked : Nat}

def still (s : Session) : Regime where
  kinds _ := True
  reads scope reading := scope = s.watcher.scope → reading = s.reading
  law w _ jobs := w.settings = s.watcher.settings ∧ Reaches w.gate (jobs.map Job.phase)

theorem stillEnduring (s : Session) : Enduring s.still :=
  (settingsLasting s.watcher.settings).enduring trivial

theorem stillStart (guarded : s.Guarded [] [] 0) : s.Endures s.still [] [] 0 := by
  obtain ⟨gate, joinable⟩ := guardedIff.mp guarded
  exact ⟨⟨rfl, gate⟩, joinable, fun _ _ => trivial, fun scope same => by rw [same]; rfl⟩

theorem stillReading (h : t.Endures s.still waiting outer asked) : t.reading = s.reading :=
  h.reads t.watcher.scope (by rw [Watcher.scope, h.holds.1]; rfl)

theorem runReading (guarded : s.Guarded [] [] 0) (kind : RunKind) :
    (s.run kind).1.reading = s.reading :=
  stillReading (enduresRun (stillEnduring s) trivial (stillStart guarded))

theorem awaited {watcher : Watcher} (guarded : s.Guarded [] [] 0)
    (admitted : s.watcher.enter kind = .ok watcher) :
    (awaitTables { s with watcher }).reading = s.reading ∧
      (awaitTables { s with watcher }).Endures s.still [] [⟨kind, none⟩] 0 := by
  have listed := enduresAwaitTables (stillEnduring s)
    (enduresEntered (stillEnduring s) trivial (stillStart guarded) admitted)
  exact ⟨stillReading listed, listed⟩

inductive Informed : RunResult → Prop where
  | unchanged : Informed .unchanged
  | failed (error) : Informed (.failed (.emission error))
  | regenerated (summary) : Informed (.regenerated summary)

theorem refusedUninformed (kind : RunKind) (seen : WatchState) : ¬Informed (kind.refusal seen) := by
  cases kind with
  | check => exact nofun
  | trigger =>
      unfold RunKind.refusal
      dsimp only
      split <;> exact nofun

theorem assessInformed {w : Watcher} {result : RunResult}
    (ended : w.assess kind (.ok tables) = .error result) (informed : Informed result) :
    w.registry.fingerprint = some (fingerprint tables) := by
  have same : result = .unchanged := by
    cases kind with
    | trigger => cases ended
    | check =>
        simp only [Watcher.assess] at ended
        split at ended
        · cases ended
          rfl
        · split at ended <;> cases ended
          cases informed
  obtain ⟨-, read, known, stored⟩ := assessUnchangedIff.mp (same ▸ ended)
  cases known
  exact stored

theorem runInformed (guarded : s.Guarded [] [] 0) (reading : s.reading = .ok tables)
    (informed : Informed (s.run kind).2) :
    Run.jobs (s.run kind).1.runs = [] ∧
      (s.run kind).1.watcher.registry.fingerprint = some (fingerprint tables) := by
  unfold run at informed ⊢
  cases admitted : s.watcher.enter kind with
  | error seen =>
      rw [admitted] at informed
      exact absurd informed (refusedUninformed kind seen)
  | ok watcher =>
      obtain ⟨same, listed⟩ := awaited guarded admitted
      rw [admitted] at informed
      dsimp only at informed ⊢
      generalize awaitTables { s with watcher } = t at same listed informed ⊢
      rw [same, reading] at informed ⊢
      obtain ⟨nobody, -, own⟩ := enduresAlone (stillEnduring s) listed
      rw [List.append_nil] at nobody
      cases assessed : t.watcher.assess kind (.ok tables) with
      | error result =>
          rw [assessed] at informed
          have stored := assessInformed assessed informed
          exact ⟨nobody, stored⟩
      | ok next =>
          obtain ⟨watcher, read⟩ := next
          obtain ⟨known, -⟩ := assessOk assessed
          cases known
          have moved := (stillEnduring s).assess own (fun _ => reading.symm) assessed
          have writing := enduresSettle (stillEnduring s)
            (enduresMoved (stillEnduring s) listed moved)
          dsimp only
          generalize settle { t with watcher } = u at writing ⊢
          obtain ⟨alone, -, -⟩ := enduresAlone (stillEnduring s) writing
          rw [List.append_nil] at alone
          obtain ⟨-, stored, -, -⟩ := regeneratePass u.watcher u.tree u.now tables
          exact ⟨alone, stored⟩

def Calm (text : String) (s : Session) : Action → Prop
  | .prime | .stop => False
  | .run kind | .background kind => kind = .check
  | .change change => ∀ tables,
      (s.step (.change change)).1.reading = .ok tables → fingerprint tables = text
  | .files _ | .hold | .letGo | .join | .abort | .start | .advance _ => True

def Settled (text : String) (s : Session) : Prop :=
  ∀ later, (∀ before action rest, later = before ++ action :: rest →
      (s.after before).Calm text action) → let t := s.after later
    t.watcher.registry = s.watcher.registry ∧
    (∀ action, t.Calm text action → (∀ tree, action ≠ .files tree) →
      (t.step action).1.tree = t.tree) ∧
    ∀ tables, t.watcher.state = .idle → t.reading = .ok tables → (t.run .check).2 = .unchanged

theorem quietBears (h : s.Endures (.quiet text r scope₀ files) [] [] 0) {action : Action}
    (calm : s.Calm text action) (left : ∀ tree, action = .files tree → files tree) :
    s.Bears (.quiet text r scope₀ files) action := by
  have holds := h.holds
  rw [List.append_nil, List.append_nil] at holds
  cases action with
  | prime | stop => exact calm.elim
  | run kind | background kind => exact calm
  | change change =>
      intro scope same tables read
      exact calm tables (by rw [← read, same, ← holds.scope]; rfl)
  | start => exact quietStart holds s.now
  | files tree => exact { holds with files := left tree rfl }
  | hold | letGo | join | abort | advance => trivial

theorem quietEndures (guarded : s.Guarded [] [] 0) (nobody : Run.jobs s.runs = [])
    (checks : ∀ r ∈ s.runs, r.kind = .check)
    (known : ∀ tables, s.reading = .ok tables → fingerprint tables = text) :
    s.Endures (.quiet text s.watcher.registry s.watcher.scope fun _ => True) [] [] 0 := by
  obtain ⟨gate, joinable⟩ := guardedIff.mp guarded
  exact ⟨⟨rfl, rfl, trivial, by simp [nobody], gate⟩, joinable,
    by simpa [Regime.quiet] using checks,
    fun scope same tables read => known tables (by rw [← read, same]; rfl)⟩

theorem quietSettled (guarded : s.Guarded [] [] 0) (nobody : Run.jobs s.runs = [])
    (checks : ∀ r ∈ s.runs, r.kind = .check)
    (stored : s.watcher.registry.fingerprint = some text)
    (known : ∀ tables, s.reading = .ok tables → fingerprint tables = text) : s.Settled text := by
  have start := quietEndures guarded nobody checks known
  intro later calm t
  have quiet : t.Endures (.quiet text s.watcher.registry s.watcher.scope fun _ => True) [] [] 0 :=
    enduresAfter (quietEnduring stored) start later fun before action rest same between =>
      quietBears between (calm before action rest same) fun _ _ => trivial
  refine ⟨quiet.holds.registry, fun action mild kept => ?_, fun tables idle reading => ?_⟩
  · have here : t.Endures
        (.quiet text s.watcher.registry s.watcher.scope (· = t.tree)) [] [] 0 :=
      ⟨{ quiet.holds with files := rfl }, quiet.joinable, quiet.kinds, quiet.reads⟩
    exact (enduresStep (quietEnduring stored) here
      (quietBears here mild fun tree found => absurd found (kept tree))).holds.files
  · obtain ⟨watcher, admitted⟩ := enterFree idle .check
    have listed := enduresAwaitTables (quietEnduring stored)
      (enduresEntered (quietEnduring stored) rfl quiet admitted)
    have same := (awaited (guardedAfter guarded later) admitted).1
    unfold run
    rw [admitted]
    dsimp only
    generalize awaitTables { t with watcher } = u at listed same ⊢
    have read : u.reading = .ok tables := same.trans reading
    have unchanged : u.watcher.assess .check u.reading = .error .unchanged :=
      assessUnchangedIff.mpr ⟨rfl, tables, read, by
        rw [listed.holds.registry, stored, listed.reads _ listed.holds.scope tables read]⟩
    rw [unchanged]

end Session

namespace Workshop

/-- A check that reads goes on to a pass over the tables that it has read if and only if their
fingerprint is not the one that is kept, unless a stop has been requested; a trigger always does.
Once a pass has been run on tables, or a check has found them unchanged, everything stays as it is
until something else is read, or the watcher is told otherwise. What a session does, a workshop does
as well, and sessions come to rest alike. -/
theorem passesFollowChangesOnly (settings : Settings) (binder : Binder) (tree : FileTree) :
    (∀ earlier, let s := (opened settings binder tree).run earlier
      ∀ ticket kind tables, s.jobs.lookup ticket = some ⟨kind, none⟩ →
        let read := s.step (.read ticket (.ok tables))
        (read.2 = .room .going ↔ kind = .trigger ∨ s.watcher.gate.stopRequested = false ∧
          s.watcher.registry.fingerprint ≠ some (fingerprint tables)) ∧
        (read.2 ≠ .room .going →
          ∀ later now, ((read.1.run later).step (.write ticket now)).2 = .room .absent) ∧
        (read.2 = .room .going →
          ∀ meanwhile, (∀ deed ∈ meanwhile, deed.ticket? ≠ some ticket) → ∀ now,
            let u := read.1.run meanwhile
            let wrote := u.step (.write ticket now)
            u.watcher.settings = settings ∧ u.RunsPass tables wrote ∧
              wrote.1.Settled (fingerprint tables)) ∧
        (read.2 = .room (.ended .unchanged) →
          read.1.watcher.registry = s.watcher.registry ∧ read.1.tree = s.tree ∧
            read.1.Settled (fingerprint tables))) ∧
    (∀ fresh : Session, fresh.watcher = { settings, binder } → fresh.runs = [] →
      fresh.tree = tree → ∀ actions, let s := fresh.after actions
        (∃ deeds, ((opened settings binder tree).run deeds).Matches s) ∧
        ∀ kind tables, s.reading = .ok tables → let ran := s.run kind
          Session.Informed ran.2 → (∀ r ∈ ran.1.runs, r.kind = .check) →
            ran.1.Settled (fingerprint tables)) := by
  constructor
  · intro earlier s ticket kind tables known read
    have gated : s.Gated := openedReaches settings binder tree earlier
    have alone : s.jobs = [(ticket, ⟨kind, none⟩)] := Watchroom.loneJob gateLasting gated known
    have early : ticket < s.issued :=
      earlierStays (s := opened settings binder tree) nofun earlier (ticket, ⟨kind, none⟩)
        (by rw [show (opened settings binder tree).run earlier = s from rfl, alone]; simp)
    refine ⟨readGoesIff alone, readGone alone early, fun going meanwhile others now => ?_,
      readUnchanged alone gated⟩
    intro u wrote
    refine ⟨?_, readPasses alone gated going others now⟩
    have kept := runLasts (s := opened settings binder tree) (settingsLasting settings)
      ⟨rfl, Watchroom.openedKeeps settings binder⟩
      (earlier ++ .read ticket (.ok tables) :: meanwhile)
    rw [runAppend] at kept
    exact kept.1
  · intro fresh watcher runs files actions s
    refine ⟨?_, fun kind tables reading informed checks => ?_⟩
    · have same : (opened settings binder tree).Matches fresh :=
        ⟨watcher, files, by rw [runs]; exact .refl _⟩
      exact sessionLed (openedAlone settings binder tree) same (by simp [runs]) actions
    · have guarded : s.Guarded [] [] 0 :=
        Session.guardedAfter (Session.freshGuarded ⟨by rw [watcher], runs⟩) actions
      obtain ⟨nobody, stored⟩ := Session.runInformed guarded reading informed
      refine Session.quietSettled (Session.guardedAfter guarded [.run kind]) nobody checks stored
        fun tables' read => ?_
      rw [Session.runReading guarded kind, reading] at read
      rw [Except.ok.inj read]

def notes : List Table := [Watchroom.notesTable]

def notesWorkshop : Workshop :=
  opened Watchroom.notesSession.watcher.settings Watchroom.notesSession.watcher.binder {}

theorem notesWrittenOnChange :
    let read := (notesWorkshop.run [.arrive .check]).step (.read 0 (.ok notes))
    let writing := read.1.run [.arrive .trigger, .stop]
    let again := (notesWorkshop.run [.prime (.ok notes), .arrive .check]).step
      (.read 0 (.ok notes))
    let ran := (Watchroom.notesSession.after [.prime]).run .check
    read.2 = .room .going ∧ writing.RunsPass notes (writing.step (.write 0 7)) ∧
      (writing.step (.write 0 7)).1.Settled (fingerprint notes) ∧
      again.2 = .room (.ended .unchanged) ∧ again.1.Settled (fingerprint notes) ∧
      (∀ now, (again.1.step (.write 0 now)).2 = .room .absent) ∧
      ran.2 = .unchanged ∧ ran.1.Settled (fingerprint notes) := by
  intro read writing again
  obtain ⟨workshops, sessions⟩ := passesFollowChangesOnly
    Watchroom.notesSession.watcher.settings Watchroom.notesSession.watcher.binder {}
  obtain ⟨goes, -, passes, -⟩ := workshops [.arrive .check] 0 .check notes rfl
  obtain ⟨-, gone, -, unchanged⟩ :=
    workshops [.prime (.ok notes), .arrive .check] 0 .check notes rfl
  obtain ⟨-, settled⟩ := sessions Watchroom.notesSession rfl rfl rfl [.prime]
  have going := goes.mpr (.inr ⟨rfl, by decide⟩)
  obtain ⟨-, pass, after⟩ := passes going [.arrive .trigger, .stop] (by simp [Deed.ticket?]) 7
  have same : (notesWorkshop.run [.prime (.ok notes), .arrive .check]).watcher.assess .check
      (.ok notes) = .error .unchanged := assessUnchangedIff.mpr ⟨rfl, notes, rfl, rfl⟩
  have alone : (notesWorkshop.run [.prime (.ok notes), .arrive .check]).jobs =
      [(0, ⟨.check, none⟩)] := rfl
  have ended : again.2 = .room (.ended .unchanged) := by
    simp only [again, readStep alone, same]
  have stays : again.2 ≠ .room .going := by simp [ended]
  have guarded : (Watchroom.notesSession.after [.prime]).Guarded [] [] 0 :=
    Session.guardedAfter (Session.freshGuarded ⟨rfl, rfl⟩) [.prime]
  obtain ⟨reads, runs, idle⟩ : (Watchroom.notesSession.after [.prime]).reading = .ok notes ∧
      (Watchroom.notesSession.after [.prime]).runs = [] ∧
      (Watchroom.notesSession.after [.prime]).watcher.state = .idle := by decide +kernel
  have stored : (Watchroom.notesSession.after [.prime]).watcher.registry.fingerprint =
      some (fingerprint notes) := by
    have read : Watchroom.notesSession.awaitTables.reading = .ok notes := by decide +kernel
    simp only [Session.after, List.foldl_cons, List.foldl_nil, Session.step, Session.prime, read,
      Watcher.prime, Registry.withFingerprint]
  generalize Watchroom.notesSession.after [.prime] = t at guarded reads runs idle stored settled
  have known (tables) (read : t.reading = .ok tables) : fingerprint tables = fingerprint notes := by
    rw [Except.ok.inj (reads.symm.trans read)]
  have nobody : Run.jobs t.runs = [] := by rw [runs]; rfl
  have checks : ∀ r ∈ t.runs, r.kind = .check := by simp [runs]
  have answered : (t.run .check).2 = .unchanged :=
    (Session.quietSettled guarded nobody checks stored known [] (by simp)).2.2 notes idle reads
  have left := (Session.enduresRun (quietEnduring stored) rfl
    (Session.quietEndures guarded nobody checks known)).kinds
  refine ⟨going, pass, after, ended, (unchanged ended).2.2, gone stays [],
    answered, settled .check notes reads ?_ (by simpa [Regime.quiet] using left)⟩
  rw [answered]
  exact .unchanged

end Workshop
end RestScaffold
