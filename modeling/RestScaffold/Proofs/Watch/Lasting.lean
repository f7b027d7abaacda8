import RestScaffold.Watch.Session

/-! What lasts through a session. A law on a watcher, its files and the runs that have its gate
holds all through a session, if it withstands what happens to a watcher by itself: a run comes in,
reads the tables, writes files and leaves, the timer goes on. A law that withstands as well what is
done to a watcher directly holds whatever the session does. -/
namespace RestScaffold
open Catalog

theorem enterBusy {w : Watcher} (busy : w.gate.state ≠ .idle) (kind : RunKind) :
    w.enter kind = .error w.gate.state := by
  simp [Watcher.enter, Gate.acquire, busy, Except.map]

theorem enterFree {w : Watcher} (free : w.gate.state = .idle) (kind : RunKind) :
    ∃ entered, w.enter kind = .ok entered := by
  simp [Watcher.enter, Gate.acquire, free, Except.map]

theorem enterOk {w entered : Watcher} {kind : RunKind} (h : w.enter kind = .ok entered) :
    ∃ gate, w.gate.acquire kind.state = .ok gate ∧ entered = { w with gate } := by
  unfold Watcher.enter at h
  cases admitted : w.gate.acquire kind.state with
  | error seen => simp [admitted, Except.map] at h
  | ok gate =>
      rw [admitted] at h
      exact ⟨gate, rfl, (Except.ok.inj h).symm⟩

theorem assessOk {w assessed : Watcher} {kind : RunKind} {reading : Reading} {tables : List Table}
    (h : w.assess kind reading = .ok (assessed, tables)) :
    reading = .ok tables ∧ ∃ gate, assessed = { w with gate } ∧
      (kind = .trigger ∧ gate = w.gate ∨ kind = .check ∧ w.gate.promote? = some gate) := by
  cases reading with
  | error e => cases kind <;> simp [Watcher.assess] at h
  | ok read =>
      cases kind with
      | trigger =>
          simp only [Watcher.assess, Except.ok.injEq, Prod.mk.injEq] at h
          obtain ⟨rfl, rfl⟩ := h
          exact ⟨rfl, w.gate, rfl, .inl ⟨rfl, rfl⟩⟩
      | check =>
          simp only [Watcher.assess] at h
          split at h <;> try contradiction
          split at h <;> try contradiction
          rename_i gate promoted
          simp only [Except.ok.injEq, Prod.mk.injEq] at h
          obtain ⟨rfl, rfl⟩ := h
          exact ⟨rfl, gate, rfl, .inr ⟨rfl, promoted⟩⟩

theorem timerTurnSteps (w : Watcher) :
    w.timerTurn.2 = false ∧ (∃ timer, w.timerTurn.1 = { w with timer }) ∨
      w.timerTurn.2 = true ∧
        ∃ timer, Watcher.enter { w with timer } .check = .ok w.timerTurn.1 := by
  obtain ⟨settings, binder, gate, registry, timer⟩ := w
  unfold Watcher.timerTurn
  cases timer with
  | none => exact .inl ⟨rfl, none, rfl⟩
  | some t =>
      dsimp only
      split
      · exact .inl ⟨rfl, _, rfl⟩
      · split
        · split
          · rename_i entered
            exact .inr ⟨rfl, _, entered⟩
          · exact .inl ⟨rfl, _, rfl⟩
        · exact .inl ⟨rfl, _, rfl⟩

theorem turnIdle {w : Watcher} (idle : w.timerTurn.2 = false) :
    ∃ timer, w.timerTurn.1 = { w with timer } := by
  rcases timerTurnSteps w with ⟨-, same⟩ | ⟨begun, -⟩
  · exact same
  · rw [idle] at begun
    contradiction

theorem turnBegun {w : Watcher} (begun : w.timerTurn.2 = true) :
    ∃ timer, Watcher.enter { w with timer } .check = .ok w.timerTurn.1 := by
  rcases timerTurnSteps w with ⟨idle, -⟩ | ⟨-, entered⟩
  · rw [begun] at idle
    contradiction
  · exact entered

structure Job where
  kind : RunKind
  tables : Option (List Table) := none

/-- Which runs come in, what they read of the catalog, and what holds meanwhile of a watcher, its
files and the runs that have its gate. -/
structure Regime where
  kinds : RunKind → Prop
  reads : Scope → Reading → Prop
  law : Watcher → FileTree → List Job → Prop

def Regime.free (law : Watcher → FileTree → List Job → Prop) : Regime where
  kinds _ := True
  reads _ _ := True
  law := law

structure Enduring (g : Regime) : Prop where
  checks : g.kinds .check
  perm : ∀ {w tree jobs others}, g.law w tree jobs → jobs.Perm others → g.law w tree others
  alone : ∀ {w tree jobs}, g.law w tree jobs → jobs.length ≤ 1
  enter : ∀ {w entered tree jobs kind}, g.law w tree jobs → g.kinds kind →
    w.enter kind = .ok entered → g.law entered tree (⟨kind, none⟩ :: jobs)
  assess : ∀ {w assessed tree kind reading tables}, g.law w tree [⟨kind, none⟩] →
    g.reads w.scope reading → w.assess kind reading = .ok (assessed, tables) →
    g.law assessed tree [⟨kind, some tables⟩]
  write : ∀ {w tree kind tables}, g.law w tree [⟨kind, some tables⟩] → ∀ now,
    g.law (w.regenerate tree now tables).1.leave (w.regenerate tree now tables).2.1 []
  drop : ∀ {w tree job}, g.law w tree [job] → g.law w.leave tree []
  tick : ∀ {w tree jobs}, g.law w tree jobs → g.law w.tick tree jobs
  idle : ∀ {w tree jobs}, g.law w tree jobs → w.timerTurn.2 = false →
    g.law w.timerTurn.1 tree jobs
  begun : ∀ {w tree jobs}, g.law w tree jobs → w.timerTurn.2 = true →
    g.law w.timerTurn.1 tree (⟨.check, none⟩ :: jobs)

structure Lasting (law : Watcher → List Job → Prop) : Prop where
  perm : ∀ {w jobs others}, law w jobs → jobs.Perm others → law w others
  alone : ∀ {w jobs}, law w jobs → jobs.length ≤ 1
  enter : ∀ {w entered jobs kind}, law w jobs → w.enter kind = .ok entered →
    law entered (⟨kind, none⟩ :: jobs)
  assess : ∀ {w assessed kind reading tables}, law w [⟨kind, none⟩] →
    w.assess kind reading = .ok (assessed, tables) → law assessed [⟨kind, some tables⟩]
  write : ∀ {w kind tables}, law w [⟨kind, some tables⟩] → ∀ tree now,
    law (w.regenerate tree now tables).1.leave []
  drop : ∀ {w job}, law w [job] → law w.leave []
  prime : ∀ {w jobs}, law w jobs → ∀ reading, law (w.prime reading).1 jobs
  stop : ∀ {w jobs}, law w jobs → law w.stop jobs
  timer : ∀ {w jobs}, law w jobs → ∀ timer, law { w with timer } jobs

theorem Lasting.enduring {law : Watcher → List Job → Prop} (lasting : Lasting law)
    {kinds : RunKind → Prop} {reads : Scope → Reading → Prop} (checks : kinds .check) :
    Enduring ⟨kinds, reads, fun w _ jobs => law w jobs⟩ where
  checks := checks
  perm := lasting.perm
  alone := lasting.alone
  enter h _ := lasting.enter h
  assess h _ := lasting.assess h
  write {_ tree _ _} h now := lasting.write h tree now
  drop := lasting.drop
  tick h := lasting.timer h _
  idle h idle := by
    obtain ⟨timer, same⟩ := turnIdle idle
    rw [same]
    exact lasting.timer h timer
  begun h begun := by
    obtain ⟨timer, entered⟩ := turnBegun begun
    exact lasting.enter (lasting.timer h timer) entered

theorem Lasting.start {law : Watcher → List Job → Prop} (lasting : Lasting law) {w : Watcher}
    {jobs : List Job} (h : law w jobs) (now : Nat) : law (w.start now).1 jobs := by
  unfold Watcher.start
  split
  · exact h
  · exact lasting.timer h _

def Run.job? (r : Run) : Option Job :=
  match r.stage with
  | .queued => none
  | .writing tables => some ⟨r.kind, some tables⟩
  | .admitted | .held | .released | .reading => some ⟨r.kind, none⟩

def Run.jobs (runs : List Run) : List Job := runs.filterMap Run.job?

theorem jobIffGate (r : Run) : r.job?.isSome = r.stage.hasGate := by
  obtain ⟨kind, joinable, stage⟩ := r
  cases stage <;> rfl

namespace Session

structure Endures (g : Regime) (s : Session) (waiting : List Run) (outer : List Job)
    (asked : Nat) : Prop where
  holds : g.law s.watcher s.tree (Run.jobs (s.runs ++ waiting) ++ outer)
  joinable : (s.runs ++ waiting).countP Run.joinable + asked ≤ 1
  kinds : ∀ r ∈ s.runs ++ waiting, g.kinds r.kind
  reads : ∀ scope, g.reads scope (s.source.discover scope)

variable {g : Regime} {s t : Session} {waiting : List Run} {job : Job} {outer : List Job}
  {asked : Nat}

theorem enduresSame (h : s.Endures g waiting outer asked)
    (watcher : t.watcher = s.watcher) (tree : t.tree = s.tree) (runs : t.runs = s.runs)
    (source : t.source = s.source) : t.Endures g waiting outer asked :=
  ⟨by rw [watcher, tree, runs]; exact h.holds, by rw [runs]; exact h.joinable,
    by rw [runs]; exact h.kinds, by rw [source]; exact h.reads⟩

theorem enduresClose {r : Run} {result : RunResult}
    (h : s.Endures g waiting outer (asked + r.joinable.toNat)) :
    (s.close r result).Endures g waiting outer asked := by
  have fewer : s.Endures g waiting outer asked :=
    { h with joinable := by have := h.joinable; omega }
  unfold close
  split
  · exact enduresSame fewer rfl rfl rfl rfl
  · exact fewer

theorem listingSame (s : Session) :
    s.listing.1.watcher = s.watcher ∧ s.listing.1.tree = s.tree ∧ s.listing.1.runs = s.runs ∧
      s.listing.1.source = s.source := by
  unfold listing
  split
  · dsimp only
    split <;> exact ⟨rfl, rfl, rfl, rfl⟩
  · exact ⟨rfl, rfl, rfl, rfl⟩

theorem enduresListing (h : s.Endures g waiting outer asked) :
    s.listing.1.Endures g waiting outer asked := by
  obtain ⟨watcher, tree, runs, source⟩ := listingSame s
  exact enduresSame h watcher tree runs source

theorem enduresTakeResult (h : s.Endures g [] outer asked) :
    s.takeResult.1.Endures g [] outer asked := by
  unfold takeResult
  split
  · exact enduresSame h rfl rfl rfl rfl
  · exact h

section
variable (enduring : Enduring g)
include enduring

theorem enduresPut {r : Run} {stage : Stage} (kind : g.kinds r.kind)
    (h : s.Endures g waiting (({ r with stage } : Run).job?.toList ++ outer)
      (asked + r.joinable.toNat)) : (s.put r stage).Endures g waiting outer asked where
  holds := by
    refine enduring.perm h.holds ?_
    cases job : ({ r with stage } : Run).job? with
    | none => simp [put, Run.jobs, job]
    | some own => simpa [put, Run.jobs, job] using List.perm_middle.append_left _
  joinable := by
    have bound := h.joinable
    simp only [put, List.countP_append, List.countP_cons] at bound ⊢
    cases joinable : r.joinable with
    | false => simp_all
    | true =>
        simp_all
        omega
  kinds := by
    have kinds := h.kinds
    simp only [put, List.mem_append, List.mem_singleton] at kinds ⊢
    rintro r' ((there | rfl) | waits)
    · exact kinds r' (.inl there)
    · exact kind
    · exact kinds r' (.inr waits)
  reads := h.reads

theorem enduresAlone (h : s.Endures g waiting (job :: outer) asked) :
    Run.jobs (s.runs ++ waiting) = [] ∧ outer = [] ∧ g.law s.watcher s.tree [job] := by
  have bound := enduring.alone h.holds
  simp only [List.length_append, List.length_cons] at bound
  have nobody : Run.jobs (s.runs ++ waiting) = [] := List.length_eq_zero_iff.mp (by omega)
  have none : outer = [] := List.length_eq_zero_iff.mp (by omega)
  have holds := h.holds
  rw [nobody, none] at holds
  exact ⟨nobody, none, holds⟩

theorem enduresMoved {watcher : Watcher} {next : Job}
    (h : s.Endures g waiting (job :: outer) asked) (moved : g.law watcher s.tree [next]) :
    ({ s with watcher } : Session).Endures g waiting (next :: outer) asked := by
  obtain ⟨nobody, rfl, -⟩ := enduresAlone enduring h
  refine ⟨?_, h.joinable, h.kinds, h.reads⟩
  show g.law watcher s.tree (Run.jobs (s.runs ++ waiting) ++ [next])
  rw [nobody]
  exact moved

theorem enduresGone {watcher : Watcher} {tree : FileTree}
    (h : s.Endures g waiting (job :: outer) asked) (gone : g.law watcher tree []) :
    ({ s with watcher, tree } : Session).Endures g waiting outer asked := by
  obtain ⟨nobody, rfl, -⟩ := enduresAlone enduring h
  refine ⟨?_, h.joinable, h.kinds, h.reads⟩
  show g.law watcher tree (Run.jobs (s.runs ++ waiting) ++ [])
  rw [nobody]
  exact gone

theorem enduresLeave (h : s.Endures g waiting (job :: outer) asked) :
    s.leave.Endures g waiting outer asked :=
  enduresGone enduring h (enduring.drop (enduresAlone enduring h).2.2)

theorem enduresWrite {kind : RunKind} {tables : List Table}
    (h : s.Endures g waiting (⟨kind, some tables⟩ :: outer) asked) :
    (s.write tables).1.Endures g waiting outer asked :=
  enduresGone (s := s) enduring h (enduring.write (enduresAlone enduring h).2.2 s.now)

theorem enduresAssess {r : Run} (kind : g.kinds r.kind)
    (h : s.Endures g waiting (⟨r.kind, none⟩ :: outer) (asked + r.joinable.toNat)) :
    (s.assess r).Endures g waiting outer asked := by
  have own := (enduresAlone enduring h).2.2
  unfold assess
  cases assessed : s.watcher.assess r.kind s.reading with
  | error result => exact enduresClose (enduresLeave enduring h)
  | ok next =>
      have moved := enduring.assess own (h.reads s.watcher.scope) assessed
      exact enduresPut enduring kind (enduresMoved enduring h moved)

theorem enduresRead {r : Run} (kind : g.kinds r.kind)
    (h : s.Endures g waiting (⟨r.kind, none⟩ :: outer) (asked + r.joinable.toNat)) :
    (s.read r).Endures g waiting outer asked := by
  unfold read
  split
  · exact enduresPut enduring kind h
  · exact enduresAssess enduring kind h

theorem enduresList {r : Run} (kind : g.kinds r.kind)
    (h : s.Endures g waiting (⟨r.kind, none⟩ :: outer) (asked + r.joinable.toNat)) :
    (s.list r).Endures g waiting outer asked := by
  unfold list
  have listed := enduresListing h
  dsimp only
  split
  · exact enduresPut enduring kind listed
  · exact enduresRead enduring kind listed

theorem enduresEntered {watcher : Watcher} {kind : RunKind} (allowed : g.kinds kind)
    (h : s.Endures g waiting outer asked) (entered : s.watcher.enter kind = .ok watcher) :
    ({ s with watcher } : Session).Endures g waiting (⟨kind, none⟩ :: outer) asked where
  holds := enduring.perm (enduring.enter h.holds allowed entered) List.perm_middle.symm
  joinable := h.joinable
  kinds := h.kinds
  reads := h.reads

theorem enduresEnter {r : Run} (kind : g.kinds r.kind)
    (h : s.Endures g waiting outer (asked + r.joinable.toNat)) :
    (s.enter r).Endures g waiting outer asked := by
  unfold enter
  cases entered : s.watcher.enter r.kind with
  | error seen => exact enduresClose h
  | ok watcher => exact enduresList enduring kind (enduresEntered enduring kind h entered)

theorem enduresNext {r : Run} (h : s.Endures g (r :: waiting) outer asked) :
    g.kinds r.kind ∧
      s.Endures g waiting (r.job?.toList ++ outer) (asked + r.joinable.toNat) := by
  refine ⟨h.kinds r (by simp), ?_, ?_, fun r' there => h.kinds r' ?_, h.reads⟩
  · refine enduring.perm h.holds ?_
    cases job : r.job? with
    | none => simp [Run.jobs, job]
    | some own => simpa [Run.jobs, job] using List.perm_middle.symm.append_left _
  · have bound := h.joinable
    simp only [List.countP_append, List.countP_cons] at bound ⊢
    cases joinable : r.joinable with
    | false => simp_all
    | true =>
        simp_all
        omega
  · exact (List.mem_append.mp there).elim (List.mem_append_left _)
      fun waits => List.mem_append_right _ (List.mem_cons_of_mem r waits)

theorem enduresTurn {r : Run} (h : s.Endures g (r :: waiting) outer asked) :
    (s.turn r).Endures g waiting outer asked := by
  obtain ⟨kind, mine⟩ := enduresNext enduring h
  obtain ⟨own, joinable, stage⟩ := r
  cases stage with
  | queued => exact enduresEnter enduring kind mine
  | admitted => exact enduresList enduring kind mine
  | released => exact enduresRead enduring kind mine
  | held | reading | writing => exact enduresPut enduring kind mine

theorem enduresTurnAfterReading {r : Run} (h : s.Endures g (r :: waiting) outer asked) :
    (s.turnAfterReading r).Endures g waiting outer asked := by
  obtain ⟨kind, mine⟩ := enduresNext enduring h
  obtain ⟨own, joinable, stage⟩ := r
  cases stage with
  | reading => exact enduresAssess enduring kind mine
  | queued | admitted | held | released | writing => exact enduresPut enduring kind mine

theorem enduresTurnWriting {r : Run} (h : s.Endures g (r :: waiting) outer asked) :
    (s.turnWriting r).Endures g waiting outer asked := by
  obtain ⟨kind, mine⟩ := enduresNext enduring h
  obtain ⟨own, joinable, stage⟩ := r
  cases stage with
  | writing tables => exact enduresClose (enduresWrite enduring mine)
  | queued | admitted | held | released | reading => exact enduresPut enduring kind mine

omit enduring in
theorem enduresTurns {turn : Session → Run → Session}
    (keeps : ∀ {s r waiting}, s.Endures g (r :: waiting) outer asked →
      (turn s r).Endures g waiting outer asked)
    (h : s.Endures g [] outer asked) : (s.turns turn).Endures g [] outer asked := by
  -- By induction on the runs that have not had their turn.
  have fold : ∀ (waiting : List Run) (t : Session), t.Endures g waiting outer asked →
      (waiting.foldl turn t).Endures g [] outer asked := by
    intro waiting
    induction waiting with
    | nil => exact fun t h => h
    | cons r rest ih => exact fun t h => ih (turn t r) (keeps h)
  refine fold s.runs { s with runs := [] } ⟨?_, ?_, ?_, h.reads⟩
  · simpa using h.holds
  · simpa using h.joinable
  · simpa using h.kinds

theorem enduresTimerTurn (h : s.Endures g [] outer asked) :
    s.timerTurn.Endures g [] outer asked := by
  unfold timerTurn
  dsimp only
  cases turned : s.watcher.timerTurn.2 with
  | false => exact ⟨enduring.idle h.holds turned, h.joinable, h.kinds, h.reads⟩
  | true =>
      have begun := enduring.perm (enduring.begun h.holds turned) List.perm_middle.symm
      refine enduresPut (r := ⟨.check, false, .admitted⟩) enduring enduring.checks ?_
      exact ⟨begun, h.joinable, h.kinds, h.reads⟩

theorem enduresSettle (h : s.Endures g [] outer asked) : s.settle.Endures g [] outer asked :=
  enduresTurns (enduresTurnAfterReading enduring)
    (enduresTurns (enduresTurn enduring) (enduresTimerTurn enduring h))

theorem enduresComplete (h : s.Endures g [] outer asked) :
    s.complete.Endures g [] outer asked :=
  enduresTurns (enduresTurnWriting enduring) (enduresSettle enduring h)

theorem enduresAwaitTables (h : s.Endures g [] outer asked) :
    s.awaitTables.Endures g [] outer asked := by
  unfold awaitTables
  dsimp only
  split
  · exact enduresSettle enduring (enduresListing h)
  · exact enduresListing h

theorem enduresRun {kind : RunKind} (allowed : g.kinds kind) (h : s.Endures g [] [] 0) :
    (s.run kind).1.Endures g [] [] 0 := by
  unfold run
  cases entered : s.watcher.enter kind with
  | error seen => exact h
  | ok watcher =>
      have listed := enduresAwaitTables enduring (enduresEntered enduring allowed h entered)
      dsimp only
      generalize Session.awaitTables { s with watcher } = t at listed ⊢
      have own := (enduresAlone enduring listed).2.2
      cases assessed : t.watcher.assess kind t.reading with
      | error result => exact enduresLeave enduring listed
      | ok next =>
          have moved := enduring.assess own (listed.reads t.watcher.scope) assessed
          exact enduresWrite enduring (enduresSettle enduring (enduresMoved enduring listed moved))

theorem enduresTick (h : s.Endures g [] outer asked) (now : Nat) :
    ({ s with now, watcher := s.watcher.tick } : Session).Endures g [] outer asked :=
  ⟨enduring.tick h.holds, h.joinable, h.kinds, h.reads⟩

theorem enduresTickAt (h : s.Endures g [] outer asked) (later time : Nat) :
    (s.tickAt later time).Endures g [] outer asked := by
  have ticked := enduresTick enduring h time
  unfold tickAt
  dsimp only
  split
  · exact enduresComplete enduring ticked
  · exact ticked

theorem enduresAdvance (h : s.Endures g [] outer asked) (ms : Nat) :
    (s.advance ms).Endures g [] outer asked := by
  have ticks : ∀ (later : Nat) (times : List Nat) (t : Session), t.Endures g [] outer asked →
      (times.foldl (fun s time => s.tickAt later time) t).Endures g [] outer asked := by
    intro later times
    induction times with
    | nil => exact fun t h => h
    | cons time rest ih => exact fun t h => ih _ (enduresTickAt enduring h later time)
  unfold advance
  split
  · exact h
  · exact enduresSame (ticks _ _ _ (enduresComplete enduring h)) rfl rfl rfl rfl

theorem enduresAwaitHeld (h : s.Endures g [] outer asked) :
    s.awaitHeld.Endures g [] outer asked := by
  have settled := enduresSettle enduring h
  have completed := enduresComplete enduring settled
  unfold awaitHeld
  split
  · exact h
  · dsimp only
    split
    · exact settled
    · split
      · exact enduresSettle enduring (enduresTick enduring completed _)
      · exact completed

theorem enduresBackground {kind : RunKind} (allowed : g.kinds kind) (h : s.Endures g [] [] 0) :
    (s.background kind).Endures g [] [] 0 := by
  have others : Run.jobs (s.runs.map fun r => { r with joinable := false }) = Run.jobs s.runs := by
    simp only [Run.jobs, List.filterMap_map]
    rfl
  have started : ({ s with
      runs := s.runs.map (fun r => { r with joinable := false }) ++ [Run.mk kind true .queued],
      ended := none } : Session).Endures g [] [] 0 := by
    refine ⟨?_, ?_, ?_, h.reads⟩
    · have holds := h.holds
      simp only [List.append_nil] at holds ⊢
      rw [Run.jobs, List.filterMap_append]
      exact (List.append_nil _).trans others ▸ holds
    · simp [List.countP_append, List.countP_map, Function.comp_def]
    · have kinds := h.kinds
      simp only [List.append_nil, List.mem_append, List.mem_map, List.mem_singleton] at kinds ⊢
      rintro r (⟨r', there, rfl⟩ | rfl)
      · exact kinds r' there
      · exact allowed
  exact enduresSame (enduresAwaitHeld enduring started) rfl rfl rfl rfl

omit enduring in
theorem foundFirst {p : Run → Bool} {runs : List Run} {r : Run} (found : runs.find? p = some r)
    (only : runs.countP p ≤ 1) : runs.Perm (r :: runs.filter (!p ·)) := by
  induction runs with
  | nil => contradiction
  | cons head rest ih =>
      cases test : p head with
      | false =>
          simp only [List.find?_cons, test, List.countP_cons] at found only
          simpa [test] using ((ih found (by simpa using only)).cons head).trans (.swap ..)
      | true =>
          obtain rfl : head = r := by simpa [test] using found
          have others : ∀ a ∈ rest, p a = false := by
            simpa [test, List.countP_eq_zero] using only
          rw [List.filter_cons_of_neg (by simp [test])]
          exact .of_eq (by rw [List.filter_eq_self.mpr (by simpa using others)])

theorem enduresFound {p : Run → Bool} {r : Run} (h : s.Endures g [] outer asked)
    (found : s.runs.find? p = some r) (only : s.runs.countP p ≤ 1) :
    ({ s with runs := s.runs.filter (!p ·) } : Session).Endures g [r] outer asked := by
  have same : s.runs.Perm (s.runs.filter (!p ·) ++ [r]) :=
    (foundFirst found only).trans (List.perm_append_singleton ..).symm
  refine ⟨enduring.perm h.holds ?_, ?_, fun r' there => h.kinds r' ?_, h.reads⟩
  · simpa [Run.jobs] using (same.filterMap Run.job?).append_right outer
  · have bound := h.joinable
    rw [List.append_nil, same.countP_eq] at bound
    exact bound
  · rw [List.append_nil]
    exact same.mem_iff.mpr there

theorem oneHeld (h : s.Endures g [] outer asked) : s.runs.countP (·.stage = .held) ≤ 1 := by
  have bound := enduring.alone h.holds
  have holders : s.runs.countP (·.stage = .held) ≤ s.runs.countP (·.job?.isSome) := by
    refine List.countP_mono_left fun r _ held => ?_
    rw [jobIffGate, of_decide_eq_true held]
    rfl
  rw [List.append_nil, List.length_append, Run.jobs, List.length_filterMap_eq_countP] at bound
  omega

theorem enduresLetGo (h : s.Endures g [] outer asked) : s.letGo.Endures g [] outer asked := by
  unfold letGo
  dsimp only
  cases found : s.runs.find? (·.stage = .held) with
  | none => exact enduresSame h rfl rfl rfl rfl
  | some r =>
      have held : r.stage = .held := by simpa using List.find?_some found
      obtain ⟨kind, mine⟩ :=
        enduresNext enduring (enduresFound enduring h found (oneHeld enduring h))
      obtain ⟨own, joinable, stage⟩ := r
      cases held
      refine enduresPut enduring (r := ⟨own, joinable, .held⟩) kind
        (enduresSame mine rfl rfl ?_ rfl)
      simp [decide_not]

theorem enduresJoin (h : s.Endures g [] outer asked) : s.join.1.Endures g [] outer asked := by
  have settled := enduresSettle enduring h
  unfold join
  split
  · dsimp only
    split
    · exact enduresTakeResult settled
    · exact enduresTakeResult (enduresComplete enduring settled)
  · exact enduresTakeResult h

theorem enduresAbandon (r : Run) (h : s.Endures g [] (r.job?.toList ++ []) 0) :
    (if r.stage.hasGate then s.leave else s).Endures g [] [] 0 := by
  have gate := jobIffGate r
  cases job : r.job? with
  | none =>
      rw [job] at h gate
      rw [← gate]
      exact h
  | some own =>
      rw [job] at h gate
      rw [← gate]
      exact enduresLeave enduring h

theorem enduresAbort (h : s.Endures g [] [] 0) : s.abort.1.Endures g [] [] 0 := by
  unfold abort
  cases found : s.runs.find? (·.joinable) with
  | none =>
      have taken := enduresTakeResult h
      dsimp only
      split <;> simp_all
  | some r =>
      have one : s.runs.countP (·.joinable) ≤ 1 := by simpa using h.joinable
      obtain ⟨-, dropped⟩ := enduresNext enduring (enduresFound enduring h found one)
      have settled : Session.Endures g _ [] (r.job?.toList ++ []) 0 :=
        enduresSettle enduring { dropped with joinable := by have := dropped.joinable; omega }
      have gone := enduresAbandon enduring r settled
      dsimp only
      split
      · exact enduresSame gone rfl rfl rfl rfl
      · exact gone

end

def Bears (g : Regime) (s : Session) : Action → Prop
  | .change change =>
      ∀ scope, g.reads scope ((s.step (.change change)).1.source.discover scope)
  | .run kind | .background kind => g.kinds kind
  | .prime => ∀ {w tree jobs}, g.law w tree jobs → ∀ reading, g.law (w.prime reading).1 tree jobs
  | .start => g.law (s.watcher.start s.now).1 s.tree (Run.jobs s.runs)
  | .stop => g.law s.watcher.stop s.tree (Run.jobs s.runs)
  | .files tree => g.law s.watcher tree (Run.jobs s.runs)
  | .hold | .letGo | .join | .abort | .advance _ => True

section
variable (enduring : Enduring g)
include enduring

theorem enduresStep (h : s.Endures g [] [] 0) {action : Action} (bears : s.Bears g action) :
    (s.step action).1.Endures g [] [] 0 := by
  have set {watcher : Watcher} {tree : FileTree} (law : g.law watcher tree (Run.jobs s.runs)) :
      ({ s with watcher, tree } : Session).Endures g [] [] 0 :=
    ⟨by simpa using law, h.joinable, h.kinds, h.reads⟩
  cases action with
  | change change => exact ⟨h.holds, h.joinable, h.kinds, bears⟩
  | files tree => exact set bears
  | prime =>
      have listed := enduresAwaitTables enduring h
      exact ⟨bears listed.holds _, listed.joinable, listed.kinds, listed.reads⟩
  | run kind => exact enduresRun enduring bears h
  | hold => exact enduresSame h rfl rfl rfl rfl
  | background kind => exact enduresBackground enduring bears h
  | letGo => exact enduresLetGo enduring h
  | join => exact enduresJoin enduring h
  | abort => exact enduresAbort enduring h
  | start => exact set bears
  | stop => exact set bears
  | advance ms => exact enduresAdvance enduring h ms

end

def after (s : Session) (actions : List Action) : Session :=
  actions.foldl (fun s action => (s.step action).1) s

theorem enduresAfter (enduring : Enduring g) (h : s.Endures g [] [] 0) (actions : List Action)
    (bears : ∀ before action rest, actions = before ++ action :: rest →
      (s.after before).Endures g [] [] 0 → (s.after before).Bears g action) :
    (s.after actions).Endures g [] [] 0 := by
  induction actions generalizing s with
  | nil => exact h
  | cons action rest ih =>
      refine ih (enduresStep enduring h (bears [] action rest rfl h))
        fun before next more same => ?_
      exact bears (action :: before) next more (congrArg _ same)

structure Upholds (law : Watcher → List Job → Prop) (s : Session) (waiting : List Run)
    (outer : List Job) (asked : Nat) : Prop where
  holds : law s.watcher (Run.jobs (s.runs ++ waiting) ++ outer)
  joinable : (s.runs ++ waiting).countP Run.joinable + asked ≤ 1

theorem lastingBears {law : Watcher → List Job → Prop} (lasting : Lasting law)
    (h : law s.watcher (Run.jobs s.runs)) (action : Action) :
    s.Bears (.free fun w _ jobs => law w jobs) action := by
  cases action with
  | prime => exact fun holds reading => lasting.prime holds reading
  | start => exact lasting.start h s.now
  | stop => exact lasting.stop h
  | files tree => exact h
  | change | run | background | hold | letGo | join | abort | advance => simp [Bears, Regime.free]

theorem upholdsAfter {law : Watcher → List Job → Prop} (lasting : Lasting law)
    (h : s.Upholds law [] [] 0) (actions : List Action) :
    (s.after actions).Upholds law [] [] 0 := by
  have start : s.Endures (.free fun w _ jobs => law w jobs) [] [] 0 :=
    ⟨h.holds, h.joinable, fun _ _ => trivial, fun _ => trivial⟩
  have ended := enduresAfter (lasting.enduring trivial) start actions fun _ action _ _ between =>
    lastingBears lasting (by simpa [Regime.free] using between.holds) action
  exact ⟨ended.holds, ended.joinable⟩

end Session
end RestScaffold
