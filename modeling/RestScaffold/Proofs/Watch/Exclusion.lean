import RestScaffold.Proofs.Watch.Gatehouse
import RestScaffold.Proofs.Watch.Lasting

/-! Sessions let their runs through the gate as a gatehouse does: whatever is done in a session, its
gate and the runs that have it come about by moves of a gatehouse. -/
namespace RestScaffold

def Run.phase? (r : Run) : Option WatchState :=
  match r.stage with
  | .queued => none
  | .writing _ => some .regenerating
  | .admitted | .held | .released | .reading => some r.kind.state

def Run.phases (runs : List Run) : List WatchState := runs.filterMap Run.phase?

namespace Gatehouse

def Reaches (gate : Gate) (phases : List WatchState) : Prop :=
  ∃ moves, (run {} moves).cell = gate ∧ ((run {} moves).live.map Holder.phase).Perm phases

theorem reachesInitial : Reaches {} [] := ⟨[], rfl, .refl _⟩

variable {gate next : Gate} {phases : List WatchState}

theorem reachesAtMostOne (h : Reaches gate phases) : phases.length ≤ 1 := by
  obtain ⟨moves, -, same⟩ := h
  rw [← same.length_eq, List.length_map]
  exact atMostOneHolder (runOrderly initialOrderly moves)

theorem reachesBusy (h : Reaches gate phases) (taken : phases ≠ []) : gate.state ≠ .idle := by
  obtain ⟨moves, rfl, live⟩ := h
  have held : (run {} moves).live ≠ [] := by
    intro none
    rw [none] at live
    exact taken (by simpa using live.symm.eq_nil)
  rcases (busyIffHeld (runOrderly initialOrderly moves)).mpr held with state | state <;>
    simp [state]

theorem reachesPerm {others : List WatchState} (h : Reaches gate phases)
    (same : phases.Perm others) : Reaches gate others := by
  obtain ⟨moves, cell, live⟩ := h
  exact ⟨moves, cell, live.trans same⟩

theorem reachesHolder {phase : WatchState} (h : Reaches gate [phase]) :
    ∃ moves holder, (run {} moves).cell = gate ∧ (run {} moves).live = [holder] ∧
      holder.phase = phase := by
  obtain ⟨moves, cell, live⟩ := h
  obtain ⟨holder, rest, whole, rfl, none⟩ := List.map_eq_cons_iff.mp (List.perm_singleton.mp live)
  exact ⟨moves, holder, cell, by rw [whole, List.map_eq_nil_iff.mp none], rfl⟩

theorem reachesArrive (h : Reaches gate phases) {kind : RunKind}
    (admitted : gate.acquire kind.state = .ok next) : Reaches next (kind.state :: phases) := by
  obtain ⟨moves, rfl, live⟩ := h
  refine ⟨moves ++ [.arrive kind], ?_⟩
  rw [runSnoc]
  simp only [step, admitted]
  exact ⟨trivial, live.cons _⟩

theorem reachesPromote (h : Reaches gate [.checking]) (promoted : gate.promote? = some next) :
    Reaches next [.regenerating] := by
  obtain ⟨moves, ⟨ticket, phase⟩, rfl, live, checking⟩ := reachesHolder h
  subst checking
  refine ⟨moves ++ [.promote ticket], ?_⟩
  rw [runSnoc]
  simp [step, live, promoted, promoteHolder]

theorem reachesDrop {phase : WatchState} (h : Reaches gate [phase]) : Reaches gate.release [] := by
  obtain ⟨moves, holder, rfl, live, -⟩ := reachesHolder h
  refine ⟨moves ++ [.drop holder.ticket], ?_⟩
  rw [runSnoc]
  simp [step, live]

theorem reachesStop (h : Reaches gate phases) : Reaches gate.requestStop phases := by
  obtain ⟨moves, rfl, live⟩ := h
  refine ⟨moves ++ [.stop], ?_⟩
  rw [runSnoc]
  exact ⟨rfl, live⟩

end Gatehouse

open Gatehouse (Reaches)

theorem enteredGate {w entered : Watcher} {kind : RunKind} (h : w.enter kind = .ok entered) :
    w.gate.acquire kind.state = .ok entered.gate := by
  obtain ⟨gate, admitted, rfl⟩ := enterOk h
  exact admitted

theorem assessedGate {w assessed : Watcher} {kind : RunKind} {reading : Reading}
    {tables : List Catalog.Table} (h : w.assess kind reading = .ok (assessed, tables))
    (reached : Reaches w.gate [kind.state]) : Reaches assessed.gate [.regenerating] := by
  obtain ⟨-, gate, rfl, ⟨rfl, rfl⟩ | ⟨rfl, promoted⟩⟩ := assessOk h
  · exact reached
  · exact Gatehouse.reachesPromote reached promoted

theorem regeneratedGate (w : Watcher) (tree : FileTree) (now : Nat) (tables : List Catalog.Table) :
    (w.regenerate tree now tables).1.gate = w.gate := by
  unfold Watcher.regenerate
  split <;> rfl

theorem primedGate (w : Watcher) (reading : Reading) : (w.prime reading).1.gate = w.gate := by
  unfold Watcher.prime
  split <;> rfl

def Job.phase (job : Job) : WatchState :=
  match job.tables with
  | none => job.kind.state
  | some _ => .regenerating

theorem phaseOfJob (r : Run) : r.phase? = r.job?.map Job.phase := by
  obtain ⟨kind, joinable, stage⟩ := r
  cases stage <;> rfl

theorem phasesOfJobs (runs : List Run) : Run.phases runs = (Run.jobs runs).map Job.phase := by
  rw [Run.phases, Run.jobs, List.map_filterMap, funext phaseOfJob]

theorem gateLasting : Lasting fun w jobs => Reaches w.gate (jobs.map Job.phase) where
  perm reached same := Gatehouse.reachesPerm reached (same.map _)
  alone reached := by simpa using Gatehouse.reachesAtMostOne reached
  enter reached entered := Gatehouse.reachesArrive reached (enteredGate entered)
  assess reached assessed := assessedGate assessed reached
  write {w _ tables} reached tree now := by
    have dropped := Gatehouse.reachesDrop reached
    rwa [← regeneratedGate w tree now tables] at dropped
  drop reached := Gatehouse.reachesDrop reached
  prime reached reading := by rwa [primedGate]
  stop reached := Gatehouse.reachesStop reached
  timer reached _ := reached

namespace Session

structure Guarded (s : Session) (waiting : List Run) (outer : List WatchState) (asked : Nat) :
    Prop where
  gate : Reaches s.watcher.gate (Run.phases (s.runs ++ waiting) ++ outer)
  joinable : (s.runs ++ waiting).countP Run.joinable + asked ≤ 1

variable {s : Session}

theorem guardedIff :
    s.Guarded [] [] 0 ↔
      s.Upholds (fun w jobs => Reaches w.gate (jobs.map Job.phase)) [] [] 0 := by
  constructor
  · rintro ⟨gate, joinable⟩
    exact ⟨by simpa [phasesOfJobs] using gate, joinable⟩
  · rintro ⟨gate, joinable⟩
    exact ⟨by simpa [phasesOfJobs] using gate, joinable⟩

theorem guardedAfter (h : s.Guarded [] [] 0) (actions : List Action) :
    (s.after actions).Guarded [] [] 0 :=
  guardedIff.mpr (upholdsAfter gateLasting (guardedIff.mp h) actions)

structure Fresh (s : Session) : Prop where
  gate : s.watcher.gate = {}
  runs : s.runs = []

theorem freshGuarded (h : s.Fresh) : s.Guarded [] [] 0 := by
  refine ⟨?_, ?_⟩
  · rw [h.gate, h.runs]
    exact Gatehouse.reachesInitial
  · simp [h.runs]

theorem heldRunRefused (h : s.Guarded [] [] 0) (held : Run.phases s.runs ≠ []) (kind : RunKind) :
    s.run kind = (s, kind.refusal s.watcher.state) := by
  have busy : s.watcher.gate.state ≠ .idle := Gatehouse.reachesBusy h.gate (by simpa using held)
  rw [run, enterBusy busy, Watcher.state]

end Session

open Gatehouse in
/-- Whatever moves are made, one run at most has the gate, the gate shows its phase, and whoever
comes meanwhile is refused without a trace. After a stop nobody is let in or promoted, and the gate
closes for good once it is free. Sessions go no other way. -/
theorem runsExcludeEachOther :
    (∀ moves : List Move,
      let s := Gatehouse.run {} moves
      s.live.length ≤ 1 ∧
      ((s.cell.state = .checking ∨ s.cell.state = .regenerating) ↔ s.live ≠ []) ∧
      (∀ holder ∈ s.live, holder.phase = s.cell.state) ∧
      (s.cell.stopRequested = true → s.cell.state ≠ .idle) ∧
      (s.cell.state = .idle → ∀ kind, (s.step (.arrive kind)).2 = .admitted s.issued ∧
        (s.step (.arrive kind)).1.cell.state = kind.state) ∧
      (s.cell.stopRequested = false →
        (∀ ticket, ⟨ticket, .checking⟩ ∈ s.live → (s.step (.promote ticket)).2 = .promoted ∧
          (s.step (.promote ticket)).1.cell.state = .regenerating) ∧
        (∀ holder ∈ s.live, (s.step (.drop holder.ticket)).1.cell.state = .idle)) ∧
      (s.live ≠ [] → ∀ kind later,
        s.replies (.arrive kind :: later) = .refused s.cell.state :: s.replies later ∧
        s.run (.arrive kind :: later) = s.run later) ∧
      (∀ later, let t := (s.step .stop).1.run later
        (∀ kind, t.step (.arrive kind) = (t, .refused t.cell.state)) ∧
        (∀ ticket, (t.step (.promote ticket)).1 = t ∧
          (t.step (.promote ticket)).2 ≠ .promoted) ∧
        (∀ holder ∈ t.live, (t.step (.drop holder.ticket)).1.cell.state = .stopped) ∧
        (t.live = [] → t.cell.state = .stopped)) ∧
      (s.cell.state = .stopped → ∀ later, (s.run later).cell.state = .stopped)) ∧
    (∀ (fresh : Session) (actions : List Action), fresh.Fresh →
      let t := fresh.after actions
      (∃ moves, (Gatehouse.run {} moves).cell = t.watcher.gate ∧
        ((Gatehouse.run {} moves).live.map Holder.phase).Perm (Run.phases t.runs)) ∧
      (Run.phases t.runs ≠ [] → ∀ kind, t.run kind = (t, kind.refusal t.watcher.state))) := by
  constructor
  · intro moves s
    have orderly : Orderly s := runOrderly initialOrderly moves
    refine ⟨atMostOneHolder orderly, busyIffHeld orderly, fun _ => holderPhaseShown orderly,
      stopRequestedNotIdle orderly, freeAdmits, ?_, ?_, ?_, stoppedStays orderly⟩
    · intro unasked
      exact ⟨fun _ checking => checkingPromotes checking unasked,
        fun _ member => dropFrees member unasked⟩
    · intro held kind later
      have refused := heldRefuses orderly held kind
      exact ⟨by rw [replies, refused], by rw [run, List.foldl_cons, refused]; rfl⟩
    · intro later t
      have closing : Closing t := runClosing (stopCloses orderly) later
      exact ⟨closingRefuses closing, closingPromotesNobody closing,
        fun _ => closingDropCloses closing, closingEmptyStopped closing⟩
  · intro fresh actions start t
    have guarded : t.Guarded [] [] 0 := Session.guardedAfter (Session.freshGuarded start) actions
    have gate := guarded.gate
    simp only [List.append_nil] at gate
    exact ⟨gate, Session.heldRunRefused guarded⟩

theorem triggerDuringCheckLeavesNoTrace :
    (Gatehouse.run {} [.arrive .check]).live ≠ [] ∧
      (Gatehouse.run {} [.arrive .check]).run [.arrive .trigger, .drop 0] =
        (Gatehouse.run {} [.arrive .check]).run [.drop 0] := by
  obtain ⟨-, -, -, -, -, -, refused, -⟩ := runsExcludeEachOther.1 [.arrive .check]
  have held : (Gatehouse.run {} [.arrive .check]).live ≠ [] := by decide
  exact ⟨held, (refused held .trigger [.drop 0]).2⟩

end RestScaffold
