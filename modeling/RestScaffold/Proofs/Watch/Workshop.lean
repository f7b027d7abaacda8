import RestScaffold.Proofs.Watch.Watchroom

/-! A watchroom with the files that its runs write, the timer, and whoever starts and stops it. All
of them go on in any order. What a session does, a workshop does as well. -/
namespace RestScaffold
open Catalog

structure Workshop extends Watchroom where
  tree : FileTree

namespace Workshop

inductive Deed where
  | prime (reading : Reading)
  | arrive (kind : RunKind)
  | read (ticket : Nat) (reading : Reading)
  | write (ticket : Nat) (now : Nat)
  | drop (ticket : Nat) (left : FileTree)
  | stop
  | start (now : Nat)
  | tick
  | turn
  | files (tree : FileTree)

inductive Reply where
  | room (reply : Watchroom.Reply)
  | started (result : Except WatcherError Unit)
  | done

def moved (s : Workshop) (move : Watchroom.Move) (tree : FileTree) : Workshop × Reply :=
  (⟨(s.toWatchroom.step move).1, tree⟩, .room (s.toWatchroom.step move).2)

def tables? (s : Workshop) (ticket : Nat) : Option (List Table) :=
  (s.jobs.lookup ticket).bind Job.tables

def step (s : Workshop) : Deed → Workshop × Reply
  | .prime reading => s.moved (.prime reading) s.tree
  | .arrive kind => s.moved (.arrive kind) s.tree
  | .read ticket reading => s.moved (.read ticket reading) s.tree
  | .write ticket now =>
      s.moved (.write ticket s.tree now) (match s.tables? ticket with
        | some tables => (s.watcher.regenerate s.tree now tables).2.1
        | none => s.tree)
  | .drop ticket left =>
      s.moved (.drop ticket) (match s.tables? ticket with
        | some _ => left
        | none => s.tree)
  | .stop => s.moved .stop s.tree
  | .start now =>
      ({ s with watcher := (s.watcher.start now).1 }, .started (s.watcher.start now).2)
  | .tick => ({ s with watcher := s.watcher.tick }, .done)
  | .turn =>
      if s.watcher.timerTurn.2 then
        (⟨⟨s.watcher.timerTurn.1, (s.issued, ⟨.check, none⟩) :: s.jobs, s.issued + 1⟩, s.tree⟩,
          .room (.admitted s.issued))
      else ({ s with watcher := s.watcher.timerTurn.1 }, .done)
  | .files tree => ({ s with tree }, .done)

def run (s : Workshop) (deeds : List Deed) : Workshop :=
  deeds.foldl (fun s deed => (s.step deed).1) s

theorem runAppend (s : Workshop) (deeds more : List Deed) :
    s.run (deeds ++ more) = (s.run deeds).run more := List.foldl_append

theorem runSnoc (s : Workshop) (deeds : List Deed) (deed : Deed) :
    s.run (deeds ++ [deed]) = ((s.run deeds).step deed).1 := by
  simp [run]

variable {s t : Workshop} {ticket : Nat} {job : Job} {g : Regime}

def Keeps (g : Regime) (s : Workshop) : Prop := g.law s.watcher s.tree (s.jobs.map Prod.snd)

def Bears (g : Regime) (s : Workshop) : Deed → Prop
  | .prime reading => g.law (s.watcher.prime reading).1 s.tree (s.jobs.map Prod.snd)
  | .arrive kind => g.kinds kind
  | .read _ reading => g.reads s.watcher.scope reading
  | .drop _ left => ∀ kind tables, g.law s.watcher s.tree [⟨kind, some tables⟩] →
      g.law s.watcher.leave left []
  | .stop => g.law s.watcher.stop s.tree (s.jobs.map Prod.snd)
  | .start now => g.law (s.watcher.start now).1 s.tree (s.jobs.map Prod.snd)
  | .files tree => g.law s.watcher tree (s.jobs.map Prod.snd)
  | .write .. | .tick | .turn => True

section
variable (enduring : Enduring g)
include enduring

theorem aloneJob (h : s.Keeps g) (known : s.jobs.lookup ticket = some job) :
    g.law s.watcher s.tree [job] ∧ s.others ticket = [] := by
  obtain ⟨first, last, jobs, -⟩ := List.lookup_eq_some_iff.mp known
  have one := enduring.alone h
  simp only [List.length_map, jobs, List.length_append, List.length_cons] at one
  rw [List.length_eq_zero_iff.mp (by omega : first.length = 0),
    List.length_eq_zero_iff.mp (by omega : last.length = 0)] at jobs
  rw [Keeps, jobs] at h
  exact ⟨h, by simp [Watchroom.others, jobs]⟩

theorem stepKeeps (h : s.Keeps g) {deed : Deed} (bears : s.Bears g deed) :
    (s.step deed).1.Keeps g := by
  cases deed with
  | prime reading => exact bears
  | arrive kind =>
      simp only [step, moved, Watchroom.step]
      split
      · exact h
      · rename_i entered
        exact enduring.enter h bears entered
  | read ticket reading =>
      simp only [step, moved, Watchroom.step]
      split
      · rename_i known
        obtain ⟨own, none⟩ := aloneJob enduring h known
        split
        · rw [none]
          exact enduring.drop own
        · rename_i assessed
          rw [none]
          exact enduring.assess own bears assessed
      · exact h
  | write ticket now =>
      simp only [step, moved, Watchroom.step, tables?]
      cases known : s.jobs.lookup ticket with
      | none => exact h
      | some job =>
          obtain ⟨kind, tables⟩ := job
          obtain ⟨own, none⟩ := aloneJob enduring h known
          cases tables with
          | none => exact h
          | some tables =>
              dsimp only
              rw [none]
              exact enduring.write own now
  | drop ticket left =>
      simp only [step, moved, Watchroom.step, tables?]
      cases known : s.jobs.lookup ticket with
      | none => exact h
      | some job =>
          obtain ⟨kind, tables⟩ := job
          obtain ⟨own, none⟩ := aloneJob enduring h known
          dsimp only
          rw [none]
          cases tables with
          | none => exact enduring.drop own
          | some tables => exact bears kind tables own
  | stop => exact bears
  | start now => exact bears
  | tick => exact enduring.tick h
  | turn =>
      simp only [step]
      split
      · rename_i begun
        exact enduring.begun h begun
      · rename_i idle
        exact enduring.idle h (by simpa using idle)
  | files tree => exact bears

theorem runKeeps (h : s.Keeps g) (deeds : List Deed)
    (bears : ∀ before deed rest, deeds = before ++ deed :: rest →
      (s.run before).Keeps g → (s.run before).Bears g deed) : (s.run deeds).Keeps g := by
  induction deeds generalizing s with
  | nil => exact h
  | cons deed rest ih =>
      refine ih (stepKeeps enduring h (bears [] deed rest rfl h)) fun before next more same => ?_
      exact bears (deed :: before) next more (congrArg _ same)

end

theorem lastingBears {law : Watcher → List Job → Prop} (lasting : Lasting law)
    (h : s.toWatchroom.Keeps law) (deed : Deed) :
    s.Bears (.free fun w _ jobs => law w jobs) deed := by
  cases deed with
  | prime reading => exact lasting.prime h reading
  | start now => exact lasting.start h now
  | stop => exact lasting.stop h
  | files tree => exact h
  | drop ticket left => exact fun kind tables own => lasting.drop own
  | arrive | read | write | tick | turn => simp [Bears, Regime.free]

theorem runLasts {law : Watcher → List Job → Prop} (lasting : Lasting law)
    (h : s.toWatchroom.Keeps law) (deeds : List Deed) : (s.run deeds).toWatchroom.Keeps law :=
  runKeeps (g := .free fun w _ jobs => law w jobs) (lasting.enduring trivial) h deeds
    fun _ deed _ _ between => lastingBears lasting between deed

def opened (settings : Settings) (binder : Binder) (tree : FileTree) : Workshop :=
  ⟨Watchroom.opened settings binder, tree⟩

section
variable (settings : Settings) (binder : Binder) (tree : FileTree) (deeds : List Deed)

theorem openedReaches : ((opened settings binder tree).run deeds).toWatchroom.Keeps fun w jobs =>
    Gatehouse.Reaches w.gate (jobs.map Job.phase) :=
  runLasts gateLasting (Watchroom.openedKeeps settings binder) deeds

theorem openedAlone : ((opened settings binder tree).run deeds).jobs.length ≤ 1 := by
  simpa using gateLasting.alone (openedReaches settings binder tree deeds)

end

def Leads (s : Workshop) (w : Watcher) (tree : FileTree) (jobs : List Job) : Prop :=
  ∃ deeds, (s.run deeds).watcher = w ∧ (s.run deeds).tree = tree ∧
    ((s.run deeds).jobs.map Prod.snd).Perm jobs

theorem leadsLone {w : Watcher} {tree : FileTree} (h : s.Leads w tree [job]) :
    ∃ deeds ticket, (s.run deeds).watcher = w ∧ (s.run deeds).tree = tree ∧
      (s.run deeds).jobs = [(ticket, job)] := by
  obtain ⟨deeds, watcher, tree, jobs⟩ := h
  obtain ⟨⟨ticket, own⟩, rest, whole, rfl, none⟩ :=
    List.map_eq_cons_iff.mp (List.perm_singleton.mp jobs)
  exact ⟨deeds, ticket, watcher, tree, by rw [whole, List.map_eq_nil_iff.mp none]⟩

theorem leadsEnduring (one : ∀ deeds, (s.run deeds).jobs.length ≤ 1) :
    Enduring (.free s.Leads) where
  checks := trivial
  perm := by
    rintro w tree jobs others ⟨deeds, watcher, left, same⟩ perm
    exact ⟨deeds, watcher, left, same.trans perm⟩
  alone := by
    rintro w tree jobs ⟨deeds, -, -, same⟩
    rw [← same.length_eq, List.length_map]
    exact one deeds
  enter := by
    rintro w entered tree jobs kind ⟨deeds, rfl, rfl, same⟩ - admitted
    refine ⟨deeds ++ [.arrive kind], ?_⟩
    rw [runSnoc]
    simp only [step, moved, Watchroom.step, admitted]
    exact ⟨trivial, trivial, same.cons _⟩
  assess := by
    intro w assessed tree kind reading tables h _ next
    obtain ⟨deeds, ticket, rfl, rfl, jobs⟩ := leadsLone h
    refine ⟨deeds ++ [.read ticket reading], ?_⟩
    rw [runSnoc]
    simp [step, moved, Watchroom.step, Watchroom.others, jobs, next]
  write := by
    intro w tree kind tables h now
    obtain ⟨deeds, ticket, rfl, rfl, jobs⟩ := leadsLone h
    refine ⟨deeds ++ [.write ticket now], ?_⟩
    rw [runSnoc]
    simp [step, moved, tables?, Watchroom.step, Watchroom.others, jobs]
  drop := by
    intro w tree job h
    obtain ⟨deeds, ticket, rfl, rfl, jobs⟩ := leadsLone h
    refine ⟨deeds ++ [.drop ticket (s.run deeds).tree], ?_⟩
    rw [runSnoc]
    simp only [step, moved, Watchroom.step, Watchroom.others, jobs]
    refine ⟨by simp, by split <;> rfl, by simp⟩
  tick := by
    rintro w tree jobs ⟨deeds, rfl, rfl, same⟩
    exact ⟨deeds ++ [.tick], by rw [runSnoc]; exact ⟨rfl, rfl, same⟩⟩
  idle := by
    rintro w tree jobs ⟨deeds, rfl, rfl, same⟩ idle
    refine ⟨deeds ++ [.turn], ?_⟩
    rw [runSnoc, step, idle]
    exact ⟨rfl, rfl, same⟩
  begun := by
    rintro w tree jobs ⟨deeds, rfl, rfl, same⟩ begun
    refine ⟨deeds ++ [.turn], ?_⟩
    rw [runSnoc, step, begun]
    exact ⟨rfl, rfl, same.cons _⟩

structure Matches (s : Workshop) (t : Session) : Prop where
  watcher : t.watcher = s.watcher
  tree : t.tree = s.tree
  jobs : (s.jobs.map Prod.snd).Perm (Run.jobs t.runs)

theorem leadsBears {u : Session} (h : s.Leads u.watcher u.tree (Run.jobs u.runs))
    (action : Action) : u.Bears (.free s.Leads) action := by
  cases action with
  | prime =>
      rintro w tree jobs ⟨deeds, rfl, rfl, same⟩ reading
      exact ⟨deeds ++ [.prime reading], by rw [runSnoc]; exact ⟨rfl, rfl, same⟩⟩
  | start =>
      obtain ⟨deeds, watcher, tree, same⟩ := h
      refine ⟨deeds ++ [.start u.now], ?_⟩
      rw [runSnoc]
      exact ⟨by rw [← watcher]; rfl, tree, same⟩
  | stop =>
      obtain ⟨deeds, watcher, tree, same⟩ := h
      refine ⟨deeds ++ [.stop], ?_⟩
      rw [runSnoc]
      exact ⟨by rw [← watcher]; rfl, tree, same⟩
  | files tree =>
      obtain ⟨deeds, watcher, -, same⟩ := h
      exact ⟨deeds ++ [.files tree], by rw [runSnoc]; exact ⟨watcher, rfl, same⟩⟩
  | change | run | background | hold | letGo | join | abort | advance =>
      simp [Session.Bears, Regime.free]

theorem sessionLed {u : Session} (one : ∀ deeds, (s.run deeds).jobs.length ≤ 1)
    (same : s.Matches u) (joinable : u.runs.countP Run.joinable ≤ 1) (actions : List Action) :
    ∃ deeds, (s.run deeds).Matches (u.after actions) := by
  have start : u.Endures (.free s.Leads) [] [] 0 :=
    ⟨⟨[], same.watcher.symm, same.tree.symm, by simpa [run] using same.jobs⟩,
      by simpa using joinable, fun _ _ => trivial, fun _ => trivial⟩
  have ended := Session.enduresAfter (leadsEnduring one) start actions
    fun before action rest _ between =>
      leadsBears (by simpa [Regime.free] using between.holds) action
  obtain ⟨deeds, watcher, tree, jobs⟩ := ended.holds
  exact ⟨deeds, ⟨watcher.symm, tree.symm, by simpa using jobs⟩⟩

end Workshop
end RestScaffold
