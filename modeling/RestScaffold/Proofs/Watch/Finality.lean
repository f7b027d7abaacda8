import RestScaffold.Proofs.Watch.Workshop

/-! How final a stop is. It takes the timer away, and the gate closes as soon as nobody has it.
Until then the gate does not look stopped, and a start gets a new timer. -/
namespace RestScaffold
open Catalog
open Gatehouse (Reaches)

inductive Shut : Gate → List Job → Prop where
  | taken (job) {phase : WatchState} (busy : phase.isBusy = true) : Shut ⟨phase, true⟩ [job]
  | closed (asked) : Shut ⟨.stopped, asked⟩ []

variable {gate next : Gate} {w : Watcher} {jobs : List Job} {job other : Job}

theorem shutState (h : Shut gate jobs) : gate.state = .stopped ↔ jobs = [] := by
  cases h with
  | @taken job phase busy => cases phase <;> simp_all [WatchState.isBusy]
  | closed asked => simp

theorem shutRefuses (h : Shut gate jobs) (phase : WatchState) :
    gate.acquire phase = .error gate.state := by
  cases h with
  | taken job busy => simp [Gate.acquire, Gatehouse.busyNotIdle busy]
  | closed asked => rfl

theorem shutRelease (h : Shut gate [job]) : Shut gate.release [] := by
  cases h with
  | taken job busy => exact .closed true

theorem shutMoved (h : Shut gate [job]) (other : Job) : Shut gate [other] := by
  cases h with
  | taken job busy => exact .taken other busy

theorem shutPromote (h : Shut gate [job]) : gate.promote? = none := by
  cases h with
  | taken job busy => rfl

theorem shutRequest (h : Shut gate jobs) : Shut gate.requestStop jobs := by
  cases h with
  | @taken job phase busy =>
      cases phase with
      | idle | stopped => contradiction
      | checking | regenerating => exact .taken job busy
  | closed asked => exact .closed asked

theorem requestShuts (reached : Reaches gate (jobs.map Job.phase)) :
    Shut gate.requestStop jobs := by
  obtain ⟨moves, rfl, live⟩ := reached
  have orderly := Gatehouse.runOrderly Gatehouse.initialOrderly moves
  generalize Gatehouse.run {} moves = s at orderly live
  cases orderly with
  | free issued =>
      obtain rfl : jobs = [] := by simpa using live.symm.eq_nil
      exact .closed false
  | closed asked issued =>
      obtain rfl : jobs = [] := by simpa using live.symm.eq_nil
      exact .closed asked
  | @taken ticket asked issued phase busy =>
      obtain ⟨job, rfl, -⟩ := List.map_eq_singleton_iff.mp (List.perm_singleton.mp live.symm)
      cases phase with
      | idle | stopped => contradiction
      | checking | regenerating => exact .taken job busy

theorem shutLasting : Lasting fun w jobs => Shut w.gate jobs where
  perm {w jobs others} h same := by
    generalize w.gate = gate at h
    cases h with
    | taken job busy => exact List.perm_singleton.mp same.symm ▸ .taken job busy
    | closed asked => exact same.symm.eq_nil ▸ .closed asked
  alone {w jobs} h := by
    generalize w.gate = gate at h
    cases h <;> simp
  enter h entered := by
    obtain ⟨gate, admitted, -⟩ := enterOk entered
    rw [shutRefuses h] at admitted
    contradiction
  assess h assessed := by
    obtain ⟨-, gate, rfl, ⟨-, rfl⟩ | ⟨-, promoted⟩⟩ := assessOk assessed
    · exact shutMoved h _
    · rw [shutPromote h] at promoted
      contradiction
  write {w _ tables} h tree now := by
    have left := shutRelease h
    rwa [← regeneratedGate w tree now tables] at left
  drop h := shutRelease h
  prime {w jobs} h reading := by rwa [primedGate]
  stop h := shutRequest h
  timer h _ := h

structure Stopped (w : Watcher) (jobs : List Job) : Prop where
  state : w.gate.state = .stopped
  nobody : jobs = []

theorem stoppedLasting : Lasting Stopped where
  perm h same := ⟨h.state, (h.nobody ▸ same.symm).eq_nil⟩
  alone h := by simp [h.nobody]
  enter h entered := by
    rw [enterBusy (by simp [h.state])] at entered
    contradiction
  assess h _ := absurd h.nobody nofun
  write h _ _ := absurd h.nobody nofun
  drop h := absurd h.nobody nofun
  prime {w jobs} h reading := ⟨by rw [primedGate]; exact h.state, h.nobody⟩
  stop {w jobs} h := ⟨by simp [Watcher.stop, Gate.requestStop, h.state], h.nobody⟩
  timer h _ := ⟨h.state, h.nobody⟩

theorem stoppedStart (h : Stopped w jobs) (now : Nat) : w.start now = (w, .error .stopped) := by
  simp [Watcher.start, Watcher.state, h.state]

theorem stoppedRunning (h : Stopped w jobs) : w.running = false := by
  simp [Watcher.running, Watcher.state, h.state]

theorem shutStopped (h : Shut w.gate []) : Stopped w [] := ⟨(shutState h).mpr rfl, rfl⟩

theorem shutStarts (h : Shut w.gate jobs) (some : jobs ≠ []) (now : Nat) :
    (w.start now).2 = .ok () ∧ (w.start now).1.timer ≠ none := by
  rw [Watcher.start, Watcher.state, if_neg (mt (shutState h).mp some)]
  cases w.timer <;> simp

structure Finished (w : Watcher) (jobs : List Job) : Prop where
  timer : w.timer = none
  shut : Shut w.gate jobs

theorem stopFinishes (reached : Reaches w.gate (jobs.map Job.phase)) : Finished w.stop jobs :=
  ⟨rfl, requestShuts reached⟩

theorem finishedRunning (h : Finished w jobs) : w.running = false := by
  simp [Watcher.running, h.timer]

theorem finishedStart (h : Finished w []) (now : Nat) : Finished (w.start now).1 [] := by
  rwa [stoppedStart (shutStopped h.shut)]

theorem finishedPrime (h : Finished w jobs) (reading : Reading) :
    Finished (w.prime reading).1 jobs := by
  cases reading <;> exact ⟨h.timer, h.shut⟩

theorem finishedEnduring : Enduring (.free fun w _ jobs => Finished w jobs) where
  checks := trivial
  perm h same := ⟨h.timer, shutLasting.perm h.shut same⟩
  alone h := shutLasting.alone h.shut
  enter h _ entered := by
    obtain ⟨gate, -, rfl⟩ := enterOk entered
    exact ⟨h.timer, shutLasting.enter h.shut entered⟩
  assess h _ assessed := by
    obtain ⟨-, gate, rfl, -⟩ := assessOk assessed
    exact ⟨h.timer, shutLasting.assess h.shut assessed⟩
  write {w tree kind tables} h now := by
    have same : (w.regenerate tree now tables).1.timer = w.timer := by
      unfold Watcher.regenerate
      split <;> rfl
    exact ⟨same.trans h.timer, shutLasting.write h.shut tree now⟩
  drop h := ⟨h.timer, shutLasting.drop h.shut⟩
  tick h := ⟨by simp [Watcher.tick, h.timer], h.shut⟩
  idle {w _ _} h _ := by
    rw [show w.timerTurn = (w, false) by simp [Watcher.timerTurn, h.timer]]
    exact h
  begun {w _ _} h begun := by
    rw [show w.timerTurn = (w, false) by simp [Watcher.timerTurn, h.timer]] at begun
    contradiction

namespace Workshop

variable {s : Workshop}

def Final (s : Workshop) (later : List Deed) : Prop :=
  ∀ before after, later = before ++ after →
    (s.run before).watcher.running = false ∧
    ∀ now rest, after = .start now :: rest →
      (s.run before).step (.start now) = (s.run before, .started (.error .stopped))

theorem stoppedStep (h : Stopped s.watcher (s.jobs.map Prod.snd)) (now : Nat) :
    s.step (.start now) = (s, .started (.error .stopped)) := by
  rw [step, stoppedStart h]

theorem stoppedFinal (h : Stopped s.watcher (s.jobs.map Prod.snd)) (later : List Deed) :
    s.Final later := by
  intro before after _
  have still : Stopped (s.run before).watcher ((s.run before).jobs.map Prod.snd) :=
    runLasts stoppedLasting h before
  exact ⟨stoppedRunning still, fun now _ _ => stoppedStep still now⟩

theorem finishedKeeps (h : Finished s.watcher (s.jobs.map Prod.snd)) (later : List Deed)
    (starts : ∀ before now rest, later = before ++ .start now :: rest → (s.run before).jobs = []) :
    Finished (s.run later).watcher ((s.run later).jobs.map Prod.snd) := by
  refine runKeeps finishedEnduring h later fun before deed rest same between => ?_
  cases deed with
  | prime reading => exact finishedPrime between reading
  | start now =>
      have none := starts before now rest same
      rw [Keeps, none] at between
      simp only [Bears, none]
      exact finishedStart between now
  | stop => exact ⟨rfl, shutRequest between.shut⟩
  | files tree => exact between
  | drop ticket left => exact fun kind tables own => ⟨own.timer, shutLasting.drop own.shut⟩
  | arrive | read | write | tick | turn => simp [Bears, Regime.free]

theorem finalIff (h : Finished s.watcher (s.jobs.map Prod.snd)) (later : List Deed) :
    s.Final later ↔
      ∀ before now rest, later = before ++ .start now :: rest → (s.run before).jobs = [] := by
  constructor
  · intro final before now rest same
    by_contra some
    have shut : Shut (s.run before).watcher.gate ((s.run before).jobs.map Prod.snd) :=
      runLasts shutLasting h.shut before
    have started := (shutStarts shut (by simpa using some) now).1
    have answered := congrArg Prod.snd ((final before _ same).2 now rest rfl)
    rw [step, started] at answered
    cases answered
  · intro starts before after same
    have kept := finishedKeeps h before fun first now rest earlier =>
      starts first now (rest ++ after)
      (by rw [same, earlier, List.append_assoc, List.cons_append])
    refine ⟨finishedRunning kept, fun now rest next => ?_⟩
    have none := starts before now rest (by rw [same, next])
    rw [none] at kept
    exact stoppedStep (by rw [none]; exact shutStopped kept.shut) now

end Workshop

namespace Session

variable {s : Session}

def Final (s : Session) (later : List Action) : Prop :=
  ∀ before after, later = before ++ after →
    (s.after before).watcher.running = false ∧
    ∀ rest, after = .start :: rest →
      (s.after before).step .start = (s.after before, .error .stopped)

theorem stoppedStep (h : Stopped s.watcher (Run.jobs s.runs)) :
    s.step .start = (s, .error .stopped) := by
  simp only [step, stoppedStart h]

def EnduresFinished (s : Session) : Prop :=
  s.Endures (.free fun w _ jobs => Finished w jobs) [] [] 0

theorem finishedNow (h : s.EnduresFinished) : Finished s.watcher (Run.jobs s.runs) := by
  simpa [Regime.free] using h.holds

theorem finishedAfter (h : s.EnduresFinished) (later : List Action)
    (starts : ∀ before rest, later = before ++ .start :: rest →
      Run.jobs (s.after before).runs = []) : (s.after later).EnduresFinished := by
  refine enduresAfter finishedEnduring h later fun before action rest same between => ?_
  have now := finishedNow between
  cases action with
  | prime =>
      intro w tree jobs holds reading
      exact finishedPrime holds reading
  | start =>
      have none := starts before rest same
      rw [none] at now
      simp only [Bears, none]
      exact finishedStart now _
  | stop => exact ⟨rfl, shutRequest now.shut⟩
  | files tree => exact now
  | change | run | background | hold | letGo | join | abort | advance => simp [Bears, Regime.free]

theorem finalIff (h : s.EnduresFinished) (later : List Action) :
    s.Final later ↔
      ∀ before rest, later = before ++ .start :: rest → Run.jobs (s.after before).runs = [] := by
  constructor
  · intro final before rest same
    by_contra some
    have upholds : s.Upholds (fun w jobs => Shut w.gate jobs) [] [] 0 :=
      ⟨h.holds.shut, h.joinable⟩
    have shut := (upholdsAfter shutLasting upholds before).holds
    rw [List.append_nil, List.append_nil] at shut
    have started := (shutStarts shut some (s.after before).now).1
    have answered := congrArg Prod.snd ((final before _ same).2 rest rfl)
    simp only [step, started] at answered
    cases answered
  · intro starts before after same
    have kept := finishedNow (finishedAfter h before fun first rest earlier =>
      starts first (rest ++ after) (by rw [same, earlier, List.append_assoc, List.cons_append]))
    refine ⟨finishedRunning kept, fun rest next => ?_⟩
    have none := starts before rest (by rw [same, next])
    rw [none] at kept
    exact stoppedStep (by rw [none]; exact shutStopped kept.shut)

theorem stopEndures (h : s.Guarded [] [] 0) : (s.step .stop).1.EnduresFinished := by
  obtain ⟨gate, joinable⟩ := guardedIff.mp h
  exact ⟨stopFinishes gate, joinable, fun _ _ => trivial, fun _ => trivial⟩

end Session

namespace Workshop

/-- After a stop the watcher stays stopped, and starts are refused, if and only if no start comes
while a run has the gate. Such a start gets through and leaves a timer. Once no run has the gate,
the stop is final. Sessions fare the same. -/
theorem stopIsFinalUnlessStartedInFlight (settings : Settings) (binder : Binder)
    (tree : FileTree) :
    (∀ earlier, let s := (opened settings binder tree).run (earlier ++ [.stop])
      (∀ later, s.Final later ↔
        ∀ before now rest, later = before ++ .start now :: rest → (s.run before).jobs = []) ∧
      ∀ later, let t := s.run later
        (t.watcher.state = .stopped ↔ t.jobs = []) ∧
        (t.jobs = [] → ∀ more, t.Final more) ∧
        (t.jobs ≠ [] → ∀ now, (t.step (.start now)).2 = .started (.ok ()) ∧
          (t.step (.start now)).1.watcher.timer ≠ none)) ∧
    (∀ fresh : Session, fresh.Fresh → ∀ earlier,
      let s := fresh.after (earlier ++ [.stop])
      ∀ later, s.Final later ↔
        ∀ before rest, later = before ++ .start :: rest →
          Run.jobs (s.after before).runs = []) := by
  constructor
  · intro earlier s
    have finished : Finished s.watcher (s.jobs.map Prod.snd) := by
      simp only [s, runSnoc]
      exact stopFinishes (openedReaches settings binder tree earlier)
    refine ⟨finalIff finished, fun later => ?_⟩
    intro t
    have shut : Shut t.watcher.gate (t.jobs.map Prod.snd) :=
      runLasts shutLasting finished.shut later
    refine ⟨(shutState shut).trans List.map_eq_nil_iff, fun none => ?_, fun some now => ?_⟩
    · rw [none] at shut
      exact stoppedFinal (by rw [none]; exact shutStopped shut)
    · obtain ⟨through, timer⟩ := shutStarts shut (by simpa using some) now
      exact ⟨congrArg Reply.started through, timer⟩
  · intro fresh start earlier s later
    have guarded := Session.guardedAfter (Session.freshGuarded start) earlier
    refine Session.finalIff ?_ later
    rw [show s = ((fresh.after earlier).step .stop).1 from List.foldl_append]
    exact Session.stopEndures guarded

theorem stopDuringTriggerIsNotFinal :
    let s := Watchroom.notesSession.after [.hold, .background .trigger, .stop]
    (s.step .start).2 = .done ∧ (s.step .start).1.watcher.running = true := by
  decide +kernel

theorem stopAtRestIsFinal :
    let s := (opened Watchroom.notesSession.watcher.settings
      Watchroom.notesSession.watcher.binder {}).run [.start 0, .arrive .check, .stop]
    ¬s.Final [.start 7] ∧ (s.run [.drop 0 {}]).Final [.start 7, .tick, .turn, .start 9] ∧
      (Watchroom.notesSession.after [.stop]).Final [.start] := by
  obtain ⟨workshops, sessions⟩ := stopIsFinalUnlessStartedInFlight
    Watchroom.notesSession.watcher.settings Watchroom.notesSession.watcher.binder {}
  obtain ⟨exactly, rest⟩ := workshops [.start 0, .arrive .check]
  refine ⟨fun final => ?_, (rest [.drop 0 {}]).2.1 rfl _,
    (sessions _ ⟨rfl, rfl⟩ [] [.start]).mpr ?_⟩
  · exact absurd ((exactly [.start 7]).mp final [] 7 [] rfl) (List.cons_ne_nil _ _)
  · intro before rest same
    cases before with
    | nil => rfl
    | cons first more => simp at same

end Workshop
end RestScaffold
