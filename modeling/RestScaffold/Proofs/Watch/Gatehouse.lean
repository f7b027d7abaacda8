import RestScaffold.Watch.Watcher

/-! A gate together with the runs that it has let in. Runs arrive, are promoted and are dropped in
any order, and a stop may come at any time. There are only three situations: the gate is free, one
run has it, or it is closed for good. -/
namespace RestScaffold

def WatchState.isBusy : WatchState → Bool
  | .checking | .regenerating => true
  | .idle | .stopped => false

theorem runKindBusy (kind : RunKind) : kind.state.isBusy = true := by
  cases kind <;> rfl

structure Holder where
  ticket : Nat
  phase : WatchState
  deriving DecidableEq, Repr

structure Gatehouse where
  cell : Gate := {}
  live : List Holder := []
  issued : Nat := 0
  deriving DecidableEq, Repr

namespace Gatehouse

inductive Move where
  | arrive (kind : RunKind)
  | promote (ticket : Nat)
  | drop (ticket : Nat)
  | stop
  deriving DecidableEq, Repr

inductive Reply where
  | admitted (ticket : Nat)
  | refused (seen : WatchState)
  | promoted
  | notPromoted
  | dropped
  | stopping
  | absent
  deriving DecidableEq, Repr

def promoteHolder (ticket : Nat) (h : Holder) : Holder :=
  if h.ticket = ticket then { h with phase := .regenerating } else h

def step (s : Gatehouse) : Move → Gatehouse × Reply
  | .arrive kind =>
      match s.cell.acquire kind.state with
      | .error seen => (s, .refused seen)
      | .ok cell =>
          (⟨cell, ⟨s.issued, kind.state⟩ :: s.live, s.issued + 1⟩, .admitted s.issued)
  | .promote ticket =>
      if ⟨ticket, .checking⟩ ∈ s.live then
        match s.cell.promote? with
        | none => (s, .notPromoted)
        | some cell => ({ s with cell, live := s.live.map (promoteHolder ticket) }, .promoted)
      else (s, .absent)
  | .drop ticket =>
      if ticket ∈ s.live.map Holder.ticket then
        ({ s with cell := s.cell.release, live := s.live.filter (·.ticket ≠ ticket) }, .dropped)
      else (s, .absent)
  | .stop => ({ s with cell := s.cell.requestStop }, .stopping)

def run (s : Gatehouse) (moves : List Move) : Gatehouse :=
  moves.foldl (fun s move => (s.step move).1) s

def replies (s : Gatehouse) : List Move → List Reply
  | [] => []
  | move :: rest => (s.step move).2 :: (s.step move).1.replies rest

theorem runSnoc (s : Gatehouse) (moves : List Move) (move : Move) :
    s.run (moves ++ [move]) = ((s.run moves).step move).1 := by
  simp [run]

inductive Orderly : Gatehouse → Prop where
  | free (issued) : Orderly ⟨⟨.idle, false⟩, [], issued⟩
  | taken (ticket stop issued) {phase : WatchState} (busy : phase.isBusy = true) :
      Orderly ⟨⟨phase, stop⟩, [⟨ticket, phase⟩], issued⟩
  | closed (stop issued) : Orderly ⟨⟨.stopped, stop⟩, [], issued⟩

inductive Closing : Gatehouse → Prop where
  | taken (ticket issued) {phase : WatchState} (busy : phase.isBusy = true) :
      Closing ⟨⟨phase, true⟩, [⟨ticket, phase⟩], issued⟩
  | closed (stop issued) : Closing ⟨⟨.stopped, stop⟩, [], issued⟩

theorem arriveBusy {s : Gatehouse} (busy : s.cell.state ≠ .idle) (kind : RunKind) :
    s.step (.arrive kind) = (s, .refused s.cell.state) := by
  simp [step, Gate.acquire, busy]

theorem busyNotIdle {phase : WatchState} (busy : phase.isBusy = true) : phase ≠ .idle := by
  rintro rfl
  contradiction

theorem stepOrderly {s : Gatehouse} (h : Orderly s) (move : Move) : Orderly (s.step move).1 := by
  cases move with
  | arrive kind =>
      cases h with
      | free issued => exact .taken issued false (issued + 1) (runKindBusy kind)
      | taken ticket stop issued busy =>
          rw [arriveBusy (busyNotIdle busy)]
          exact .taken ticket stop issued busy
      | closed stop issued =>
          rw [arriveBusy (by simp)]
          exact .closed stop issued
  | promote asked =>
      cases h with
      | free issued => exact .free issued
      | closed stop issued => exact .closed stop issued
      | @taken ticket stop issued phase busy =>
          simp only [step, List.mem_singleton]
          split
          · rename_i same
            cases same
            cases stop with
            | true => exact .taken asked true issued busy
            | false =>
                simp only [Gate.promote?, Bool.false_eq_true, if_false, promoteHolder,
                  List.map_cons, List.map_nil, if_true]
                exact .taken asked false issued rfl
          · exact .taken ticket stop issued busy
  | drop asked =>
      cases h with
      | free issued => exact .free issued
      | closed stop issued => exact .closed stop issued
      | @taken ticket stop issued phase busy =>
          by_cases same : asked = ticket
          · subst same
            cases stop with
            | true => simpa [step, Gate.release] using Orderly.closed true issued
            | false => simpa [step, Gate.release] using Orderly.free issued
          · simpa [step, same] using Orderly.taken ticket stop issued busy
  | stop =>
      cases h with
      | free issued => exact .closed false issued
      | closed stop issued => exact .closed stop issued
      | @taken ticket stop issued phase busy =>
          cases phase with
          | idle | stopped => contradiction
          | checking => exact .taken ticket true issued busy
          | regenerating => exact .taken ticket true issued busy

theorem runOrderly {s : Gatehouse} (h : Orderly s) (moves : List Move) : Orderly (s.run moves) := by
  induction moves generalizing s with
  | nil => exact h
  | cons move rest ih => exact ih (stepOrderly h move)

theorem initialOrderly : Orderly {} := .free 0

theorem atMostOneHolder {s : Gatehouse} (h : Orderly s) : s.live.length ≤ 1 := by
  cases h <;> simp

theorem busyIffHeld {s : Gatehouse} (h : Orderly s) :
    (s.cell.state = .checking ∨ s.cell.state = .regenerating) ↔ s.live ≠ [] := by
  cases h with
  | free | closed => simp
  | @taken ticket stop issued phase busy => cases phase <;> simp_all [WatchState.isBusy]

theorem holderPhaseShown {s : Gatehouse} (h : Orderly s) {holder : Holder}
    (member : holder ∈ s.live) : holder.phase = s.cell.state := by
  cases h with
  | free | closed => contradiction
  | taken => rw [List.mem_singleton.mp member]

theorem stopRequestedNotIdle {s : Gatehouse} (h : Orderly s) (asked : s.cell.stopRequested = true) :
    s.cell.state ≠ .idle := by
  cases h with
  | free => contradiction
  | taken ticket stop issued busy => exact busyNotIdle busy
  | closed => simp

theorem heldRefuses {s : Gatehouse} (h : Orderly s) (held : s.live ≠ []) (kind : RunKind) :
    s.step (.arrive kind) = (s, .refused s.cell.state) := by
  cases h with
  | free | closed => contradiction
  | taken ticket stop issued busy => exact arriveBusy (busyNotIdle busy) kind

theorem freeAdmits {s : Gatehouse} (free : s.cell.state = .idle) (kind : RunKind) :
    (s.step (.arrive kind)).2 = .admitted s.issued ∧
      (s.step (.arrive kind)).1.cell.state = kind.state := by
  simp [step, Gate.acquire, free]

theorem checkingPromotes {s : Gatehouse} {ticket : Nat} (checking : ⟨ticket, .checking⟩ ∈ s.live)
    (unasked : s.cell.stopRequested = false) :
    (s.step (.promote ticket)).2 = .promoted ∧
      (s.step (.promote ticket)).1.cell.state = .regenerating := by
  simp [step, Gate.promote?, checking, unasked]

theorem dropFrees {s : Gatehouse} {holder : Holder} (member : holder ∈ s.live)
    (unasked : s.cell.stopRequested = false) :
    (s.step (.drop holder.ticket)).1.cell.state = .idle := by
  simp only [step]
  rw [if_pos (List.mem_map_of_mem member)]
  simp [Gate.release, unasked]

theorem stoppedStays {s : Gatehouse} (h : Orderly s) (stopped : s.cell.state = .stopped)
    (moves : List Move) : (s.run moves).cell.state = .stopped := by
  induction moves generalizing s with
  | nil => exact stopped
  | cons move rest ih =>
      refine ih (stepOrderly h move) ?_
      cases h with
      | free => contradiction
      | taken ticket stop issued busy => subst stopped; contradiction
      | closed stop issued =>
          cases move with
          | arrive kind => simp [arriveBusy]
          | promote | drop | stop => rfl

theorem stopCloses {s : Gatehouse} (h : Orderly s) : Closing (s.step .stop).1 := by
  cases h with
  | free issued => exact .closed false issued
  | closed stop issued => exact .closed stop issued
  | @taken ticket stop issued phase busy =>
      cases phase with
      | idle | stopped => contradiction
      | checking => exact .taken ticket issued busy
      | regenerating => exact .taken ticket issued busy

theorem closingOrderly {s : Gatehouse} (h : Closing s) : Orderly s := by
  cases h with
  | taken ticket issued busy => exact .taken ticket true issued busy
  | closed stop issued => exact .closed stop issued

theorem closingRefuses {s : Gatehouse} (h : Closing s) (kind : RunKind) :
    s.step (.arrive kind) = (s, .refused s.cell.state) := by
  cases h with
  | taken ticket issued busy => exact arriveBusy (busyNotIdle busy) kind
  | closed => exact arriveBusy (by simp) kind

theorem closingPromotesNobody {s : Gatehouse} (h : Closing s) (ticket : Nat) :
    (s.step (.promote ticket)).1 = s ∧ (s.step (.promote ticket)).2 ≠ .promoted := by
  cases h with
  | closed => exact ⟨rfl, nofun⟩
  | taken holder issued busy =>
      simp only [step]
      split <;> simp [Gate.promote?]

theorem closingDropCloses {s : Gatehouse} (h : Closing s) {holder : Holder}
    (member : holder ∈ s.live) : (s.step (.drop holder.ticket)).1.cell.state = .stopped := by
  cases h with
  | closed => contradiction
  | taken ticket issued busy =>
      obtain rfl := List.mem_singleton.mp member
      simp [step, Gate.release]

theorem closingEmptyStopped {s : Gatehouse} (h : Closing s) (empty : s.live = []) :
    s.cell.state = .stopped := by
  cases h with
  | closed => rfl
  | taken => contradiction

theorem stepClosing {s : Gatehouse} (h : Closing s) (move : Move) : Closing (s.step move).1 := by
  cases move with
  | arrive kind => rwa [closingRefuses h]
  | promote ticket => rwa [(closingPromotesNobody h ticket).1]
  | stop => exact stopCloses (closingOrderly h)
  | drop asked =>
      cases h with
      | closed stop issued => exact .closed stop issued
      | @taken ticket issued phase busy =>
          by_cases same : asked = ticket
          · subst same
            simpa [step, Gate.release] using Closing.closed true issued
          · simpa [step, same] using Closing.taken ticket issued busy

theorem runClosing {s : Gatehouse} (h : Closing s) (moves : List Move) : Closing (s.run moves) := by
  induction moves generalizing s with
  | nil => exact h
  | cons move rest ih => exact ih (stepClosing h move)

end Gatehouse
end RestScaffold
