import RestScaffold.Catalog.Discovery
import RestScaffold.Catalog.Fingerprint
import RestScaffold.Generation.Pass
import RestScaffold.Watch.Gate
import RestScaffold.Watch.Registry

/-! A watcher regenerates when the fingerprint of the catalog changes, or when it is asked to. A run
takes the gate, reads the catalog, and lets the gate go when it ends, in whatever way. -/
namespace RestScaffold
open Catalog

inductive WatcherError where
  | busy
  | stopped
  | catalog (error : CatalogError)
  | emission (error : EmissionError)
  deriving DecidableEq, Repr

def WatcherError.message : WatcherError → String
  | .busy => "regeneration already in progress"
  | .stopped => "watcher stopped"
  | .catalog e => e.message
  | .emission e => "writing generated files: " ++ e.message

inductive RunKind where
  | check
  | trigger
  deriving DecidableEq, Repr

def RunKind.state : RunKind → WatchState
  | .check => .checking
  | .trigger => .regenerating

inductive RunResult where
  | unchanged
  | skipped (state : WatchState)
  | regenerated (summary : RunSummary)
  | failed (error : WatcherError)
  deriving DecidableEq, Repr

def RunKind.refusal (k : RunKind) (seen : WatchState) : RunResult :=
  match k with
  | .check => .skipped seen
  | .trigger => if seen = .stopped then .failed .stopped else .failed .busy

structure Timer where
  started : Nat
  due : Bool := false
  failed : Bool := false
  deriving DecidableEq, Repr

structure Watcher where
  settings : Settings
  binder : Binder
  gate : Gate := {}
  registry : Registry := {}
  timer : Option Timer := none

abbrev Reading := Except CatalogError (List Table)

namespace Watcher

variable (w : Watcher)

def state : WatchState := w.gate.state

def scope : Scope := ⟨w.settings.schemas, w.settings.excludeTables⟩

/-- Times are counted in 63 bits of seconds; a longer interval counts as thirty years. -/
def intervalMs : Nat :=
  if w.settings.watchIntervalSecs < 9223372036854775808 then w.settings.watchIntervalSecs * 1000
  else 30 * 365 * 86400 * 1000

def running : Bool := w.timer.any (!·.failed) && w.state ≠ .stopped

def enter (k : RunKind) : Except WatchState Watcher :=
  (w.gate.acquire k.state).map fun gate => { w with gate }

def leave : Watcher := { w with gate := w.gate.release }

def summary (fingerprint : String) (report : Report) (r : Registration) (now : Nat) :
    RunSummary where
  runId := w.registry.regenerations + 1
  fingerprint := fingerprint
  registered := r.bound.keys
  disabled := report.disabled
  failures := report.failures
  registrationErrors := r.errors
  filesWritten := report.filesWritten
  filesRemoved := report.filesRemoved
  finishedAt := now

def regenerate (tree : FileTree) (now : Nat) (tables : List Table) :
    Watcher × FileTree × RunResult :=
  match Pass.run w.settings tree (tables.map Table.shape) with
  | (tree, .error e) =>
      ({ w with registry := w.registry.recordFailure (fingerprint tables) }, tree,
        .failed (.emission (.write e)))
  | (tree, .ok report) =>
      let registration := Registration.ofTables w.binder report.generated
      let summary := w.summary (fingerprint tables) report registration now
      ({ w with registry := w.registry.commit (fingerprint tables) registration.bound summary },
        tree, .regenerated summary)

/-- What a run does once the catalog is read: it ends, or goes on to write the files of the tables.
A catalog that cannot be read changes nothing. -/
def assess (k : RunKind) (reading : Reading) : Except RunResult (Watcher × List Table) :=
  match k, reading with
  | _, .error e => .error (.failed (.catalog e))
  | .trigger, .ok tables => .ok (w, tables)
  | .check, .ok tables =>
      if w.registry.fingerprint = some (fingerprint tables) then .error .unchanged
      else
        match w.gate.promote? with
        | none => .error (.skipped .stopped)
        | some gate => .ok ({ w with gate }, tables)

def prime (reading : Reading) : Watcher × Except WatcherError String :=
  match reading with
  | .error e => (w, .error (.catalog e))
  | .ok tables =>
      ({ w with registry := w.registry.withFingerprint (fingerprint tables) },
        .ok (fingerprint tables))

def start (now : Nat) : Watcher × Except WatcherError Unit :=
  if w.state = .stopped then (w, .error .stopped)
  else ({ w with timer := w.timer.or (some { started := now }) }, .ok ())

def stop : Watcher := { w with gate := w.gate.requestStop, timer := none }

def tick : Watcher := { w with timer := w.timer.map fun t => { t with due := true } }

/-- The timer's turn, and whether a check has begun with it. A tick that does not get the gate is
dropped. An interval of zero cannot be kept, and the timer gives up. -/
def timerTurn : Watcher × Bool :=
  match w.timer with
  | none => (w, false)
  | some t =>
      if w.intervalMs = 0 then ({ w with timer := some { t with failed := true } }, false)
      else if t.due then
        let w := { w with timer := some { t with due := false } }
        match w.enter .check with
        | .ok w => (w, true)
        | .error _ => (w, false)
      else (w, false)

def ticksBetween (now later : Nat) : List Nat :=
  match w.timer with
  | none => []
  | some t =>
      let ticksUntil (time : Nat) := (time - t.started) / w.intervalMs
      if w.running then
        (List.range (ticksUntil later - ticksUntil now)).map fun k =>
          t.started + (ticksUntil now + k + 1) * w.intervalMs
      else []

def nextTick? (now : Nat) : Option Nat := (w.ticksBetween now (now + w.intervalMs)).head?

end Watcher
end RestScaffold
