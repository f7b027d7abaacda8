import RestScaffold.Watch.Turn

/-! A watcher at work on a catalog and a file tree, step by step, under a clock that only advances
when told to. A step that reads tables or writes files waits for them, and the runs in the
background have their turns meanwhile. -/
namespace RestScaffold
open Catalog

inductive Action where
  | change (change : Memory.Change)
  | files (tree : FileTree)
  | prime
  | run (kind : RunKind)
  | hold
  | background (kind : RunKind)
  | letGo
  | join
  | abort
  | start
  | stop
  | advance (ms : Nat)
  deriving DecidableEq, Repr

inductive Answer where
  | done
  | changed (found : Bool)
  | fingerprint (text : String)
  | error (error : WatcherError)
  | result (result : RunResult)
  | entered
  | nothingRunning
  | aborted
  | regenerations (count : Nat)
  deriving DecidableEq, Repr

namespace Session

variable (s : Session)

/-- Lists the tables and waits for them, if there are any. Nobody could release this listing. -/
def awaitTables : Session :=
  let (s, _) := s.listing
  if s.readsTables then s.settle else s

def prime : Session × Except WatcherError String :=
  let s := s.awaitTables
  let (watcher, result) := s.watcher.prime s.reading
  ({ s with watcher }, result)

def run (k : RunKind) : Session × RunResult :=
  match s.watcher.enter k with
  | .error seen => (s, k.refusal seen)
  | .ok watcher =>
      let s := { s with watcher }.awaitTables
      match s.watcher.assess k s.reading with
      | .error result => (s.leave, result)
      | .ok (watcher, tables) => { s with watcher }.settle.write tables

def tickAt (later time : Nat) : Session :=
  let s := { s with now := time, watcher := s.watcher.tick }
  if time < later then s.complete else s

def advance (ms : Nat) : Session :=
  if ms = 0 then s
  else
    let later := s.now + ms
    let s := s.complete
    { (s.watcher.ticksBetween s.now later).foldl (fun s time => s.tickAt later time) s with
      now := later }

def awaitHeld : Session :=
  if s.announced then s
  else
    let s := s.settle
    if s.announced then s
    else
      let s := s.complete
      match s.watcher.nextTick? s.now, s.holding with
      | some time, true => { s with now := time, watcher := s.watcher.tick : Session }.settle
      | _, _ => s

def background (k : RunKind) : Session :=
  let others := s.runs.map fun r => { r with joinable := false }
  let s := { s with runs := others ++ [Run.mk k true .queued], ended := none }
  { s.awaitHeld with announced := false }

def letGo : Session :=
  let s := { s with holding := false }
  match s.runs.find? (·.stage = .held) with
  | none => { s with passing := true }
  | some r => { s with runs := s.runs.filter (·.stage ≠ .held) : Session }.put r .released

def takeResult : Session × Answer :=
  match s.ended with
  | some result => ({ s with ended := none }, .result result)
  | none => (s, .nothingRunning)

def join : Session × Answer :=
  if s.runs.any (·.joinable) then
    let s := s.settle
    (if s.ended.isSome then s else s.complete).takeResult
  else s.takeResult

/-- Drops the run that was started last. It keeps the gate while it is waited for; its release
passes to the next run. -/
def abort : Session × Answer :=
  match s.runs.find? (·.joinable) with
  | none =>
      match s.takeResult with
      | (s, .result _) => (s, .aborted)
      | (s, answer) => (s, answer)
  | some r =>
      let s := { s with runs := s.runs.filter (!·.joinable) }.settle
      let s := if r.stage.hasGate then s.leave else s
      (if r.stage = .released then { s with passing := true } else s, .aborted)

def step : Action → Session × Answer
  | .change change =>
      let (catalog, found) := s.catalog.apply change
      ({ s with catalog }, .changed found)
  | .files tree => ({ s with tree }, .done)
  | .prime =>
      let (s, result) := s.prime
      (s, match result with
        | .ok fingerprint => .fingerprint fingerprint
        | .error e => .error e)
  | .run k =>
      let (s, result) := s.run k
      (s, .result result)
  | .hold => ({ s with holding := true }, .done)
  | .background k => (s.background k, .entered)
  | .letGo => (s.letGo, .done)
  | .join => s.join
  | .abort => s.abort
  | .start =>
      let (watcher, result) := s.watcher.start s.now
      ({ s with watcher }, match result with
        | .ok _ => .done
        | .error e => .error e)
  | .stop => ({ s with watcher := s.watcher.stop }, .done)
  | .advance ms =>
      let s := s.advance ms
      (s, .regenerations s.watcher.registry.regenerations)

end Session
end RestScaffold
