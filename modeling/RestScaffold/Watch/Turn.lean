import RestScaffold.Watch.Watcher

/-! Runs of a watcher that take turns. While somebody waits, the timer has its turn, and then every
run in the background, in order; as long as nobody waits, nothing goes on. A run stops at three
places to wait for its next turn: where its listing of the tables is held up, where it reads the
tables that it has listed, and where it writes files. -/
namespace RestScaffold
open Catalog

inductive Stage where
  | queued
  | admitted
  | held
  | released
  | reading
  | writing (tables : List Table)
  deriving DecidableEq, Repr

def Stage.hasGate : Stage → Bool
  | .queued => false
  | .admitted | .held | .released | .reading | .writing _ => true

structure Run where
  kind : RunKind
  joinable : Bool := false
  stage : Stage := .queued
  deriving DecidableEq, Repr

structure Session where
  watcher : Watcher
  catalog : Memory
  unreachable : Option String := none
  tree : FileTree
  now : Nat := 0
  holding : Bool := false
  announced : Bool := false
  passing : Bool := false
  runs : List Run := []
  ended : Option RunResult := none

namespace Session

variable (s : Session)

def source : Source :=
  match s.unreachable with
  | some detail => .closed detail
  | none => s.catalog.source

def reading : Reading := s.source.discover s.watcher.scope

def readsTables : Bool :=
  match s.source.listed s.watcher.scope with
  | .ok listed => !listed.isEmpty
  | .error _ => false

def put (r : Run) (stage : Stage) : Session := { s with runs := s.runs ++ [{ r with stage }] }

def close (r : Run) (result : RunResult) : Session :=
  if r.joinable then { s with ended := some result } else s

def leave : Session := { s with watcher := s.watcher.leave }

def write (tables : List Table) : Session × RunResult :=
  let (watcher, tree, result) := s.watcher.regenerate s.tree s.now tables
  ({ s with watcher, tree }.leave, result)

def listing : Session × Bool :=
  if s.holding then
    let s := { s with holding := false, announced := true }
    if s.passing then ({ s with passing := false }, false) else (s, true)
  else (s, false)

def assess (r : Run) : Session :=
  match s.watcher.assess r.kind s.reading with
  | .error result => s.leave.close r result
  | .ok (watcher, tables) => { s with watcher }.put r (.writing tables)

def read (r : Run) : Session := if s.readsTables then s.put r .reading else s.assess r

def list (r : Run) : Session :=
  let (s, held) := s.listing
  if held then s.put r .held else s.read r

def enter (r : Run) : Session :=
  match s.watcher.enter r.kind with
  | .error seen => s.close r (r.kind.refusal seen)
  | .ok watcher => { s with watcher }.list r

def turn (r : Run) : Session :=
  match r.stage with
  | .queued => s.enter r
  | .admitted => s.list r
  | .released => s.read r
  | .held | .reading | .writing _ => s.put r r.stage

def turnAfterReading (r : Run) : Session :=
  match r.stage with
  | .reading => s.assess r
  | stage => s.put r stage

def turnWriting (r : Run) : Session :=
  match r.stage with
  | .writing tables =>
      let (s, result) := s.write tables
      s.close r result
  | stage => s.put r stage

def turns (turn : Session → Run → Session) : Session := s.runs.foldl turn { s with runs := [] }

def timerTurn : Session :=
  let (watcher, begun) := s.watcher.timerTurn
  let s := { s with watcher }
  if begun then s.put { kind := .check } .admitted else s

def settle : Session := (s.timerTurn.turns turn).turns turnAfterReading

def complete : Session := s.settle.turns turnWriting

end Session
end RestScaffold
