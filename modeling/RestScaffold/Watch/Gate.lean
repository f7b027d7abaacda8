/-! The gate that every run of a watcher has to hold, so that there is one run at a time. -/
namespace RestScaffold

inductive WatchState where
  | idle
  | checking
  | regenerating
  | stopped
  deriving DecidableEq, Repr

def WatchState.name : WatchState → String
  | .idle => "idle"
  | .checking => "checking"
  | .regenerating => "regenerating"
  | .stopped => "stopped"

structure Gate where
  state : WatchState := .idle
  stopRequested : Bool := false
  deriving DecidableEq, Repr

namespace Gate

def acquire (g : Gate) (next : WatchState) : Except WatchState Gate :=
  if g.state = .idle then .ok { g with state := next } else .error g.state

def promote? (g : Gate) : Option Gate :=
  if g.stopRequested then none else some { g with state := .regenerating }

def release (g : Gate) : Gate :=
  { g with state := if g.stopRequested then .stopped else .idle }

def requestStop (g : Gate) : Gate :=
  match g.state with
  | .idle => { g with state := .stopped }
  | .stopped => g
  | .checking | .regenerating => { g with stopRequested := true }

end Gate
end RestScaffold
