import RestScaffold.Http.Service
import RestScaffold.Proofs.Watch.Watchroom

/-! Requests for lists, while runs of the watcher come and go. A request looks at the registry
twice, once for the list and once for the fingerprint, and anything may happen in between. Its
answer tells the fingerprint of the pass that made the list exactly if the passes that end between
the two looks leave the fingerprint as it was. -/
namespace RestScaffold
open Json

namespace Watchroom

variable {s : Watchroom}

def Reply.completed : Reply → Option RunSummary
  | .wrote (.regenerated summary) => some summary
  | _ => none

def passes (s : Watchroom) (moves : List Move) : List RunSummary :=
  (s.transcript moves).filterMap fun entry => entry.2.completed

def registry (s : Watchroom) (moves : List Move) : Registry := (s.run moves).watcher.registry

theorem passesCons (s : Watchroom) (move : Move) (rest : List Move) :
    s.passes (move :: rest) = (s.step move).2.completed.toList ++ (s.step move).1.passes rest := by
  simp only [passes, transcript, List.filterMap_cons]
  cases (s.step move).2.completed <;> rfl

theorem passesAppend (s : Watchroom) (moves more : List Move) :
    s.passes (moves ++ more) = s.passes moves ++ (s.run moves).passes more := by
  induction moves generalizing s with
  | nil => rfl
  | cons move rest ih =>
      rw [List.cons_append, passesCons, passesCons, ih, List.append_assoc]
      rfl

theorem returnedCompleted {reply : Reply} (running : reply.returned = false) :
    reply.completed = none := by
  cases reply with
  | wrote => contradiction
  | _ => rfl

theorem changesLastRun {move : Move} {reply : Reply} {next : Registry}
    (changes : s.Changes move reply next) :
    next.lastRun = reply.completed.or s.watcher.registry.lastRun := by
  cases changes with
  | primed | failed | completed => rfl
  | nothing move running => rw [returnedCompleted running]; rfl

def LastServed (r : Registry) : Prop :=
  r.registered = (r.lastRun.map RunSummary.registered).getD []

theorem changesServed {move : Move} {reply : Reply} {next : Registry}
    (h : LastServed s.watcher.registry) (changes : s.Changes move reply next) :
    LastServed next := by
  cases changes with
  | primed | failed | nothing => exact h
  | completed known sorted named => exact named.symm

theorem runServed (h : LastServed s.watcher.registry) (moves : List Move) :
    LastServed (s.registry moves) := by
  induction moves generalizing s with
  | nil => exact h
  | cons move rest ih => exact ih (changesServed h (stepChanges s move))

theorem runLastRun (s : Watchroom) (moves : List Move) :
    (s.registry moves).lastRun = (s.passes moves).getLast?.or s.watcher.registry.lastRun := by
  induction moves generalizing s with
  | nil => rfl
  | cons move rest ih =>
      have first := changesLastRun (stepChanges s move)
      have later : (s.registry (move :: rest)).lastRun =
          ((s.step move).1.passes rest).getLast?.or (s.step move).1.watcher.registry.lastRun :=
        ih (s.step move).1
      rw [later, first, passesCons, List.getLast?_append, Option.or_assoc]
      cases (s.step move).2.completed <;> rfl

theorem runUnchanged (moves : List Move) (none : s.passes moves = []) :
    (s.registry moves).registered = s.watcher.registry.registered ∧
      (s.registry moves).endpoints = s.watcher.registry.endpoints ∧
      (s.registry moves).lastRun = s.watcher.registry.lastRun := by
  induction moves generalizing s with
  | nil => exact ⟨rfl, rfl, rfl⟩
  | cons move rest ih =>
      rw [passesCons, List.append_eq_nil_iff, Option.toList_eq_nil_iff] at none
      obtain ⟨incomplete, none⟩ := none
      have changes := stepChanges s move
      obtain ⟨registered, endpoints, lastRun⟩ := ih none
      have same : (s.step move).1.watcher.registry.registered = s.watcher.registry.registered ∧
          (s.step move).1.watcher.registry.endpoints = s.watcher.registry.endpoints ∧
          (s.step move).1.watcher.registry.lastRun = s.watcher.registry.lastRun := by
        generalize (s.step move).1.watcher.registry = next at changes ⊢
        generalize (s.step move).2 = reply at changes incomplete
        cases changes with
        | primed | failed | nothing => exact ⟨rfl, rfl, rfl⟩
        | completed => contradiction
      exact ⟨registered.trans same.1, endpoints.trans same.2.1, lastRun.trans same.2.2⟩

end Watchroom

inductive ListRequest where
  | artifacts
  | endpoints (table : String)
  deriving DecidableEq, Repr

namespace ListRequest

def listed {α : Type} (first second : α) : ListRequest → α
  | .artifacts => second
  | .endpoints _ => first

def told {α : Type} (first second : α) : ListRequest → α
  | .artifacts => first
  | .endpoints _ => second

def items? (r : Registry) : ListRequest → Option (List Json)
  | .artifacts => some (r.registered.map text)
  | .endpoints table => (r.endpoints.get? table).map (·.map Endpoint.toJson)

def answer (first second : Registry) : ListRequest → Reply
  | .artifacts => Service.artifacts first second
  | .endpoints table => Service.endpoints first second table

end ListRequest

inductive Progress where
  | asked
  | looked (first : Registry)
  | answered (reply : Reply)

structure Visit where
  room : Watchroom
  request : ListRequest
  progress : Progress := .asked

namespace Visit

inductive Event where
  | look
  | move (move : Watchroom.Move)

def look (v : Visit) : Progress :=
  let r := v.room.watcher.registry
  match v.progress with
  | .asked => if (v.request.items? r).isNone then .answered (v.request.answer r r) else .looked r
  | .looked first => .answered (v.request.answer first r)
  | .answered reply => .answered reply

def step (v : Visit) : Event → Visit
  | .look => { v with progress := v.look }
  | .move move => { v with room := (v.room.step move).1 }

def run (v : Visit) (events : List Event) : Visit := events.foldl step v

def asked (settings : Settings) (binder : Binder) (request : ListRequest) : Visit where
  room := .opened settings binder
  request := request

def schedule (before between : List Watchroom.Move) (later : List Event) : List Event :=
  before.map .move ++ .look :: (between.map .move ++ .look :: later)

variable {v : Visit} {request : ListRequest} {first second : Registry} {items : List Json}

theorem runAppend (v : Visit) (events more : List Event) :
    v.run (events ++ more) = (v.run events).run more := List.foldl_append

theorem runMoves (v : Visit) (moves : List Watchroom.Move) :
    v.run (moves.map .move) = { v with room := v.room.run moves } := by
  induction moves generalizing v with
  | nil => rfl
  | cons move rest ih => exact ih (v.step (.move move))

theorem runAnswered {reply : Reply} (answered : v.progress = .answered reply)
    (events : List Event) : (v.run events).progress = .answered reply := by
  induction events generalizing v with
  | nil => exact answered
  | cons event rest ih =>
      refine ih ?_
      cases event with
      | look =>
          simp only [step, look]
          rw [answered]
      | move => exact answered

theorem splitLook (events : List Event) :
    (∃ moves : List Watchroom.Move, events = moves.map .move) ∨
      ∃ (moves : List Watchroom.Move) (rest : List Event),
        events = moves.map .move ++ .look :: rest := by
  induction events with
  | nil => exact .inl ⟨[], rfl⟩
  | cons event others ih =>
      cases event with
      | look => exact .inr ⟨[], others, rfl⟩
      | move own =>
          rcases ih with ⟨moves, rfl⟩ | ⟨moves, rest, rfl⟩
          · exact .inl ⟨own :: moves, rfl⟩
          · exact .inr ⟨own :: moves, rest, rfl⟩

theorem answerSome (listed : request.items? (request.listed first second) = some items) :
    request.answer first second =
      Service.listing items (Service.lastFingerprint (request.told first second)) := by
  cases request with
  | artifacts =>
      cases listed
      rfl
  | endpoints table =>
      obtain ⟨endpoints, found, rfl⟩ := Option.map_eq_some_iff.mp listed
      simp only [ListRequest.listed] at found
      simp only [ListRequest.answer, Service.endpoints, found]
      rfl

theorem answerNone (unlisted : request.items? (request.listed first second) = none) :
    (request.answer first second).status = 404 := by
  cases request with
  | artifacts => contradiction
  | endpoints table =>
      have missing : first.endpoints.get? table = none := Option.map_eq_none_iff.mp unlisted
      simp only [ListRequest.answer, Service.endpoints, missing]
      rfl

theorem answerMissed (missed : request.items? first = none) (second second' : Registry) :
    request.answer first second = request.answer first second' := by
  cases request with
  | artifacts => contradiction
  | endpoints table =>
      have missing : first.endpoints.get? table = none := Option.map_eq_none_iff.mp missed
      simp only [ListRequest.answer, Service.endpoints, missing]

theorem lookAsked (fresh : v.progress = .asked) :
    v.look = .looked v.room.watcher.registry ∨
      v.request.items? v.room.watcher.registry = none ∧
        ∀ second, v.look = .answered (v.request.answer v.room.watcher.registry second) := by
  unfold look
  rw [fresh]
  by_cases missed : (v.request.items? v.room.watcher.registry).isNone = true
  · have none := Option.isNone_iff_eq_none.mp missed
    exact .inr ⟨none, fun second => (if_pos missed).trans (congrArg _ (answerMissed none _ second))⟩
  · exact .inl (if_neg missed)

theorem lookAgain (looked : v.progress = .looked first) :
    v.look = .answered (v.request.answer first v.room.watcher.registry) := by
  unfold look
  rw [looked]

theorem runSchedule (fresh : v.progress = .asked) (before between : List Watchroom.Move)
    (later : List Event) :
    (v.run (schedule before between later)).progress =
      .answered (v.request.answer (v.room.registry before)
        (v.room.registry (before ++ between))) := by
  have whole : v.run (schedule before between later) =
      ((({ v with room := v.room.run before } : Visit).step .look).run (between.map .move)).run
        (.look :: later) := by
    rw [schedule, runAppend, runMoves, ← runAppend]
    rfl
  have last : v.room.registry (before ++ between) =
      ((v.room.run before).run between).watcher.registry := by
    rw [Watchroom.registry, Watchroom.runAppend]
  rw [whole, last]
  rcases lookAsked (v := { v with room := v.room.run before }) fresh with looked | ⟨-, missed⟩
  · rw [runMoves]
    exact runAnswered (lookAgain looked) later
  · rw [← runAppend]
    exact runAnswered (missed _) _

theorem answeredSchedule {events : List Event} {reply : Reply} (fresh : v.progress = .asked)
    (answered : (v.run events).progress = .answered reply) :
    (∃ before between later, events = schedule before between later) ∨
      ∃ (before : List Watchroom.Move) (rest : List Event),
        events = before.map .move ++ .look :: rest ∧
          v.request.items? (v.room.registry before) = none := by
  rcases splitLook events with ⟨moves, rfl⟩ | ⟨before, rest, rfl⟩
  · rw [runMoves] at answered
    exact absurd (fresh.symm.trans answered) (by simp)
  · rcases lookAsked (v := { v with room := v.room.run before }) fresh with looked | ⟨missed, -⟩
    · rcases splitLook rest with ⟨moves, rfl⟩ | ⟨between, later, rfl⟩
      · have whole : v.run (before.map .move ++ .look :: moves.map .move) =
            (({ v with room := v.room.run before } : Visit).step .look).run (moves.map .move) := by
          rw [runAppend, runMoves]
          rfl
        rw [whole, runMoves] at answered
        exact absurd (looked.symm.trans answered) (by simp)
      · exact .inl ⟨before, between, later, rfl⟩
    · exact .inr ⟨before, rest, rfl, missed⟩

end Visit

open Visit in
/-- However the runs of a watcher go while a request for a list is under way: the list is that of
the last pass completed before one of its looks, and the fingerprint that of the last one before the
other look. Artifacts have their fingerprint from the first look, endpoints of a table from the
second. So the answer tells the fingerprint of the pass that made its list if and only if the passes
completed between the looks, if any, end with the fingerprint that there was before them. -/
theorem listsTellTheirPassIff (settings : Settings) (binder : Binder) (request : ListRequest) :
    let room := Watchroom.opened settings binder
    (∀ events reply, ((asked settings binder request).run events).progress = .answered reply →
      (∃ before between later, events = schedule before between later) ∨
        ∃ (before : List Watchroom.Move) (rest : List Event),
          events = before.map .move ++ .look :: rest ∧
            request.items? (room.registry before) = none) ∧
    ∀ before between later,
      let listed := request.listed before (before ++ between)
      let list := room.registry listed
      let last (moves : List Watchroom.Move) := (room.passes moves).getLast?
      let told := last (request.told before (before ++ between))
      ∃ reply,
        ((asked settings binder request).run (schedule before between later)).progress =
          .answered reply ∧
        (request.items? list = none → reply.status = 404) ∧
        (∀ items, request.items? list = some items →
          reply = Service.listing items (told.map RunSummary.fingerprint)) ∧
        list.registered = ((last listed).map RunSummary.registered).getD [] ∧
        (∀ earlier since, listed = earlier ++ since → (room.run earlier).passes since = [] →
          request.items? list = request.items? (room.registry earlier)) ∧
        (told.map RunSummary.fingerprint = (last listed).map RunSummary.fingerprint ↔
          (last (before ++ between)).map RunSummary.fingerprint =
            (last before).map RunSummary.fingerprint) ∧
        ((room.run before).passes between = [] → told = last listed) := by
  intro room
  refine ⟨fun events reply answered => answeredSchedule rfl answered, ?_⟩
  intro before between later listed list last told
  have lastRun (moves : List Watchroom.Move) : (room.registry moves).lastRun = last moves := by
    rw [Watchroom.runLastRun]
    exact Option.or_none
  have served : Watchroom.LastServed list := Watchroom.runServed (s := room) rfl listed
  have both : request.listed (room.registry before) (room.registry (before ++ between)) = list ∧
      request.told (room.registry before) (room.registry (before ++ between)) =
        room.registry (request.told before (before ++ between)) := by
    cases request <;> exact ⟨rfl, rfl⟩
  refine ⟨_, runSchedule rfl before between later, fun missed => ?_, fun items some => ?_, ?_, ?_,
    ?_, fun none => ?_⟩
  · exact answerNone (both.1.symm ▸ missed)
  · have answered := answerSome (both.1.symm ▸ some)
    rw [both.2, Service.lastFingerprint, lastRun] at answered
    exact answered
  · rw [← lastRun]
    exact served
  · intro earlier since whole none
    have same : list = (room.run earlier).registry since := by
      rw [Watchroom.registry, ← Watchroom.runAppend, ← whole]
      rfl
    obtain ⟨registered, endpoints, -⟩ := Watchroom.runUnchanged since none
    rw [same]
    cases request with
    | artifacts => exact congrArg (fun names => Option.some (names.map text)) registered
    | endpoints table =>
        exact congrArg (fun tables => (tables.get? table).map (·.map Endpoint.toJson)) endpoints
  · cases request with
    | artifacts => exact eq_comm
    | endpoints => exact Iff.rfl
  · have same : last (before ++ between) = last before := by
      simp only [last, Watchroom.passesAppend, none, List.append_nil]
    cases request with
    | artifacts => exact same.symm
    | endpoints => exact same

def Watchroom.notesPass : List Move := [.arrive .trigger, .read 0 (.ok [notesTable]), .write 0 {} 7]
def Watchroom.emptyPass : List Move := [.arrive .trigger, .read 1 (.ok []), .write 1 {} 8]

open Visit Watchroom Catalog in
theorem passBetweenLooksMistold :
    let visit := asked notesSession.watcher.settings notesSession.watcher.binder
    (notesRoom.passes (notesPass ++ emptyPass)).map
      (fun pass => (pass.registered, pass.fingerprint)) =
        [(["notes"], fingerprint [notesTable]), ([], fingerprint [])] ∧
      fingerprint [] ≠ fingerprint [notesTable] ∧
      ((visit .artifacts).run (schedule [] notesPass [])).progress =
        .answered (Service.listing [text "notes"] none) ∧
      ∃ endpoints, (notesRoom.registry notesPass).endpoints.get? "notes" = some endpoints ∧
        ((visit (.endpoints "notes")).run (schedule notesPass emptyPass [])).progress =
          .answered (Service.listing (endpoints.map Endpoint.toJson) (some (fingerprint []))) := by
  have evaluated : (notesRoom.passes (notesPass ++ emptyPass)).map
        (fun pass => (pass.registered, pass.fingerprint)) =
          [(["notes"], fingerprint [notesTable]), ([], fingerprint [])] ∧
      fingerprint [] ≠ fingerprint [notesTable] ∧
      (notesRoom.registry notesPass).registered = ["notes"] ∧
      ((notesRoom.registry notesPass).endpoints.get? "notes").isSome = true ∧
      Service.lastFingerprint (notesRoom.registry (notesPass ++ emptyPass)) =
        some (fingerprint []) := by decide +kernel
  obtain ⟨passes, apart, names, bound, last⟩ := evaluated
  obtain ⟨endpoints, found⟩ := Option.isSome_iff_exists.mp bound
  refine ⟨passes, apart, ?_, endpoints, found, ?_⟩
  · rw [runSchedule rfl]
    change Progress.answered (Service.listing ((notesRoom.registry notesPass).registered.map text)
      none) = _
    rw [names]
    rfl
  · rw [runSchedule rfl]
    change Progress.answered (Service.endpoints (notesRoom.registry notesPass)
      (notesRoom.registry (notesPass ++ emptyPass)) "notes") = _
    rw [Service.endpoints, found, last]

end RestScaffold
