import RestScaffold.Proofs.Watch.Exclusion
import RestScaffold.Proofs.Watch.Registration

/-! A watcher together with the runs that have its gate. Runs come and go in any order, and what
each of them reads, what tree it writes to and whether it gets to its end are left open. Whatever
happens, the registry agrees with itself and with what has been answered until then. -/
namespace RestScaffold
open Catalog

structure Watchroom where
  watcher : Watcher
  jobs : List (Nat × Job) := []
  issued : Nat := 0

namespace Watchroom

inductive Move where
  | prime (reading : Reading)
  | arrive (kind : RunKind)
  | read (ticket : Nat) (reading : Reading)
  | write (ticket : Nat) (tree : FileTree) (now : Nat)
  | drop (ticket : Nat)
  | stop
  | timer (timer : Option Timer)

inductive Reply where
  | primed (result : Except WatcherError String)
  | refused (result : RunResult)
  | admitted (ticket : Nat)
  | going
  | ended (result : RunResult)
  | wrote (result : RunResult)
  | dropped
  | stopping
  | timed
  | absent

def Reply.returned : Reply → Bool
  | .wrote _ => true
  | _ => false

def others (s : Watchroom) (ticket : Nat) : List (Nat × Job) := s.jobs.filter (·.1 ≠ ticket)

def step (s : Watchroom) : Move → Watchroom × Reply
  | .prime reading =>
      let (watcher, result) := s.watcher.prime reading
      ({ s with watcher }, .primed result)
  | .arrive kind =>
      match s.watcher.enter kind with
      | .error seen => (s, .refused (kind.refusal seen))
      | .ok watcher =>
          (⟨watcher, (s.issued, ⟨kind, none⟩) :: s.jobs, s.issued + 1⟩, .admitted s.issued)
  | .read ticket reading =>
      match s.jobs.lookup ticket with
      | some ⟨kind, none⟩ =>
          match s.watcher.assess kind reading with
          | .error result =>
              (⟨s.watcher.leave, s.others ticket, s.issued⟩, .ended result)
          | .ok (watcher, tables) =>
              (⟨watcher, (ticket, ⟨kind, some tables⟩) :: s.others ticket, s.issued⟩, .going)
      | _ => (s, .absent)
  | .write ticket tree now =>
      match s.jobs.lookup ticket with
      | some ⟨_, some tables⟩ =>
          let (watcher, _, result) := s.watcher.regenerate tree now tables
          (⟨watcher.leave, s.others ticket, s.issued⟩, .wrote result)
      | _ => (s, .absent)
  | .drop ticket =>
      match s.jobs.lookup ticket with
      | some _ => (⟨s.watcher.leave, s.others ticket, s.issued⟩, .dropped)
      | none => (s, .absent)
  | .stop => ({ s with watcher := s.watcher.stop }, .stopping)
  | .timer timer => ({ s with watcher := { s.watcher with timer } }, .timed)

def run (s : Watchroom) (moves : List Move) : Watchroom :=
  moves.foldl (fun s move => (s.step move).1) s

def transcript (s : Watchroom) : List Move → List (Move × Reply)
  | [] => []
  | move :: rest => (move, (s.step move).2) :: (s.step move).1.transcript rest

variable {s t : Watchroom} {ticket : Nat} {job : Job} {past : List (Move × Reply)}

inductive Changes (s : Watchroom) : Move → Reply → Registry → Prop where
  | primed (tables) : s.Changes (.prime (.ok tables)) (.primed (.ok (fingerprint tables)))
      (s.watcher.registry.withFingerprint (fingerprint tables))
  | completed {ticket tree now kind tables bound summary}
      (known : s.jobs.lookup ticket = some ⟨kind, some tables⟩)
      (sorted : SortedMap.Sorted bound) (named : summary.registered = bound.keys) :
      s.Changes (.write ticket tree now) (.wrote (.regenerated summary))
        (s.watcher.registry.commit (fingerprint tables) bound summary)
  | failed {ticket tree now kind tables error}
      (known : s.jobs.lookup ticket = some ⟨kind, some tables⟩) :
      s.Changes (.write ticket tree now) (.wrote (.failed (.emission error)))
        (s.watcher.registry.recordFailure (fingerprint tables))
  | nothing (move) {reply} (running : reply.returned = false)
      (unprimed : ∀ text, reply ≠ .primed (.ok text)) : s.Changes move reply s.watcher.registry

theorem stepChanges (s : Watchroom) (move : Move) :
    s.Changes move (s.step move).2 (s.step move).1.watcher.registry := by
  cases move with
  | prime reading =>
      cases reading with
      | error e => exact .nothing _ rfl nofun
      | ok tables => exact .primed tables
  | arrive kind =>
      simp only [step]
      split
      · exact .nothing _ rfl nofun
      · rename_i entered
        obtain ⟨gate, -, rfl⟩ := enterOk entered
        exact .nothing _ rfl nofun
  | read ticket reading =>
      simp only [step]
      split
      · split
        · exact .nothing _ rfl nofun
        · rename_i assessed
          obtain ⟨-, gate, rfl, -⟩ := assessOk assessed
          exact .nothing _ rfl nofun
      · exact .nothing _ rfl nofun
  | write ticket tree now =>
      simp only [step]
      split
      · rename_i known
        unfold Watcher.regenerate
        split
        · exact .failed known
        · refine .completed known ?_ rfl
          rw [Registration.ofTablesAfter]
          exact Registration.boundSorted _
      · exact .nothing _ rfl nofun
  | drop ticket =>
      simp only [step]
      split <;> exact .nothing _ rfl nofun
  | stop => exact .nothing _ rfl nofun
  | timer timer => exact .nothing _ rfl nofun

structure Coherent (r : Registry) : Prop where
  registered : r.registered = r.endpoints.keys
  ascending : r.registered.Pairwise (· < ·)
  lastRun : ∀ summary, r.lastRun = some summary →
    summary.registered = r.registered ∧ r.lastRegeneratedAt = some summary.finishedAt

theorem changesCoherent {move : Move} {reply : Reply} {next : Registry}
    (h : Coherent s.watcher.registry) (changes : s.Changes move reply next) : Coherent next := by
  cases changes with
  | primed | failed | nothing => exact ⟨h.registered, h.ascending, h.lastRun⟩
  | completed known sorted named =>
      refine ⟨rfl, List.pairwise_map.mpr sorted, ?_⟩
      rintro summary ⟨⟩
      exact ⟨named, rfl⟩

theorem changesCount {move : Move} {reply : Reply} {next : Registry}
    (changes : s.Changes move reply next) :
    next.regenerations = s.watcher.registry.regenerations + reply.returned.toNat := by
  cases changes with
  | primed | completed | failed => rfl
  | nothing move running => rw [running]; rfl

inductive Stirs (s : Watchroom) : Move → Reply → List (Nat × Job) → Nat → Prop where
  | arrived (kind) : s.Stirs (.arrive kind) (.admitted s.issued)
      ((s.issued, ⟨kind, none⟩) :: s.jobs) (s.issued + 1)
  | read {ticket kind} (tables) (known : s.jobs.lookup ticket = some ⟨kind, none⟩) :
      s.Stirs (.read ticket (.ok tables)) .going
        ((ticket, ⟨kind, some tables⟩) :: s.others ticket) s.issued
  | left (move) {reply} (ticket) (other : reply ≠ .going) :
      s.Stirs move reply (s.others ticket) s.issued
  | nothing (move) {reply} (other : reply ≠ .going) : s.Stirs move reply s.jobs s.issued

theorem stepStirs (s : Watchroom) (move : Move) :
    s.Stirs move (s.step move).2 (s.step move).1.jobs (s.step move).1.issued := by
  cases move with
  | prime reading => exact .nothing _ nofun
  | arrive kind =>
      simp only [step]
      split
      · exact .nothing _ nofun
      · exact .arrived kind
  | read ticket reading =>
      simp only [step]
      split
      · rename_i known
        split
        · exact .left _ ticket nofun
        · rename_i assessed
          obtain ⟨rfl, -⟩ := assessOk assessed
          exact .read _ known
      · exact .nothing _ nofun
  | write ticket tree now =>
      simp only [step]
      split
      · exact .left _ ticket nofun
      · exact .nothing _ nofun
  | drop ticket =>
      simp only [step]
      split
      · exact .left _ ticket nofun
      · exact .nothing _ nofun
  | stop => exact .nothing _ nofun
  | timer timer => exact .nothing _ nofun

abbrev HasRead (past : List (Move × Reply)) (ticket : Nat) (reading : Reading) : Prop :=
  (Move.read ticket reading, Reply.going) ∈ past

theorem readSnoc {move : Move} {reply : Reply} (other : reply ≠ .going) (ticket : Nat)
    (reading : Reading) :
    HasRead (past ++ [(move, reply)]) ticket reading ↔ HasRead past ticket reading := by
  simp [HasRead, other.symm]

theorem readAgain {asked : Nat} {reading read : Reading} :
    HasRead (past ++ [(.read ticket read, .going)]) asked reading ↔
      asked = ticket ∧ reading = read ∨ HasRead past asked reading := by
  simp [HasRead, or_comm]

structure Accounts (jobs : List (Nat × Job)) (issued : Nat) (past : List (Move × Reply)) :
    Prop where
  distinct : (jobs.map Prod.fst).Nodup
  earlier : ∀ entry ∈ jobs, entry.1 < issued
  known : ∀ ticket reading, HasRead past ticket reading → ticket < issued
  read : ∀ entry ∈ jobs, ∀ reading,
    HasRead past entry.1 reading ↔ entry.2.tables.map Except.ok = some reading

theorem accountsFewer {jobs fewer : List (Nat × Job)} {issued : Nat} {move : Move} {reply : Reply}
    (h : Accounts jobs issued past) (some : fewer.Sublist jobs) (other : reply ≠ .going) :
    Accounts fewer issued (past ++ [(move, reply)]) where
  distinct := h.distinct.sublist (some.map Prod.fst)
  earlier entry member := h.earlier entry (some.subset member)
  known ticket reading read := h.known ticket reading ((readSnoc other ticket reading).mp read)
  read entry member reading :=
    (readSnoc other entry.1 reading).trans (h.read entry (some.subset member) reading)

theorem stirsAccounts {move : Move} {reply : Reply} {jobs : List (Nat × Job)} {issued : Nat}
    (h : Accounts s.jobs s.issued past) (stirs : s.Stirs move reply jobs issued) :
    Accounts jobs issued (past ++ [(move, reply)]) := by
  cases stirs with
  | nothing move other => exact accountsFewer h (.refl _) other
  | left move ticket other => exact accountsFewer h List.filter_sublist other
  | arrived kind =>
      have before : Accounts s.jobs s.issued (past ++ [(.arrive kind, .admitted s.issued)]) :=
        accountsFewer h (.refl _) nofun
      refine ⟨List.nodup_cons.mpr ⟨fun member => ?_, h.distinct⟩, ?_, fun ticket reading read =>
        Nat.lt_succ_of_lt (before.known ticket reading read), ?_⟩
      · obtain ⟨entry, known, same⟩ := List.mem_map.mp member
        exact Nat.ne_of_lt (h.earlier entry known) same
      · intro entry member
        rcases List.mem_cons.mp member with rfl | known
        · exact Nat.lt_succ_self _
        · exact Nat.lt_succ_of_lt (h.earlier entry known)
      · intro entry member reading
        rcases List.mem_cons.mp member with rfl | known
        · exact iff_of_false (fun read => Nat.lt_irrefl _ (before.known _ _ read)) nofun
        · exact before.read entry known reading
  | @read ticket kind tables known =>
      -- The run that reads has read nothing so far, so that this reading is its only one.
      obtain ⟨first, last, jobs, -⟩ := List.lookup_eq_some_iff.mp known
      have there : (ticket, ⟨kind, none⟩) ∈ s.jobs := by simp [jobs]
      have early : ticket < s.issued := h.earlier _ there
      have fewer : (s.others ticket).Sublist s.jobs := List.filter_sublist
      have unread (reading) : ¬HasRead past ticket reading := fun read => by
        simpa using (h.read _ there reading).mp read
      refine ⟨List.nodup_cons.mpr ⟨?_, h.distinct.sublist (fewer.map Prod.fst)⟩, ?_, ?_, ?_⟩
      · simp [others]
      · intro entry member
        rcases List.mem_cons.mp member with rfl | other
        · exact early
        · exact h.earlier entry (fewer.subset other)
      · intro asked reading read
        rcases readAgain.mp read with ⟨rfl, -⟩ | before
        · exact early
        · exact h.known asked reading before
      · intro entry member reading
        rw [readAgain]
        rcases List.mem_cons.mp member with rfl | other
        · simpa [unread] using eq_comm
        · have apart : entry.1 ≠ ticket := by simpa using List.of_mem_filter other
          simpa [apart] using h.read entry (fewer.subset other) reading

structure Sound (s : Watchroom) (past : List (Move × Reply)) : Prop where
  coherent : Coherent s.watcher.registry
  count : s.watcher.registry.regenerations = past.countP (·.2.returned)
  accounts : Accounts s.jobs s.issued past

theorem stepSound (h : s.Sound past) (move : Move) :
    (s.step move).1.Sound (past ++ [(move, (s.step move).2)]) where
  coherent := changesCoherent h.coherent (stepChanges s move)
  count := by
    rw [changesCount (stepChanges s move), h.count, List.countP_append, List.countP_singleton]
    cases (s.step move).2.returned <;> rfl
  accounts := stirsAccounts h.accounts (stepStirs s move)

theorem runSound (h : s.Sound past) (moves : List Move) :
    (s.run moves).Sound (past ++ s.transcript moves) := by
  induction moves generalizing s past with
  | nil => simpa [transcript, run] using h
  | cons move rest ih => simpa [transcript, run] using ih (stepSound h move)

def opened (settings : Settings) (binder : Binder) : Watchroom where
  watcher := { settings, binder }

theorem openedSound (settings : Settings) (binder : Binder) :
    (opened settings binder).Sound [] where
  coherent := ⟨rfl, .nil, nofun⟩
  count := rfl
  accounts := ⟨.nil, nofun, nofun, nofun⟩

theorem lookupRead (h : s.Sound past) {kind : RunKind} {tables : List Table}
    (known : s.jobs.lookup ticket = some ⟨kind, some tables⟩) (reading : Reading) :
    HasRead past ticket reading ↔ reading = .ok tables := by
  obtain ⟨first, last, jobs, -⟩ := List.lookup_eq_some_iff.mp known
  have there : (ticket, ⟨kind, some tables⟩) ∈ s.jobs := by simp [jobs]
  simpa [eq_comm] using h.accounts.read _ there reading

def Keeps (law : Watcher → List Job → Prop) (s : Watchroom) : Prop :=
  law s.watcher (s.jobs.map Prod.snd)

section
variable {law : Watcher → List Job → Prop} (lasting : Lasting law)
include lasting

theorem loneJob (h : s.Keeps law) (known : s.jobs.lookup ticket = some job) :
    s.jobs = [(ticket, job)] := by
  obtain ⟨first, last, jobs, -⟩ := List.lookup_eq_some_iff.mp known
  have one := lasting.alone h
  simp only [List.length_map, jobs, List.length_append, List.length_cons] at one
  rw [jobs, List.length_eq_zero_iff.mp (by omega : first.length = 0),
    List.length_eq_zero_iff.mp (by omega : last.length = 0)]
  rfl

theorem stepKeeps (h : s.Keeps law) (move : Move) : (s.step move).1.Keeps law := by
  -- Whoever moves has the gate alone, and the laws are about runs alone.
  have alone {ticket job} (known : s.jobs.lookup ticket = some job) :
      law s.watcher [job] ∧ s.others ticket = [] := by
    have jobs := loneJob lasting h known
    unfold Keeps at h
    rw [jobs] at h
    exact ⟨h, by simp [others, jobs]⟩
  cases move with
  | prime reading => exact lasting.prime h reading
  | arrive kind =>
      simp only [step]
      split
      · exact h
      · rename_i entered
        exact lasting.enter h entered
  | read ticket reading =>
      simp only [step]
      split
      · rename_i known
        obtain ⟨own, none⟩ := alone known
        split
        · rw [none]
          exact lasting.drop own
        · rename_i assessed
          rw [none]
          exact lasting.assess own assessed
      · exact h
  | write ticket tree now =>
      simp only [step]
      split
      · rename_i known
        obtain ⟨own, none⟩ := alone known
        rw [none]
        exact lasting.write own tree now
      · exact h
  | drop ticket =>
      simp only [step]
      split
      · rename_i known
        obtain ⟨own, none⟩ := alone known
        rw [none]
        exact lasting.drop own
      · exact h
  | stop => exact lasting.stop h
  | timer timer => exact lasting.timer h timer

theorem runKeeps (h : s.Keeps law) (moves : List Move) : (s.run moves).Keeps law := by
  induction moves generalizing s with
  | nil => exact h
  | cons move rest ih => exact ih (stepKeeps lasting h move)

end

def Leads (s : Watchroom) (w : Watcher) (jobs : List Job) : Prop :=
  ∃ moves, (s.run moves).watcher = w ∧ ((s.run moves).jobs.map Prod.snd).Perm jobs

theorem runAppend (s : Watchroom) (moves more : List Move) :
    s.run (moves ++ more) = (s.run moves).run more := List.foldl_append

theorem runSnoc (s : Watchroom) (moves : List Move) (move : Move) :
    s.run (moves ++ [move]) = ((s.run moves).step move).1 := by
  simp [run]

theorem leadsLone {w : Watcher} (h : s.Leads w [job]) :
    ∃ moves ticket, (s.run moves).watcher = w ∧ (s.run moves).jobs = [(ticket, job)] := by
  obtain ⟨moves, watcher, jobs⟩ := h
  obtain ⟨⟨ticket, own⟩, rest, whole, rfl, none⟩ :=
    List.map_eq_cons_iff.mp (List.perm_singleton.mp jobs)
  exact ⟨moves, ticket, watcher, by rw [whole, List.map_eq_nil_iff.mp none]⟩

theorem leadsLasting (one : ∀ moves, (s.run moves).jobs.length ≤ 1) : Lasting s.Leads where
  perm := by
    rintro w jobs others ⟨moves, watcher, same⟩ perm
    exact ⟨moves, watcher, same.trans perm⟩
  alone := by
    rintro w jobs ⟨moves, -, same⟩
    rw [← same.length_eq, List.length_map]
    exact one moves
  enter := by
    rintro w entered jobs kind ⟨moves, rfl, same⟩ admitted
    refine ⟨moves ++ [.arrive kind], ?_⟩
    rw [runSnoc]
    simp only [step, admitted]
    exact ⟨trivial, same.cons _⟩
  assess := by
    intro w assessed kind reading tables h next
    obtain ⟨moves, ticket, rfl, jobs⟩ := leadsLone h
    refine ⟨moves ++ [.read ticket reading], ?_⟩
    rw [runSnoc]
    simp [step, jobs, next, others]
  write := by
    intro w kind tables h tree now
    obtain ⟨moves, ticket, rfl, jobs⟩ := leadsLone h
    refine ⟨moves ++ [.write ticket tree now], ?_⟩
    rw [runSnoc]
    simp [step, jobs, others]
  drop := by
    intro w job h
    obtain ⟨moves, ticket, rfl, jobs⟩ := leadsLone h
    refine ⟨moves ++ [.drop ticket], ?_⟩
    rw [runSnoc]
    simp [step, jobs, others]
  prime := by
    rintro w jobs ⟨moves, rfl, same⟩ reading
    exact ⟨moves ++ [.prime reading], by rw [runSnoc]; rfl, by rw [runSnoc]; exact same⟩
  stop := by
    rintro w jobs ⟨moves, rfl, same⟩
    exact ⟨moves ++ [.stop], by rw [runSnoc]; rfl, by rw [runSnoc]; exact same⟩
  timer := by
    rintro w jobs ⟨moves, rfl, same⟩ timer
    exact ⟨moves ++ [.timer timer], by rw [runSnoc]; rfl, by rw [runSnoc]; exact same⟩

theorem openedKeeps (settings : Settings) (binder : Binder) :
    (opened settings binder).Keeps fun w jobs =>
      Gatehouse.Reaches w.gate (jobs.map Job.phase) :=
  Gatehouse.reachesInitial

structure Matches (s : Watchroom) (t : Session) : Prop where
  watcher : t.watcher = s.watcher
  jobs : (s.jobs.map Prod.snd).Perm (Run.jobs t.runs)

theorem sessionLed {u : Session} (one : ∀ moves, (s.run moves).jobs.length ≤ 1)
    (same : s.Matches u) (joinable : u.runs.countP Run.joinable ≤ 1) (actions : List Action) :
    ∃ moves, (s.run moves).Matches (u.after actions) ∧
      (u.after actions).runs.countP Run.joinable ≤ 1 := by
  have start : u.Upholds s.Leads [] [] 0 :=
    ⟨⟨[], same.watcher.symm, by simpa [run] using same.jobs⟩, by simpa using joinable⟩
  obtain ⟨⟨moves, watcher, jobs⟩, joinable⟩ :=
    Session.upholdsAfter (leadsLasting one) start actions
  exact ⟨moves, ⟨watcher.symm, by simpa using jobs⟩, by simpa using joinable⟩

/-- Whatever happens to a watcher, its registered tables are those that it has endpoints of, and its
last run tells them in ascending order; it counts the passes that have returned. Only a completed
pass changes what is registered. A fingerprint is that of the tables that were read for it, and
nothing else that happens leaves a trace. Sessions go no other way. -/
theorem registryAgreesThroughout (settings : Settings) (binder : Binder) :
    (∀ moves : List Move,
      let s := (opened settings binder).run moves
      let past := (opened settings binder).transcript moves
      let r := s.watcher.registry
      r.registered = r.endpoints.keys ∧ r.registered.Pairwise (· < ·) ∧
      (∀ summary, r.lastRun = some summary →
        summary.registered = r.registered ∧ r.lastRegeneratedAt = some summary.finishedAt) ∧
      r.regenerations = past.countP (·.2.returned) ∧
      ∀ move,
        let next := (s.step move).1.watcher.registry
        let reply := (s.step move).2
        ((∀ summary, reply ≠ .wrote (.regenerated summary)) →
          next.registered = r.registered ∧ next.endpoints = r.endpoints ∧
          next.lastRun = r.lastRun ∧ next.lastRegeneratedAt = r.lastRegeneratedAt) ∧
        (reply.returned = false → (∀ text, reply ≠ .primed (.ok text)) → next = r) ∧
        ((∃ text, reply = .primed (.ok text)) ↔ ∃ tables, move = .prime (.ok tables)) ∧
        (∀ tables, move = .prime (.ok tables) → next = r.withFingerprint (fingerprint tables)) ∧
        (∀ result, reply = .wrote result →
          ((∃ summary, result = .regenerated summary ∧ next.lastRun = some summary) ∨
            ∃ error, result = .failed (.emission error)) ∧
          ∃ ticket tree now tables, move = .write ticket tree now ∧
            (∀ reading, (.read ticket reading, .going) ∈ past ↔ reading = .ok tables) ∧
            next.fingerprint = some (fingerprint tables))) ∧
    (∀ fresh : Session, fresh.watcher = { settings, binder } → fresh.runs = [] → ∀ actions,
      ∃ moves, ((opened settings binder).run moves).Matches (fresh.after actions) ∧
        ∀ later, ∃ more, ((opened settings binder).run (moves ++ more)).Matches
          (fresh.after (actions ++ later))) := by
  constructor
  · intro moves s past r
    have sound : s.Sound past := runSound (openedSound settings binder) moves
    refine ⟨sound.coherent.registered, sound.coherent.ascending, sound.coherent.lastRun,
      sound.count, fun move => ?_⟩
    have changes := stepChanges s move
    have primes (tables) (prime : move = .prime (.ok tables)) :
        (s.step move).2 = .primed (.ok (fingerprint tables)) ∧
          (s.step move).1.watcher.registry = r.withFingerprint (fingerprint tables) := by
      subst prime
      exact ⟨rfl, rfl⟩
    generalize (s.step move).1.watcher.registry = next at changes primes ⊢
    generalize (s.step move).2 = reply at changes primes ⊢
    refine ⟨?_, ?_, ⟨?_, ?_⟩, fun tables prime => (primes tables prime).2, ?_⟩
    · intro incomplete
      cases changes with
      | primed | failed | nothing => exact ⟨rfl, rfl, rfl, rfl⟩
      | completed => exact absurd rfl (incomplete _)
    · intro running unprimed
      cases changes with
      | nothing => rfl
      | primed => exact absurd rfl (unprimed _)
      | completed | failed => contradiction
    · rintro ⟨text, rfl⟩
      cases changes with
      | primed tables => exact ⟨tables, rfl⟩
      | nothing move running unprimed => exact absurd rfl (unprimed text)
    · rintro ⟨tables, prime⟩
      exact ⟨_, (primes tables prime).1⟩
    · rintro result rfl
      cases changes with
      | completed known => exact ⟨.inl ⟨_, rfl, rfl⟩, _, _, _, _, rfl, lookupRead sound known, rfl⟩
      | failed known => exact ⟨.inr ⟨_, rfl⟩, _, _, _, _, rfl, lookupRead sound known, rfl⟩
      | nothing move running => contradiction
  · intro fresh watcher runs actions
    have one (moves) : ((opened settings binder).run moves).jobs.length ≤ 1 := by
      have kept := runKeeps gateLasting (openedKeeps settings binder) moves
      simpa using gateLasting.alone kept
    have start : (opened settings binder).Matches fresh := ⟨watcher, by rw [runs]; exact .refl _⟩
    obtain ⟨moves, there, joinable⟩ := sessionLed one start (by simp [runs]) actions
    refine ⟨moves, there, fun later => ?_⟩
    have still (more) : (((opened settings binder).run moves).run more).jobs.length ≤ 1 := by
      rw [← runAppend]
      exact one _
    obtain ⟨more, beyond, -⟩ := sessionLed still there joinable later
    rw [Session.after, List.foldl_append]
    exact ⟨more, by rw [runAppend]; exact beyond⟩

def notesTable : Table where
  schema := "public"
  name := "notes"
  columns := [{ name := "id", dataType := "integer", nullable := false, isPrimaryKey := true }]

def notesSession : Session where
  watcher := { settings := { targets := [.client] }, binder := fun _ _ => .ok () }
  catalog := { tables := [notesTable] }
  tree := {}

def notesRoom : Watchroom := opened notesSession.watcher.settings notesSession.watcher.binder

def notesMoves : List Move := [.arrive .check, .read 0 (.ok [notesTable]), .prime (.ok [])]

theorem notesFingerprint :
    (((notesRoom.run notesMoves).step (.write 0 {} 7)).1.watcher.registry.fingerprint =
        some (fingerprint [notesTable])) ∧
      notesSession.runs = [] ∧
      ∃ moves, (notesRoom.run moves).Matches
        (notesSession.after [.prime, .background .trigger, .stop]) := by
  obtain ⟨rooms, sessions⟩ :=
    registryAgreesThroughout notesSession.watcher.settings notesSession.watcher.binder
  obtain ⟨moves, there, -⟩ := sessions notesSession rfl rfl [.prime, .background .trigger, .stop]
  obtain ⟨-, -, -, -, steps⟩ := rooms notesMoves
  obtain ⟨-, -, -, -, wrote⟩ := steps (.write 0 {} 7)
  have known : (notesRoom.run notesMoves).jobs.lookup 0 = some ⟨.check, some [notesTable]⟩ := rfl
  obtain ⟨result, answered⟩ :
      ∃ result, ((notesRoom.run notesMoves).step (.write 0 {} 7)).2 = .wrote result := by
    simp only [step, known]
    exact ⟨_, rfl⟩
  obtain ⟨-, ticket, tree, now, tables, same, only, text⟩ := wrote result answered
  cases same
  have read : Except.ok [notesTable] = (.ok tables : Reading) :=
    (only _).mp (.tail _ (.head _))
  refine ⟨?_, rfl, moves, there⟩
  rw [notesRoom, Except.ok.inj read]
  exact text

end Watchroom
end RestScaffold
