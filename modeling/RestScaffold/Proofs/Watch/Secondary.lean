import Mathlib.Data.List.Forall2
import RestScaffold.Proofs.Catalog.Secondary
import RestScaffold.Proofs.Watch.Workshop

/-! Metadata that nothing is generated from makes no difference to a watcher. Each step of a
workshop does to its state less that metadata what it does to the state itself, so that workshops
whose catalogs differ in the metadata alone go through the same states and give the same answers. -/
namespace RestScaffold
open Catalog

structure SameOutcome (s : Settings) (ts us : List Table) : Prop where
  names : ts.map (fun t => (t.schema, t.name)) = us.map fun t => (t.schema, t.name)
  text : fingerprintText ts = fingerprintText us
  fingerprint : fingerprint ts = fingerprint us
  prepared : ts.map (Pass.prepare s ·.shape) = us.map (Pass.prepare s ·.shape)
  ran : ∀ tree, Pass.run s tree (ts.map Table.shape) = Pass.run s tree (us.map Table.shape)

inductive SameReading (s : Settings) : Reading → Reading → Prop where
  | failed (e : CatalogError) : SameReading s (.error e) (.error e)
  | tables {ts us : List Table} (same : SameOutcome s ts us) : SameReading s (.ok ts) (.ok us)

theorem sameOutcome {ts us : List Table} (s : Settings)
    (same : ts.map Table.primary = us.map Table.primary) :
    SameOutcome s ts us := by
  have shapes : ts.map Table.shape = us.map Table.shape := by
    rw [← shapesPrimary ts, same, shapesPrimary]
  have text : fingerprintText ts = fingerprintText us := by
    rw [← fingerprintTextPrimary ts, same, fingerprintTextPrimary]
  refine ⟨?_, text, congrArg Digest.ofText text, ?_, fun tree => by rw [shapes]⟩
  · have names := congrArg (List.map fun t : TableShape => (t.schema, t.name)) shapes
    rwa [List.map_map, List.map_map] at names
  · have prepared := congrArg (List.map (Pass.prepare s)) shapes
    rwa [List.map_map, List.map_map] at prepared

def lessSecondary (reading : Reading) : Reading := reading.map (List.map Table.primary)

theorem discoverLess {a b : Source} (alike : a.primary = b.primary) (scope : Scope) :
    lessSecondary (a.discover scope) = lessSecondary (b.discover scope) := by
  rw [lessSecondary, ← discoverPrimary, alike, discoverPrimary, lessSecondary]

theorem sameReading {r r' : Reading} (s : Settings) (same : lessSecondary r = lessSecondary r') :
    SameReading s r r' := by
  cases r <;> cases r' <;> simp only [lessSecondary, Except.map, reduceCtorEq, Except.error.injEq,
    Except.ok.injEq] at same
  · exact same ▸ .failed _
  · exact .tables (sameOutcome s same)

theorem regeneratePrimary (w : Watcher) (tree : FileTree) (now : Nat) (ts : List Table) :
    w.regenerate tree now (ts.map Table.primary) = w.regenerate tree now ts := by
  simp only [Watcher.regenerate, shapesPrimary, fingerprintPrimary]

theorem assessPrimary (w : Watcher) (kind : RunKind) (reading : Reading) :
    w.assess kind (lessSecondary reading) =
      (w.assess kind reading).map (Prod.map id (List.map Table.primary)) := by
  cases reading with
  | error e => cases kind <;> rfl
  | ok ts =>
      cases kind with
      | trigger => rfl
      | check =>
          simp only [Watcher.assess, lessSecondary, Except.map, fingerprintPrimary]
          split
          · rfl
          · split <;> rfl

theorem primePrimary (w : Watcher) (reading : Reading) :
    w.prime (lessSecondary reading) = w.prime reading := by
  cases reading with
  | error e => rfl
  | ok ts => simp only [Watcher.prime, lessSecondary, Except.map, fingerprintPrimary]

theorem assessAlike {r r' : Reading} (w : Watcher) (same : lessSecondary r = lessSecondary r')
    (unchanged : w.assess .check r = .error .unchanged) :
    w.assess .check r' = .error .unchanged := by
  have less := assessPrimary w .check r'
  rw [← same, assessPrimary, unchanged] at less
  cases assessed : w.assess .check r' with
  | error result =>
      rw [assessed] at less
      exact less.symm
  | ok going =>
      rw [assessed] at less
      cases less

namespace Workshop

def lessJob (job : Job) : Job := { job with tables := job.tables.map (List.map Table.primary) }

def less (s : Workshop) : Workshop := { s with jobs := s.jobs.map (Prod.map id lessJob) }

def Deed.less : Deed → Deed
  | .prime reading => .prime (lessSecondary reading)
  | .read ticket reading => .read ticket (lessSecondary reading)
  | deed => deed

/-- The same is done in both places, though the catalogs there may differ in secondary metadata. -/
inductive Deed.Alike : Deed → Deed → Prop where
  | same (deed : Deed) : Alike deed deed
  | prime {a b : Source} (alike : a.primary = b.primary) (scope : Scope) :
      Alike (.prime (a.discover scope)) (.prime (b.discover scope))
  | read {a b : Source} (alike : a.primary = b.primary) (ticket : Nat) (scope : Scope) :
      Alike (.read ticket (a.discover scope)) (.read ticket (b.discover scope))

def replies (s : Workshop) : List Deed → List Reply
  | [] => []
  | deed :: rest => (s.step deed).2 :: (s.step deed).1.replies rest

variable (s : Workshop)

theorem lookupLess (ticket : Nat) :
    s.less.jobs.lookup ticket = (s.jobs.lookup ticket).map lessJob := by
  simp only [less]
  induction s.jobs with
  | nil => rfl
  | cons entry rest ih =>
      obtain ⟨number, job⟩ := entry
      simp only [List.map_cons, Prod.map, id, List.lookup_cons, ih]
      split <;> rfl

theorem othersLess (ticket : Nat) :
    s.less.others ticket = (s.others ticket).map (Prod.map id lessJob) := by
  simp only [Watchroom.others, less, List.filter_map]
  rfl

theorem stepLess (deed : Deed) :
    s.less.step deed.less = ((s.step deed).1.less, (s.step deed).2) := by
  have watcher : s.less.watcher = s.watcher := rfl
  have tree : s.less.tree = s.tree := rfl
  have issued : s.less.issued = s.issued := rfl
  cases deed with
  | prime reading =>
      simp only [step, moved, Deed.less, Watchroom.step, watcher, tree, primePrimary]
      rfl
  | arrive kind =>
      simp only [step, moved, Deed.less, Watchroom.step, watcher, tree, issued]
      split <;> rfl
  | read ticket reading =>
      simp only [step, moved, Deed.less, Watchroom.step, watcher, tree, issued, lookupLess,
        othersLess, assessPrimary]
      cases s.jobs.lookup ticket with
      | none => rfl
      | some job =>
          obtain ⟨kind, tables | tables⟩ := job
          · cases assessed : s.watcher.assess kind reading <;>
              simp [assessed, lessJob, less, Except.map]
          · rfl
  | write ticket now =>
      simp only [step, moved, Deed.less, Watchroom.step, watcher, tree, issued, tables?, lookupLess,
        othersLess]
      cases s.jobs.lookup ticket with
      | none => rfl
      | some job =>
          obtain ⟨kind, tables | tables⟩ := job
          · rfl
          · simp only [Option.map_some, lessJob, Option.bind_some, regeneratePrimary]
            rfl
  | drop ticket left =>
      simp only [step, moved, Deed.less, Watchroom.step, watcher, tree, issued, tables?, lookupLess,
        othersLess]
      cases s.jobs.lookup ticket with
      | none => rfl
      | some job => obtain ⟨kind, tables | tables⟩ := job <;> rfl
  | stop => rfl
  | start now => rfl
  | tick => rfl
  | turn =>
      simp only [step, Deed.less, watcher, issued]
      split <;> rfl
  | files tree => rfl

theorem runLess (deeds : List Deed) :
    s.less.run (deeds.map Deed.less) = (s.run deeds).less ∧
      s.less.replies (deeds.map Deed.less) = s.replies deeds := by
  induction deeds generalizing s with
  | nil => exact ⟨rfl, rfl⟩
  | cons deed rest ih =>
      obtain ⟨ran, replied⟩ := ih (s.step deed).1
      simp only [run, List.map_cons, List.foldl_cons, replies, stepLess] at ran ⊢
      exact ⟨ran, congrArg _ replied⟩

theorem Deed.Alike.less {deed deed' : Deed} (alike : Deed.Alike deed deed') :
    deed.less = deed'.less := by
  cases alike with
  | same => rfl
  | prime alike scope => exact congrArg Deed.prime (discoverLess alike scope)
  | read alike ticket scope => exact congrArg (Deed.read ticket) (discoverLess alike scope)

theorem deedsLess {deeds deeds' : List Deed} (alike : List.Forall₂ Deed.Alike deeds deeds') :
    deeds.map Deed.less = deeds'.map Deed.less := by
  induction alike with
  | nil => rfl
  | cons first rest ih => rw [List.map_cons, first.less, ih, List.map_cons]

/-- Sources that differ in secondary metadata alone, in what it says or in where it cannot be read,
list the same tables, with the same fingerprint, plans, failures and files. A tick that would find
the one unchanged finds the other one unchanged. Over any time, a workshop makes no difference
between them: it gives the same answers, and leaves the same files and the same registry. -/
theorem secondaryMetadataUnseen :
    (∀ a b : Source, a.primary = b.primary → ∀ scope s,
      SameReading s (a.discover scope) (b.discover scope) ∧
      ∀ w : Watcher, w.assess .check (a.discover scope) = .error .unchanged →
        w.assess .check (b.discover scope) = .error .unchanged) ∧
    ∀ (s : Workshop) (deeds deeds' : List Deed), List.Forall₂ Deed.Alike deeds deeds' →
      s.replies deeds = s.replies deeds' ∧ (s.run deeds).watcher = (s.run deeds').watcher ∧
        (s.run deeds).tree = (s.run deeds').tree := by
  constructor
  · intro a b alike scope s
    have same := discoverLess alike scope
    exact ⟨sameReading s same, fun w unchanged => assessAlike w same unchanged⟩
  · intro s deeds deeds' alike
    obtain ⟨ran, replied⟩ := s.runLess deeds
    obtain ⟨ran', replied'⟩ := s.runLess deeds'
    rw [← deedsLess alike] at ran' replied'
    have same : (s.run deeds).less = (s.run deeds').less := ran.symm.trans ran'
    exact ⟨replied.symm.trans replied', congrArg (·.watcher) same, congrArg (·.tree) same⟩

def ordersTable : Table where
  schema := "public"
  name := "orders"
  columns := [{ name := "id", dataType := "integer", nullable := false, isPrimaryKey := true },
    { name := "item_id", dataType := "integer", nullable := false }]
  foreignKeys := [⟨"orders_item", "item_id", ⟨"items", "id"⟩, none, some "CASCADE"⟩]

def ordersRestricted : Memory where
  tables := [{ ordersTable with
    columns := [{ name := "id", dataType := "integer", nullable := false, isPrimaryKey := true },
      { name := "item_id", dataType := "integer", nullable := false, isUnique := true,
        numericPrecision := some 32, comment := some "what is ordered" }] }]
  failingSecondary := ["orders"]

theorem ordersRestrictedUnseen :
    let a : Source := Memory.source { tables := [ordersTable] }
    let b : Source := ordersRestricted.source
    let scope : Scope := ⟨["public"], []⟩
    let fresh : Workshop := opened {} (fun _ _ => .ok ()) {}
    let deeds (c : Source) : List Deed := [.prime (c.discover scope), .arrive .check,
      .read 0 (c.discover scope), .arrive .trigger, .read 1 (c.discover scope), .write 1 0]
    a.primary = b.primary ∧ a.discover scope ≠ b.discover scope ∧
      SameReading {} (a.discover scope) (b.discover scope) ∧
      (∀ w : Watcher, w.assess .check (a.discover scope) = .error .unchanged →
        w.assess .check (b.discover scope) = .error .unchanged) ∧
      fresh.replies (deeds a) = fresh.replies (deeds b) ∧
      (fresh.run (deeds a)).tree = (fresh.run (deeds b)).tree := by
  intro a b scope fresh deeds
  have alike : a.primary = b.primary := by
    have same : Memory.primary { tables := [ordersTable] } = ordersRestricted.primary := rfl
    rw [← sourcePrimary, same, sourcePrimary]
  obtain ⟨reading, tick⟩ := secondaryMetadataUnseen.1 a b alike scope {}
  obtain ⟨replies, -, tree⟩ := secondaryMetadataUnseen.2 fresh (deeds a) (deeds b)
    (.cons (.prime alike scope) (.cons (.same _) (.cons (.read alike 0 scope) (.cons (.same _)
      (.cons (.read alike 1 scope) (.cons (.same _) .nil))))))
  exact ⟨alike, by decide +kernel, reading, tick, replies, tree⟩

end Workshop
end RestScaffold
