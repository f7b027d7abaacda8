import Mathlib.Data.List.Pairwise
import RestScaffold.Proofs.Endpoint.Routes
import RestScaffold.Proofs.Generation.Pass
import RestScaffold.Proofs.Watch.Registration

/-! Who has which route once the tables have registered. A table that is taken has its routes to
itself; one that is left out has none. Planned tables want the same route only if their names are
the same in lower case and they have an operation in common. -/
namespace RestScaffold
open Catalog

def TableReport.Planned (t : TableReport) : Prop :=
  ∃ shape policy, shape.name = t.table ∧ Plan.endpoints shape policy = .ok t.endpoints ∧
    ∃ (r : Rendering) (targets : List Target) (files : List Artifact),
      r.tableArtifacts shape policy t.endpoints targets = .ok files

def TableReport.Rivals (t u : TableReport) : Prop :=
  Text.lower t.table = Text.lower u.table ∧ ∃ e ∈ t.endpoints, ∃ f ∈ u.endpoints, e.kind = f.kind

def TableReport.routes (t : TableReport) : List (Method × String) :=
  t.endpoints.map Endpoint.routeKey

section
variable {t u : TableReport}

theorem plannedRoute (planned : t.Planned) : Naming.isPlainIdentifier t.table = true ∧
    ∀ e ∈ t.endpoints, e.routeKey = (e.kind.method, e.kind.path t.table) := by
  obtain ⟨shape, policy, named, endpoints, r, targets, files, rendered⟩ := planned
  rw [← named]
  exact ⟨(Rendering.tableArtifactsOk rendered).1,
    fun e member => Plan.endpointRoutes endpoints member⟩

theorem plannedRoutesDistinct (planned : t.Planned) : t.routes.Nodup := by
  obtain ⟨shape, policy, named, endpoints, -⟩ := planned
  exact Plan.routesDistinct endpoints

theorem rivalsIff (planned : t.Planned) (planned' : u.Planned) :
    t.Rivals u ↔ ∃ route ∈ t.routes, route ∈ u.routes := by
  obtain ⟨plain, route⟩ := plannedRoute planned
  obtain ⟨plain', route'⟩ := plannedRoute planned'
  constructor
  · rintro ⟨lower, e, member, f, member', kind⟩
    refine ⟨e.routeKey, List.mem_map_of_mem member, List.mem_map.mpr ⟨f, member', ?_⟩⟩
    rw [route e member, route' f member', Prod.mk.injEq, eq_comm (a := f.kind.method),
      eq_comm (a := f.kind.path u.table)]
    exact (EndpointKind.routeSeparates plain plain').mpr ⟨kind, lower⟩
  · rintro ⟨key, own, own'⟩
    obtain ⟨e, member, rfl⟩ := List.mem_map.mp own
    obtain ⟨f, member', same⟩ := List.mem_map.mp own'
    rw [route e member, route' f member', Prod.mk.injEq] at same
    obtain ⟨kind, lower⟩ := (EndpointKind.routeSeparates plain' plain).mp same
    exact ⟨lower.symm, e, member, f, member', kind.symm⟩

end

namespace Pass

variable {s : Settings} {tree after : FileTree} {shape : TableShape} {shapes : List TableShape}

theorem tablePlanned {t : TableReport} (generated : (table s tree shape).2.generated? = some t) :
    t.Planned := by
  unfold table at generated
  split at generated
  · cases generated
  · cases generated
  · rename_i plan files prepared
    split at generated
    · cases generated
    · cases generated
      obtain ⟨-, planned, rendered⟩ := prepareSome.mp prepared
      exact ⟨shape, _, rfl, planned, s.rendering, s.targets, files, rendered⟩

theorem tablesPlanned (s : Settings) (tree : FileTree) (shapes : List TableShape) :
    ∀ t ∈ (tables s tree shapes).2.filterMap Outcome.generated?, t.Planned := by
  induction shapes generalizing tree with
  | nil => nofun
  | cons shape rest ih =>
      intro t member
      rw [tablesCons] at member
      obtain ⟨outcome, among, generated⟩ := List.mem_filterMap.mp member
      rcases List.mem_cons.mp among with rfl | later
      · exact tablePlanned generated
      · exact ih _ t (List.mem_filterMap.mpr ⟨outcome, later, generated⟩)

theorem runPlanned {report : Report} (ran : run s tree shapes = (after, .ok report)) :
    ∀ t ∈ report.generated, t.Planned := by
  obtain ⟨outcomes, tabled, indexed, tables, -, -, rfl⟩ := runEnded ran
  have planned := tablesPlanned s tree shapes
  rwa [tables] at planned

end Pass

namespace Registration

variable {r s : Registration} {offers : List Offer} {o : Offer} {t u : TableReport}

inductive Fate where
  | collides (endpoint : Endpoint) (owner : String)
  | refused (error : RegistrationError)
  | taken
  deriving DecidableEq, Repr

def Fate.error? (table : String) : Fate → Option RegistrationError
  | .collides e owner => some (.collision table e.method.name e.path owner)
  | .refused error => some error
  | .taken => none

def fate (r : Registration) (o : Offer) : Fate :=
  match r.clash? o.report.endpoints with
  | some (e, owner) => .collides e owner
  | none =>
      match o.binder o.report.table o.report.endpoints with
      | .error e => .refused e
      | .ok _ => .taken

def fates (r : Registration) : List Offer → List Fate
  | [] => []
  | o :: rest => r.fate o :: fates (r.serve o) rest

theorem objectionFate (r : Registration) (o : Offer) :
    r.objection? o = (r.fate o).error? o.report.table := by
  unfold objection? fate
  cases r.clash? o.report.endpoints with
  | some clash => rfl
  | none => cases o.binder o.report.table o.report.endpoints <;> rfl

theorem takenFate : (r.fate o).error? o.report.table = none ↔ r.fate o = .taken := by
  cases r.fate o <;> simp [Fate.error?]

theorem serveTaken (free : r.fate o = .taken) : r.serve o = r.accept o.report := by
  rw [serveStep, objectionFate, takenFate.mpr free]

theorem serveDenied (denied : r.fate o ≠ .taken) :
    ∃ e, (r.fate o).error? o.report.table = some e ∧ r.serve o = r.reject e := by
  obtain ⟨e, objection⟩ := Option.ne_none_iff_exists'.mp (mt takenFate.mp denied)
  exact ⟨e, objection, by rw [serveStep, objectionFate, objection]⟩

theorem takenCons (r : Registration) (o : Offer) (rest : List Offer) :
    r.taken (o :: rest) =
      if r.fate o = .taken then o.report :: (r.serve o).taken rest else (r.serve o).taken rest := by
  rw [taken, verdicts, objectionFate]
  split
  · rename_i free
    rw [List.filter_cons_of_pos (by simp [takenFate.mpr free])]
    rfl
  · rename_i denied
    rw [List.filter_cons_of_neg (by simpa [takenFate] using denied)]
    rfl

theorem takenReport (member : t ∈ r.taken offers) : ∃ o ∈ offers, o.report = t := by
  have known := List.mem_map_of_mem (f := Prod.fst) (memTaken.mp member)
  rw [verdictsReports] at known
  exact List.mem_map.mp known

def Owned (r : Registration) (route : Method × String) : Prop := ∃ table, (route, table) ∈ r.owners

theorem ownersAfter (r : Registration) (offers : List Offer) {route : Method × String}
    {table : String} : (route, table) ∈ (r.after offers).owners ↔
      (route, table) ∈ r.owners ∨ ∃ t ∈ r.taken offers, t.table = table ∧ route ∈ t.routes := by
  induction offers generalizing r with
  | nil => simp [after, taken, verdicts]
  | cons o rest ih =>
      have step : (r.after (o :: rest)).owners = ((r.serve o).after rest).owners := rfl
      rw [step, ih, takenCons]
      split
      · rename_i free
        rw [serveTaken free]
        simp only [accept, TableReport.routes, List.mem_append, List.mem_map, List.mem_cons,
          Prod.mk.injEq, exists_eq_or_imp]
        grind
      · rename_i denied
        obtain ⟨e, -, same⟩ := serveDenied denied
        rw [same]
        rfl

theorem clashSome {endpoints : List Endpoint} {e : Endpoint} {owner : String}
    (clash : r.clash? endpoints = some (e, owner)) :
    e ∈ endpoints ∧ (e.routeKey, owner) ∈ r.owners := by
  obtain ⟨f, member, found⟩ := List.exists_of_findSome?_eq_some clash
  obtain ⟨owner', known, same⟩ := Option.map_eq_some_iff.mp found
  cases same
  obtain ⟨before, after, split, -⟩ := List.lookup_eq_some_iff.mp known
  exact ⟨member, by simp [split]⟩

theorem clashNone {endpoints : List Endpoint} :
    r.clash? endpoints = none ↔ ∀ e ∈ endpoints, ¬r.Owned e.routeKey := by
  simp only [clash?, List.findSome?_eq_none_iff, Option.map_eq_none_iff, List.lookup_eq_none_iff,
    Owned]
  simp only [bne_iff_ne, ne_eq, Prod.forall]
  grind

theorem collidesIff : (∃ e owner, r.fate o = .collides e owner) ↔
    ∃ e ∈ o.report.endpoints, r.Owned e.routeKey := by
  have clash : (∃ e owner, r.fate o = .collides e owner) ↔ r.clash? o.report.endpoints ≠ none := by
    unfold fate
    cases r.clash? o.report.endpoints with
    | some clash => simp
    | none => cases o.binder o.report.table o.report.endpoints <;> simp
  rw [clash, ne_eq, clashNone]
  grind

theorem collidesClash {e : Endpoint} {owner : String} (fate : r.fate o = .collides e owner) :
    r.clash? o.report.endpoints = some (e, owner) := by
  unfold Registration.fate at fate
  split at fate
  · rename_i clash
    cases fate
    exact clash
  · split at fate <;> cases fate

theorem takenUnowned (free : r.fate o = .taken) :
    ∀ e ∈ o.report.endpoints, ¬r.Owned e.routeKey := by
  intro e member owned
  obtain ⟨e', owner, collides⟩ := collidesIff.mpr ⟨e, member, owned⟩
  rw [free] at collides
  cases collides

theorem takenApart (r : Registration) (offers : List Offer) :
    (r.taken offers).Pairwise (fun t u => t.routes.Disjoint u.routes) ∧
      ∀ t ∈ r.taken offers, ∀ route ∈ t.routes, ¬r.Owned route := by
  induction offers generalizing r with
  | nil => exact ⟨.nil, nofun⟩
  | cons o rest ih =>
      obtain ⟨apart, unowned⟩ := ih (r.serve o)
      rw [takenCons]
      split
      · rename_i free
        rw [serveTaken free] at unowned apart ⊢
        have own : ∀ route ∈ o.report.routes, (r.accept o.report).Owned route := by
          intro route member
          obtain ⟨e, inside, rfl⟩ := List.mem_map.mp member
          exact ⟨o.report.table, List.mem_append_left _ (List.mem_map.mpr ⟨e, inside, rfl⟩)⟩
        refine ⟨List.pairwise_cons.mpr ⟨fun u later route mine theirs => ?_, apart⟩, ?_⟩
        · exact unowned u later route theirs (own route mine)
        · intro t member route inside
          rcases List.mem_cons.mp member with rfl | later
          · obtain ⟨e, known, rfl⟩ := List.mem_map.mp inside
            exact takenUnowned free e known
          · rintro ⟨table, owned⟩
            exact unowned t later route inside ⟨table, List.mem_append_right _ owned⟩
      · rename_i denied
        obtain ⟨e, -, same⟩ := serveDenied denied
        rw [same] at unowned apart ⊢
        exact ⟨apart, unowned⟩

theorem boundRoutesDistinct (planned : ∀ o ∈ offers, o.report.Planned) :
    ((after {} offers).bound.values.flatten.map Endpoint.routeKey).Nodup := by
  have sorted := boundSorted offers
  have kept : ∀ entry ∈ (after {} offers).bound.entries,
      ∃ t ∈ taken {} offers, t.table = entry.1 ∧ t.endpoints = entry.2 := by
    rintro ⟨name, endpoints⟩ member
    have found := (SortedMap.memIffGet sorted).mp member
    rw [boundLast] at found
    obtain ⟨t, last, same⟩ := Option.map_eq_some_iff.mp found
    exact ⟨t, List.mem_reverse.mp (List.mem_of_find?_eq_some last),
      by simpa using List.find?_some last, same⟩
  rw [List.map_flatten, SortedMap.values, List.map_map, List.nodup_flatten]
  constructor
  · intro routes member
    obtain ⟨entry, known, rfl⟩ := List.mem_map.mp member
    obtain ⟨t, own, -, same⟩ := kept entry known
    obtain ⟨o, offered, rfl⟩ := takenReport own
    rw [Function.comp_apply, ← same]
    exact plannedRoutesDistinct (planned o offered)
  · have names := List.pairwise_map.mp (SortedMap.keysNodup sorted)
    refine List.pairwise_map.mpr (names.imp_of_mem fun {one other} member member' different => ?_)
    obtain ⟨t, own, name, same⟩ := kept one member
    obtain ⟨u, own', name', same'⟩ := kept other member'
    have symmetric : Std.Symm fun t u : TableReport => t.routes.Disjoint u.routes :=
      ⟨fun _ _ => List.Disjoint.symm⟩
    have apart : t.routes.Disjoint u.routes :=
      (takenApart {} offers).1.forall own own' (by
        rintro rfl
        exact different (name.symm.trans name'))
    rw [Function.comp_apply, Function.comp_apply, ← same, ← same']
    exact apart

structure Alike (r s : Registration) : Prop where
  owners : r.owners = s.owners
  bound : r.bound = s.bound

theorem alikeFate (alike : r.Alike s) (o : Offer) : r.fate o = s.fate o := by
  simp only [fate, clash?, alike.owners]

theorem alikeServe (alike : r.Alike s) (o : Offer) : (r.serve o).Alike (s.serve o) := by
  have same := alikeFate alike o
  by_cases free : r.fate o = .taken
  · rw [serveTaken free, serveTaken (same ▸ free)]
    exact ⟨by simp only [accept, alike.owners], by simp only [accept, alike.bound]⟩
  · obtain ⟨e, -, mine⟩ := serveDenied free
    obtain ⟨e', -, theirs⟩ := serveDenied (same ▸ free)
    rw [mine, theirs]
    exact ⟨alike.owners, alike.bound⟩

theorem alikeAfter (alike : r.Alike s) (offers : List Offer) :
    (r.after offers).Alike (s.after offers) ∧ r.fates offers = s.fates offers := by
  induction offers generalizing r s with
  | nil => exact ⟨alike, rfl⟩
  | cons o rest ih =>
      obtain ⟨after, fates⟩ := ih (alikeServe alike o)
      exact ⟨after, congrArg₂ List.cons (alikeFate alike o) fates⟩

theorem deniedAlike (denied : r.fate o ≠ .taken) : (r.serve o).Alike r := by
  obtain ⟨e, -, same⟩ := serveDenied denied
  rw [same]
  exact ⟨rfl, rfl⟩

structure Judged (before : List Offer) (o : Offer) : Prop where
  collides : (∃ e owner, (after {} before).fate o = .collides e owner) ↔
    ∃ t ∈ taken {} before, t.Rivals o.report
  named : ∀ e owner, (after {} before).fate o = .collides e owner →
    e ∈ o.report.endpoints ∧
      ∃ t ∈ taken {} before, t.table = owner ∧ t.Rivals o.report ∧ e.routeKey ∈ t.routes
  error : (after {} (before ++ [o])).errors =
    (after {} before).errors ++ (((after {} before).fate o).error? o.report.table).toList
  reserves : (after {} before).fate o ≠ .taken → ∀ later,
    (after {} (before ++ [o])).fates later = (after {} before).fates later ∧
      (after {} (before ++ o :: later)).bound = (after {} (before ++ later)).bound

theorem afterSnoc (before : List Offer) (o : Offer) :
    after {} (before ++ [o]) = (after {} before).serve o := by
  rw [after, List.foldl_append]
  rfl

theorem afterAppend (before later : List Offer) :
    after {} (before ++ later) = (after {} before).after later := by
  rw [after, List.foldl_append]
  rfl

theorem afterCons (before : List Offer) (o : Offer) (later : List Offer) :
    after {} (before ++ o :: later) = ((after {} before).serve o).after later := by
  rw [afterAppend]
  rfl

theorem ownedTaken {before : List Offer} {route : Method × String} {table : String} :
    (route, table) ∈ (after {} before).owners ↔
      ∃ t ∈ taken {} before, t.table = table ∧ route ∈ t.routes := by
  rw [ownersAfter]
  simp

theorem judged {before : List Offer} (planned : ∀ t ∈ taken {} before, t.Planned)
    (planned' : o.report.Planned) : Judged before o where
  collides := by
    rw [collidesIff]
    simp only [Owned, ownedTaken]
    constructor
    · rintro ⟨e, member, table, t, own, -, route⟩
      exact ⟨t, own, (rivalsIff (planned t own) planned').mpr
        ⟨e.routeKey, route, List.mem_map_of_mem member⟩⟩
    · rintro ⟨t, own, rivals⟩
      obtain ⟨route, mine, theirs⟩ := (rivalsIff (planned t own) planned').mp rivals
      obtain ⟨e, member, rfl⟩ := List.mem_map.mp theirs
      exact ⟨e, member, t.table, t, own, rfl, mine⟩
  named := by
    intro e owner fate
    obtain ⟨member, owned⟩ := clashSome (collidesClash fate)
    obtain ⟨t, own, name, route⟩ := ownedTaken.mp owned
    exact ⟨member, t, own, name, (rivalsIff (planned t own) planned').mpr
      ⟨e.routeKey, route, List.mem_map_of_mem member⟩, route⟩
  error := by
    rw [afterSnoc, serveStep, objectionFate]
    cases ((after {} before).fate o).error? o.report.table with
    | none => simp [accept]
    | some e => rfl
  reserves := by
    intro denied later
    have alike := alikeAfter (deniedAlike denied) later
    rw [afterSnoc, afterCons, afterAppend]
    exact ⟨alike.2, alike.1.bound⟩

/-- No route is served for two endpoints. A planned table collides exactly if a table taken before
it has the same name in lower case and an operation in common with it, and a table that is left out
makes no other one collide. -/
theorem routesHaveOneTable (offers : List Offer) (planned : ∀ o ∈ offers, o.report.Planned) :
    ((after {} offers).bound.values.flatten.map Endpoint.routeKey).Nodup ∧
      (∀ before o rest, offers = before ++ o :: rest → Judged before o) ∧
      ∀ binder generated,
        ofTables binder generated = after {} (generated.map (⟨·, binder⟩)) := by
  refine ⟨boundRoutesDistinct planned, ?_, ofTablesAfter⟩
  rintro before o rest rfl
  refine judged (fun t own => ?_) (planned o (by simp))
  obtain ⟨other, offered, rfl⟩ := takenReport own
  exact planned other (List.mem_append_left _ offered)

def rivalSettings : Settings where
  targets := [.client]
  schemas := ["public", "archive", "sales"]
  defaults := { endpoints := some ["list"] }

def idTable (schema name : String) : TableShape where
  schema := schema
  name := name
  columns := [⟨"id", "integer", false, true, none, none⟩]
  comment := none

def refusesItems : Binder := fun table _ =>
  if table = "items" then .error (.missingHandler table "ListItems") else .ok ()

def rivalReports : List TableReport :=
  match Pass.run rivalSettings {} [idTable "public" "items", idTable "archive" "Items",
      idTable "sales" "ITEMS"] with
  | (_, .ok report) => report.generated
  | (_, .error _) => []

theorem rivalsPlanned : ∀ t ∈ rivalReports, t.Planned := by
  unfold rivalReports
  split
  · rename_i after report ran
    exact Pass.runPlanned ran
  · nofun

theorem rivalsLeftOut :
    (∀ o ∈ rivalReports.map (Offer.mk · refusesItems), o.report.Planned) ∧
      ((ofTables refusesItems rivalReports).bound.values.flatten.map Endpoint.routeKey).Nodup ∧
      (ofTables refusesItems rivalReports).bound.keys = ["Items"] ∧
      (ofTables refusesItems rivalReports).errors =
        [.missingHandler "items" "ListItems", .collision "ITEMS" "GET" "/items" "Items"] := by
  have planned : ∀ o ∈ rivalReports.map (Offer.mk · refusesItems), o.report.Planned :=
    List.forall_mem_map.mpr rivalsPlanned
  obtain ⟨distinct, -, same⟩ := routesHaveOneTable _ planned
  rw [← same] at distinct
  have outcome : (ofTables refusesItems rivalReports).bound.keys = ["Items"] ∧
      (ofTables refusesItems rivalReports).errors =
        [.missingHandler "items" "ListItems", .collision "ITEMS" "GET" "/items" "Items"] := by
    decide +kernel
  exact ⟨planned, distinct, outcome⟩

end Registration
end RestScaffold
