import RestScaffold.Proofs.Server.Sending
import RestScaffold.Proofs.Server.Vocabulary

/-! Rows that are marked as deleted. Where a table marks them, no statement of its repository sees
them, and none deletes a row; elsewhere no statement asks for a mark. -/
namespace RestScaffold
open Catalog Code Text

namespace Server
open Sending

variable {s : Subject}

def Sending.Sent.Live (x : Sent) : Prop := .condition (.isNull deletedAt) ∈ x.clauses

theorem liveListed (request : Where.Request) :
    .condition (.isNull deletedAt) ∈ (Criteria.of s).clauses request ↔ s.softDeletes = true := by
  have always : (Criteria.of s).always = if s.softDeletes then [.isNull deletedAt] else [] := rfl
  rw [Criteria.clauses, always]
  cases s.softDeletes <;> simp

theorem liveKey (placeholder : Nat) :
    .isNull deletedAt ∈ keyConditions s placeholder ↔ s.softDeletes = true := by
  rw [keyConditions, liveConditions]
  cases s.softDeletes <;> simp

theorem sentLive (q : Call) {k : EndpointKind} {x : Sent} (member : x ∈ sent s q k)
    (looks : x.inserts = false) : x.Live ↔ s.softDeletes = true := by
  have keyed {st : Sql.Statement} {n : Nat} (same : st.conditions = keyConditions s n) :
      (Sent.whole st).Live ↔ s.softDeletes = true := by
    rw [Sent.Live, Sent.clauses, same, ← liveKey n]
    simp
  have listed (search : Bool) : .condition (.isNull deletedAt) ∈ Sending.listed s q search ↔
      s.softDeletes = true := liveListed _
  cases k with
  | list | «export» =>
      rcases List.mem_pair.mp member with rfl | rfl
      · exact listed false
      · exact listed false
  | search =>
      rw [sent] at member
      split at member
      · rcases List.mem_pair.mp member with rfl | rfl
        · exact listed true
        · exact listed true
      · exact absurd member List.not_mem_nil
  | stats =>
      obtain rfl := List.mem_singleton.mp member
      exact listed false
  | get =>
      obtain rfl := List.mem_singleton.mp member
      exact keyed rfl
  | create | bulk =>
      obtain rfl := List.mem_singleton.mp member
      contradiction
  | update =>
      obtain rfl := List.mem_singleton.mp member
      exact keyed rfl
  | delete =>
      obtain rfl := List.mem_singleton.mp member
      rw [Repository.deletion]
      split
      · exact keyed rfl
      · exact keyed rfl

theorem keyText (s : Subject) : Sql.whereText (keyConditions s 1) =
    " WHERE " ++ Sql.quoted s.keyName ++ " = $1" ++
      if s.softDeletes then " AND " ++ Sql.quoted deletedAt ++ " IS NULL" else "" := by
  have one : " = " ++ Sql.placeholder 1 = " = $1" := by decide +kernel
  rw [keyConditions, liveConditions]
  split <;>
    simp only [Sql.whereText, List.isEmpty_cons, Bool.false_eq_true, if_false, List.map_cons,
      List.map_nil, String.intercalate_cons_cons, String.intercalate_singleton, ← one,
      Sql.Condition.text, String.append_assoc, String.append_empty]

theorem deletionText (s : Subject) : (Repository.deletion s).text =
    if s.softDeletes then
      "UPDATE " ++ (tableName s).text ++ " SET " ++ Sql.quoted deletedAt ++ " = NOW()" ++
        " WHERE " ++ Sql.quoted s.keyName ++ " = $1" ++ " AND " ++ Sql.quoted deletedAt ++
        " IS NULL"
    else "DELETE FROM " ++ (tableName s).text ++ " WHERE " ++ Sql.quoted s.keyName ++ " = $1" := by
  rw [Repository.deletion]
  split
  · rename_i marks
    have set : Sql.returningText [] = "" := rfl
    show "UPDATE " ++ (tableName s).text ++ " SET " ++ (Sql.quoted deletedAt ++ " = NOW()") ++
      Sql.whereText (keyConditions s 1) ++ Sql.returningText [] = _
    rw [keyText, if_pos marks, set]
    simp only [String.append_assoc, String.append_empty]
  · rename_i marks
    show "DELETE FROM " ++ (tableName s).text ++ Sql.whereText (keyConditions s 1) = _
    rw [keyText, if_neg marks]
    simp only [String.append_assoc, String.append_empty]

theorem deletionDescribed {table : TableShape} {policy : Policy} {plan : List Endpoint}
    (planned : Plan.endpoints table policy = .ok plan) :
    ∀ e ∈ plan, e.kind = .delete → e.description =
      (if Plan.softDeletes table policy then "Soft-delete one " else "Delete one ") ++ table.name ++
        " row by primary key" := by
  rw [Plan.endpoints] at planned
  cases kinds : policy.endpointKinds table.name with
  | error e =>
      rw [kinds] at planned
      cases planned
  | ok named =>
      rw [kinds] at planned
      cases planned
      intro e member kind
      obtain ⟨k, -, rfl⟩ := List.mem_map.mp member
      obtain rfl : k = .delete := kind
      show (if Plan.softDeletes table policy then "Soft-delete one " ++ table.name ++
        " row by primary key" else "Delete one " ++ table.name ++ " row by primary key") = _
      split <;> rfl

variable {table : TableShape} {policy : Policy} {plan : List Endpoint}

/-- What no statement says. Each has a blank between two letters that stand so nowhere else. -/
def unsaid (marks : Bool) : String := if marks then "DELETE FROM" else "IS NULL"

theorem apartUnsaid {c d : Char} {part : String} (v : Vocabulary (KeepsApart c d) s)
    (around : [c, ' ', d] <:+: part.toList) :
    ∀ l ∈ (Repository.of s).code, ¬Occurs part (lineText l) :=
  fun _ member occurs => (holdsText v.code member).inside (around.trans occurs)

section
variable (made : Subject.of table policy plan = .ok s)
include made

theorem formattable : (Criteria.of s).Formattable := by
  have named : ∀ name ∈ (Criteria.of s).columns, '%' ∉ name.toList := fun name member =>
    (namedWordly made (criteriaNamed name member)).without (by decide)
  rw [Criteria.columns] at named
  obtain ⟨others, searched⟩ := List.forall_mem_append.mp named
  obtain ⟨-, filters⟩ := List.forall_mem_append.mp others
  exact ⟨fun f member => filters _ (List.mem_map_of_mem member),
    fun d member => searched _ (List.mem_map_of_mem member)⟩

theorem neverSaid {marks : Bool} (same : s.softDeletes = marks) :
    ∀ l ∈ (Repository.of s).code, ¬Occurs (unsaid marks) (lineText l) := by
  have nulls : KeepsApart 'E' 'F' " IS NULL" := keepsApart (by decide)
  have deletes : KeepsApart 'S' 'N' "DELETE FROM " := keepsApart (by decide)
  cases marks with
  | true =>
      have v : Vocabulary (KeepsApart 'E' 'F') s := vocabulary made (fun mute => mute.2.1)
        (fun none => absurd (same.symm.trans none) (by decide)) fun _ => nulls
      exact apartUnsaid v (by decide +kernel)
  | false =>
      have v : Vocabulary (KeepsApart 'S' 'N') s := vocabulary made (fun mute => mute.2.2)
        (fun _ => deletes) fun some => absurd (same.symm.trans some) (by decide)
      exact apartUnsaid v (by decide +kernel)

structure Sends (s : Subject) (marks : Bool) : Prop where
  printed : (Repository.of s).program.map lineText = (Repository.of s).file.body.map lineText
  sent : ∀ e ∈ s.plan, ∀ q, (Repository.of s).accessSent q (Repository.access s e.kind) =
    (Sending.sent s q e.kind).map fun x => some x.text
  live : ∀ e ∈ s.plan, ∀ q, ∀ x ∈ Sending.sent s q e.kind, x.inserts = false →
    (x.Live ↔ marks = true)
  deletion : ∀ e ∈ s.plan, e.kind = .delete → ∀ q,
    (Repository.of s).accessSent q (Repository.access s e.kind) = [some (if marks then
        "UPDATE " ++ (tableName s).text ++ " SET " ++ Sql.quoted deletedAt ++ " = NOW()" ++
          " WHERE " ++ Sql.quoted s.keyName ++ " = $1" ++ " AND " ++ Sql.quoted deletedAt ++
          " IS NULL"
      else "DELETE FROM " ++ (tableName s).text ++ " WHERE " ++ Sql.quoted s.keyName ++ " = $1")]
  keeps : marks = true → ∀ l ∈ (Repository.of s).file.body, ¬Occurs "DELETE FROM" (lineText l)
  minds : marks = false → ∀ l ∈ (Repository.of s).file.body, ¬Occurs "IS NULL" (lineText l)

theorem sends : Sends s s.softDeletes where
  printed := Repository.programPrinted
  sent e member q :=
    kindSent q (formattable made) (List.any_eq_true.mpr ⟨e, member, beq_self_eq_true _⟩)
  live e _ q x inside := sentLive q inside
  deletion e _ kind q := by
    rw [kind]
    exact congrArg (fun text => [some text]) (deletionText s)
  keeps soft := by
    have said := neverSaid made soft
    exact said
  minds hard := by
    have said := neverSaid made hard
    exact said

end

theorem unsaidForeign (marks : Bool) : Foreign (unsaid marks) where
  solid := by
    have split : (unsaid marks).toList =
        (unsaid marks).toList.dropLast ++ [if marks then 'M' else 'L'] := by
      cases marks <;> decide +kernel
    rw [split]
    cases marks <;> exact Layout.solidConcat (by decide +kernel) (by decide)
  free := by cases marks <;> decide +kernel
  absent := by cases marks <;> decide +kernel

theorem foreignIn {part goModule : String} (foreign : Foreign part)
    (package : ¬Occurs part ("package " ++ "repository"))
    (never : ∀ l ∈ (Repository.of s).file.body, ¬Occurs part (lineText l))
    (occurs : Occurs part ((Repository.of s).file.text goModule)) : Occurs part goModule := by
  refine (foreign.inFile (f := (Repository.of s).file) package occurs).resolve_right ?_
  rintro ⟨l, member, inside⟩
  exact never l member inside

end Server

variable {r : Rendering} {table : TableShape} {policy : Policy} {plan : List Endpoint}
  {targets : List Target} {files : List Artifact}

def draftsTable : TableShape where
  schema := "desk"
  name := "drafts"
  columns := [⟨"id", "bigint", false, true, none, none⟩, ⟨"body", "text", true, false, none, none⟩,
    ⟨"deleted_at", "timestamp", true, false, none, none⟩]
  comment := none

def drafts : Subject where
  table := draftsTable
  policy := { endpoints := [], security := { softDelete := true } }
  plan := [.list, .get, .update, .delete].map (Plan.endpoint draftsTable { endpoints := [] })

end RestScaffold
