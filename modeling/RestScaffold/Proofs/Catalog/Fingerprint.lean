import Mathlib
import RestScaffold.Catalog.Fingerprint

/-! What can be told from the text under a fingerprint: the qualified names of the tables, and five
traits of each column. The length before a field tells where it ends, whatever stands in it, and no
field begins like the end of a table. -/
namespace RestScaffold.Catalog

def Delimits (write : α → String) (view : α → β) : Prop :=
  ∀ a b x y, write a ++ x = write b ++ y ↔ view a = view b ∧ x = y

variable {α β : Type} {write : α → String} {view : α → β} {x y : String}

theorem Delimits.join (delimits : Delimits write view) (endX : ∀ a z, write a ++ z ≠ x)
    (endY : ∀ a z, write a ++ z ≠ y) (as bs : List α) :
    String.join (as.map write) ++ x = String.join (bs.map write) ++ y ↔
      as.map view = bs.map view ∧ x = y := by
  induction as generalizing bs with
  | nil =>
      cases bs with
      | nil => simp
      -- One text is at its end, which is no item, where the other has one more.
      | cons b bs => simp [String.join_cons, String.append_assoc, (endX b _).symm]
  | cons a as ih =>
      cases bs with
      | nil => simp [String.join_cons, String.append_assoc, endY a]
      | cons b bs =>
          simp only [List.map_cons, String.join_cons, String.append_assoc, delimits a b, ih bs,
            List.cons.injEq, and_assoc]

theorem digitsEnd {n m : Nat} {x y : List Char}
    (same : n.repr.toList ++ ':' :: x = m.repr.toList ++ ':' :: y) : n = m ∧ x = y := by
  -- A colon is no digit, so the number is the longest row of digits at the start.
  have digits (k : Nat) (rest : List Char) :
      (k.repr.toList ++ ':' :: rest).takeWhile Char.isDigit = k.repr.toList := by
    rw [Nat.toList_repr, List.takeWhile_append_of_pos fun c member =>
      Nat.isDigit_of_mem_toDigits (by decide) (by decide) member]
    simp
  have shown := congrArg (List.takeWhile Char.isDigit) same
  rw [digits, digits] at shown
  obtain rfl := Nat.repr_injective (String.toList_inj.mp shown)
  exact ⟨rfl, by simpa using same⟩

theorem sameSizeEnd {a b : String} (size : a.utf8ByteSize = b.utf8ByteSize)
    (same : a ++ x = b ++ y) : a = b ∧ x = y := by
  have bytes := congrArg String.toByteArray same
  rw [String.toByteArray_append, String.toByteArray_append] at bytes
  obtain rfl := String.toByteArray_inj.mp (ByteArray.append_inj_left bytes size)
  exact ⟨rfl, (String.append_right_inj a).mp same⟩

theorem fieldDelimits : Delimits field id := by
  intro a b x y
  refine ⟨fun same => ?_, fun ⟨value, rest⟩ => by rw [show a = b from value, rest]⟩
  have characters : a.utf8ByteSize.repr.toList ++ ':' :: (a ++ ("|" ++ x)).toList =
      b.utf8ByteSize.repr.toList ++ ':' :: (b ++ ("|" ++ y)).toList := by
    simpa [field] using congrArg String.toList same
  obtain ⟨size, rest⟩ := digitsEnd characters
  obtain ⟨value, rest⟩ := sameSizeEnd size (String.toList_inj.mp rest)
  exact ⟨value, (String.append_right_inj "|").mp rest⟩

theorem fieldBegins (value z : String) :
    ∃ c rest, (field value ++ z).toList = c :: rest ∧ c.isDigit = true := by
  cases digits : Nat.toDigits 10 value.utf8ByteSize with
  | nil => exact absurd digits Nat.toDigits_ne_nil
  | cons c more =>
      have digit := Nat.isDigit_of_mem_toDigits (by decide) (by decide)
        (digits ▸ List.mem_cons_self : c ∈ Nat.toDigits 10 value.utf8ByteSize)
      refine ⟨c, more ++ (":" ++ value ++ "|" ++ z).toList, ?_, digit⟩
      simp only [field, String.append_assoc, String.toList_append]
      rw [show (toString value.utf8ByteSize).toList = c :: more from Nat.toList_repr.trans digits]
      rfl

structure ColumnTraits where
  name : String
  dataType : String
  nullable : Bool
  default : String
  maxLength : Option Int
  deriving DecidableEq, Repr

structure TableTraits where
  qualifiedName : String
  columns : List ColumnTraits
  deriving DecidableEq, Repr

def Column.traits (c : Column) : ColumnTraits :=
  ⟨c.name, c.dataType, c.nullable, c.default.getD "", c.maxLength⟩

def Table.traits (t : Table) : TableTraits := ⟨t.qualifiedName, t.columns.map Column.traits⟩

theorem nullabilityShown (p q : Bool) :
    (if p then "null" else "not null") = (if q then "null" else "not null") ↔ p = q := by
  cases p <;> cases q <;> decide

theorem numberShown (n : Int) : toString n ≠ "" := by
  cases n with
  | ofNat m =>
      rw [show toString (Int.ofNat m) = m.repr from rfl]
      simp
  | negSucc m =>
      rw [show toString (Int.negSucc m) = "-" ++ (m + 1).repr from rfl]
      simp

theorem lengthShown (n m : Option Int) :
    (n.map toString).getD "" = (m.map toString).getD "" ↔ n = m := by
  cases n <;> cases m
  · simp
  · simpa using (numberShown _).symm
  · simpa using numberShown _
  · simp

theorem columnDelimits : Delimits Column.contribution Column.traits := by
  intro c d x y
  simp only [Column.contribution, String.append_assoc, fieldDelimits _ _ _ _, id, nullabilityShown,
    lengthShown, Column.traits, ColumnTraits.mk.injEq, and_assoc]

theorem tableDelimits : Delimits Table.contribution Table.traits := by
  intro t u x y
  have ends (z : String) (c : Column) (rest : String) : c.contribution ++ rest ≠ ";" ++ z := by
    simp only [Column.contribution, String.append_assoc]
    obtain ⟨first, more, begins, digit⟩ := fieldBegins c.name
      (field c.dataType ++ (field (if c.nullable then "null" else "not null") ++
        (field (c.default.getD "") ++ (field ((c.maxLength.map toString).getD "") ++ rest))))
    intro same
    rw [same, String.toList_append] at begins
    obtain ⟨rfl, -⟩ := List.cons.inj begins
    exact absurd digit (by decide)
  simp only [Table.contribution, String.append_assoc, fieldDelimits _ _ _ _, id,
    columnDelimits.join (ends x) (ends y), String.append_right_inj, Table.traits,
    TableTraits.mk.injEq, and_assoc]

theorem fingerprintTextShows {ts us : List Table} :
    fingerprintText ts = fingerprintText us ↔ ts.map Table.traits = us.map Table.traits := by
  have ends (t : Table) (rest : String) : t.contribution ++ rest ≠ "" := by
    simp [Table.contribution]
  simpa [fingerprintText] using tableDelimits.join ends ends ts us

/-- The bytes under two fingerprints are the same exactly if the tables agree, one by one, on their
qualified names and on the traits of their columns. -/
theorem fingerprintBytesShowTraits (ts us : List Table) :
    (fingerprintText ts).toUTF8 = (fingerprintText us).toUTF8 ↔
      ts.map Table.traits = us.map Table.traits := by
  rw [String.toUTF8, String.toUTF8, String.toByteArray_inj, fingerprintTextShows]

end RestScaffold.Catalog
