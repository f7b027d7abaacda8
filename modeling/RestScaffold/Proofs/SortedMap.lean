import RestScaffold.SortedMap

/-! Look-ups in maps, and the order of their keys. Look-ups need no order: the first entry of a key
counts, and an insertion puts its entry before any other one of that key. -/
namespace RestScaffold.SortedMap

variable {α β : Type} {m : SortedMap α} {key other : String} {value : α}
  {entries : List (String × α)}

theorem lookupCons (key k : String) (v : α) (rest : List (String × α)) :
    ((k, v) :: rest).lookup key = if key = k then some v else rest.lookup key := by
  rw [List.lookup_cons]
  by_cases same : key = k
  · simp [same]
  · rw [beq_false_of_ne same, if_neg same]

theorem lookupInsertEntry (key other : String) (value : α) (entries : List (String × α)) :
    (insertEntry key value entries).lookup other =
      if other = key then some value else entries.lookup other := by
  induction entries with
  | nil => rw [insertEntry, lookupCons]
  | cons entry rest ih =>
      obtain ⟨k, v⟩ := entry
      simp only [insertEntry]
      split
      · rw [lookupCons]
      · split
        · rename_i same
          subst same
          rw [lookupCons, lookupCons]
          split <;> rfl
        · rename_i different
          rw [lookupCons, ih, lookupCons]
          by_cases same : other = key
          · subst same
            rw [if_neg different]
            simp
          · simp only [if_neg same]

theorem getInsert (m : SortedMap α) (key other : String) (value : α) :
    (m.insert key value).get? other = if other = key then some value else m.get? other :=
  lookupInsertEntry key other value m.entries

@[simp] theorem getEmpty (key : String) : (∅ : SortedMap α).get? key = none := rfl

theorem lookupMember (found : entries.lookup key = some value) : (key, value) ∈ entries := by
  induction entries with
  | nil => contradiction
  | cons entry rest ih =>
      obtain ⟨k, v⟩ := entry
      rw [lookupCons] at found
      split at found
      · rename_i same
        cases found
        exact same ▸ List.mem_cons_self
      · exact List.mem_cons_of_mem _ (ih found)

theorem getMember (found : m.get? key = some value) : (key, value) ∈ m.entries :=
  lookupMember found

theorem getOfList (entries : List (String × α)) (key : String) :
    (ofList entries).get? key = entries.reverse.lookup key := by
  have fold : ∀ (rest : List (String × α)) (m : SortedMap α),
      (rest.foldl (fun m entry => m.insert entry.1 entry.2) m).get? key =
        (rest.reverse.lookup key).or (m.get? key) := by
    intro rest
    induction rest with
    | nil => simp
    | cons entry rest ih =>
        intro m
        obtain ⟨k, v⟩ := entry
        rw [List.foldl_cons, ih, getInsert, List.reverse_cons, List.lookup_append, lookupCons]
        by_cases same : key = k <;> simp [same]
  exact (fold entries ∅).trans (by simp)

def Sorted (m : SortedMap α) : Prop := m.entries.Pairwise fun a b => a.1 < b.1

theorem sortedEmpty : (∅ : SortedMap α).Sorted := .nil

theorem memInsertEntry {entry : String × α} (member : entry ∈ insertEntry key value entries) :
    entry = (key, value) ∨ entry ∈ entries := by
  induction entries with
  | nil => simpa [insertEntry] using member
  | cons head rest ih =>
      obtain ⟨k, v⟩ := head
      simp only [insertEntry] at member
      split at member
      · exact List.mem_cons.mp member
      · split at member
        · exact (List.mem_cons.mp member).imp_right (List.mem_cons_of_mem _)
        · rcases List.mem_cons.mp member with rfl | later
          · exact .inr List.mem_cons_self
          · exact (ih later).imp_right (List.mem_cons_of_mem _)

theorem keyAfter {a b : String} (notBefore : ¬a < b) (different : a ≠ b) : b < a :=
  Std.lt_of_le_of_ne notBefore different.symm

theorem sortedInsert (sorted : m.Sorted) (key : String) (value : α) :
    (m.insert key value).Sorted := by
  have entries : ∀ entries : List (String × α), entries.Pairwise (fun a b => a.1 < b.1) →
      (insertEntry key value entries).Pairwise fun a b => a.1 < b.1 := by
    intro entries
    induction entries with
    | nil => simp [insertEntry]
    | cons head rest ih =>
        obtain ⟨k, v⟩ := head
        intro sorted
        obtain ⟨first, tail⟩ := List.pairwise_cons.mp sorted
        simp only [insertEntry]
        split
        · rename_i before
          refine List.pairwise_cons.mpr ⟨?_, sorted⟩
          rintro entry member
          rcases List.mem_cons.mp member with rfl | later
          · exact before
          · exact String.lt_trans before (first entry later)
        · rename_i notBefore
          split
          · rename_i same
            subst same
            exact List.pairwise_cons.mpr ⟨first, tail⟩
          · rename_i different
            refine List.pairwise_cons.mpr ⟨?_, ih tail⟩
            intro entry member
            rcases memInsertEntry member with rfl | later
            · exact keyAfter notBefore different
            · exact first entry later
  exact entries m.entries sorted

theorem sortedOfList (entries : List (String × α)) : (ofList entries).Sorted := by
  have fold : ∀ (rest : List (String × α)) (m : SortedMap α), m.Sorted →
      (rest.foldl (fun m entry => m.insert entry.1 entry.2) m).Sorted := by
    intro rest
    induction rest with
    | nil => exact fun _ sorted => sorted
    | cons entry rest ih => exact fun m sorted => ih _ (sortedInsert sorted entry.1 entry.2)
  exact fold entries ∅ sortedEmpty

theorem insertEntryLast (above : ∀ entry ∈ entries, entry.1 < key) :
    insertEntry key value entries = entries ++ [(key, value)] := by
  induction entries with
  | nil => rfl
  | cons head rest ih =>
      obtain ⟨k, v⟩ := head
      have after : k < key := above (k, v) List.mem_cons_self
      have different : key ≠ k := by
        rintro rfl
        exact String.lt_irrefl _ after
      simp only [insertEntry, if_neg (String.lt_asymm after), if_neg different]
      rw [ih fun entry member => above entry (List.mem_cons_of_mem _ member)]
      rfl

theorem ofListEntries (sorted : m.Sorted) : ofList m.entries = m := by
  -- By induction on what is still to be inserted, which lies above all that has been.
  have fold : ∀ (rest done : List (String × α)),
      (done ++ rest).Pairwise (fun a b => a.1 < b.1) →
      rest.foldl (fun (m : SortedMap α) entry => m.insert entry.1 entry.2) ⟨done⟩ =
        ⟨done ++ rest⟩ := by
    intro rest
    induction rest with
    | nil => simp
    | cons entry rest ih =>
        intro done sorted
        have above : ∀ before ∈ done, before.1 < entry.1 := fun before member =>
          (List.pairwise_append.mp sorted).2.2 before member entry List.mem_cons_self
        rw [List.foldl_cons, insert, insertEntryLast above, ih _ (by simpa using sorted)]
        simp
  exact fold m.entries [] sorted

theorem getOfMember (sorted : m.Sorted) (member : (key, value) ∈ m.entries) :
    m.get? key = some value := by
  obtain ⟨entries⟩ := m
  simp only [Sorted, get?] at sorted member ⊢
  induction entries with
  | nil => contradiction
  | cons head rest ih =>
      obtain ⟨k, v⟩ := head
      obtain ⟨first, tail⟩ := List.pairwise_cons.mp sorted
      rcases List.mem_cons.mp member with same | later
      · cases same
        simp
      · have different : key ≠ k := by
          rintro rfl
          exact String.lt_irrefl _ (first (key, value) later)
        rw [lookupCons, if_neg different]
        exact ih tail later

theorem memIffGet (sorted : m.Sorted) : (key, value) ∈ m.entries ↔ m.get? key = some value :=
  ⟨getOfMember sorted, getMember⟩

theorem keysNodup (sorted : m.Sorted) : m.keys.Nodup := by
  have ascending : m.keys.Pairwise (· < ·) := List.pairwise_map.mpr sorted
  exact ascending.imp fun before => String.ne_of_lt before

theorem entriesNodup (sorted : m.Sorted) : m.entries.Nodup :=
  List.Pairwise.of_map Prod.fst (fun _ _ => mt (congrArg Prod.fst)) (keysNodup sorted)

theorem extGet {other : SortedMap α} (sorted : m.Sorted) (sorted' : other.Sorted)
    (same : ∀ key, m.get? key = other.get? key) : m = other := by
  have perm : m.entries.Perm other.entries :=
    (List.perm_ext_iff_of_nodup (entriesNodup sorted) (entriesNodup sorted')).mpr
      fun ⟨key, value⟩ => by rw [memIffGet sorted, memIffGet sorted', same]
  have entries := perm.eq_of_pairwise
    (fun _ _ _ _ before after => absurd after (String.lt_asymm before)) sorted sorted'
  cases m
  cases other
  cases entries
  rfl

theorem memValues (sorted : m.Sorted) : value ∈ m.values ↔ ∃ key, m.get? key = some value := by
  simp only [values, List.mem_map, Prod.exists, exists_eq_right, memIffGet sorted]

theorem memKeys (sorted : m.Sorted) : key ∈ m.keys ↔ ∃ value, m.get? key = some value := by
  simp only [keys, List.mem_map, Prod.exists, exists_and_right, exists_eq_right,
    memIffGet sorted]

theorem keysOfList (entries : List (String × α)) :
    key ∈ (ofList entries).keys ↔ key ∈ entries.map Prod.fst := by
  rw [memKeys (sortedOfList entries), getOfList, ← Option.isSome_iff_exists,
    List.lookup_isSome_iff]
  simp only [List.mem_reverse, beq_iff_eq, List.mem_map]
  exact exists_congr fun entry => and_congr_right fun _ => eq_comm

end RestScaffold.SortedMap
