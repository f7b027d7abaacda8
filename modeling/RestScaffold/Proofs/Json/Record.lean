import Mathlib.Data.List.Forall2
import RestScaffold.Json.Record
import RestScaffold.Proofs.Json.RoundTrip

/-! Records in documents: what is written is read back, and fields that are left out are read as if
they were written out at their defaults. -/
namespace RestScaffold.Json

theorem mapMSome {α β : Type} {write : α → β} {read : β → Option α} {as : List α}
    (inverse : ∀ a ∈ as, read (write a) = some a) : (as.map write).mapM read = some as := by
  induction as with
  | nil => rfl
  | cons a rest ih =>
      obtain ⟨first, others⟩ := List.forall_mem_cons.mp inverse
      rw [List.map_cons, List.mapM_cons, first, ih others]
      rfl

theorem mapMWritten {α β : Type} {write : α → β} {read : β → Option α}
    (inverse : ∀ b a, read b = some a → b = write a) {bs : List β} {as : List α}
    (found : bs.mapM read = some as) : bs = as.map write := by
  induction bs generalizing as with
  | nil => simp_all
  | cons b rest ih =>
      rw [List.mapM_cons] at found
      obtain ⟨a, first, found⟩ := Option.bind_eq_some_iff.mp found
      obtain ⟨more, others, found⟩ := Option.bind_eq_some_iff.mp found
      cases found
      rw [List.map_cons, ← inverse b a first, ← ih others]

theorem readOptionWritten {α : Type} {write : α → Json} {read : Reader α} {a : Option α}
    (filled : ∀ a, write a ≠ .null) (inverse : ∀ b ∈ a, read (write b) = some b) :
    readOption read (ofOption write a) = some a := by
  cases a with
  | none => rfl
  | some b =>
      simp only [ofOption, readOption]
      split
      · rename_i null
        exact absurd null (filled b)
      · rw [inverse b rfl, Option.map_some]

theorem readTexts (items : List String) : readList readText (texts items) = some items :=
  mapMSome fun _ _ => rfl

theorem digitsWritten (n : Nat) : Numeral.digitsValue (Nat.toDigits 10 n) = n :=
  Nat.ofDigitChars_ten_toDigits

theorem readIntWritten {low high n : Int} (inside : low ≤ n ∧ n ≤ high) :
    readInt low high (int n) = some n := by
  have whole : (Numeral.ofInt n).toInt? = some n := by
    by_cases negative : n < 0
    · cases magnitude : n.natAbs with
      | zero => omega
      | succ k =>
          have value := digitsWritten (k + 1)
          simp only [Numeral.toInt?, Numeral.ofInt, negative, magnitude, value]
          simp
          omega
    · have value := digitsWritten n.natAbs
      simp only [Numeral.toInt?, Numeral.ofInt, negative, value]
      simp
      omega
  simp [readInt, int, Numeral.toIntIn?, whole, inside]

theorem lookupMembers (name : String) (fields : List (String × Json)) :
    ((fields.map fun (name, value) => ((some name : JsonString), value)).find?
      (·.1 = some name)).map Prod.snd = fields.lookup name := by
  induction fields with
  | nil => rfl
  | cons field rest ih =>
      obtain ⟨key, value⟩ := field
      rw [List.map_cons, List.find?_cons, List.lookup_cons]
      by_cases same : key = name
      · simp [same]
      · have other : (name == key) = false := by simp [Ne.symm same]
        simp only [other, Option.some.injEq, same, decide_false]
        exact ih

theorem memberKeys (fields : List (String × Json)) :
    (fields.map fun (name, value) => ((some name : JsonString), value)).mapM Prod.fst =
      some (fields.map Prod.fst) := by
  induction fields with
  | nil => rfl
  | cons field rest ih =>
      rw [List.map_cons, List.mapM_cons, ih]
      rfl

theorem fieldsWritten {entries : List (String × Json)} (names : List String)
    (named : entries.map Prod.fst = names) (distinct : names.Nodup) :
    ∃ fields, fields? names (record entries) = some fields ∧
      ∀ name j, entries.lookup name = some j → fields name = some j := by
  have once : (names.filter (· ∈ names)).Nodup := distinct.filter _
  simp only [fields?, record, memberFields, memberKeys, named, Option.bind_eq_bind,
    Option.bind_some, once, if_true]
  exact ⟨_, rfl, fun name j found => (lookupMembers name entries).trans found⟩

theorem thenRead {α β : Type} {first : Option α} {a : α} {next : α → Option β} {result : Option β}
    (found : first = some a) (rest : next a = result) : first >>= next = result := by
  rw [found]
  exact rest

theorem Fields.requiredFound {α : Type} {fields : Fields} {name : String} {j : Json}
    {a : α} (found : fields name = some j) {read : Reader α} (inverse : read j = some a) :
    fields.required name read = some a := by
  rw [required, found, Option.bind_some, inverse]

theorem Fields.withDefaultFound {α : Type} {fields : Fields} {name : String} {j : Json}
    {a b : α} (found : fields name = some j) {read : Reader α} (inverse : read j = some b) :
    fields.withDefault name a read = some b := by
  rw [withDefault, found]
  exact inverse

theorem plainRecord {entries : List (String × Json)} (each : ∀ e ∈ entries, Plain e.2) :
    Plain (record entries) := by
  refine .object (fun member inside => ?_) fun member inside => ?_
  all_goals obtain ⟨entry, known, rfl⟩ := List.mem_map.mp inside
  · rfl
  · exact each entry known

theorem plainMap {α : Type} {write : α → Json} (each : ∀ a, Plain (write a)) (as : List α) :
    Plain (.array (as.map write)) := by
  refine .array fun item member => ?_
  obtain ⟨a, -, rfl⟩ := List.mem_map.mp member
  exact each a

theorem Plain.text (s : String) : Plain (Json.text s) := .string s

theorem Plain.int (n : Int) : Plain (Json.int n) := .number n

theorem plainTexts (items : List String) : Plain (texts items) := plainMap Plain.text items

theorem plainOption {α : Type} {write : α → Json} (each : ∀ a, Plain (write a)) (a : Option α) :
    Plain (ofOption write a) := by
  cases a with
  | none => exact .null
  | some b => exact each b

/-- How records are read: their fields in order, what a field stands for that is left out, and which
values of a field are read alike. -/
structure Form where
  names : List String
  defaults : List (String × Json)
  inner : String → Json → Json → Prop := fun _ _ _ => False

namespace Form

variable (F : Form) {name : String} {names added : List String} {j j' : Json}
  {ms ms' : List (JsonString × Json)} {vs ws : List Json}

inductive Members : List String → List (JsonString × Json) → List (JsonString × Json) → Prop where
  | nil : Members [] [] []
  | keep {added : List String} {key : JsonString} {v w : Json} {ms ms' : List (JsonString × Json)}
      (same : v = w ∨ ∃ name, key = some name ∧ F.inner name v w) (rest : Members added ms ms') :
      Members added ((key, v) :: ms) ((key, w) :: ms')
  | add {added : List String} {name : String} {d : Json} {ms ms' : List (JsonString × Json)}
      (known : F.defaults.lookup name = some d) (rest : Members added ms ms') :
      Members (name :: added) ms ((some name, d) :: ms')

inductive Items : List String → List Json → List Json → Prop where
  | nil (names : List String) : Items names [] []
  | keep {name : String} {names : List String} {v w : Json} {vs ws : List Json}
      (same : v = w ∨ F.inner name v w) (rest : Items names vs ws) :
      Items (name :: names) (v :: vs) (w :: ws)
  | add {name : String} {names : List String} {d : Json} {ws : List Json}
      (known : F.defaults.lookup name = some d) (rest : Items names [] ws) :
      Items (name :: names) [] (d :: ws)
  | excess (vs : List Json) : Items [] vs vs

inductive Spelled : Json → Json → Prop where
  | same (j : Json) : Spelled j j
  | object {added : List String} {ms ms' : List (JsonString × Json)}
      (members : F.Members added ms ms') (once : added.Nodup)
      (leftOut : ∀ name ∈ added, some name ∉ ms.map Prod.fst) : Spelled (.object ms) (.object ms')
  | array {vs ws : List Json} (items : F.Items F.names vs ws) : Spelled (.array vs) (.array ws)

inductive Field (name : String) : Option Json → Option Json → Prop where
  | missing : Field name none none
  | given {v w : Json} (same : v = w ∨ F.inner name v w) : Field name (some v) (some w)
  | default {d : Json} (known : F.defaults.lookup name = some d) : Field name none (some d)

variable {F}

theorem fieldSame (name : String) (value : Option Json) : F.Field name value value := by
  cases value with
  | none => exact .missing
  | some v => exact .given (.inl rfl)

theorem itemsField (items : F.Items names vs ws) (name : String) :
    F.Field name ((names.zip vs).lookup name) ((names.zip ws).lookup name) := by
  induction items with
  | nil names =>
      rw [List.zip_nil_right]
      exact .missing
  | @keep key names v w vs ws same rest ih =>
      simp only [List.zip_cons_cons, List.lookup_cons]
      split
      · rename_i here
        obtain rfl := eq_of_beq here
        exact .given same
      · exact ih
  | @add key names d ws known rest ih =>
      simp only [List.zip_cons_cons, List.lookup_cons, List.zip_nil_right] at ih ⊢
      split
      · rename_i here
        obtain rfl := eq_of_beq here
        exact .default known
      · exact ih
  | excess vs => exact .missing

theorem itemsLength (items : F.Items names vs ws) :
    vs.length ≤ names.length ↔ ws.length ≤ names.length := by
  induction items with
  | nil names => rfl
  | keep same rest ih => simpa using ih
  | add known rest ih => simpa using ih
  | excess vs => rfl

theorem membersKeys (members : F.Members added ms ms') :
    (ms.mapM Prod.fst = none ∧ ms'.mapM Prod.fst = none) ∨
      ∃ keys keys', ms.mapM Prod.fst = some keys ∧ ms'.mapM Prod.fst = some keys' ∧
        keys'.Perm (added ++ keys) ∧ ms.map Prod.fst = keys.map some := by
  induction members with
  | nil => exact .inr ⟨[], [], rfl, rfl, .nil, rfl⟩
  | @keep added key v w ms ms' same rest ih =>
      simp only [List.mapM_cons]
      cases key with
      | none => exact .inl ⟨rfl, rfl⟩
      | some name =>
          rcases ih with ⟨none, none'⟩ | ⟨keys, keys', found, found', perm, own⟩
          · exact .inl (by simp [none, none'])
          · refine .inr ⟨name :: keys, name :: keys', by simp [found], by simp [found'], ?_, ?_⟩
            · exact (perm.cons name).trans List.perm_middle.symm
            · rw [List.map_cons, own, List.map_cons]
  | @add added name d ms ms' known rest ih =>
      simp only [List.mapM_cons]
      rcases ih with ⟨none, none'⟩ | ⟨keys, keys', found, found', perm, own⟩
      · exact .inl (by simp [none, none'])
      · exact .inr ⟨keys, name :: keys', found, by simp [found'], perm.cons name, own⟩

theorem membersField (members : F.Members added ms ms') (once : added.Nodup)
    (leftOut : ∀ name ∈ added, some name ∉ ms.map Prod.fst) (name : String) :
    F.Field name ((ms.find? (·.1 = some name)).map Prod.snd)
      ((ms'.find? (·.1 = some name)).map Prod.snd) := by
  induction members with
  | nil => exact .missing
  | @keep added key v w ms ms' same rest ih =>
      have others : ∀ name ∈ added, some name ∉ ms.map Prod.fst := fun name member own =>
        leftOut name member (List.mem_cons_of_mem _ own)
      simp only [List.find?_cons]
      by_cases here : key = some name
      · subst here
        simp only [decide_true, Option.map_some]
        refine .given (same.imp_right ?_)
        rintro ⟨_, named, alike⟩
        cases named
        exact alike
      · simp only [here, decide_false]
        exact ih once others
  | @add added key d ms ms' known rest ih =>
      obtain ⟨fresh, once⟩ := List.nodup_cons.mp once
      obtain ⟨own, others⟩ := List.forall_mem_cons.mp leftOut
      simp only [List.find?_cons]
      by_cases here : key = name
      · subst here
        have none : ms.find? (·.1 = some key) = none := by
          refine List.find?_eq_none.mpr fun m member named => own ?_
          exact List.mem_map.mpr ⟨m, member, of_decide_eq_true named⟩
        simp only [none, decide_true, Option.map_some, Option.map_none]
        exact .default known
      · simp only [Option.some.injEq, here, decide_false]
        exact ih once others

theorem fieldsSpelled (spelled : F.Spelled j j') :
    (fields? F.names j = none ∧ fields? F.names j' = none) ∨
      ∃ fields fields', fields? F.names j = some fields ∧ fields? F.names j' = some fields' ∧
        ∀ name, F.Field name (fields name) (fields' name) := by
  cases spelled with
  | same =>
      cases found : fields? F.names j with
      | none => exact .inl ⟨rfl, rfl⟩
      | some fields => exact .inr ⟨fields, fields, rfl, rfl, fun name => fieldSame name _⟩
  | @array vs ws items =>
      have long := itemsLength items
      simp only [fields?]
      by_cases short : vs.length ≤ F.names.length
      · rw [if_pos short, if_pos (long.mp short)]
        exact .inr ⟨_, _, rfl, rfl, itemsField items⟩
      · rw [if_neg short, if_neg (short ∘ long.mpr)]
        exact .inl ⟨rfl, rfl⟩
  | @object added ms ms' members once leftOut =>
      simp only [fields?, memberFields]
      rcases membersKeys members with ⟨none, none'⟩ | ⟨keys, keys', found, found', perm, own⟩
      · exact .inl (by simp [none, none'])
      · have apart : ∀ name ∈ added, name ∉ keys := fun name member there =>
          leftOut name member (own ▸ List.mem_map_of_mem there)
        have twice : (keys'.filter (· ∈ F.names)).Nodup ↔ (keys.filter (· ∈ F.names)).Nodup := by
          rw [(perm.filter _).nodup_iff, List.filter_append, List.nodup_append]
          refine ⟨fun both => both.2.1, fun own => ⟨once.filter _, own, ?_⟩⟩
          rintro name first _ second rfl
          exact apart name (List.mem_of_mem_filter first) (List.mem_of_mem_filter second)
        simp only [found, found', Option.bind_eq_bind, Option.bind_some, twice]
        split
        · exact .inr ⟨_, _, rfl, rfl, membersField members once leftOut⟩
        · exact .inl ⟨rfl, rfl⟩

theorem readAlike {α : Type} {next : Fields → Option α} (spelled : F.Spelled j j')
    (same : ∀ fields fields' : Fields, (∀ name, F.Field name (fields name) (fields' name)) →
      next fields = next fields') : fields? F.names j >>= next = fields? F.names j' >>= next := by
  rcases fieldsSpelled spelled with ⟨none, none'⟩ | ⟨fields, fields', found, found', alike⟩
  · rw [none, none']
  · rw [found, found']
    exact same fields fields' alike

end Form

theorem thenAlike {α β : Type} {first first' : Option α} {next next' : α → Option β}
    (same : first = first') (rest : ∀ a, next a = next' a) : first >>= next = first' >>= next' := by
  rw [same, funext rest]

theorem mapMAlike {α β : Type} {alike : β → β → Prop} {read : β → Option α} {bs cs : List β}
    (each : List.Forall₂ alike bs cs) (same : ∀ b c, alike b c → read b = read c) :
    bs.mapM read = cs.mapM read := by
  induction each with
  | nil => rfl
  | cons first rest ih => rw [List.mapM_cons, List.mapM_cons, same _ _ first, ih]

namespace Fields

variable {F : Form} {α : Type} {name : String} {fields fields' : Fields} {read : Reader α}

theorem requiredAlike (field : F.Field name (fields name) (fields' name))
    (firm : F.defaults.lookup name = none) (inner : ∀ v w, F.inner name v w → read v = read w) :
    fields.required name read = fields'.required name read := by
  unfold required
  generalize fields name = v at field
  generalize fields' name = w at field
  cases field with
  | missing => rfl
  | given same => exact same.elim (fun equal => by rw [equal]) (inner _ _)
  | default known => simp [firm] at known

theorem withDefaultAlike {a : α} (field : F.Field name (fields name) (fields' name))
    (known : (F.defaults.lookup name).bind read = some a)
    (inner : ∀ v w, F.inner name v w → read v = read w) :
    fields.withDefault name a read = fields'.withDefault name a read := by
  unfold withDefault
  generalize fields name = v at field
  generalize fields' name = w at field
  cases field with
  | missing => rfl
  | given same => exact same.elim (fun equal => by rw [equal]) (inner _ _)
  | default default =>
      rw [default] at known
      exact known.symm

end Fields
end RestScaffold.Json
