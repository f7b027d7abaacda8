import Mathlib.Data.List.Forall2
import Mathlib.Data.List.TakeWhile
import RestScaffold.Endpoint.Kind

/-! How kinds of endpoints are named. A name is that of a kind whatever the letter case and the
blanks around it, and a list of names gives its kinds by first occurrence, or its first name that is
none. -/
namespace RestScaffold

namespace Text

variable {before word after : List Char}

theorem trimSplit (cs : List Char) :
    ∃ before after, cs = before ++ trimEnd (trimStart cs) ++ after ∧
      (∀ c ∈ before, isBlank c = true) ∧ ∀ c ∈ after, isBlank c = true := by
  have front := List.takeWhile_append_dropWhile (p := isBlank) (l := cs)
  have back := List.takeWhile_append_dropWhile (p := isBlank) (l := (trimStart cs).reverse)
  refine ⟨cs.takeWhile isBlank, ((trimStart cs).reverse.takeWhile isBlank).reverse, ?_,
    fun c member => List.mem_takeWhile_imp member,
    fun c member => List.mem_takeWhile_imp (List.mem_reverse.mp member)⟩
  rw [List.append_assoc, trimEnd, ← List.reverse_append, back, List.reverse_reverse]
  exact front.symm

theorem trimAround (blank : ∀ c ∈ before, isBlank c = true)
    (blank' : ∀ c ∈ after, isBlank c = true) (full : ∀ c ∈ word, isBlank c = false)
    (some : word ≠ []) : trimEnd (trimStart (before ++ word ++ after)) = word := by
  have stops : ∀ {l rest : List Char}, l ≠ [] → (∀ c ∈ l, isBlank c = false) →
      (l ++ rest).dropWhile isBlank = l ++ rest := by
    intro l rest some full
    obtain ⟨c, more, rfl⟩ := List.exists_cons_of_ne_nil some
    rw [List.cons_append, List.dropWhile_cons_of_neg (by simp [full c])]
  have back : ∀ c ∈ after.reverse, isBlank c = true := fun c member =>
    blank' c (List.mem_reverse.mp member)
  have reversed : ∀ c ∈ word.reverse, isBlank c = false := fun c member =>
    full c (List.mem_reverse.mp member)
  have ended : word.reverse.dropWhile isBlank = word.reverse := by
    simpa using @stops word.reverse [] (List.reverse_ne_nil_iff.mpr some) reversed
  rw [trimStart, List.append_assoc, List.dropWhile_append_of_pos blank, stops some full, trimEnd,
    List.reverse_append, List.dropWhile_append_of_pos back, ended, List.reverse_reverse]

theorem letterFull {c : Char} (letter : c.toLower.isAlpha = true) : isBlank c = false := by
  have alpha : c.isAlpha = true := by
    unfold Char.toLower at letter
    split at letter
    · rename_i upper
      exact Bool.or_eq_true_iff.mpr (.inl (decide_eq_true upper))
    · exact letter
  have ranges : (65 ≤ c.toNat ∧ c.toNat ≤ 90) ∨ (97 ≤ c.toNat ∧ c.toNat ≤ 122) := by
    rcases Bool.or_eq_true_iff.mp alpha with upper | lower
    · obtain ⟨low, high⟩ := of_decide_eq_true upper
      exact .inl ⟨UInt32.le_iff_toNat_le.mp low, UInt32.le_iff_toNat_le.mp high⟩
    · obtain ⟨low, high⟩ := Bool.and_eq_true_iff.mp lower
      exact .inr ⟨UInt32.le_iff_toNat_le.mp (of_decide_eq_true low),
        UInt32.le_iff_toNat_le.mp (of_decide_eq_true high)⟩
  simp only [isBlank, Ranges.contains, List.any_eq_false, blankRanges, List.forall_mem_cons,
    Bool.and_eq_true, decide_eq_true_eq]
  refine ⟨?_, ?_, ?_, ?_, ?_, ?_, ?_, ?_, ?_, ?_, nofun⟩ <;> omega

end Text

namespace EndpointKind

variable {k : EndpointKind} {text : String} {names : List String} {seen kinds : List EndpointKind}

theorem memAll (k : EndpointKind) : k ∈ all := by cases k <;> decide

def Spelled (k : EndpointKind) (text : String) : Prop :=
  ∃ before word after, text.toList = before ++ word ++ after ∧
    (∀ c ∈ before, Text.isBlank c = true) ∧ (∀ c ∈ after, Text.isBlank c = true) ∧
    word.map Char.toLower = k.name.toList

def IsName (text : String) : Prop := ∃ k : EndpointKind, k.Spelled text

theorem namesLower : ∀ k ∈ all, k.name.toList ≠ [] ∧
    k.name.toList.map Char.toLower = k.name.toList ∧ k.name.toList.all Char.isAlpha = true := by
  decide

theorem namesDiffer : ∀ k ∈ all, ∀ l ∈ all, k.name.toList = l.name.toList → k = l := by decide

theorem matchesIff : Text.sameLetters k.name text = true ↔
    text.toList.map Char.toLower = k.name.toList := by
  rw [Text.sameLetters, (namesLower k (memAll k)).2.1, beq_iff_eq, eq_comm]

theorem spelledTrim : k.Spelled text ↔
    (Text.trim text).toList.map Char.toLower = k.name.toList := by
  rw [Text.trim, String.toList_ofList]
  constructor
  · rintro ⟨before, word, after, split, blank, blank', name⟩
    obtain ⟨some, -, letters⟩ := namesLower k (memAll k)
    have full : ∀ c ∈ word, Text.isBlank c = false := fun c member =>
      Text.letterFull (List.all_eq_true.mp letters _ (name ▸ List.mem_map_of_mem member))
    have some' : word ≠ [] := by
      rintro rfl
      exact some name.symm
    rw [split, Text.trimAround blank blank' full some', name]
  · intro name
    obtain ⟨before, after, split, blank, blank'⟩ := Text.trimSplit text.toList
    exact ⟨before, _, after, split, blank, blank', name⟩

theorem parseIff : parse? text = some k ↔ k.Spelled text := by
  have fits : ∀ l, parse? text = some l →
      (Text.trim text).toList.map Char.toLower = l.name.toList := by
    intro l found
    rw [parse?] at found
    have own := List.find?_some found
    exact matchesIff.mp own
  rw [spelledTrim]
  constructor
  · exact fits k
  · intro spelled
    -- Names of kinds differ, so the first kind that fits is the only one.
    have some : (parse? text).isSome = true := by
      rw [parse?, List.find?_isSome]
      exact ⟨k, memAll k, matchesIff.mpr spelled⟩
    obtain ⟨l, found⟩ := Option.isSome_iff_exists.mp some
    rw [found, namesDiffer l (memAll l) k (memAll k) ((fits l found).symm.trans spelled)]

theorem parseNone : parse? text = none ↔ ¬IsName text := by
  rw [Option.eq_none_iff_forall_ne_some, IsName, not_exists]
  exact forall_congr' fun k => not_congr parseIff

inductive FirstUnknown : List String → String → Prop
  | here {name : String} {rest : List String} (unknown : ¬IsName name) :
      FirstUnknown (name :: rest) name
  | later {name other : String} {rest : List String} (known : IsName name)
      (first : FirstUnknown rest other) : FirstUnknown (name :: rest) other

theorem firstUnknownIff : (∃ name, FirstUnknown names name) ↔ ∃ name ∈ names, ¬IsName name := by
  constructor
  · rintro ⟨name, first⟩
    refine ⟨name, ?_⟩
    induction first with
    | here unknown => exact ⟨List.mem_cons_self, unknown⟩
    | later _ _ ih => exact ih.imp_left (List.mem_cons_of_mem _)
  · induction names with
    | nil => simp
    | cons name rest ih =>
        by_cases known : IsName name
        · rintro ⟨other, member, unknown⟩
          rcases List.mem_cons.mp member with rfl | later
          · exact absurd known unknown
          · exact (ih ⟨other, later, unknown⟩).imp fun _ first => .later known first
        · exact fun _ => ⟨name, .here known⟩

theorem parseAllError {name : String} :
    parseAll names seen = .error name ↔ FirstUnknown names name := by
  induction names generalizing seen with
  | nil => exact ⟨nofun, nofun⟩
  | cons first rest ih =>
      cases parsed : parse? first with
      | none =>
          have unknown := parseNone.mp parsed
          simp only [parseAll, parsed]
          constructor
          · intro same
            cases same
            exact .here unknown
          · intro found
            cases found with
            | here => rfl
            | later known => exact absurd known unknown
      | some k =>
          have known : IsName first := ⟨k, parseIff.mp parsed⟩
          have rest' : parseAll (first :: rest) seen = .error name ↔ FirstUnknown rest name := by
            simp only [parseAll, parsed]
            split
            · exact ih
            · rw [← @ih (k :: seen)]
              cases parseAll rest (k :: seen) <;> simp [Except.map]
          rw [rest']
          constructor
          · exact .later known
          · intro found
            cases found with
            | here unknown => exact absurd known unknown
            | later _ later => exact later

theorem filterSeen {k : EndpointKind} (fresh : k ∉ seen) (others : List EndpointKind) :
    ((k :: others).filter (· ∉ seen)).eraseDups =
      k :: (others.filter (· ∉ k :: seen)).eraseDups := by
  rw [List.filter_cons_of_pos (by simpa using fresh), List.eraseDups_cons, List.filter_filter]
  congr 2
  refine List.filter_congr fun l _ => ?_
  by_cases same : l = k <;> simp [same]

theorem namedIff : (∃ named, List.Forall₂ Spelled named names) ↔ ∀ name ∈ names, IsName name := by
  induction names with
  | nil => simp
  | cons name rest ih =>
      rw [List.forall_mem_cons, ← ih]
      constructor
      · rintro ⟨named, spelled⟩
        cases spelled with
        | cons own others => exact ⟨⟨_, own⟩, _, others⟩
      · rintro ⟨⟨k, own⟩, others, spelled⟩
        exact ⟨k :: others, .cons own spelled⟩

theorem parseAllSpelled {named : List EndpointKind} (spelled : List.Forall₂ Spelled named names)
    (seen : List EndpointKind) :
    parseAll names seen = .ok (named.filter (· ∉ seen)).eraseDups := by
  induction spelled generalizing seen with
  | nil => rfl
  | cons own others ih =>
      simp only [parseAll, parseIff.mpr own]
      split
      · rename_i again
        rw [ih, List.filter_cons_of_neg (by simpa using again)]
      · rename_i fresh
        rw [ih, filterSeen fresh]
        rfl

theorem parseAllOk : parseAll names [] = .ok kinds ↔
    ∃ named, List.Forall₂ Spelled named names ∧ kinds = named.eraseDups := by
  have all : ∀ named : List EndpointKind, named.filter (· ∉ ([] : List EndpointKind)) = named := by
    simp
  constructor
  · intro parsed
    have known : ∀ name ∈ names, IsName name := by
      by_contra some
      rw [not_forall₂] at some
      obtain ⟨name, member, unknown⟩ := some
      obtain ⟨other, first⟩ := firstUnknownIff.mpr ⟨name, member, unknown⟩
      cases parsed.symm.trans (parseAllError.mpr first)
    obtain ⟨named, spelled⟩ := namedIff.mpr known
    have own := parseAllSpelled spelled []
    rw [all, parsed] at own
    exact ⟨named, spelled, Except.ok.inj own⟩
  · rintro ⟨named, spelled, rfl⟩
    rw [parseAllSpelled spelled, all]

end EndpointKind
end RestScaffold
