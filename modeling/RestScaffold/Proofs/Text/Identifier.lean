import RestScaffold.Proofs.Text.Lower
import RestScaffold.Text.GoString

/-! The names that code gets from a plain name hold letters, digits and underscores alone, whatever
the convention, so nothing in them ends a name or has to be escaped. -/
namespace RestScaffold

namespace Text.GoString

def Unescaped (cs : List Char) : Prop := ∀ c ∈ cs, escape c = [c]

instance (cs : List Char) : Decidable (Unescaped cs) :=
  List.decidableBAll (fun c => escape c = [c]) cs

variable {cs more : List Char} {s : String}

theorem unescapedAppend : Unescaped (cs ++ more) ↔ Unescaped cs ∧ Unescaped more :=
  List.forall_mem_append

theorem Unescaped.noQuote (unescaped : Unescaped cs) : '"' ∉ cs := fun member =>
  absurd (unescaped _ member) (by decide)

theorem Unescaped.quoted (unescaped : Unescaped s.toList) :
    (quote s).toList = '"' :: (s.toList ++ ['"']) := by
  have same : s.toList.flatMap escape = s.toList := by
    rw [List.flatMap_def, List.map_congr_left unescaped, ← List.flatMap_def,
      List.flatMap_singleton']
  rw [quote, String.toList_ofList, encode, same, List.cons_append]

end Text.GoString

namespace Naming
open Text

def isWordly (c : Char) : Bool := c.isAlphanum || c == '_'

def Wordly (cs : List Char) : Prop := ∀ c ∈ cs, isWordly c = true

variable {cs : List Char} {s : String}

theorem plainWordly (plain : isPlainIdentifier s = true) : Wordly s.toList :=
  fun _ member => plainCharacter plain member

theorem plainAppend {t : String} (plain : isPlainIdentifier s = true) (wordly : Wordly t.toList) :
    isPlainIdentifier (s ++ t) = true := by
  unfold isPlainIdentifier at plain ⊢
  rw [String.toList_append]
  cases begins : s.toList with
  | nil =>
      rw [begins] at plain
      contradiction
  | cons c rest =>
      rw [begins] at plain
      obtain ⟨first, others⟩ := Bool.and_eq_true_iff.mp plain
      have all : (rest ++ t.toList).all fun d => d.isAlphanum || d == '_' := by
        rw [List.all_append]
        exact Bool.and_eq_true_iff.mpr ⟨others, List.all_eq_true.mpr wordly⟩
      exact Bool.and_eq_true_iff.mpr ⟨first, all⟩

theorem Wordly.without (wordly : Wordly cs) {c : Char} (odd : isWordly c = false) : c ∉ cs := by
  intro member
  rw [wordly c member] at odd
  contradiction

theorem wordlyAscii {c : Char} (wordly : isWordly c = true) : c.toNat < 128 := by
  have below {last : UInt32} (high : c.val ≤ last) (small : last.toNat < 128) : c.toNat < 128 :=
    Nat.lt_of_le_of_lt (UInt32.le_iff_toNat_le.mp high) small
  rcases Bool.or_eq_true_iff.mp wordly with alphanum | bar
  · rcases Bool.or_eq_true_iff.mp alphanum with alpha | digit
    · rcases Bool.or_eq_true_iff.mp alpha with upper | lower
      · exact below (of_decide_eq_true upper).2 (by decide)
      · exact below (of_decide_eq_true (Bool.and_eq_true_iff.mp lower).2) (by decide)
    · exact below (of_decide_eq_true (Bool.and_eq_true_iff.mp digit).2) (by decide)
  · rw [beq_iff_eq.mp bar]
    decide

theorem asciiWordly : ∀ n < 128, isWordly (Char.ofNat n) = true →
    isWordly (Char.ofNat n).toUpper = true ∧ isWordly (Char.ofNat n).toLower = true ∧
      GoString.escape (Char.ofNat n) = [Char.ofNat n] := by decide +kernel

theorem caseWordly {c : Char} (wordly : isWordly c = true) :
    Wordly (upperChar c) ∧ Wordly (lowerChar c) := by
  have ascii := wordlyAscii wordly
  have known := asciiWordly c.toNat ascii
  rw [Char.ofNat_toNat] at known
  obtain ⟨upper, lower, -⟩ := known wordly
  simp only [Wordly, upperChar, lowerChar, if_pos ascii, List.mem_singleton, forall_eq]
  exact ⟨upper, lower⟩

theorem wordlyUnescaped (wordly : Wordly cs) : GoString.Unescaped cs := by
  intro c member
  have known := asciiWordly c.toNat (wordlyAscii (wordly c member))
  rw [Char.ofNat_toNat] at known
  exact (known (wordly c member)).2.2

theorem memWords {word : List Char} (member : word ∈ words cs) {c : Char} (inside : c ∈ word) :
    c ∈ cs := by
  fun_induction words cs with
  | case1 cs none => contradiction
  | case2 cs first rest found shorter ih =>
      have known : ∀ d ∈ first :: rest, d ∈ cs := fun d member =>
        (List.dropWhile_sublist _).subset (found ▸ member)
      rcases List.mem_cons.mp member with rfl | later
      · refine known c ?_
        rcases List.mem_cons.mp inside with rfl | more
        · exact List.mem_cons_self
        · exact List.mem_cons_of_mem _ ((List.takeWhile_sublist _).subset more)
      · exact known c (List.mem_cons_of_mem _ ((List.dropWhile_sublist _).subset (ih later)))

theorem capitalizedWordly (wordly : Wordly cs) :
    Wordly (capitalized cs) ∧ Wordly (uncapitalized cs) := by
  cases cs with
  | nil => exact ⟨nofun, nofun⟩
  | cons c rest =>
      obtain ⟨first, others⟩ := List.forall_mem_cons.mp wordly
      obtain ⟨upper, lower⟩ := caseWordly first
      exact ⟨List.forall_mem_append.mpr ⟨upper, others⟩, List.forall_mem_append.mpr ⟨lower, others⟩⟩

theorem wordsWordly (plain : isPlainIdentifier s = true) : ∀ word ∈ words s.toList, Wordly word :=
  fun _ member c inside => plainWordly plain c (memWords member inside)

theorem pascalWordly (plain : isPlainIdentifier s = true) : Wordly (pascal s).toList := by
  rw [pascal, String.toList_ofList]
  intro c member
  obtain ⟨word, known, inside⟩ := List.mem_flatMap.mp member
  exact (capitalizedWordly (wordsWordly plain word known)).1 c inside

theorem camelWordly (plain : isPlainIdentifier s = true) : Wordly (camel s).toList := by
  have wordly := wordsWordly plain
  unfold camel
  cases split : words s.toList with
  | nil => exact nofun
  | cons first rest =>
      rw [split] at wordly
      obtain ⟨one, others⟩ := List.forall_mem_cons.mp wordly
      rw [String.toList_ofList]
      refine List.forall_mem_append.mpr ⟨(capitalizedWordly one).2, fun c member => ?_⟩
      obtain ⟨word, known, inside⟩ := List.mem_flatMap.mp member
      exact (capitalizedWordly (others word known)).1 c inside

theorem exportedWordly (plain : isPlainIdentifier s = true) : Wordly (exported s).toList := by
  rw [exported, String.toList_ofList]
  intro c member
  obtain ⟨word, known, inside⟩ := List.mem_flatMap.mp member
  have wordly := wordsWordly plain word known
  unfold exportedWord at inside
  split at inside
  · obtain ⟨d, own, raised⟩ := List.mem_flatMap.mp inside
    exact (caseWordly (wordly d own)).1 c raised
  · exact (capitalizedWordly wordly).1 c inside

theorem lowerWordly (plain : isPlainIdentifier s = true) : Wordly (Text.lower s).toList := by
  have noSigma : 'Σ' ∉ s.toList := (plainWordly plain).without (by decide)
  rw [Text.lower, String.toList_ofList, lowerFromEach noSigma]
  intro c member
  obtain ⟨d, own, lowered⟩ := List.mem_flatMap.mp member
  exact (caseWordly (plainWordly plain d own)).2 c lowered

end Naming
end RestScaffold
