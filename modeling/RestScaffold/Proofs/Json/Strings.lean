import Mathlib.Tactic.IntervalCases
import RestScaffold.Json.Printer
import RestScaffold.Json.Reader

/-! Strings and whole numbers that are written are read back, whatever follows them. -/
namespace RestScaffold.Json
open Text

theorem readHex4Control (n : Nat) (small : n < 32) (rest : List Char) :
    readHex4 (hex 4 n ++ rest) = some (n, rest) := by
  interval_cases n <;> rfl

theorem charNotHalf (c : Char) : isHighHalf c.toNat = false ∧ isLowHalf c.toNat = false := by
  have valid := c.valid
  simp only [UInt32.isValidChar, Nat.isValidChar] at valid
  have same : c.toNat = c.val.toNat := rfl
  simp only [isHighHalf, isLowHalf, Bool.and_eq_false_iff, decide_eq_false_iff_not]
  omega

theorem joinCharacters (cs : List Char) : joinHalves (cs.map Char.toNat) = some cs := by
  induction cs with
  | nil => rfl
  | cons c rest ih =>
      obtain ⟨high, low⟩ := charNotHalf c
      cases rest with
      | nil => simp [joinHalves, high, low]
      | cons d more =>
          simp only [List.map_cons, joinHalves, high, low, Bool.false_eq_true, if_false] at ih ⊢
          rw [ih]
          simp

theorem readCodesEscape (c : Char) (fuel : Nat) (rest : List Char) :
    readCodes (fuel + 1) (escape c ++ rest) = (do
      let (codes, rest) ← readCodes fuel rest
      some (c.toNat :: codes, rest)) := by
  unfold escape
  split
  · rename_i special
    rcases special with rfl | rfl <;> rfl
  split
  · subst_vars; rfl
  split
  · subst_vars; rfl
  split
  · subst_vars; rfl
  split
  · subst_vars; rfl
  split
  · subst_vars; rfl
  split
  · rename_i small
    simp [readCodes, readEscape, readHex4Control c.toNat small]
  · rename_i special _ _ _ _ _ large
    simp [readCodes, not_or.mp special, large]

theorem readCodesQuoted (cs rest : List Char) (fuel : Nat) (enough : cs.length < fuel) :
    readCodes fuel (cs.flatMap escape ++ '"' :: rest) = some (cs.map Char.toNat, rest) := by
  induction cs generalizing fuel with
  | nil =>
      obtain ⟨fuel, rfl⟩ := Nat.exists_eq_add_of_lt enough
      simp [readCodes]
  | cons c more ih =>
      cases fuel with
      | zero => contradiction
      | succ fuel =>
          rw [List.flatMap_cons, List.append_assoc, readCodesEscape,
            ih fuel (by simpa using enough)]
          rfl

theorem escapeLength (c : Char) : 1 ≤ (escape c).length := by
  unfold escape
  repeat' split
  all_goals simp

theorem quotedLength (cs : List Char) : cs.length ≤ (cs.flatMap escape).length := by
  induction cs with
  | nil => simp
  | cons c rest ih =>
      have first := escapeLength c
      simp only [List.flatMap_cons, List.length_append, List.length_cons]
      omega

theorem readStringQuoted (s : String) (rest : List Char) :
    readString (s.toList.flatMap escape ++ '"' :: rest) = some (some s, rest) := by
  have enough := quotedLength s.toList
  simp only [readString]
  rw [readCodesQuoted _ _ _ (by rw [List.length_append, List.length_cons]; omega)]
  simp [joinCharacters]

def EndsNumber (rest : List Char) : Prop :=
  ∀ c ∈ rest.head?, isDigit c = false ∧ c ≠ '.' ∧ c ≠ 'e' ∧ c ≠ 'E'

theorem decimalDigit {n : Nat} {c : Char} (member : c ∈ Nat.toDigits 10 n) : isDigit c = true := by
  have digit := Nat.isDigit_of_mem_toDigits (by decide) (by decide) member
  simpa [isDigit, Char.isDigit, Char.le_def] using digit

theorem decimalStart {n : Nat} (positive : 0 < n) : (Nat.toDigits 10 n).head? ≠ some '0' := by
  induction n using Nat.strongRecOn with
  | ind n ih =>
      by_cases small : n < 10
      · rw [Nat.toDigits_of_lt_base small]
        interval_cases n <;> decide
      · have above : 10 ≤ n := by omega
        rw [Nat.toDigits_of_base_le (by decide) above, List.head?_append]
        have before := ih (n / 10) (by omega) (by omega)
        cases start : (Nat.toDigits 10 (n / 10)).head? with
        | none => exact absurd (List.head?_eq_none_iff.mp start) Nat.toDigits_ne_nil
        | some c => simpa [start] using before

theorem takeDigits {digits rest : List Char} (all : ∀ c ∈ digits, isDigit c = true)
    (ends : ∀ c ∈ rest.head?, isDigit c = false) :
    (digits ++ rest).takeWhile isDigit = digits ∧ (digits ++ rest).dropWhile isDigit = rest := by
  induction digits with
  | nil =>
      cases rest with
      | nil => exact ⟨rfl, rfl⟩
      | cons c more => simp [ends c rfl]
  | cons c more ih =>
      have head := all c List.mem_cons_self
      have tail := ih fun d member => all d (List.mem_cons_of_mem _ member)
      simp [head, tail]

theorem readDecimal (negative : Bool) (n : Nat) {rest : List Char} (ends : EndsNumber rest) :
    readUnsigned negative (Nat.toDigits 10 n ++ rest) =
      some (⟨negative, Nat.toDigits 10 n, [], none⟩, rest) := by
  obtain ⟨taken, dropped⟩ := takeDigits (fun _ => decimalDigit (n := n)) fun c member =>
    (ends c member).1
  have whole : readWhole (Nat.toDigits 10 n ++ rest) = some (Nat.toDigits 10 n, rest) := by
    have noZero : ¬((Nat.toDigits 10 n).head? = some '0' ∧ (Nat.toDigits 10 n).length ≠ 1) := by
      rintro ⟨start, long⟩
      cases n with
      | zero => simp at long
      | succ n => exact decimalStart (by omega) start
    simp only [readWhole, readDigits, taken, dropped]
    simp [Nat.toDigits_ne_nil, noZero]
  have fraction : readFraction rest = some ([], rest) := by
    unfold readFraction
    split
    · exact absurd rfl (ends '.' rfl).2.1
    · rfl
  have exponent : readExponent rest = some (none, rest) := by
    unfold readExponent
    split
    · exact absurd rfl (ends 'e' rfl).2.2.1
    · exact absurd rfl (ends 'E' rfl).2.2.2
    · rfl
  simp [readUnsigned, whole, fraction, exponent]

theorem readNumeralWritten (n : Int) {rest : List Char} (ends : EndsNumber rest) :
    readNumeral ((Numeral.ofInt n).text ++ rest) = some (Numeral.ofInt n, rest) := by
  by_cases negative : n < 0
  · simp [Numeral.text, Numeral.ofInt, negative, readNumeral, readDecimal true _ ends]
  · have text : (Numeral.ofInt n).text = Nat.toDigits 10 n.natAbs := by
      simp [Numeral.text, Numeral.ofInt, negative]
    rw [text]
    cases digits : Nat.toDigits 10 n.natAbs with
    | nil => exact absurd digits Nat.toDigits_ne_nil
    | cons c more =>
        have digit : isDigit c = true := decimalDigit (digits ▸ List.mem_cons_self)
        have unsigned : c ≠ '-' := by
          rintro rfl
          contradiction
        have read := readDecimal false n.natAbs ends
        rw [digits, List.cons_append] at read
        simp [readNumeral, unsigned, read, Numeral.ofInt, negative, digits]

end RestScaffold.Json
