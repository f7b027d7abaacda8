import RestScaffold.Proofs.Text.GoLiteral
import RestScaffold.Proofs.Text.Literals
import RestScaffold.Text.ScriptString

/-! Single-quoted string literals as ECMAScript reads them in a module. A value is a row of code
units. What `quote` writes is read back unless the text holds a line feed or a carriage return. -/
namespace RestScaffold.Text

def units (n : Nat) : List UInt16 :=
  if n < 0x10000 then [n.toUInt16]
  else [(0xd800 + (n - 0x10000) / 0x400).toUInt16, (0xdc00 + (n - 0x10000) % 0x400).toUInt16]

def utf16 (cs : List Char) : List UInt16 := cs.flatMap fun c => units c.toNat

namespace ScriptString

def endsLine (c : Char) : Bool := c == '\n' || c == '\r' || c == '\u2028' || c == '\u2029'

def readPoint (value : Nat) : List Char → Option (Nat × List Char)
  | [] => none
  | c :: rest =>
      if c = '\x7d' then some (value, rest)
      else
        match hexValue? c with
        | some digit =>
            if value * 16 + digit ≤ 0x10ffff then readPoint (value * 16 + digit) rest else none
        | none => none

def readEscape : List Char → Option (List UInt16 × List Char)
  | 'b' :: rest => some ([0x08], rest)
  | 't' :: rest => some ([0x09], rest)
  | 'n' :: rest => some ([0x0a], rest)
  | 'v' :: rest => some ([0x0b], rest)
  | 'f' :: rest => some ([0x0c], rest)
  | 'r' :: rest => some ([0x0d], rest)
  | '0' :: rest => if rest.head?.any Char.isDigit then none else some ([0], rest)
  | 'x' :: rest => (GoString.readNumber 16 2 0 rest).map fun (n, rest) => ([n.toUInt16], rest)
  | 'u' :: '\x7b' :: '\x7d' :: _ => none
  | 'u' :: '\x7b' :: rest => (readPoint 0 rest).map fun (n, rest) => (units n, rest)
  | 'u' :: rest => (GoString.readNumber 16 4 0 rest).map fun (n, rest) => ([n.toUInt16], rest)
  | '\r' :: '\n' :: rest => some ([], rest)
  | c :: rest =>
      if c.isDigit then none
      else if endsLine c then some ([], rest)
      else some (units c.toNat, rest)
  | [] => none

theorem pointSpends {value n : Nat} {cs rest : List Char}
    (read : readPoint value cs = some (n, rest)) : rest.length < cs.length := by
  fun_induction readPoint value cs with
  | case1 => contradiction
  | case2 =>
      cases read
      exact Nat.lt_succ_self _
  | case3 value c more notLast digit known small ih => exact Nat.lt_succ_of_lt (ih read)
  | case4 => contradiction
  | case5 => contradiction

theorem numberShortens {width n : Nat} {cs rest : List Char}
    (read : GoString.readNumber 16 width 0 cs = some (n, rest)) : rest.length ≤ cs.length := by
  obtain ⟨digits, rfl, -⟩ := GoString.numberSpends read
  simp

theorem escapeSpends {cs rest : List Char} {value : List UInt16}
    (read : readEscape cs = some (value, rest)) : rest.length < cs.length := by
  unfold readEscape at read
  split at read
  case h_7 =>
    split at read
    · contradiction
    · cases read
      exact Nat.lt_succ_self _
  case h_8 | h_11 =>
    obtain ⟨⟨n, after⟩, number, same⟩ := Option.map_eq_some_iff.mp read
    cases same
    exact Nat.lt_succ_of_le (numberShortens number)
  case h_9 => contradiction
  case h_10 =>
    obtain ⟨⟨n, after⟩, point, same⟩ := Option.map_eq_some_iff.mp read
    cases same
    exact Nat.lt_succ_of_lt (Nat.lt_succ_of_lt (pointSpends point))
  case h_12 =>
    cases read
    exact Nat.lt_succ_of_lt (Nat.lt_succ_self _)
  case h_13 =>
    split at read
    · contradiction
    · split at read <;> cases read <;> exact Nat.lt_succ_self _
  case h_14 => contradiction
  all_goals
    cases read
    exact Nat.lt_succ_self _

def readText (cs : List Char) : Option (List UInt16 × List Char) :=
  match cs with
  | [] => none
  | c :: rest =>
      if c = '\'' then some ([], rest)
      else if c = '\n' ∨ c = '\r' then none
      else if c = '\\' then
        match escape : readEscape rest with
        | none => none
        | some (value, after) =>
            have : after.length < rest.length := escapeSpends escape
            (readText after).map fun (more, after) => (value ++ more, after)
      else (readText rest).map fun (more, after) => (units c.toNat ++ more, after)
termination_by cs.length
decreasing_by all_goals simp only [List.length_cons]; omega

theorem readSpends {cs rest : List Char} {value : List UInt16}
    (read : readText cs = some (value, rest)) : rest.length < cs.length := by
  fun_induction readText cs generalizing value with
  | case1 => contradiction
  | case2 =>
      cases read
      exact Nat.lt_succ_self _
  | case3 => contradiction
  | case4 => contradiction
  | case5 more own after escape shorter notQuote whole ih =>
      obtain ⟨⟨inside, rest'⟩, read', same⟩ := Option.map_eq_some_iff.mp read
      cases same
      exact Nat.lt_succ_of_lt (Nat.lt_trans (ih read') shorter)
  | case6 c more notQuote whole notBackslash ih =>
      obtain ⟨⟨inside, rest'⟩, read', same⟩ := Option.map_eq_some_iff.mp read
      cases same
      exact Nat.lt_succ_of_lt (ih read')

def literalKind : LiteralKind (List UInt16) where
  mark := '\''
  value s := utf16 s.toList
  read := readText
  shorter := readSpends

@[simp]
theorem literalMark : literalKind.mark = '\'' := rfl

def read : List Char → Option (List UInt16 × List Char)
  | '\'' :: rest => readText rest
  | _ => none

def Unbroken (cs : List Char) : Prop := ∀ c ∈ cs, c ≠ '\n' ∧ c ≠ '\r'

instance (cs : List Char) : Decidable (Unbroken cs) :=
  List.decidableBAll (fun c => c ≠ '\n' ∧ c ≠ '\r') cs

variable {c : Char} {cs : List Char}

theorem readEscaped {rest after : List Char} {value : List UInt16}
    (escape : readEscape rest = some (value, after)) :
    readText ('\\' :: rest) =
      (readText after).map fun (more, after) => (value ++ more, after) := by
  rw [readText, if_neg (by decide), if_neg (by decide), if_pos rfl]
  split
  · rename_i none
    rw [escape] at none
    contradiction
  · rename_i known
    rw [escape] at known
    cases known
    rfl

theorem readEscapedCharacter (whole : c ≠ '\n' ∧ c ≠ '\r') (rest : List Char) :
    readText (escape c ++ rest) =
      (readText rest).map fun (more, after) => (units c.toNat ++ more, after) := by
  unfold escape
  split
  · rename_i marked
    rcases marked with rfl | rfl <;> exact readEscaped rfl
  · rename_i plain
    obtain ⟨notQuote, notBackslash⟩ := not_or.mp plain
    rw [List.singleton_append, readText, if_neg notQuote, if_neg (not_or.mpr whole),
      if_neg notBackslash]

theorem readTextQuoted (whole : Unbroken cs) (rest : List Char) :
    readText (cs.flatMap escape ++ '\'' :: rest) = some (utf16 cs, rest) := by
  induction cs with
  | nil => simp [readText, utf16]
  | cons c more ih =>
      obtain ⟨first, others⟩ := List.forall_mem_cons.mp whole
      rw [List.flatMap_cons, List.append_assoc, readEscapedCharacter first, ih others]
      rfl

theorem readBreak (breaks : c = '\n' ∨ c = '\r') (rest : List Char) :
    readText (escape c ++ rest) = none := by
  have alone : escape c = [c] := by rcases breaks with rfl | rfl <;> rfl
  have notQuote : c ≠ '\'' := by rcases breaks with rfl | rfl <;> decide
  rw [alone, List.singleton_append, readText, if_neg notQuote, if_pos breaks]

theorem readTextLone : readText ['\\'] = none := by
  rw [readText, if_neg (by decide), if_neg (by decide), if_pos rfl]
  rfl

theorem escapePrefix {rest cut : List Char} (begins : cut <+: escape c ++ rest) :
    cut = [] ∨ cut = ['\\'] ∨ ∃ more, cut = escape c ++ more ∧ more <+: rest := by
  unfold escape at begins ⊢
  split at begins
  · rename_i marked
    rw [if_pos marked]
    rcases List.prefix_cons_iff.mp begins with rfl | ⟨own, rfl, inside⟩
    · exact .inl rfl
    · rcases List.prefix_cons_iff.mp inside with rfl | ⟨more, rfl, later⟩
      · exact .inr (.inl rfl)
      · exact .inr (.inr ⟨more, rfl, later⟩)
  · rename_i plain
    rw [if_neg plain]
    rcases List.prefix_cons_iff.mp begins with rfl | ⟨more, rfl, later⟩
    · exact .inl rfl
    · exact .inr (.inr ⟨more, rfl, later⟩)

theorem readTextCut (broken : ¬Unbroken cs) {rest cut : List Char}
    (begins : cut <+: cs.flatMap escape ++ rest) : readText cut = none := by
  induction cs generalizing cut with
  | nil => exact absurd nofun broken
  | cons c more ih =>
      rw [List.flatMap_cons, List.append_assoc] at begins
      rcases escapePrefix begins with rfl | rfl | ⟨after, rfl, later⟩
      · rw [readText]
      · exact readTextLone
      · by_cases breaks : c = '\n' ∨ c = '\r'
        · exact readBreak breaks after
        · have whole := not_or.mp breaks
          have broken' : ¬Unbroken more := fun others =>
            broken (List.forall_mem_cons.mpr ⟨whole, others⟩)
          rw [readEscapedCharacter whole, ih broken' later]
          rfl

theorem readTextBroken (broken : ¬Unbroken cs) (rest : List Char) :
    readText (cs.flatMap escape ++ rest) = none := readTextCut broken (List.prefix_refl _)

theorem quoteSplit (s : String) (rest : List Char) : (quote s).toList ++ rest =
    '\'' :: (s.toList.flatMap escape ++ '\'' :: rest) := by
  simp [quote, encode]

theorem readQuoted (s : String) (rest : List Char) : read ((quote s).toList ++ rest) =
    if Unbroken s.toList then some (utf16 s.toList, rest) else none := by
  rw [quoteSplit]
  split
  · rename_i whole
    exact readTextQuoted whole rest
  · rename_i broken
    exact readTextBroken broken _

theorem spellsQuote {s : String} (whole : Unbroken s.toList) :
    Spells literalKind (quote s).toList [s] := by
  have split := quoteSplit s []
  rw [List.append_nil] at split
  rw [split]
  refine spellsLiteral fun rest => ?_
  rw [List.append_assoc]
  exact readTextQuoted whole rest

end ScriptString

theorem unitsSplit {c d : Char} {cs ds : List UInt16}
    (same : units c.toNat ++ cs = units d.toNat ++ ds) : c = d ∧ cs = ds := by
  have valid : c.toNat < 0xd800 ∨ 0xdfff < c.toNat ∧ c.toNat < 0x110000 := c.valid
  have valid' : d.toNat < 0xd800 ∨ 0xdfff < d.toNat ∧ d.toNat < 0x110000 := d.valid
  have equal : c.toNat = d.toNat ∧ cs = ds := by
    unfold units at same
    split_ifs at same <;>
      simp only [List.cons_append, List.nil_append, List.cons.injEq, ← UInt16.toNat_inj,
        Nat.toUInt16, UInt16.toNat_ofNat'] at same
    · refine ⟨?_, same.2⟩
      have first := same.1
      omega
    · have first := same.1
      omega
    · have first := same.1
      omega
    · refine ⟨?_, same.2.2⟩
      obtain ⟨high, low, -⟩ := same
      omega
  exact ⟨Char.toNat_inj.mp equal.1, equal.2⟩

theorem unitsSome (n : Nat) : units n ≠ [] := by
  unfold units
  split_ifs <;> simp

theorem utf16Same {cs ds : List Char} (same : utf16 cs = utf16 ds) : cs = ds := by
  induction cs generalizing ds with
  | nil =>
      cases ds with
      | nil => rfl
      | cons d more => exact absurd (List.append_eq_nil_iff.mp same.symm).1 (unitsSome _)
  | cons c rest ih =>
      cases ds with
      | nil => exact absurd (List.append_eq_nil_iff.mp same).1 (unitsSome _)
      | cons d more =>
          obtain ⟨rfl, later⟩ := unitsSplit same
          rw [ih later]

theorem utf16Injective (s t : String) (same : utf16 s.toList = utf16 t.toList) : s = t :=
  String.toList_inj.mp (utf16Same same)

end RestScaffold.Text
