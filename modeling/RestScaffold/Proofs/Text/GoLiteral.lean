import Mathlib.Algebra.Group.Nat.Defs
import Mathlib.Tactic.SplitIfs
import RestScaffold.Text.GoString

/-! Interpreted string literals of Go as a compiler reads them. A value is a row of bytes; an escape
stands for one byte or for the bytes of a character. What `quote` writes is read back as the bytes
of the text, whatever follows it. -/
namespace RestScaffold.Text

def utf8 (cs : List Char) : List UInt8 := cs.flatMap String.utf8EncodeChar

theorem utf8Injective (s t : String) (same : utf8 s.toList = utf8 t.toList) : s = t := by
  have bytes : s.toList.utf8Encode = t.toList.utf8Encode := congrArg List.toByteArray same
  rwa [String.utf8Encode_toList, String.utf8Encode_toList, String.toByteArray_inj] at bytes

namespace GoString

def readNumber (base : Nat) : (width value : Nat) → List Char → Option (Nat × List Char)
  | 0, value, cs => some (value, cs)
  | _ + 1, _, [] => none
  | width + 1, value, c :: rest =>
      match hexValue? c with
      | some digit =>
          if digit < base then readNumber base width (value * base + digit) rest else none
      | none => none

def scalar? (n : Nat) : Option (List UInt8) :=
  if n.isValidChar then some (String.utf8EncodeChar (Char.ofNat n)) else none

def readEscape : List Char → Option (List UInt8 × List Char)
  | 'a' :: rest => some ([0x07], rest)
  | 'b' :: rest => some ([0x08], rest)
  | 't' :: rest => some ([0x09], rest)
  | 'n' :: rest => some ([0x0a], rest)
  | 'v' :: rest => some ([0x0b], rest)
  | 'f' :: rest => some ([0x0c], rest)
  | 'r' :: rest => some ([0x0d], rest)
  | '"' :: rest => some ([0x22], rest)
  | '\\' :: rest => some ([0x5c], rest)
  | 'x' :: rest => do
      let (n, rest) ← readNumber 16 2 0 rest
      some ([n.toUInt8], rest)
  | 'u' :: rest => do
      let (n, rest) ← readNumber 16 4 0 rest
      let bytes ← scalar? n
      some (bytes, rest)
  | 'U' :: rest => do
      let (n, rest) ← readNumber 16 8 0 rest
      let bytes ← scalar? n
      some (bytes, rest)
  | rest => do
      let (n, rest) ← readNumber 8 3 0 rest
      if n < 256 then some ([n.toUInt8], rest) else none

theorem numberSpends {base width value n : Nat} {cs rest : List Char}
    (read : readNumber base width value cs = some (n, rest)) :
    ∃ digits, cs = digits ++ rest ∧ digits.length = width := by
  fun_induction readNumber base width value cs with
  | case1 => exact ⟨[], by cases read; rfl, rfl⟩
  | case2 => contradiction
  | case3 width value c more digit known small ih =>
      obtain ⟨digits, rfl, size⟩ := ih read
      exact ⟨c :: digits, rfl, congrArg (· + 1) size⟩
  | case4 => contradiction
  | case5 => contradiction

theorem scalarSize {n : Nat} {bytes : List UInt8} (known : scalar? n = some bytes) :
    bytes.length ≤ 4 := by
  unfold scalar? at known
  split at known
  · cases known
    rw [String.length_utf8EncodeChar]
    exact Char.utf8Size_le_four _
  · contradiction

theorem escapeSpends {cs rest : List Char} {bytes : List UInt8}
    (read : readEscape cs = some (bytes, rest)) :
    ∃ used, cs = used ++ rest ∧ bytes.length ≤ used.length := by
  have numbered {c : Char} {width n : Nat} {more after : List Char}
      (number : readNumber 16 width 0 more = some (n, after)) (short : bytes.length ≤ width + 1) :
      ∃ used, c :: more = used ++ after ∧ bytes.length ≤ used.length := by
    obtain ⟨digits, rfl, size⟩ := numberSpends number
    exact ⟨c :: digits, rfl, by rwa [List.length_cons, size]⟩
  unfold readEscape at read
  split at read
  case h_10 =>
    obtain ⟨⟨n, after⟩, number, same⟩ := Option.bind_eq_some_iff.mp read
    cases same
    exact numbered number (Nat.succ_le_succ (Nat.zero_le _))
  case h_11 =>
    obtain ⟨⟨n, after⟩, number, same⟩ := Option.bind_eq_some_iff.mp read
    obtain ⟨own, known, same⟩ := Option.bind_eq_some_iff.mp same
    cases same
    exact numbered number (Nat.le_succ_of_le (scalarSize known))
  case h_12 =>
    obtain ⟨⟨n, after⟩, number, same⟩ := Option.bind_eq_some_iff.mp read
    obtain ⟨own, known, same⟩ := Option.bind_eq_some_iff.mp same
    cases same
    exact numbered number (Nat.le_trans (scalarSize known) (by decide))
  case h_13 =>
    obtain ⟨⟨n, after⟩, number, same⟩ := Option.bind_eq_some_iff.mp read
    dsimp only at same
    split at same
    · cases same
      obtain ⟨digits, rfl, size⟩ := numberSpends number
      exact ⟨digits, rfl, by simp [size]⟩
    · contradiction
  all_goals
    cases read
    exact ⟨[_], rfl, Nat.le_refl _⟩

def readText (cs : List Char) : Option (List UInt8 × List Char) :=
  match cs with
  | [] => none
  | c :: rest =>
      if c = '"' then some ([], rest)
      else if c = '\n' then none
      else if c = '\\' then
        match escape : readEscape rest with
        | none => none
        | some (bytes, after) =>
            have : after.length ≤ rest.length := by
              obtain ⟨used, rfl, -⟩ := escapeSpends escape
              simp
            (readText after).map fun (more, after) => (bytes ++ more, after)
      else (readText rest).map fun (more, after) => (String.utf8EncodeChar c ++ more, after)
termination_by cs.length
decreasing_by all_goals simp only [List.length_cons]; omega

def read : List Char → Option (List UInt8 × List Char)
  | '"' :: rest => readText rest
  | _ => none

variable {c : Char} {cs rest : List Char}

theorem readPlain (plain : c ≠ '"' ∧ c ≠ '\n' ∧ c ≠ '\\') (rest : List Char) :
    readText (c :: rest) =
      (readText rest).map fun (more, after) => (String.utf8EncodeChar c ++ more, after) := by
  obtain ⟨noQuote, noFeed, noBackslash⟩ := plain
  rw [readText, if_neg noQuote, if_neg noFeed, if_neg noBackslash]

theorem readEscaped {bytes : List UInt8} {after : List Char}
    (escape : readEscape rest = some (bytes, after)) :
    readText ('\\' :: rest) =
      (readText after).map fun (more, after) => (bytes ++ more, after) := by
  rw [readText, if_neg (by decide), if_neg (by decide), if_pos rfl]
  split
  · rename_i none
    rw [escape] at none
    contradiction
  · rename_i known
    rw [escape] at known
    cases known
    rfl

theorem hexDigit : ∀ d < 16, hexValue? (Nat.digitChar d) = some d := by decide

theorem readHex (width more value n : Nat) (rest : List Char) :
    readNumber 16 (width + more) value (hex width n ++ rest) =
      readNumber 16 more (value * 16 ^ width + n % 16 ^ width) rest := by
  induction width generalizing more n rest with
  | zero => simp [hex, Nat.mod_one]
  | succ width ih =>
      have small : n % 16 < 16 := Nat.mod_lt _ (by decide)
      have split : width + 1 + more = width + (more + 1) := by omega
      have whole : (value * 16 ^ width + n / 16 % 16 ^ width) * 16 + n % 16 =
          value * 16 ^ (width + 1) + n % 16 ^ (width + 1) := by
        rw [Nat.pow_succ', Nat.mod_mul, Nat.mul_left_comm]
        omega
      rw [hex, List.append_assoc, split, ih, List.singleton_append, readNumber,
        hexDigit _ small]
      simp only [if_pos small, whole]

theorem asciiBytes (small : c.toNat < 128) : String.utf8EncodeChar c = [c.toNat.toUInt8] := by
  have single : c.utf8Size = 1 := Char.utf8Size_eq_one_iff.mpr (Nat.le_of_lt_succ small)
  rw [String.utf8EncodeChar_eq_singleton single]
  rfl

theorem readHexWhole {width n : Nat} (small : n < 16 ^ width) (rest : List Char) :
    readNumber 16 width 0 (hex width n ++ rest) = some (n, rest) := by
  have read := readHex width 0 0 n rest
  rwa [Nat.add_zero, Nat.zero_mul, Nat.zero_add, Nat.mod_eq_of_lt small, readNumber] at read

theorem controlSmall (control : isControl c = true) : c.toNat < 16 ^ 4 := by
  simp only [isControl, Bool.or_eq_true, Bool.and_eq_true, decide_eq_true_eq] at control
  omega

theorem scalarCharacter (c : Char) : scalar? c.toNat = some (String.utf8EncodeChar c) := by
  have valid : c.toNat.isValidChar := c.valid
  rw [scalar?, if_pos valid, Char.ofNat_toNat]

theorem readEscapeByte {n : Nat} {after : List Char}
    (number : readNumber 16 2 0 rest = some (n, after)) :
    readEscape ('x' :: rest) = some ([n.toUInt8], after) := by
  simp [readEscape, number]

theorem readEscapeCharacter {n : Nat} {after : List Char} {bytes : List UInt8}
    (number : readNumber 16 4 0 rest = some (n, after)) (known : scalar? n = some bytes) :
    readEscape ('u' :: rest) = some (bytes, after) := by
  simp [readEscape, number, known]

theorem readEscapedCharacter (c : Char) (rest : List Char) :
    readText (escape c ++ rest) =
      (readText rest).map fun (more, after) => (String.utf8EncodeChar c ++ more, after) := by
  unfold escape
  split
  · subst_vars
    exact readEscaped rfl
  split
  · subst_vars
    exact readEscaped rfl
  split
  · subst_vars
    exact readEscaped rfl
  split
  · subst_vars
    exact readEscaped rfl
  split
  · subst_vars
    exact readEscaped rfl
  split
  · split
    · rename_i small
      have short : c.toNat < 16 ^ 2 := by omega
      have byte := readEscapeByte (readHexWhole short rest)
      rw [← asciiBytes small] at byte
      exact readEscaped byte
    · rename_i control _
      have number := readHexWhole (controlSmall control) rest
      exact readEscaped (readEscapeCharacter number (scalarCharacter c))
  · exact readPlain ⟨‹_›, ‹_›, ‹_›⟩ rest

theorem readTextQuoted (cs rest : List Char) :
    readText (cs.flatMap escape ++ '"' :: rest) = some (utf8 cs, rest) := by
  induction cs with
  | nil => simp [readText, utf8]
  | cons c more ih =>
      rw [List.flatMap_cons, List.append_assoc, readEscapedCharacter, ih]
      rfl

theorem readQuoted (s : String) (rest : List Char) :
    read ((quote s).toList ++ rest) = some (utf8 s.toList, rest) := by
  have split : (quote s).toList ++ rest = '"' :: (s.toList.flatMap escape ++ '"' :: rest) := by
    simp [quote, encode]
  rw [split]
  exact readTextQuoted _ _

theorem hexFree (width n : Nat) : ∀ c ∈ hex width n, isControl c = false := by
  have digits : ∀ d < 16, isControl (Nat.digitChar d) = false := by decide
  induction width generalizing n with
  | zero => nofun
  | succ width ih =>
      exact List.forall_mem_append.mpr
        ⟨ih _, List.forall_mem_singleton.mpr (digits _ (Nat.mod_lt _ (by decide)))⟩

theorem escapeFree (c : Char) : ∀ d ∈ escape c, isControl d = false := by
  have fixed : isControl '\\' = false ∧ isControl '"' = false ∧ isControl 'n' = false ∧
      isControl 'r' = false ∧ isControl 't' = false ∧ isControl 'x' = false ∧
      isControl 'u' = false := by decide
  have byte := hexFree 2 c.toNat
  have character := hexFree 4 c.toNat
  unfold escape
  split_ifs <;> simp_all

theorem quoteFree (s : String) : ∀ c ∈ (quote s).toList, isControl c = false := by
  intro c member
  simp only [quote, encode, String.toList_ofList, List.mem_append, List.mem_cons, List.mem_flatMap,
    List.not_mem_nil, or_false] at member
  rcases member with (rfl | ⟨d, -, inside⟩) | rfl
  · decide
  · exact escapeFree d c inside
  · decide

def Literal (cs : List Char) : Prop := ∀ c ∈ cs, c ≠ '"' ∧ c ≠ '\n' ∧ c ≠ '\\'

instance (cs : List Char) : Decidable (Literal cs) :=
  List.decidableBAll (fun c => c ≠ '"' ∧ c ≠ '\n' ∧ c ≠ '\\') cs

theorem readLiteral (literal : Literal cs) (rest : List Char) :
    readText (cs ++ '"' :: rest) = some (utf8 cs, rest) := by
  induction cs with
  | nil => simp [readText, utf8]
  | cons c more ih =>
      obtain ⟨plain, others⟩ := List.forall_mem_cons.mp literal
      rw [List.cons_append, readPlain plain, ih others]
      rfl

theorem utf8Length (cs : List Char) : cs.length ≤ (utf8 cs).length := by
  induction cs with
  | nil => exact Nat.le_refl _
  | cons c rest ih =>
      have some := Char.utf8Size_pos c
      rw [utf8, List.flatMap_cons, List.length_append, String.length_utf8EncodeChar,
        List.length_cons]
      rw [utf8] at ih
      omega

theorem utf8Append (cs more : List Char) : utf8 (cs ++ more) = utf8 cs ++ utf8 more :=
  List.flatMap_append

theorem readSpends {bytes : List UInt8} (read : readText cs = some (bytes, rest)) :
    ∃ used, cs = used ++ '"' :: rest ∧
      (Literal used ∧ bytes = utf8 used ∨ bytes.length < (utf8 used).length) := by
  fun_induction readText cs generalizing bytes with
  | case1 => contradiction
  | case2 =>
      cases read
      exact ⟨[], rfl, .inl ⟨nofun, rfl⟩⟩
  | case3 => contradiction
  | case4 => contradiction
  | case5 more own after escape shorter notQuote notFeed ih =>
      obtain ⟨⟨value, rest'⟩, inside, same⟩ := Option.map_eq_some_iff.mp read
      cases same
      obtain ⟨used, rfl, known⟩ := ih inside
      obtain ⟨spent, rfl, short⟩ := escapeSpends escape
      refine ⟨'\\' :: spent ++ used, by simp, .inr ?_⟩
      have first := utf8Length ('\\' :: spent)
      have others : value.length ≤ (utf8 used).length := by
        rcases known with ⟨-, rfl⟩ | less
        · exact Nat.le_refl _
        · exact Nat.le_of_lt less
      rw [utf8Append, List.length_append, List.length_append]
      rw [List.length_cons] at first
      omega
  | case6 c more notQuote notFeed notBackslash ih =>
      obtain ⟨⟨value, rest'⟩, inside, same⟩ := Option.map_eq_some_iff.mp read
      cases same
      obtain ⟨used, rfl, known⟩ := ih inside
      refine ⟨c :: used, rfl, ?_⟩
      rcases known with ⟨literal, rfl⟩ | less
      · exact .inl ⟨List.forall_mem_cons.mpr ⟨⟨notQuote, notFeed, notBackslash⟩, literal⟩, rfl⟩
      · refine .inr ?_
        rw [utf8, List.flatMap_cons, List.length_append, List.length_append]
        exact Nat.add_lt_add_left less _

theorem readLiteralCut {cut : List Char} (begins : cut <+: cs ++ ['"'])
    (read : readText cut = some (utf8 cs, rest)) : Literal cs := by
  obtain ⟨used, rfl, known⟩ := readSpends read
  have whole : used <+: cs ++ ['"'] := (List.prefix_append _ _).trans begins
  have size := begins.length_le
  simp only [List.length_append, List.length_cons, List.length_nil] at size
  have inside : used <+: cs :=
    List.prefix_of_prefix_length_le whole (List.prefix_append _ _) (by omega)
  obtain ⟨more, rfl⟩ := inside
  have others := utf8Length more
  rw [utf8Append, List.length_append] at known
  rcases known with ⟨literal, same⟩ | less
  · have none : more.length = 0 := by
      have lengths := congrArg List.length same
      rw [List.length_append] at lengths
      omega
    rwa [List.length_eq_zero_iff.mp none, List.append_nil]
  · omega

end GoString
end RestScaffold.Text
