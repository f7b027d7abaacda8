import RestScaffold.Proofs.Json.Strings

/-! Reading what has been written. A text is said to read as a value if a reader with enough fuel
takes exactly that text from the front of any input. How values are laid out does not matter: blanks
may stand before any of them. -/
namespace RestScaffold.Json
open Text

inductive Plain : Json → Prop where
  | null : Plain .null
  | bool (b : Bool) : Plain (.bool b)
  | number (n : Int) : Plain (.number (.ofInt n))
  | string (s : String) : Plain (.string (some s))
  | array {items : List Json} (each : ∀ item ∈ items, Plain item) : Plain (.array items)
  | object {members : List (JsonString × Json)} (keys : ∀ m ∈ members, m.1.isSome)
      (each : ∀ m ∈ members, Plain m.2) : Plain (.object members)

def ReadsAs (cs : List Char) (j : Json) : Prop :=
  ∀ fuel rest, 2 * cs.length ≤ fuel → EndsNumber rest → readValue fuel (cs ++ rest) = some (j, rest)

def ReadsAsItems (cs : List Char) (items : List Json) : Prop :=
  ∀ fuel rest, 2 * cs.length ≤ fuel → readItems fuel (cs ++ rest) = some (items, rest)

def ReadsAsMembers (cs : List Char) (members : List (JsonString × Json)) : Prop :=
  ∀ fuel rest, 2 * cs.length ≤ fuel → readMembers fuel (cs ++ rest) = some (members, rest)

def Spaces (cs : List Char) : Prop := ∀ c ∈ cs, isSpace c = true

theorem skipSpaces {blanks : List Char} (spaces : Spaces blanks) (cs : List Char) :
    skipSpace (blanks ++ cs) = skipSpace cs := by
  induction blanks with
  | nil => rfl
  | cons c rest ih =>
      have head := spaces c List.mem_cons_self
      have tail := ih fun d member => spaces d (List.mem_cons_of_mem _ member)
      simpa [skipSpace, head] using tail

theorem skipNothing {c : Char} (visible : isSpace c = false) (rest : List Char) :
    skipSpace (c :: rest) = c :: rest := by
  simp [skipSpace, visible]

theorem spacesEndNumber {blanks rest : List Char} (spaces : Spaces blanks)
    (ends : EndsNumber rest) : EndsNumber (blanks ++ rest) := by
  cases blanks with
  | nil => exact ends
  | cons c more =>
      have space := spaces c List.mem_cons_self
      intro d head
      obtain rfl : c = d := by simpa using head
      simp only [isSpace, Bool.or_eq_true, decide_eq_true_eq] at space
      rcases space with ((rfl | rfl) | rfl) | rfl <;> decide

theorem newLineSpaces (level : Nat) : Spaces (newLine level) := by
  intro c member
  rcases List.mem_cons.mp member with rfl | blank
  · rfl
  · rw [(List.mem_replicate.mp blank).2]
    rfl

theorem readValueSkips {blanks : List Char} (spaces : Spaces blanks) (fuel : Nat)
    (cs : List Char) : readValue fuel (blanks ++ cs) = readValue fuel cs := by
  cases fuel with
  | zero => simp [readValue]
  | succ fuel => rw [readValue, readValue, skipSpaces spaces]

theorem readsAfterSpaces {blanks cs : List Char} {j : Json} (spaces : Spaces blanks)
    (reads : ReadsAs cs j) : ReadsAs (blanks ++ cs) j := by
  intro fuel rest enough ends
  rw [List.append_assoc, readValueSkips spaces]
  exact reads fuel rest (by rw [List.length_append] at enough; omega) ends

theorem readsString (s : String) : ReadsAs (quote s) (.string (some s)) := by
  intro fuel rest enough ends
  cases fuel with
  | zero => simp [quote] at enough
  | succ fuel =>
      have read := readStringQuoted s rest
      simp only [quote, List.cons_append, List.append_assoc, readValue]
      rw [skipNothing (by decide)]
      simp [read]

theorem numberStart (n : Int) : ∃ c more, (Numeral.ofInt n).text = c :: more ∧
    (c = '-' ∨ isDigit c = true) := by
  by_cases negative : n < 0
  · exact ⟨'-', Nat.toDigits 10 n.natAbs, by simp [Numeral.text, Numeral.ofInt, negative], .inl rfl⟩
  · cases digits : Nat.toDigits 10 n.natAbs with
    | nil => exact absurd digits Nat.toDigits_ne_nil
    | cons c more =>
        exact ⟨c, more, by simp [Numeral.text, Numeral.ofInt, negative, digits],
          .inr (decimalDigit (digits ▸ List.mem_cons_self))⟩

theorem readsNumber (n : Int) : ReadsAs (Numeral.ofInt n).text (.number (.ofInt n)) := by
  intro fuel rest enough ends
  obtain ⟨c, more, text, start⟩ := numberStart n
  have read := readNumeralWritten n ends
  rw [text] at enough read ⊢
  cases fuel with
  | zero => simp at enough
  | succ fuel =>
      have visible : isSpace c = false := by
        rcases start with rfl | digit
        · rfl
        · simp only [isDigit, Bool.and_eq_true, decide_eq_true_eq] at digit
          simp only [isSpace, Bool.or_eq_false_iff, decide_eq_false_iff_not]
          refine ⟨⟨⟨?_, ?_⟩, ?_⟩, ?_⟩ <;> rintro rfl <;> revert digit <;> decide
      have other : ∀ d ∈ ['n', 't', 'f', '"', '[', '\x7b'], c ≠ d := by
        rintro d member rfl
        simp only [List.mem_cons, List.not_mem_nil, or_false] at member
        rcases start with rfl | digit
        · revert member; decide
        · rcases member with rfl | rfl | rfl | rfl | rfl | rfl <;> revert digit <;> decide
      simp only [List.mem_cons, List.not_mem_nil, or_false, forall_eq_or_imp, forall_eq] at other
      rw [List.cons_append] at read ⊢
      simp [readValue, skipNothing visible, other, read]

theorem skipTwice (cs : List Char) : skipSpace (skipSpace cs) = skipSpace cs := by
  induction cs with
  | nil => rfl
  | cons c rest ih =>
      cases space : isSpace c with
      | true => simpa [skipSpace, space] using ih
      | false => rw [skipNothing space, skipNothing space]

theorem readValueSkipped (fuel : Nat) (cs : List Char) :
    readValue fuel (skipSpace cs) = readValue fuel cs := by
  cases fuel with
  | zero => simp [readValue]
  | succ fuel => rw [readValue, readValue, skipTwice]

theorem readItemsSkipped (fuel : Nat) (cs : List Char) :
    readItems fuel (skipSpace cs) = readItems fuel cs := by
  cases fuel with
  | zero => simp [readItems]
  | succ fuel => rw [readItems, readItems, readValueSkipped]

theorem readMembersSkipped (fuel : Nat) (cs : List Char) :
    readMembers fuel (skipSpace cs) = readMembers fuel cs := by
  cases fuel with
  | zero => simp [readMembers]
  | succ fuel => rw [readMembers, readMembers, skipTwice]

theorem bracketNoValue (fuel : Nat) (rest : List Char) : readValue fuel (']' :: rest) = none := by
  cases fuel with
  | zero => simp [readValue]
  | succ fuel =>
      simp [readValue, skipNothing (c := ']') rfl, readNumeral, readUnsigned, readWhole, readDigits,
        isDigit]

theorem bracketNoItems (fuel : Nat) (rest : List Char) : readItems fuel (']' :: rest) = none := by
  cases fuel with
  | zero => simp [readItems]
  | succ fuel => simp [readItems, bracketNoValue]

theorem readsLastItem {cs blanks : List Char} {j : Json} (reads : ReadsAs cs j)
    (spaces : Spaces blanks) : ReadsAsItems (cs ++ (blanks ++ [']'])) [j] := by
  intro fuel rest enough
  simp only [List.length_append, List.length_cons, List.length_nil] at enough
  cases fuel with
  | zero => omega
  | succ fuel =>
      have ends : EndsNumber (blanks ++ ']' :: rest) :=
        spacesEndNumber spaces (by simp [EndsNumber, isDigit])
      have read := reads fuel (blanks ++ ']' :: rest) (by omega) ends
      simp only [List.append_assoc, List.cons_append, List.nil_append, readItems]
      simp [read, skipSpaces spaces, skipNothing (c := ']') rfl]

theorem readsMoreItems {cs more : List Char} {j : Json} {items : List Json} (reads : ReadsAs cs j)
    (others : ReadsAsItems more items) : ReadsAsItems (cs ++ ',' :: more) (j :: items) := by
  intro fuel rest enough
  simp only [List.length_append, List.length_cons] at enough
  cases fuel with
  | zero => omega
  | succ fuel =>
      have read := reads fuel (',' :: (more ++ rest)) (by omega) (by simp [EndsNumber, isDigit])
      simp only [List.append_assoc, List.cons_append, readItems]
      simp [read, skipNothing (c := ',') rfl, others fuel rest (by omega)]

theorem readsArray {cs : List Char} {items : List Json} (reads : ReadsAsItems cs items) :
    ReadsAs ('[' :: cs) (.array items) := by
  intro fuel rest enough ends
  cases fuel with
  | zero => simp at enough
  | succ fuel =>
      have read := reads fuel rest (by rw [List.length_cons] at enough; omega)
      rw [← readItemsSkipped] at read
      simp only [List.cons_append, readValue, skipNothing (c := '[') rfl]
      split
      · rename_i more closed
        rw [closed, bracketNoItems] at read
        contradiction
      · simp [read]

theorem braceNoMembers (fuel : Nat) (rest : List Char) :
    readMembers fuel ('\x7d' :: rest) = none := by
  cases fuel with
  | zero => simp [readMembers]
  | succ fuel => simp [readMembers, skipNothing (c := '\x7d') rfl]

theorem readsLastMember {lead cs blanks : List Char} (key : String) {j : Json}
    (before : Spaces lead) (reads : ReadsAs cs j) (spaces : Spaces blanks) :
    ReadsAsMembers (lead ++ (quote key ++ ':' :: (cs ++ (blanks ++ ['\x7d']))))
      [(some key, j)] := by
  intro fuel rest enough
  simp only [List.length_append, List.length_cons, List.length_nil] at enough
  cases fuel with
  | zero => omega
  | succ fuel =>
      have ends : EndsNumber (blanks ++ '\x7d' :: rest) :=
        spacesEndNumber spaces (by simp [EndsNumber, isDigit])
      have read := reads fuel (blanks ++ '\x7d' :: rest) (by omega) ends
      have named := readStringQuoted key (':' :: (cs ++ (blanks ++ '\x7d' :: rest)))
      simp only [List.append_assoc, List.cons_append, List.nil_append, quote, readMembers]
      rw [skipSpaces before, skipNothing (by decide)]
      simp [named, skipNothing (c := ':') rfl, read, skipSpaces spaces,
        skipNothing (c := '\x7d') rfl]

theorem readsMoreMembers {lead cs more : List Char} (key : String) {j : Json}
    {members : List (JsonString × Json)} (before : Spaces lead) (reads : ReadsAs cs j)
    (others : ReadsAsMembers more members) :
    ReadsAsMembers (lead ++ (quote key ++ ':' :: (cs ++ ',' :: more)))
      ((some key, j) :: members) := by
  intro fuel rest enough
  simp only [List.length_append, List.length_cons] at enough
  cases fuel with
  | zero => omega
  | succ fuel =>
      have read := reads fuel (',' :: (more ++ rest)) (by omega) (by simp [EndsNumber, isDigit])
      have named := readStringQuoted key (':' :: (cs ++ ',' :: (more ++ rest)))
      simp only [List.append_assoc, List.cons_append, quote, readMembers]
      rw [skipSpaces before, skipNothing (by decide)]
      simp [named, skipNothing (c := ':') rfl, read, skipNothing (c := ',') rfl,
        others fuel rest (by omega)]

theorem readsObject {cs : List Char} {members : List (JsonString × Json)}
    (reads : ReadsAsMembers cs members) : ReadsAs ('\x7b' :: cs) (.object members) := by
  intro fuel rest enough ends
  cases fuel with
  | zero => simp at enough
  | succ fuel =>
      have read := reads fuel rest (by rw [List.length_cons] at enough; omega)
      rw [← readMembersSkipped] at read
      simp only [List.cons_append, readValue, skipNothing (c := '\x7b') rfl]
      split
      · rename_i more closed
        rw [closed, braceNoMembers] at read
        contradiction
      · simp [read]

theorem readsIndentedItems {level : Nat} {item : Json} {items : List Json}
    (each : ∀ i ∈ item :: items, ReadsAs (printIndented (level + 1) i) i) :
    ReadsAsItems (newLine (level + 1) ++ printIndented (level + 1) item ++
      printIndentedItems level items) (item :: items) := by
  induction items generalizing item with
  | nil =>
      have first := readsAfterSpaces (newLineSpaces (level + 1)) (each item (by simp))
      simpa only [printIndentedItems] using readsLastItem first (newLineSpaces level)
  | cons next more ih =>
      have first := readsAfterSpaces (newLineSpaces (level + 1)) (each item (by simp))
      have others := @ih next fun i member => each i (List.mem_cons_of_mem _ member)
      simpa only [printIndentedItems, List.cons_append] using readsMoreItems first others

theorem readsIndentedMembers {level : Nat} {member : JsonString × Json}
    {members : List (JsonString × Json)} (keys : ∀ m ∈ member :: members, m.1.isSome)
    (each : ∀ m ∈ member :: members, ReadsAs (printIndented (level + 1) m.2) m.2) :
    ReadsAsMembers (newLine (level + 1) ++ quoteString member.1 ++ ": ".toList ++
      printIndented (level + 1) member.2 ++ printIndentedMembers level members)
      (member :: members) := by
  have blank : Spaces [' '] := by simp [Spaces, isSpace]
  induction members generalizing member with
  | nil =>
      obtain ⟨key, value⟩ := member
      obtain ⟨key, rfl⟩ := Option.isSome_iff_exists.mp (keys _ List.mem_cons_self)
      have first := readsAfterSpaces blank (each _ List.mem_cons_self)
      have read := readsLastMember key (newLineSpaces (level + 1)) first
        (newLineSpaces level)
      simpa [printIndentedMembers, quoteString] using read
  | cons next more ih =>
      obtain ⟨key, value⟩ := member
      obtain ⟨key, rfl⟩ := Option.isSome_iff_exists.mp (keys _ List.mem_cons_self)
      have first := readsAfterSpaces blank (each _ List.mem_cons_self)
      have others := @ih next (fun m inside => keys m (List.mem_cons_of_mem _ inside))
        fun m inside => each m (List.mem_cons_of_mem _ inside)
      have read := readsMoreMembers key (newLineSpaces (level + 1)) first others
      simpa [printIndentedMembers, quoteString] using read

theorem readsToken {token : List Char} {j : Json}
    (read : ∀ fuel rest, readValue (fuel + 1) (token ++ rest) = some (j, rest))
    (some : token ≠ []) : ReadsAs token j := by
  intro fuel rest enough ends
  cases fuel with
  | zero =>
      have long := List.length_pos_iff.mpr some
      omega
  | succ fuel => exact read fuel rest

theorem readsNull : ReadsAs "null".toList .null := by
  refine readsToken (fun fuel rest => ?_) (by decide)
  have token : "null".toList = ['n', 'u', 'l', 'l'] := by decide
  have rest : "ull".length = 3 := by decide
  simp [token, readValue, skipNothing (c := 'n') rfl, readWord, rest]

theorem readsTrue : ReadsAs "true".toList (.bool true) := by
  refine readsToken (fun fuel rest => ?_) (by decide)
  have token : "true".toList = ['t', 'r', 'u', 'e'] := by decide
  have rest : "rue".length = 3 := by decide
  simp [token, readValue, skipNothing (c := 't') rfl, readWord, rest]

theorem readsFalse : ReadsAs "false".toList (.bool false) := by
  refine readsToken (fun fuel rest => ?_) (by decide)
  have token : "false".toList = ['f', 'a', 'l', 's', 'e'] := by decide
  have rest : "alse".length = 4 := by decide
  simp [token, readValue, skipNothing (c := 'f') rfl, readWord, rest]

theorem readsEmptyArray : ReadsAs "[]".toList (.array []) := by
  refine readsToken (fun fuel rest => ?_) (by decide)
  have token : "[]".toList = ['[', ']'] := by decide
  simp [token, readValue, skipNothing (c := '[') rfl, skipNothing (c := ']') rfl]

theorem readsEmptyObject : ReadsAs "\x7b\x7d".toList (.object []) := by
  refine readsToken (fun fuel rest => ?_) (by decide)
  have token : "\x7b\x7d".toList = ['\x7b', '\x7d'] := by decide
  simp [token, readValue, skipNothing (c := '\x7b') rfl, skipNothing (c := '\x7d') rfl]

theorem readsIndented {j : Json} (plain : Plain j) (level : Nat) :
    ReadsAs (printIndented level j) j := by
  induction plain generalizing level with
  | null => exact readsNull
  | bool b =>
      cases b with
      | true => exact readsTrue
      | false => exact readsFalse
  | number n => simpa only [printIndented] using readsNumber n
  | string s => simpa only [printIndented, quoteString, Option.getD_some] using readsString s
  | @array items each ih =>
      cases items with
      | nil => exact readsEmptyArray
      | cons item items =>
          simpa only [printIndented, List.cons_append] using
            readsArray (readsIndentedItems fun i member => ih i member (level + 1))
  | @object members keys each ih =>
      cases members with
      | nil => exact readsEmptyObject
      | cons member members =>
          simpa only [printIndented, List.cons_append] using
            readsObject (readsIndentedMembers keys fun m inside => ih m inside (level + 1))

theorem readsPrintedItems {item : Json} {items : List Json}
    (each : ∀ i ∈ item :: items, ReadsAs (print i) i) :
    ReadsAsItems (print item ++ printItems items) (item :: items) := by
  have none : Spaces [] := nofun
  induction items generalizing item with
  | nil => exact readsLastItem (each item (by simp)) none
  | cons next more ih =>
      have others := @ih next fun i member => each i (List.mem_cons_of_mem _ member)
      simpa only [printItems, List.cons_append] using readsMoreItems (each item (by simp)) others

theorem readsPrintedMembers {member : JsonString × Json} {members : List (JsonString × Json)}
    (keys : ∀ m ∈ member :: members, m.1.isSome)
    (each : ∀ m ∈ member :: members, ReadsAs (print m.2) m.2) :
    ReadsAsMembers (quoteString member.1 ++ ':' :: print member.2 ++ printMembers members)
      (member :: members) := by
  have none : Spaces [] := nofun
  induction members generalizing member with
  | nil =>
      obtain ⟨key, value⟩ := member
      obtain ⟨key, rfl⟩ := Option.isSome_iff_exists.mp (keys _ List.mem_cons_self)
      have read := readsLastMember key none (each _ List.mem_cons_self) none
      simpa [printMembers, quoteString] using read
  | cons next more ih =>
      obtain ⟨key, value⟩ := member
      obtain ⟨key, rfl⟩ := Option.isSome_iff_exists.mp (keys _ List.mem_cons_self)
      have others := @ih next (fun m inside => keys m (List.mem_cons_of_mem _ inside))
        fun m inside => each m (List.mem_cons_of_mem _ inside)
      have read := readsMoreMembers key none (each _ List.mem_cons_self) others
      simpa [printMembers, quoteString] using read

theorem readsPrinted {j : Json} (plain : Plain j) : ReadsAs (print j) j := by
  induction plain with
  | null => exact readsNull
  | bool b =>
      cases b with
      | true => exact readsTrue
      | false => exact readsFalse
  | number n => simpa only [print] using readsNumber n
  | string s => simpa only [print, quoteString, Option.getD_some] using readsString s
  | @array items each ih =>
      cases items with
      | nil => exact readsEmptyArray
      | cons item items =>
          simpa only [print, List.cons_append] using readsArray (readsPrintedItems ih)
  | @object members keys each ih =>
      cases members with
      | nil => exact readsEmptyObject
      | cons member members =>
          simpa only [print, List.cons_append] using
            readsObject (readsPrintedMembers keys fun m inside => ih m inside)

theorem parseRead {cs : List Char} {j : Json} (reads : ReadsAs cs j) :
    parse (String.ofList cs) = some j := by
  have read := reads (2 * cs.length + 2) [] (by omega) (by simp [EndsNumber])
  rw [List.append_nil] at read
  rw [parse, String.toList_ofList, parseChars, read]
  rfl

theorem parsePretty {j : Json} (plain : Plain j) : parse j.pretty = some j :=
  parseRead (readsIndented plain 0)

theorem parseCompact {j : Json} (plain : Plain j) : parse j.compact = some j :=
  parseRead (readsPrinted plain)

end RestScaffold.Json
