import RestScaffold.Proofs.Code.Rows
import RestScaffold.Text.ScriptString

/-! The words of code. The languages of the generated files agree on where a comment, a literal and
a name end, so one reader serves them all. A selector counts as one word with what it is selected
from; signs and what a literal says do not count. -/
namespace RestScaffold
open Text Naming

inductive Follow where
  | call
  | label
  | other
  deriving DecidableEq, Repr

def Follow.of (c : Char) : Follow :=
  if c == '(' then .call
  else if c == ':' then .label
  else if c == '?' then .label
  else .other

inductive Quote where
  | double
  | single
  | raw
  deriving DecidableEq, Repr

namespace Quote

def char : Quote → Char
  | .double => '"'
  | .single => '\''
  | .raw => '`'

def of? (c : Char) : Option Quote :=
  if c == '"' then some .double
  else if c == '\'' then some .single
  else if c == '`' then some .raw
  else none

end Quote

/-- A name or a number. -/
structure Word where
  letters : List Char
  follow : Follow
  deriving DecidableEq, Repr

namespace Word

inductive Mode where
  | code
  | word (seen : List Char)
  | slash
  | comment
  | block
  | star
  | literal (quote : Quote)
  | escape (quote : Quote)
  deriving DecidableEq, Repr

def inWord (c : Char) : Bool := isWordly c || c == '.'

def start (c : Char) : Mode :=
  if inWord c then .word [c]
  else if c == '/' then .slash
  else
    match Quote.of? c with
    | some quote => .literal quote
    | none => .code

def step : Mode → Char → Option Word × Mode
  | .code, c => (none, start c)
  | .word seen, c =>
      if inWord c then (none, .word (c :: seen))
      else (some ⟨seen.reverse, .of c⟩, start c)
  | .slash, c => (none, if c == '/' then .comment else if c == '*' then .block else start c)
  | .comment, c => (none, if c == '\n' then .code else .comment)
  | .block, c => (none, if c == '*' then .star else .block)
  | .star, c => (none, if c == '/' then .code else if c == '*' then .star else .block)
  | .literal quote, c =>
      (none,
        if c == quote.char then .code
        else if c == '\\' && quote != .raw then .escape quote
        else .literal quote)
  | .escape quote, _ => (none, .literal quote)

def run : Mode → List Char → List Word × Mode
  | m, [] => ([], m)
  | m, c :: cs => ((step m c).1.toList ++ (run (step m c).2 cs).1, (run (step m c).2 cs).2)

def ofRows (rows : List (List Char)) : List Word := (run .code (rows.flatMap (· ++ ['\n']))).1

variable {m : Mode} {c : Char} {cs xs ys : List Char}

theorem runAppend (m : Mode) (xs ys : List Char) :
    run m (xs ++ ys) = ((run m xs).1 ++ (run (run m xs).2 ys).1, (run (run m xs).2 ys).2) := by
  induction xs generalizing m with
  | nil => rfl
  | cons c rest ih => simp only [List.cons_append, run, ih, List.append_assoc]

def Mode.Opens : Mode → Prop
  | .code | .block | .literal _ => True
  | _ => False

theorem opensFeed (m : Mode) : (step m '\n').2.Opens := by
  cases m with
  | literal quote => cases quote <;> trivial
  | _ => trivial

theorem opensStay (opens : m.Opens) : step m '\n' = (none, m) := by
  cases m with
  | code | block => rfl
  | literal quote => cases quote <;> rfl
  | _ => contradiction

theorem blankOdd (blank : isBlank c = true) :
    inWord c = false ∧ c ∉ ['/', '*', '\\', '"', '\'', '`', '(', ':', '?'] := by
  have ascii : ∀ n < 128, isBlank (Char.ofNat n) = true → inWord (Char.ofNat n) = false := by
    decide +kernel
  have odd : ['/', '*', '\\', '"', '\'', '`', '(', ':', '?'].all (!isBlank ·) = true := by decide
  refine ⟨Bool.eq_false_iff.mpr fun inside => ?_, fun known => ?_⟩
  · have small : c.toNat < 128 := by
      rcases Bool.or_eq_true_iff.mp inside with wordly | dot
      · exact wordlyAscii wordly
      · rw [beq_iff_eq.mp dot]
        decide
    have known := ascii c.toNat small
    rw [Char.ofNat_toNat, inside] at known
    exact absurd (known blank) (by decide)
  · have full := List.all_eq_true.mp odd c known
    rw [blank] at full
    contradiction

theorem runBlanks (blank : ∀ c ∈ cs, isBlank c = true) (noFeed : '\n' ∉ cs) (m : Mode) :
    run m (cs ++ ['\n']) = run m ['\n'] := by
  induction cs generalizing m with
  | nil => rfl
  | cons c rest ih =>
      obtain ⟨own, others⟩ := List.forall_mem_cons.mp blank
      obtain ⟨first, later⟩ := not_or.mp (mt List.mem_cons.mpr noFeed)
      obtain ⟨outside, odd⟩ := blankOdd own
      simp only [List.mem_cons, List.not_mem_nil, or_false, not_or] at odd
      obtain ⟨slash, star, backslash, double, single, raw, paren, colon, question⟩ := odd
      have starts : start c = .code := by
        simp [start, Quote.of?, outside, slash, double, single, raw]
      have follows : Follow.of c = .other := by simp [Follow.of, paren, colon, question]
      have fed : start '\n' = .code ∧ Follow.of '\n' = .other ∧ inWord '\n' = false := by decide
      rw [List.cons_append, run, ih others later]
      cases m with
      | literal quote =>
          cases quote <;> simp [run, step, Quote.char, backslash, double, single, raw]
      | escape quote => cases quote <;> simp [run, step, Quote.char]
      | _ => simp [run, step, starts, follows, fed, outside, slash, star, Ne.symm first]

theorem rowwise : Rowwise run Mode.Opens where
  nothing _ := rfl
  append := runAppend
  feed := opensFeed
  stay opens := by rw [run, opensStay opens, run]; rfl
  blanks := runBlanks

def ofLine (cs : List Char) : List Word := (run .code (cs ++ ['\n'])).1

def Ends (cs : List Char) : Prop := (run .code (cs ++ ['\n'])).2 = .code

theorem ofRowsLines {texts : List String} (ends : ∀ t ∈ texts, Ends t.toList) :
    ofRows (Code.rowsOf texts) = texts.flatMap fun t => ofLine t.toList := by
  have both : run .code ((Code.rowsOf texts).flatMap (· ++ ['\n'])) =
      (texts.flatMap fun t => ofLine t.toList, .code) := by
    induction texts with
    | nil => rfl
    | cons t rest ih =>
        obtain ⟨own, others⟩ := List.forall_mem_cons.mp ends
        have opens : Mode.code.Opens := trivial
        rw [Code.rowsOf, List.flatMap_cons, List.flatMap_append, runAppend, rowwise.read opens,
          (own : _ = _), ← Code.rowsOf, ih others]
        rfl
  rw [ofRows, both]

def untagged (row : List Char) : List Char := row.takeWhile (· ≠ '`')

theorem untaggedWhole (none : '`' ∉ cs) : untagged cs = cs :=
  List.takeWhile_eq_self_iff.mpr fun _ member => decide_eq_true fun same => none (same ▸ member)

theorem untaggedTag (none : '`' ∉ cs) (rest : List Char) : untagged (cs ++ '`' :: rest) = cs := by
  have other : ∀ c ∈ cs, decide (c ≠ '`') = true := fun c member =>
    decide_eq_true fun same => none (same ▸ member)
  rw [untagged, List.takeWhile_append_of_pos other, List.takeWhile_cons_of_neg (by decide),
    List.append_nil]

theorem runUntagged (noFeed : '\n' ∉ cs) :
    run .code (((rows cs).map untagged).flatMap (· ++ ['\n'])) =
      run .code (untagged cs ++ ['\n']) := by
  obtain ⟨blanks, split, blank⟩ := trimEndSplit cs
  have noFeed' : '\n' ∉ blanks := fun feed => noFeed (split ▸ List.mem_append_right _ feed)
  have noTag : '`' ∉ blanks := fun tag => absurd (blank _ tag) (by decide)
  have trimmed : run .code (untagged cs ++ ['\n']) =
      run .code (untagged (trimEnd cs) ++ ['\n']) := by
    by_cases tag : '`' ∈ trimEnd cs
    · obtain ⟨before, after, own, none⟩ := List.eq_append_cons_of_mem tag
      have whole : cs = before ++ '`' :: (after ++ blanks) := by
        conv_lhs => rw [split, own, List.append_assoc, List.cons_append]
      rw [own, untaggedTag none, whole, untaggedTag none]
    · have both : '`' ∉ trimEnd cs ++ blanks := by simp [tag, noTag]
      rw [untaggedWhole tag, untaggedWhole (split ▸ both)]
      conv_lhs => rw [split, List.append_assoc, runAppend, runBlanks blank noFeed', ← runAppend]
  rw [trimmed, rowsPlain noFeed]
  cases own : trimEnd cs with
  | nil => rfl
  | cons c rest =>
      rw [List.filter_cons_of_pos (by simp), List.filter_nil, List.map_singleton,
        List.flatMap_singleton]

theorem ofRowsUntagged {texts : List String} (oneLine : ∀ t ∈ texts, '\n' ∉ t.toList)
    (ends : ∀ t ∈ texts, Ends (untagged t.toList)) :
    ofRows ((Code.rowsOf texts).map untagged) =
      texts.flatMap fun t => ofLine (untagged t.toList) := by
  have both : run .code (((Code.rowsOf texts).map untagged).flatMap (· ++ ['\n'])) =
      (texts.flatMap fun t => ofLine (untagged t.toList), .code) := by
    induction texts with
    | nil => rfl
    | cons t rest ih =>
        obtain ⟨single, singles⟩ := List.forall_mem_cons.mp oneLine
        obtain ⟨own, others⟩ := List.forall_mem_cons.mp ends
        rw [Code.rowsOf, List.flatMap_cons, List.map_append, List.flatMap_append, runAppend,
          runUntagged single, (own : _ = _), ← Code.rowsOf, ih singles others]
        rfl
  rw [ofRows, both]

section
variable {P : Word → Prop} {n : Char}

def Finished (P : Word → Prop) (n : Char) : Mode → Prop
  | .code => True
  | .word seen => inWord n = false ∧ P ⟨seen.reverse, .of n⟩
  | .comment => n = '\n'
  | _ => False

structure Reads (P : Word → Prop) (cs : List Char) (n : Char) : Prop where
  words : ∀ t ∈ (run .code cs).1, P t
  finished : Finished P n (run .code cs).2

theorem readsNil : Reads P [] n := ⟨nofun, trivial⟩

theorem Reads.append (first : Reads P xs (ys.headD n)) (second : Reads P ys n) :
    Reads P (xs ++ ys) n := by
  have finished := first.finished
  cases ended : (run .code xs).2 with
  | code =>
      refine ⟨?_, ?_⟩
      · rw [runAppend, ended]
        exact List.forall_mem_append.mpr ⟨first.words, second.words⟩
      · rw [runAppend, ended]
        exact second.finished
  | word seen =>
      rw [ended] at finished
      obtain ⟨outside, known⟩ := finished
      cases ys with
      | nil =>
          rw [List.append_nil]
          exact first
      | cons c rest =>
          -- The character that ends the word is read as it is read in code.
          have stepped : step (.word seen) c = (some ⟨seen.reverse, .of c⟩, start c) := by
            simp only [List.headD_cons] at outside
            simp [step, outside]
          obtain ⟨words, last⟩ := second
          refine ⟨?_, ?_⟩
          · rw [runAppend, ended, run, stepped]
            exact List.forall_mem_append.mpr ⟨first.words, List.forall_mem_cons.mpr ⟨known, words⟩⟩
          · rw [runAppend, ended, run, stepped]
            exact last
  | comment =>
      rw [ended] at finished
      cases ys with
      | nil =>
          rw [List.append_nil]
          exact first
      | cons c rest =>
          obtain rfl : c = '\n' := finished
          obtain ⟨words, last⟩ := second
          have same : step .comment '\n' = step .code '\n' := by decide
          refine ⟨?_, ?_⟩
          · rw [runAppend, ended, run, same]
            exact List.forall_mem_append.mpr ⟨first.words, words⟩
          · rw [runAppend, ended, run, same]
            exact last
  | slash | block | star | literal | escape =>
      rw [ended] at finished
      contradiction

theorem Reads.apart (reads : Reads P cs 'a') (n : Char) : Reads P cs n := by
  refine ⟨reads.words, ?_⟩
  have finished := reads.finished
  cases ended : (run .code cs).2 with
  | code => trivial
  | word seen =>
      rw [ended] at finished
      exact absurd finished.1 (by decide)
  | comment =>
      rw [ended] at finished
      exact absurd (finished : 'a' = '\n') (by decide : 'a' ≠ '\n')
  | slash | block | star | literal | escape =>
      rw [ended] at finished
      contradiction

theorem Reads.line (reads : Reads P cs '\n') : Ends cs ∧ ∀ t ∈ ofLine cs, P t := by
  have fed : run .code ['\n'] = ([], .code) := by decide
  have feed : Reads P ['\n'] 'a' := ⟨by rw [fed]; nofun, by rw [fed]; trivial⟩
  have whole : Reads P (cs ++ ['\n']) 'a' := reads.append feed
  refine ⟨?_, whole.words⟩
  have opens := rowwise.feedOpens .code cs
  have finished := whole.finished
  rw [Ends]
  cases ended : (run .code (cs ++ ['\n'])).2 with
  | code => rfl
  | word | slash | comment | star | escape =>
      rw [ended] at opens
      contradiction
  | block | literal =>
      rw [ended] at finished
      contradiction

def check (good : Word → Bool) (n : Char) (cs : List Char) : Bool :=
  (run .code cs).1.all good &&
    match (run .code cs).2 with
    | .code => true
    | .word seen => !inWord n && good ⟨seen.reverse, .of n⟩
    | .comment => n == '\n'
    | _ => false

theorem readsCheck {good : Word → Bool} (known : ∀ t, good t = true → P t)
    (checked : check good n cs = true) : Reads P cs n := by
  obtain ⟨words, last⟩ := Bool.and_eq_true_iff.mp checked
  refine ⟨fun t member => known t (List.all_eq_true.mp words t member), ?_⟩
  cases ended : (run .code cs).2 with
  | code => trivial
  | word seen =>
      rw [ended] at last
      obtain ⟨outside, own⟩ := Bool.and_eq_true_iff.mp last
      exact ⟨by simpa using outside, known _ own⟩
  | comment =>
      rw [ended] at last
      exact beq_iff_eq.mp last
  | slash | block | star | literal | escape =>
      rw [ended] at last
      contradiction

theorem runInWord (seen : List Char) (inside : ∀ c ∈ cs, inWord c = true) :
    run (.word seen) cs = ([], .word (cs.reverse ++ seen)) := by
  induction cs generalizing seen with
  | nil => rfl
  | cons c rest ih =>
      obtain ⟨first, others⟩ := List.forall_mem_cons.mp inside
      have stepped : step (.word seen) c = (none, .word (c :: seen)) := if_pos first
      simp [run, stepped, ih _ others]

theorem runWord (some : cs ≠ []) (inside : ∀ c ∈ cs, inWord c = true) :
    run .code cs = ([], .word cs.reverse) := by
  obtain ⟨c, rest, rfl⟩ := List.exists_cons_of_ne_nil some
  obtain ⟨first, others⟩ := List.forall_mem_cons.mp inside
  have starts : start c = .word [c] := if_pos first
  simp [run, step, starts, runInWord _ others]

theorem readsWord (inside : ∀ c ∈ cs, inWord c = true) (outside : inWord n = false)
    (known : P ⟨cs, .of n⟩) : Reads P cs n := by
  by_cases none : cs = []
  · exact none ▸ readsNil
  · have spelled := runWord none inside
    refine ⟨by rw [spelled]; nofun, ?_⟩
    rw [spelled]
    exact ⟨outside, by rwa [List.reverse_reverse]⟩

def Inside (quote : Quote) (cs : List Char) : Prop :=
  run (.literal quote) cs = ([], .literal quote)

theorem insidePlain {quote : Quote}
    (plain : ∀ c ∈ cs, c ≠ quote.char ∧ (c ≠ '\\' ∨ quote = .raw)) : Inside quote cs := by
  induction cs with
  | nil => rfl
  | cons c rest ih =>
      obtain ⟨⟨other, unescaped⟩, others⟩ := List.forall_mem_cons.mp plain
      have same : (c == quote.char) = false := by simpa using other
      have stays : (c == '\\' && quote != .raw) = false := by
        rcases unescaped with h | rfl
        · simp [h]
        · simp
      rw [Inside, run, step, same, stays]
      exact ih others

theorem Inside.append {quote : Quote} (first : Inside quote xs) (second : Inside quote ys) :
    Inside quote (xs ++ ys) := by
  rw [Inside, runAppend, (first : _ = _), (second : _ = _)]
  rfl

theorem insideFlatMap {quote : Quote} {f : Char → List Char} (each : ∀ c, Inside quote (f c))
    (cs : List Char) : Inside quote (cs.flatMap f) := by
  induction cs with
  | nil => rfl
  | cons c rest ih => exact (each c).append ih

theorem readsLiteral {quote : Quote} (inside : Inside quote cs) (n : Char) :
    Reads P (quote.char :: (cs ++ [quote.char])) n := by
  have opened : step .code quote.char = (none, .literal quote) := by cases quote <;> decide
  have closed : step (.literal quote) quote.char = (none, .code) := by simp [step]
  have spelled : run .code (quote.char :: (cs ++ [quote.char])) = ([], .code) := by
    rw [run, opened, runAppend, (inside : run _ _ = _), run, closed]
    rfl
  refine ⟨by rw [spelled]; nofun, ?_⟩
  rw [spelled]
  trivial

theorem readsRaw (plain : '`' ∉ cs) (n : Char) : Reads P ('`' :: (cs ++ ['`'])) n :=
  have inside : Inside .raw cs :=
    insidePlain fun c member => ⟨fun (same : c = '`') => plain (same ▸ member), .inr rfl⟩
  readsLiteral inside n

theorem insideEscaped (quote : Quote) (backslash : quote ≠ .raw) (c : Char) :
    Inside quote ['\\', c] := by
  cases quote with
  | raw => contradiction
  | double | single => rfl

theorem insideHex (width n : Nat) : Inside .double (hex width n) := by
  have digits : ∀ d < 16, Nat.digitChar d ≠ '"' ∧ Nat.digitChar d ≠ '\\' := by decide
  induction width generalizing n with
  | zero => rfl
  | succ width ih =>
      rw [hex]
      refine (ih _).append (insidePlain fun c member => ?_)
      obtain rfl := List.mem_singleton.mp member
      exact (digits _ (Nat.mod_lt _ (by decide))).imp_right .inl

theorem insideGoEscape (c : Char) : Inside .double (GoString.escape c) := by
  have taken (d : Char) := insideEscaped .double (by decide) d
  have coded (d : Char) (width n : Nat) : Inside .double ('\\' :: d :: hex width n) :=
    (taken d).append (insideHex width n)
  unfold GoString.escape
  split_ifs with quote backslash
  · exact taken _
  · exact taken _
  · exact taken _
  · exact taken _
  · exact taken _
  · exact coded _ _ _
  · exact coded _ _ _
  · refine insidePlain fun d member => ?_
    obtain rfl := List.mem_singleton.mp member
    exact ⟨quote, .inl backslash⟩

theorem readsGoString (s : String) (n : Char) :
    Reads P (GoString.quote s).toList n := by
  rw [GoString.quote, String.toList_ofList]
  exact readsLiteral (insideFlatMap insideGoEscape _) n

theorem insideScriptEscape (c : Char) : Inside .single (ScriptString.escape c) := by
  unfold ScriptString.escape
  split
  · exact insideEscaped .single (by decide) c
  · rename_i other
    obtain ⟨quote, backslash⟩ := not_or.mp other
    refine insidePlain fun d member => ?_
    obtain rfl := List.mem_singleton.mp member
    exact ⟨quote, .inl backslash⟩

theorem readsScriptString (s : String) (n : Char) :
    Reads P (ScriptString.quote s).toList n := by
  rw [ScriptString.quote, String.toList_ofList]
  exact readsLiteral (insideFlatMap insideScriptEscape _) n

theorem runComment (noFeed : '\n' ∉ cs) : run .comment cs = ([], .comment) := by
  induction cs with
  | nil => rfl
  | cons c rest ih =>
      obtain ⟨other, later⟩ := not_or.mp (mt List.mem_cons.mpr noFeed)
      simp [run, step, ih later, Ne.symm other]

theorem readsComment (noFeed : '\n' ∉ cs) : Reads P ('/' :: '/' :: cs) '\n' := by
  have opened : step .code '/' = (none, .slash) ∧ step .slash '/' = (none, .comment) := by decide
  have spelled : run .code ('/' :: '/' :: cs) = ([], .comment) := by
    simp [run, opened, runComment noFeed]
  refine ⟨by rw [spelled]; nofun, ?_⟩
  rw [spelled]
  rfl

end

end Word
end RestScaffold
