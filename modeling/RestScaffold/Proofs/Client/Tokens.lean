import RestScaffold.Proofs.Client.Literals
import RestScaffold.Proofs.Code.Words
import RestScaffold.Proofs.Server.Wording

/-! The tokens of the client's code. A literal that goes over the end of its line is told from the
others, and what it carries is left out, as the layout may take blanks out of it. -/
namespace RestScaffold.Client
open Catalog Code Layout Naming Text

inductive Token where
  | word (letters : List Char)
  | sign (c : Char)
  | literal (spelling : List Char)
  | broken
  deriving DecidableEq, Repr

namespace Token

-- What has been seen of a word or a literal stands last one first.
inductive Mode where
  | code
  | word (seen : List Char)
  | slash
  | comment
  | block
  | star
  | literal (quote : Quote) (seen : List Char)
  | escape (quote : Quote) (seen : List Char)
  | broken (quote : Quote)
  | brokenEscape (quote : Quote)
  deriving DecidableEq, Repr

def breaksLine (c : Char) : Bool := c == '\n' || c == '\r'

def start (c : Char) : List Token × Mode :=
  if isWordly c then ([], .word [c])
  else if c == '/' then ([], .slash)
  else
    match Quote.of? c with
    | some quote => ([], .literal quote [])
    | none => if isBlank c then ([], .code) else ([.sign c], .code)

def ended (done : Token) (c : Char) : List Token × Mode := (done :: (start c).1, (start c).2)

def step : Mode → Char → List Token × Mode
  | .code, c => start c
  | .word seen, c =>
      if isWordly c then ([], .word (c :: seen)) else ended (.word seen.reverse) c
  | .slash, c =>
      if c == '/' then ([], .comment) else if c == '*' then ([], .block) else ended (.sign '/') c
  | .comment, c => ([], if breaksLine c then .code else .comment)
  | .block, c => ([], if c == '*' then .star else .block)
  | .star, c => ([], if c == '/' then .code else if c == '*' then .star else .block)
  | .literal q seen, c =>
      if c == q.char then ([.literal seen.reverse], .code)
      else if c == '\\' then ([], .escape q seen)
      else if breaksLine c then ([], .broken q)
      else ([], .literal q (c :: seen))
  | .escape q seen, c => ([], if breaksLine c then .broken q else .literal q (c :: '\\' :: seen))
  | .broken q, c =>
      if c == q.char then ([.broken], .code)
      else ([], if c == '\\' then .brokenEscape q else .broken q)
  | .brokenEscape q, _ => ([], .broken q)

def run : Mode → List Char → List Token × Mode
  | m, [] => ([], m)
  | m, c :: cs => ((step m c).1 ++ (run (step m c).2 cs).1, (run (step m c).2 cs).2)

variable {m : Mode} {c n : Char} {cs xs ys : List Char} {ts us : List Token}

theorem runAppend (m : Mode) (xs ys : List Char) :
    run m (xs ++ ys) = ((run m xs).1 ++ (run (run m xs).2 ys).1, (run (run m xs).2 ys).2) := by
  induction xs generalizing m with
  | nil => rfl
  | cons c rest ih => simp only [List.cons_append, run, ih, List.append_assoc]

-- How a line can begin.
def Mode.Opens : Mode → Prop
  | .code | .block | .broken _ => True
  | _ => False

theorem opensFeed (m : Mode) : (step m '\n').2.Opens := by
  cases m with
  | literal q | broken q => cases q <;> trivial
  | _ => trivial

theorem opensStay (opens : m.Opens) : step m '\n' = ([], m) := by
  cases m with
  | code | block => rfl
  | broken q => cases q <;> rfl
  | _ => contradiction

theorem blankPlain (blank : isBlank c = true) :
    isWordly c = false ∧ c ∉ ['/', '*', '\\', '"', '\'', '`'] := by
  obtain ⟨outside, odd⟩ := Word.blankOdd blank
  exact ⟨(Bool.or_eq_false_iff.mp outside).1,
    fun known => odd (List.mem_append_left ['(', ':', '?'] known)⟩

theorem runBlanks (blank : ∀ c ∈ cs, isBlank c = true) (m : Mode) :
    run m (cs ++ ['\n']) = run m ['\n'] := by
  induction cs generalizing m with
  | nil => rfl
  | cons c rest ih =>
      obtain ⟨own, others⟩ := List.forall_mem_cons.mp blank
      obtain ⟨wordless, odd⟩ := blankPlain own
      simp only [List.mem_cons, List.not_mem_nil, or_false, not_or] at odd
      obtain ⟨slash, star, backslash, double, single, back⟩ := odd
      have starts : start c = ([], .code) := by
        simp [start, Quote.of?, wordless, slash, double, single, back, own]
      have fed : start '\n' = ([], .code) ∧ isWordly '\n' = false ∧ breaksLine '\n' = true := by
        decide
      rw [List.cons_append, run, ih others]
      cases m with
      | literal q | broken q =>
          cases q <;> by_cases breaks : breaksLine c = true <;>
            simp [run, step, Quote.char, breaks, fed, backslash, double, single, back]
      | escape q | brokenEscape q =>
          cases q <;> by_cases breaks : breaksLine c = true <;>
            simp [run, step, Quote.char, breaks, fed]
      | comment => by_cases breaks : breaksLine c = true <;> simp [run, step, breaks, fed]
      | _ => simp [run, step, ended, starts, fed, wordless, slash, star]

theorem rowwise : Rowwise run Mode.Opens where
  nothing _ := rfl
  append := runAppend
  feed := opensFeed
  stay opens := by rw [run, opensStay opens, run]; rfl
  blanks blank _ m := runBlanks blank m

theorem runTidy (cs : List Char) :
    run .code (tidyChars cs ++ ['\n']) = run .code (cs ++ ['\n']) := by
  have opens : Mode.code.Opens := trivial
  rw [← rowwise.read opens, ← rowwise.read opens, tidyRows]

end Token

def tokens (text : String) : Option (List Token) :=
  let read := Token.run .code (text.toList ++ ['\n'])
  if read.2 = .code then some read.1 else none

namespace Token

variable {n : Char} {cs xs ys : List Char} {ts us : List Token}

def Yields (cs : List Char) (ts : List Token) (n : Char) : Prop :=
  ∀ rest, run .code (cs ++ n :: rest) =
    (ts ++ (run .code (n :: rest)).1, (run .code (n :: rest)).2)

theorem Yields.append (first : Yields xs ts (ys.headD n)) (second : Yields ys us n) :
    Yields (xs ++ ys) (ts ++ us) n := by
  intro rest
  cases ys with
  | nil =>
      have none : us = [] := by
        have later := congrArg Prod.fst (second [])
        exact List.self_eq_append_left.mp later
      rw [List.headD_nil] at first
      rw [none, List.append_nil, List.append_nil]
      exact first rest
  | cons c more =>
      have whole := first (more ++ n :: rest)
      rw [List.headD_cons, ← List.cons_append, second rest] at whole
      rw [List.append_assoc, whole, List.append_assoc]

theorem yieldsCode (read : run .code cs = (ts, .code)) (n : Char) : Yields cs ts n := by
  intro rest
  rw [runAppend, read]

theorem runWord (wordly : Wordly cs) (seen : List Char) (rest : List Char) :
    run (.word seen) (cs ++ rest) = run (.word (cs.reverse ++ seen)) rest := by
  induction cs generalizing seen with
  | nil => rfl
  | cons c more ih =>
      obtain ⟨first, others⟩ := List.forall_mem_cons.mp wordly
      have stepped : step (.word seen) c = ([], .word (c :: seen)) := if_pos first
      rw [List.cons_append, run, stepped, ih others]
      simp

def named (s : String) : List Token := if s = "" then [] else [.word s.toList]

theorem yieldsNamed {s : String} (wordly : Wordly s.toList) (wordless : isWordly n = false) :
    Yields s.toList (named s) n := by
  intro rest
  unfold named
  split
  · rename_i none
    rw [none]
    rfl
  · rename_i some
    obtain ⟨c, more, own⟩ := List.exists_cons_of_ne_nil
      (show s.toList ≠ [] by simpa using some)
    have first : isWordly c = true := wordly c (own ▸ List.mem_cons_self)
    have others : Wordly more := fun d member => wordly d (own ▸ List.mem_cons_of_mem c member)
    have starts : start c = ([], .word [c]) := if_pos first
    have stops (seen : List Char) : step (.word seen) n = ended (.word seen.reverse) n :=
      if_neg (by simp [wordless])
    rw [own, List.cons_append, run, step, starts, runWord others, run, stops]
    simp [run, step, ended]

theorem runBroken (cs rest : List Char) :
    run (.broken .single) (cs.flatMap ScriptString.escape ++ '\'' :: rest) =
      (.broken :: (run .code rest).1, (run .code rest).2) := by
  induction cs with
  | nil => rfl
  | cons c more ih =>
      rw [List.flatMap_cons, List.append_assoc]
      by_cases marked : c = '\'' ∨ c = '\\'
      · rw [ScriptString.escape, if_pos marked]
        exact ih
      · obtain ⟨quote, backslash⟩ := not_or.mp marked
        have stays : step (.broken .single) c = ([], .broken .single) := by
          simp [step, Quote.char, quote, backslash]
        rw [ScriptString.escape, if_neg marked, List.singleton_append, run, stays, ih]
        rfl

def ofText (s : String) : Token :=
  if ScriptString.Unbroken s.toList then .literal (s.toList.flatMap ScriptString.escape)
  else .broken

theorem runLiteral (seen cs rest : List Char) :
    run (.literal .single seen) (cs.flatMap ScriptString.escape ++ '\'' :: rest) =
      ((if ScriptString.Unbroken cs then
          .literal (seen.reverse ++ cs.flatMap ScriptString.escape)
        else .broken) :: (run .code rest).1, (run .code rest).2) := by
  induction cs generalizing seen with
  | nil => simp [run, step, Quote.char, ScriptString.Unbroken]
  | cons c more ih =>
      rw [List.flatMap_cons, List.append_assoc]
      by_cases marked : c = '\'' ∨ c = '\\'
      · have whole : ScriptString.Unbroken (c :: more) ↔ ScriptString.Unbroken more :=
          List.forall_mem_cons.trans (and_iff_right (by rcases marked with rfl | rfl <;> decide))
        have escaped : step (.literal .single seen) '\\' = ([], .escape .single seen) ∧
            step (.escape .single seen) c = ([], .literal .single (c :: '\\' :: seen)) := by
          rcases marked with rfl | rfl <;> exact ⟨rfl, rfl⟩
        simp only [ScriptString.escape, if_pos marked, List.cons_append, List.nil_append, run,
          escaped, ih, whole]
        simp
      · obtain ⟨quote, backslash⟩ := not_or.mp marked
        simp only [ScriptString.escape, if_neg marked, List.cons_append, List.nil_append, run]
        by_cases breaks : c = '\n' ∨ c = '\r'
        · have broken : ¬ScriptString.Unbroken (c :: more) := fun whole =>
            not_or.mpr (whole c List.mem_cons_self) breaks
          have left : step (.literal .single seen) c = ([], .broken .single) := by
            rcases breaks with rfl | rfl <;> rfl
          rw [left, runBroken, if_neg broken]
          rfl
        · have whole : ScriptString.Unbroken (c :: more) ↔ ScriptString.Unbroken more :=
            List.forall_mem_cons.trans (and_iff_right (not_or.mp breaks))
          have stays : step (.literal .single seen) c = ([], .literal .single (c :: seen)) := by
            simp [step, Quote.char, breaksLine, quote, backslash, not_or.mp breaks]
          simp only [stays, ih, whole]
          simp

theorem yieldsQuote (s : String) (n : Char) :
    Yields (ScriptString.quote s).toList [ofText s] n := by
  intro rest
  have opens : step .code '\'' = ([], .literal .single []) := by decide
  rw [ScriptString.quoteSplit, run, opens, runLiteral, ofText]
  simp

def Carries (l : Line) (ts : List Token) : Prop := Yields (lineText l).toList ts '\n'

def AllCarry (ls : List Line) (ts : List Token) : Prop :=
  run .code (ls.flatMap fun l => (lineText l).toList ++ ['\n']) = (ts, .code)

variable {l : Line} {ls more : List Line}

theorem allCarryNone : AllCarry [] [] := rfl

theorem AllCarry.append (first : AllCarry ls ts) (second : AllCarry more us) :
    AllCarry (ls ++ more) (ts ++ us) := by
  rw [AllCarry, List.flatMap_append, runAppend, (first : _ = _), (second : _ = _)]

theorem allCarrySingle (carries : Carries l ts) : AllCarry [l] ts := by
  have fed : run .code ['\n'] = ([], .code) := by decide
  rw [AllCarry, List.flatMap_singleton, carries [], fed, List.append_nil]

theorem allCarryCons (carries : Carries l ts) (others : AllCarry ls us) :
    AllCarry (l :: ls) (ts ++ us) :=
  (allCarrySingle carries).append others

theorem allCarryMap {α : Type} {items : List α} {code : α → Line} {tokens : α → List Token}
    (each : ∀ a ∈ items, Carries (code a) (tokens a)) :
    AllCarry (items.map code) (items.flatMap tokens) := by
  induction items with
  | nil => exact allCarryNone
  | cons a rest ih =>
      obtain ⟨first, others⟩ := List.forall_mem_cons.mp each
      exact allCarryCons first (ih others)

theorem joinedEnded {α : Type} (chars : α → List Char) (l : α) (ls : List α) :
    List.intercalate ['\n'] ((l :: ls).map chars) ++ ['\n'] =
      (l :: ls).flatMap fun l => chars l ++ ['\n'] := by
  induction ls generalizing l with
  | nil => simp [List.intercalate]
  | cons m rest ih =>
      have split : List.intercalate ['\n'] ((l :: m :: rest).map chars) =
          chars l ++ '\n' :: List.intercalate ['\n'] ((m :: rest).map chars) := by
        simp [List.intercalate]
      rw [split, List.append_assoc, List.cons_append, ih, List.flatMap_cons]
      simp

theorem AllCarry.file (carry : AllCarry ls ts) : tokens (fileText ls) = some ts := by
  have joined : run .code (List.intercalate ['\n'] (ls.map fun l => (lineText l).toList) ++
      ['\n']) = (ts, .code) := by
    cases ls with
    | nil => exact carry
    | cons l rest =>
        rw [joinedEnded fun l : Line => (lineText l).toList]
        exact carry
  rw [tokens, fileLines, runTidy, joined]
  rfl

end Token

def EndFree (cs : List Char) : Prop := ¬"*/".toList <:+: cs

variable {c : Char} {cs ds : List Char}

theorem endFreeCons : EndFree (c :: cs) ↔ ¬(c = '*' ∧ cs.head? = some '/') ∧ EndFree cs := by
  have begins : "*/".toList <+: c :: cs ↔ c = '*' ∧ cs.head? = some '/' := by
    change ['*', '/'] <+: c :: cs ↔ _
    rw [List.cons_prefix_cons, eq_comm, List.head?_eq_some_iff]
    exact and_congr_right' (exists_congr fun _ => eq_comm)
  rw [EndFree, List.infix_cons_iff, not_or, begins, EndFree]

theorem starFree (free : '*' ∉ cs) (other : EndFree ds) : EndFree (cs ++ ds) := by
  induction cs with
  | nil => exact other
  | cons c cs ih =>
      obtain ⟨first, rest⟩ := not_or.mp (mt List.mem_cons.mpr free)
      exact endFreeCons.mpr ⟨fun ⟨star, _⟩ => first star.symm, ih rest⟩

theorem keptHead (cs : List Char) : (Types.withoutCommentEnds cs).head? = cs.head? := by
  fun_cases Types.withoutCommentEnds cs <;> rfl

theorem endsBroken (cs : List Char) (other : EndFree ds) (apart : ds.head? ≠ some '/') :
    EndFree (Types.withoutCommentEnds cs ++ ds) := by
  fun_induction Types.withoutCommentEnds cs with
  | case1 rest ih => simp [endFreeCons, ih]
  | case2 c rest noEnd ih =>
      rw [List.cons_append]
      refine endFreeCons.mpr ⟨?_, ih⟩
      rintro ⟨rfl, slash⟩
      rw [List.head?_append, keptHead] at slash
      cases rest with
      | nil => exact apart slash
      | cons d more =>
          obtain rfl : d = '/' := Option.some.inj slash
          exact noEnd more rfl rfl
  | case3 => exact other

theorem docFree {s : Subject} (starless : Server.Spelled (fun name => '*' ∉ name.toList) s.table) :
    EndFree ((Types.docOf s).toList ++ " *".toList) := by
  have schema := starless.schema
  have name := starless.name
  have ends : EndFree " *".toList := by
    unfold EndFree
    decide
  unfold Types.docOf
  split
  · rw [String.toList_append, List.append_assoc, String.toList_ofList]
    refine starFree ?_ (endsBroken _ ends (by decide))
    simp [TableShape.qualifiedName, schema, name]
  · refine starFree ?_ ends
    simp [TableShape.qualifiedName, schema, name]

namespace Token

theorem runBlock (cs : List Char) :
    (EndFree (cs ++ ['*']) → run .block (cs ++ ['*', '/']) = ([], .code)) ∧
      (EndFree ('*' :: (cs ++ ['*'])) → run .star (cs ++ ['*', '/']) = ([], .code)) := by
  induction cs with
  | nil => exact ⟨fun _ => by decide, fun _ => by decide⟩
  | cons c rest ih =>
      obtain ⟨block, star⟩ := ih
      refine ⟨fun free => ?_, fun free => ?_⟩
      · by_cases same : c = '*'
        · have first : step .block '*' = ([], .star) := by decide
          subst same
          rw [List.cons_append, run, first, star free]
          rfl
        · rw [List.cons_append, run, step, if_neg (by simpa using same),
            block (endFreeCons.mp free).2]
          rfl
      · obtain ⟨noSlash, later⟩ := endFreeCons.mp free
        have other : c ≠ '/' := fun slash => noSlash ⟨rfl, by simp [slash]⟩
        by_cases same : c = '*'
        · have again : step .star '*' = ([], .star) := by decide
          subst same
          rw [List.cons_append, run, again, star later]
          rfl
        · rw [List.cons_append, run, step, if_neg (by simpa using other),
            if_neg (by simpa using same), block (endFreeCons.mp later).2]
          rfl

theorem docCarries {text : String} (free : EndFree (text.toList ++ " *".toList)) :
    Carries (plain ("/** " ++ text ++ " */")) [] := by
  have split : (lineText (plain ("/** " ++ text ++ " */"))).toList =
      '/' :: '*' :: (('*' :: ' ' :: text.toList ++ [' ']) ++ ['*', '/']) := by
    simp [plainText]
  have opened : step .code '/' = ([], .slash) ∧ step .slash '*' = ([], .block) := by decide
  have whole : EndFree (('*' :: ' ' :: text.toList ++ [' ']) ++ ['*']) := by
    have own : EndFree (text.toList ++ [' ', '*']) := free
    simp [endFreeCons, own]
  rw [Carries, split]
  refine yieldsCode ?_ _
  rw [run, opened.1, run, opened.2, (runBlock _).1 whole]
  rfl

theorem noticeCarries : Carries (plain generatedNotice) [] := by
  intro rest
  have read : run .code generatedNotice.toList = ([], .comment) := by decide
  have fed : step .comment '\n' = ([], .code) ∧ step .code '\n' = ([], .code) := by decide
  rw [plainText, runAppend, read, run, run, fed.1, fed.2]

end Token
end RestScaffold.Client
