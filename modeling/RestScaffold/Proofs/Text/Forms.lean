import Mathlib.Data.List.TakeWhile
import RestScaffold.Proofs.Text.Identifier

/-! Which names become the same. A convention shows with a capital where a part of a name begins,
but not whether it was an underscore or a capital that began it. So two names become the same if and
only if they have the same parts. -/
namespace RestScaffold.Naming
open Text

def leading (c : Char) : List Char := if c.isAlpha then ['_', c.toLower] else [c]

def inner (c : Char) : List Char := if c.isUpper then ['_', c.toLower] else [c]

def wordForm : List Char → List Char
  | [] => []
  | c :: rest => leading c ++ rest.flatMap inner

def form (s : String) : List Char := (words s.toList).flatMap wordForm

def exportedWordForm (word : List Char) : List Char :=
  if initialisms.any (sameLetters · (String.ofList word)) then word.flatMap leading
  else wordForm word

def exportedForm (s : String) : List Char := (words s.toList).flatMap exportedWordForm

def Alphanum (cs : List Char) : Prop := ∀ c ∈ cs, c.isAlphanum = true

structure Cased (c : Char) : Prop where
  upper : c.toUpper.isAlphanum = true
  lower : c.toLower.isAlphanum = true
  leads : inner c.toUpper = leading c
  lowered : c.toUpper.toLower = c.toLower
  raised : c.toLower.toUpper = c.toUpper
  capital : c.isUpper = true → c.toUpper = c
  plain : c ≠ '_'

theorem asciiAlphanum : ∀ n < 128, let c := Char.ofNat n
    (isWordly c = true → isAlphanumeric c = true → c.isAlphanum = true) ∧
    (c.isAlphanum = true → c.toUpper.isAlphanum = true ∧ c.toLower.isAlphanum = true ∧
      inner c.toUpper = leading c ∧ c.toUpper.toLower = c.toLower ∧
      c.toLower.toUpper = c.toUpper ∧ (c.isUpper = true → c.toUpper = c) ∧ c ≠ '_') := by
  decide +kernel

theorem alphanumAscii {c : Char} (alphanum : c.isAlphanum = true) : c.toNat < 128 :=
  wordlyAscii (by rw [isWordly, alphanum, Bool.true_or])

theorem alphanumCased {c : Char} (alphanum : c.isAlphanum = true) : Cased c := by
  have known := (asciiAlphanum c.toNat (alphanumAscii alphanum)).2
  rw [Char.ofNat_toNat] at known
  obtain ⟨upper, lower, leads, lowered, raised, capital, plain⟩ := known alphanum
  exact { upper, lower, leads, lowered, raised, capital, plain }

theorem upperAlphanum {c : Char} (alphanum : c.isAlphanum = true) : upperChar c = [c.toUpper] :=
  if_pos (alphanumAscii alphanum)

theorem lowerAlphanum {c : Char} (alphanum : c.isAlphanum = true) : lowerChar c = [c.toLower] :=
  if_pos (alphanumAscii alphanum)

theorem wordCharacters {cs word : List Char} (member : word ∈ words cs) :
    word ≠ [] ∧ ∀ c ∈ word, isAlphanumeric c = true := by
  fun_induction words cs with
  | case1 cs none => contradiction
  | case2 cs first rest found shorter ih =>
      rcases List.mem_cons.mp member with rfl | later
      · refine ⟨List.cons_ne_nil _ _, List.forall_mem_cons.mpr ⟨?_, fun c inside => ?_⟩⟩
        · have begins := List.head?_dropWhile_not (!isAlphanumeric ·) cs
          rw [found] at begins
          simpa using begins
        · exact List.all_eq_true.mp List.all_takeWhile c inside
      · exact ih later

theorem wordAlphanum {s : String} (plain : isPlainIdentifier s = true) {word : List Char}
    (member : word ∈ words s.toList) : word ≠ [] ∧ Alphanum word := by
  obtain ⟨some, each⟩ := wordCharacters member
  refine ⟨some, fun c inside => ?_⟩
  have wordly := wordsWordly plain word member c inside
  have known := (asciiAlphanum c.toNat (wordlyAscii wordly)).1
  rw [Char.ofNat_toNat] at known
  exact known wordly (each c inside)

theorem innerSome (c : Char) : inner c ≠ [] := by
  unfold inner
  split <;> exact List.cons_ne_nil _ _

theorem innerFirst {c d : Char} (one : c.isAlphanum = true) (other : d.isAlphanum = true)
    {more more' : List Char} (same : inner c ++ more = inner d ++ more') :
    c = d ∧ more = more' := by
  have first := alphanumCased one
  have second := alphanumCased other
  unfold inner at same
  split at same <;> split at same
  · rename_i upper upper'
    obtain ⟨lowered, later⟩ := List.cons.inj (List.cons.inj same).2
    rw [← first.capital upper, ← second.capital upper', ← first.raised, ← second.raised, lowered]
    exact ⟨rfl, later⟩
  · exact absurd (List.cons.inj same).1.symm second.plain
  · exact absurd (List.cons.inj same).1 first.plain
  · exact List.cons.inj same

theorem innerInjective {cs ds : List Char} (one : Alphanum cs) (other : Alphanum ds) :
    cs.flatMap inner = ds.flatMap inner ↔ cs = ds := by
  refine ⟨fun same => ?_, fun same => congrArg (List.flatMap inner) same⟩
  induction cs generalizing ds with
  | nil =>
      cases ds with
      | nil => rfl
      | cons d more => exact absurd same.symm (by simp [innerSome])
  | cons c rest ih =>
      cases ds with
      | nil => exact absurd same (by simp [innerSome])
      | cons d more =>
          obtain ⟨first, others⟩ := List.forall_mem_cons.mp one
          obtain ⟨first', others'⟩ := List.forall_mem_cons.mp other
          rw [List.flatMap_cons, List.flatMap_cons] at same
          obtain ⟨rfl, later⟩ := innerFirst first first' same
          rw [ih others others' later]

theorem capitalizedForm {word : List Char} (alphanum : Alphanum word) :
    Alphanum (capitalized word) ∧ (capitalized word).flatMap inner = wordForm word := by
  cases word with
  | nil => exact ⟨nofun, rfl⟩
  | cons c rest =>
      obtain ⟨first, others⟩ := List.forall_mem_cons.mp alphanum
      have cased := alphanumCased first
      rw [capitalized, upperAlphanum first, List.singleton_append, List.flatMap_cons, cased.leads]
      exact ⟨List.forall_mem_cons.mpr ⟨cased.upper, others⟩, rfl⟩

theorem raisedForm {word : List Char} (alphanum : Alphanum word) :
    Alphanum (word.flatMap upperChar) ∧
      (word.flatMap upperChar).flatMap inner = word.flatMap leading := by
  induction word with
  | nil => exact ⟨nofun, rfl⟩
  | cons c rest ih =>
      obtain ⟨first, others⟩ := List.forall_mem_cons.mp alphanum
      have cased := alphanumCased first
      obtain ⟨raised, later⟩ := ih others
      rw [List.flatMap_cons, upperAlphanum first, List.singleton_append, List.flatMap_cons,
        List.flatMap_cons, cased.leads, later]
      exact ⟨List.forall_mem_cons.mpr ⟨cased.upper, raised⟩, rfl⟩

theorem exportedWordParts {word : List Char} (alphanum : Alphanum word) :
    Alphanum (exportedWord word) ∧ (exportedWord word).flatMap inner = exportedWordForm word := by
  unfold exportedWord exportedWordForm
  split
  · exact raisedForm alphanum
  · exact capitalizedForm alphanum

theorem joinedForm {ws : List (List Char)} {spelling parts : List Char → List Char}
    (each : ∀ w ∈ ws, Alphanum (spelling w) ∧ (spelling w).flatMap inner = parts w) :
    Alphanum (ws.flatMap spelling) ∧ (ws.flatMap spelling).flatMap inner = ws.flatMap parts := by
  induction ws with
  | nil => exact ⟨nofun, rfl⟩
  | cons w rest ih =>
      obtain ⟨⟨alphanum, own⟩, others⟩ := List.forall_mem_cons.mp each
      obtain ⟨alphanum', later⟩ := ih others
      rw [List.flatMap_cons, List.flatMap_append, List.flatMap_cons, own, later]
      exact ⟨List.forall_mem_append.mpr ⟨alphanum, alphanum'⟩, rfl⟩

variable {s t : String}

theorem pascalForm (plain : isPlainIdentifier s = true) :
    Alphanum (pascal s).toList ∧ (pascal s).toList.flatMap inner = form s := by
  rw [pascal, String.toList_ofList]
  exact joinedForm fun w member => capitalizedForm (wordAlphanum plain member).2

theorem exportedParts (plain : isPlainIdentifier s = true) :
    Alphanum (exported s).toList ∧ (exported s).toList.flatMap inner = exportedForm s := by
  rw [exported, String.toList_ofList]
  exact joinedForm fun w member => exportedWordParts (wordAlphanum plain member).2

section
variable (plain : isPlainIdentifier s = true) (plain' : isPlainIdentifier t = true)
include plain plain'

theorem pascalSame : pascal s = pascal t ↔ form s = form t := by
  obtain ⟨alphanum, parts⟩ := pascalForm plain
  obtain ⟨alphanum', parts'⟩ := pascalForm plain'
  rw [← parts, ← parts', innerInjective alphanum alphanum', String.toList_inj]

theorem exportedSame : exported s = exported t ↔ exportedForm s = exportedForm t := by
  obtain ⟨alphanum, parts⟩ := exportedParts plain
  obtain ⟨alphanum', parts'⟩ := exportedParts plain'
  rw [← parts, ← parts', innerInjective alphanum alphanum', String.toList_inj]

end

theorem camelPascal (plain : isPlainIdentifier s = true) :
    capitalized (camel s).toList = (pascal s).toList ∧
      uncapitalized (pascal s).toList = (camel s).toList := by
  have alphanum : ∀ w ∈ words s.toList, w ≠ [] ∧ Alphanum w := fun w member =>
    wordAlphanum plain member
  rw [pascal, camel]
  cases split : words s.toList with
  | nil => exact ⟨rfl, rfl⟩
  | cons first rest =>
      rw [split] at alphanum
      obtain ⟨some, each⟩ := alphanum first List.mem_cons_self
      obtain ⟨c, more, rfl⟩ := List.exists_cons_of_ne_nil some
      have own := each c List.mem_cons_self
      have cased := alphanumCased own
      simp only [String.toList_ofList, List.flatMap_cons, capitalized, uncapitalized,
        upperAlphanum own, lowerAlphanum own, List.cons_append, upperAlphanum cased.lower,
        lowerAlphanum cased.upper, cased.lowered, cased.raised]
      exact ⟨rfl, rfl⟩

theorem camelSame (plain : isPlainIdentifier s = true) (plain' : isPlainIdentifier t = true) :
    camel s = camel t ↔ form s = form t := by
  obtain ⟨up, down⟩ := camelPascal plain
  obtain ⟨up', down'⟩ := camelPascal plain'
  rw [← pascalSame plain plain', ← String.toList_inj, ← String.toList_inj]
  constructor
  · intro same
    rw [← up, ← up', same]
  · intro same
    rw [← down, ← down', same]

def isSnakeCharacter (c : Char) : Bool := c.isLower || c.isDigit

def isSnakeWord : List Char → Bool
  | [] => false
  | c :: rest => c.isLower && rest.all isSnakeCharacter

def isSnake (s : String) : Bool := (s.toList.splitOn '_').all isSnakeWord

structure SnakeCased (c : Char) : Prop where
  alphanumeric : isAlphanumeric c = true
  inside : inner c = [c]
  lower : c.toLower = c
  plain : c ≠ '_'
  leads : c.isLower = true → leading c = ['_', c]

theorem asciiSnake : ∀ n < 128, let c := Char.ofNat n
    isSnakeCharacter c = true → isAlphanumeric c = true ∧ inner c = [c] ∧ c.toLower = c ∧ c ≠ '_' ∧
      (c.isLower = true → leading c = ['_', c]) := by
  decide +kernel

theorem snakeCased {c : Char} (snake : isSnakeCharacter c = true) : SnakeCased c := by
  have alphanum : c.isAlphanum = true := by
    rcases Bool.or_eq_true_iff.mp snake with lower | digit
    · exact Bool.or_eq_true_iff.mpr (.inl (Bool.or_eq_true_iff.mpr (.inr lower)))
    · exact Bool.or_eq_true_iff.mpr (.inr digit)
  have known := asciiSnake c.toNat (alphanumAscii alphanum)
  rw [Char.ofNat_toNat] at known
  obtain ⟨alphanumeric, inside, lower, plain, leads⟩ := known snake
  exact { alphanumeric, inside, lower, plain, leads }

theorem wordsStep (cs : List Char) : words cs =
    match cs.dropWhile (!isAlphanumeric ·) with
    | [] => []
    | c :: rest =>
        (c :: rest.takeWhile isAlphanumeric) :: words (rest.dropWhile isAlphanumeric) := by
  rw [words]
  split
  · rename_i none
    rw [none]
  · rename_i found
    simp only [found]

theorem wordsNone : words [] = [] := wordsStep []

theorem wordsFirst {w : List Char} (some : w ≠ []) (each : ∀ c ∈ w, isAlphanumeric c = true) :
    words w = [w] ∧ ∀ rest, words (w ++ '_' :: rest) = w :: words rest := by
  obtain ⟨c, more, rfl⟩ := List.exists_cons_of_ne_nil some
  obtain ⟨first, others⟩ := List.forall_mem_cons.mp each
  have bar : isAlphanumeric '_' = false := by decide
  have blank (rest : List Char) : words ('_' :: rest) = words rest := by
    rw [wordsStep, wordsStep rest, List.dropWhile_cons_of_pos (by simp [bar])]
  constructor
  · rw [wordsStep, List.dropWhile_cons_of_neg (by simp [first])]
    simp only [List.takeWhile_eq_self_iff.mpr others, List.dropWhile_eq_nil_iff.mpr others,
      wordsNone]
  · intro rest
    rw [List.cons_append, wordsStep, List.dropWhile_cons_of_neg (by simp [first])]
    simp only [List.takeWhile_append_of_pos others, List.dropWhile_append_of_pos others,
      List.takeWhile_cons_of_neg (show ¬isAlphanumeric '_' = true by simp [bar]),
      List.dropWhile_cons_of_neg (show ¬isAlphanumeric '_' = true by simp [bar]),
      List.append_nil, blank]

theorem snakeWordFacts {w : List Char} (snake : isSnakeWord w = true) : w ≠ [] ∧
    (∀ c ∈ w, isSnakeCharacter c = true) ∧ ∀ c ∈ w.head?, c.isLower = true := by
  cases w with
  | nil => contradiction
  | cons c rest =>
      obtain ⟨lower, others⟩ := Bool.and_eq_true_iff.mp snake
      refine ⟨List.cons_ne_nil _ _, List.forall_mem_cons.mpr ⟨?_, List.all_eq_true.mp others⟩, ?_⟩
      · rw [isSnakeCharacter, lower, Bool.true_or]
      · rintro _ ⟨⟩
        exact lower

theorem wordsJoined {ws : List (List Char)} (snake : ∀ w ∈ ws, isSnakeWord w = true) :
    words (['_'].intercalate ws) = ws := by
  induction ws with
  | nil => exact wordsNone
  | cons w rest ih =>
      obtain ⟨first, others⟩ := List.forall_mem_cons.mp snake
      obtain ⟨some, each, -⟩ := snakeWordFacts first
      have word := wordsFirst some fun c member => (snakeCased (each c member)).alphanumeric
      cases rest with
      | nil => simpa using word.1
      | cons v more =>
          have split : ['_'].intercalate (w :: v :: more) =
              w ++ '_' :: ['_'].intercalate (v :: more) := by simp
          rw [split, word.2, ih others]

theorem snakeWords (snake : isSnake s = true) : words s.toList = s.toList.splitOn '_' := by
  have joined := wordsJoined (List.all_eq_true.mp snake)
  rwa [List.intercalate_splitOn] at joined

theorem wordFormSnake {w : List Char} (snake : isSnakeWord w = true) : wordForm w = '_' :: w := by
  obtain ⟨some, each, lower⟩ := snakeWordFacts snake
  obtain ⟨c, rest, rfl⟩ := List.exists_cons_of_ne_nil some
  obtain ⟨first, others⟩ := List.forall_mem_cons.mp each
  have same : rest.flatMap inner = rest := by
    rw [List.flatMap_def, List.map_congr_left fun c member => (snakeCased (others c member)).inside,
      ← List.flatMap_def, List.flatMap_singleton']
  rw [wordForm, (snakeCased first).leads (lower c rfl), same]
  rfl

theorem formSnake (snake : isSnake s = true) : form s = '_' :: s.toList := by
  have joined (ws : List (List Char)) (some : ws ≠ []) :
      ws.flatMap ('_' :: ·) = '_' :: ['_'].intercalate ws := by
    induction ws with
    | nil => contradiction
    | cons w rest ih =>
        cases rest with
        | nil => simp
        | cons v more =>
            rw [List.flatMap_cons, ih (List.cons_ne_nil _ _)]
            simp
  have own : (s.toList.splitOn '_').flatMap wordForm =
      (s.toList.splitOn '_').flatMap ('_' :: ·) := by
    rw [List.flatMap_def, List.flatMap_def, List.map_congr_left fun w member =>
      wordFormSnake (List.all_eq_true.mp snake w member)]
  rw [form, snakeWords snake, own, joined _ (List.splitOn_ne_nil _ _), List.intercalate_splitOn]

def spaced (cs : List Char) : List Char := cs.flatMap fun c => ['_', c]

theorem initialismsLower : ∀ i ∈ initialisms, i.toList.map Char.toLower = i.toList := by decide

theorem initialismsApart : ∀ i ∈ initialisms, ∀ j ∈ initialisms,
    spaced i.toList <+: spaced j.toList → i.toList = j.toList := by decide

theorem initialismsLetters : ∀ i ∈ initialisms, i.toList.all Char.isLower = true := by decide

theorem exportedFormSnake {w : List Char} (snake : isSnakeWord w = true) :
    exportedWordForm w = if String.ofList w ∈ initialisms then spaced w else '_' :: w := by
  obtain ⟨-, each, -⟩ := snakeWordFacts snake
  have lower : w.map Char.toLower = w := by
    rw [List.map_congr_left fun c member => (snakeCased (each c member)).lower, List.map_id']
  have listed : initialisms.any (sameLetters · (String.ofList w)) = true ↔
      String.ofList w ∈ initialisms := by
    rw [List.any_eq_true]
    constructor
    · rintro ⟨i, known, same⟩
      have equal := eq_of_beq same
      rw [initialismsLower i known, String.toList_ofList, lower] at equal
      rwa [← equal, String.ofList_toList]
    · intro known
      refine ⟨_, known, ?_⟩
      simp [sameLetters]
  rw [exportedWordForm]
  by_cases known : String.ofList w ∈ initialisms
  · have letters := initialismsLetters _ known
    rw [String.toList_ofList, List.all_eq_true] at letters
    rw [if_pos (listed.mpr known), if_pos known, spaced, List.flatMap_def, List.flatMap_def,
      List.map_congr_left fun c member => (snakeCased (each c member)).leads (letters c member)]
  · rw [if_neg (mt listed.mp known), if_neg known, wordFormSnake snake]

def Follows (cs : List Char) : Prop := ∀ c ∈ cs.head?, c = '_'

theorem wordSplit {w more : List Char} (free : '_' ∉ w) (follows : Follows more) :
    (w ++ more).takeWhile (· ≠ '_') = w ∧ (w ++ more).dropWhile (· ≠ '_') = more := by
  have each : ∀ c ∈ w, decide (c ≠ '_') = true := fun c member =>
    decide_eq_true fun same => free (same ▸ member)
  rw [List.takeWhile_append_of_pos each, List.dropWhile_append_of_pos each]
  cases more with
  | nil => exact ⟨List.append_nil w, rfl⟩
  | cons c rest =>
      obtain rfl := follows c rfl
      exact ⟨by rw [List.takeWhile_cons_of_neg (by decide), List.append_nil],
        List.dropWhile_cons_of_neg (by decide)⟩

theorem spacedApart {w v more more' : List Char} (long : 2 ≤ w.length) (long' : 2 ≤ v.length)
    (free : '_' ∉ v) : spaced w ++ more ≠ '_' :: v ++ more' := by
  obtain ⟨a, b, rest, rfl⟩ : ∃ a b rest, w = a :: b :: rest := by
    match w, long with
    | a :: b :: rest, _ => exact ⟨a, b, rest, rfl⟩
  obtain ⟨c, d, rest', rfl⟩ : ∃ c d rest, v = c :: d :: rest := by
    match v, long' with
    | c :: d :: rest, _ => exact ⟨c, d, rest, rfl⟩
  intro same
  simp only [spaced, List.flatMap_cons, List.cons_append, List.nil_append, List.cons.injEq,
    true_and] at same
  exact free (by simp [← same.2.1])

theorem snakeFirst {w v more more' : List Char} (one : isSnakeWord w = true)
    (other : isSnakeWord v = true) (long : 2 ≤ w.length) (long' : 2 ≤ v.length)
    (follows : Follows more) (follows' : Follows more')
    (same : exportedWordForm w ++ more = exportedWordForm v ++ more') : w = v ∧ more = more' := by
  have plain {u : List Char} (snake : isSnakeWord u = true) : '_' ∉ u := fun member =>
    (snakeCased ((snakeWordFacts snake).2.1 _ member)).plain rfl
  rw [exportedFormSnake one, exportedFormSnake other] at same
  split at same <;> split at same
  · rename_i known known'
    have equal : w = v := by
      have prefixes := List.prefix_or_prefix_of_prefix (List.prefix_append (spaced w) more)
        (same ▸ List.prefix_append (spaced v) more')
      rcases prefixes with begins | begins
      · simpa using initialismsApart _ known _ known' (by simpa using begins)
      · simpa using (initialismsApart _ known' _ known (by simpa using begins)).symm
    subst equal
    exact ⟨rfl, List.append_cancel_left same⟩
  · exact absurd same (spacedApart long long' (plain other))
  · exact absurd same.symm (spacedApart long' long (plain one))
  · have both : w ++ more = v ++ more' := (List.cons.inj same).2
    obtain ⟨word, rest⟩ := wordSplit (plain one) follows
    obtain ⟨word', rest'⟩ := wordSplit (plain other) follows'
    rw [both] at word rest
    exact ⟨word.symm.trans word', rest.symm.trans rest'⟩

def Long (w : List Char) : Prop := isSnakeWord w = true ∧ 2 ≤ w.length

theorem longFollows {ws : List (List Char)} (long : ∀ w ∈ ws, Long w) :
    Follows (ws.flatMap exportedWordForm) := by
  cases ws with
  | nil => nofun
  | cons w rest =>
      have snake := (long w List.mem_cons_self).1
      obtain ⟨some, -, -⟩ := snakeWordFacts snake
      obtain ⟨c, more, rfl⟩ := List.exists_cons_of_ne_nil some
      rw [List.flatMap_cons, exportedFormSnake snake]
      split <;> rintro _ ⟨⟩ <;> rfl

theorem longApart {ws vs : List (List Char)} (long : ∀ w ∈ ws, Long w) (long' : ∀ v ∈ vs, Long v)
    (same : ws.flatMap exportedWordForm = vs.flatMap exportedWordForm) : ws = vs := by
  have shown {w : List Char} (long : Long w) (more : List Char) :
      exportedWordForm w ++ more ≠ [] := by
    rw [exportedFormSnake long.1]
    obtain ⟨c, rest, rfl⟩ := List.exists_cons_of_ne_nil (snakeWordFacts long.1).1
    split <;> exact List.cons_ne_nil _ _
  induction ws generalizing vs with
  | nil =>
      cases vs with
      | nil => rfl
      | cons v rest => exact absurd same.symm (shown (long' v List.mem_cons_self) _)
  | cons w rest ih =>
      cases vs with
      | nil => exact absurd same (shown (long w List.mem_cons_self) _)
      | cons v more =>
          obtain ⟨first, others⟩ := List.forall_mem_cons.mp long
          obtain ⟨first', others'⟩ := List.forall_mem_cons.mp long'
          obtain ⟨rfl, later⟩ := snakeFirst first.1 first'.1 first.2 first'.2 (longFollows others)
            (longFollows others') same
          rw [ih others others' later]

def isLongSnake (s : String) : Bool :=
  (s.toList.splitOn '_').all fun w => isSnakeWord w && 2 ≤ w.length

theorem exportedFormApart (long : isLongSnake s = true) (long' : isLongSnake t = true) :
    exportedForm s = exportedForm t ↔ s = t := by
  refine ⟨fun same => ?_, congrArg exportedForm⟩
  have each {u : String} (long : isLongSnake u = true) : ∀ w ∈ u.toList.splitOn '_', Long w := by
    intro w member
    have known := List.all_eq_true.mp long w member
    simpa [Long] using known
  have snake {u : String} (long : isLongSnake u = true) : isSnake u = true :=
    List.all_eq_true.mpr fun w member => (each long w member).1
  rw [exportedForm, exportedForm, snakeWords (snake long), snakeWords (snake long')] at same
  have words := longApart (each long) (each long') same
  have joined := congrArg (['_'].intercalate ·) words
  simp only [List.intercalate_splitOn] at joined
  exact String.toList_inj.mp joined

end RestScaffold.Naming
