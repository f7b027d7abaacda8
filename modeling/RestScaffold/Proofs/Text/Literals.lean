/-! String literals on a line of code, whatever the language. What stands outside of them only has
to be free of the mark that begins a literal. -/
namespace RestScaffold.Text

/-- How the literals of a language are read: what begins one, its value and the text after it, given
what follows the mark, and the value that a text is to have. -/
structure LiteralKind (Value : Type) where
  mark : Char
  value : String → Value
  read : List Char → Option (Value × List Char)
  shorter : ∀ {cs rest : List Char} {value : Value},
    read cs = some (value, rest) → rest.length < cs.length

variable {Value : Type} {k : LiteralKind Value}

def literals (k : LiteralKind Value) (cs : List Char) : Option (List Value) :=
  match cs with
  | [] => some []
  | c :: rest =>
      if c = k.mark then
        match literal : k.read rest with
        | none => none
        | some (value, after) =>
            have : after.length < rest.length := k.shorter literal
            (literals k after).map (value :: ·)
      else literals k rest
termination_by cs.length
decreasing_by all_goals simp only [List.length_cons]; omega

def Spells (k : LiteralKind Value) (cs : List Char) (texts : List String) : Prop :=
  ∀ rest, literals k (cs ++ rest) = (literals k rest).map (texts.map k.value ++ ·)

variable {cs more : List Char} {texts others : List String}

theorem literalsOpened {rest after : List Char} {value : Value}
    (read : k.read rest = some (value, after)) :
    literals k (k.mark :: rest) = (literals k after).map (value :: ·) := by
  rw [literals, if_pos rfl]
  split
  · rename_i none
    rw [read] at none
    contradiction
  · rename_i known
    rw [read] at known
    cases known
    rfl

theorem spellsCode (bare : k.mark ∉ cs) : Spells k cs [] := by
  intro rest
  induction cs with
  | nil => simp
  | cons c more ih =>
      obtain ⟨first, free⟩ := not_or.mp (mt List.mem_cons.mpr bare)
      rw [List.cons_append, literals, if_neg (Ne.symm first), ih free]

theorem spellsLiteral {text : String}
    (reads : ∀ rest, k.read (cs ++ rest) = some (k.value text, rest)) :
    Spells k (k.mark :: cs) [text] := by
  intro rest
  rw [List.cons_append, literalsOpened (reads rest)]
  rfl

theorem Spells.append (first : Spells k cs texts) (last : Spells k more others) :
    Spells k (cs ++ more) (texts ++ others) := by
  intro rest
  rw [List.append_assoc, first, last, Option.map_map, List.map_append]
  exact congrArg (Option.map · _) (funext fun _ => (List.append_assoc ..).symm)

theorem Spells.whole (spells : Spells k cs texts) : literals k cs = some (texts.map k.value) := by
  have read := spells []
  rwa [List.append_nil, literals, Option.map_some, List.append_nil] at read

theorem Spells.broken (spells : Spells k cs texts) {rest : List Char}
    (endless : k.read rest = none) :
    literals k (cs ++ k.mark :: rest) = none := by
  have opened : literals k (k.mark :: rest) = none := by
    rw [literals, if_pos rfl]
    split
    · rfl
    · rename_i known
      rw [endless] at known
      contradiction
  rw [spells, opened, Option.map_none]

theorem Spells.followed (spells : Spells k cs texts) (bare : k.mark ∉ more) :
    Spells k (cs ++ more) texts := by
  have all := spells.append (spellsCode bare)
  rwa [List.append_nil] at all

theorem Spells.inside (spells : Spells k cs texts) (front back : List Char) (bare : k.mark ∉ front)
    (bare' : k.mark ∉ back) : Spells k (front ++ cs ++ back) texts :=
  ((spellsCode bare).append spells).followed bare'

theorem spellsListed (separator : String) (bare : k.mark ∉ separator.toList)
    (parts : List (String × List String)) (each : ∀ p ∈ parts, Spells k p.1.toList p.2) :
    Spells k (separator.intercalate (parts.map Prod.fst)).toList (parts.flatMap Prod.snd) := by
  induction parts with
  | nil => exact spellsCode List.not_mem_nil
  | cons p rest ih =>
      obtain ⟨first, last⟩ := List.forall_mem_cons.mp each
      cases rest with
      | nil => simpa using first
      | cons q more =>
          rw [List.map_cons, List.map_cons, String.intercalate_cons_cons, String.toList_append,
            String.toList_append, ← List.map_cons, List.flatMap_cons]
          exact (first.followed bare).append (ih last)

end RestScaffold.Text
