import RestScaffold.Proofs.Code.Reading
import RestScaffold.Proofs.Server.Vocabulary

/-! What the words of the server's code refer to, beyond what a file brings along for itself. -/
namespace RestScaffold
open Code Naming Text Word

inductive Reference where
  | imported (package : Package) (name : String)
  | param (field : String)
  | access (name : String)
  | method (name : String)
  | function (name : String)
  deriving DecidableEq, Repr

namespace Go

def builtins : List (List Char) :=
  [['l', 'e', 'n'], ['m', 'a', 'k', 'e'], ['a', 'p', 'p', 'e', 'n', 'd'], ['i', 'n', 't', '1', '6'],
    ['i', 'n', 't', '3', '2'], ['i', 'n', 't', '6', '4'], ['f', 'l', 'o', 'a', 't', '3', '2'],
    ['f', 'l', 'o', 'a', 't', '6', '4'], ['S', 'c', 'a', 'n'],
    ['Q', 'u', 'e', 'r', 'y', 'R', 'o', 'w', 'C', 'o', 'n', 't', 'e', 'x', 't']]

def generated? : List Char → Option Package
  | ['d', 't', 'o'] => some .dto
  | ['m', 'o', 'd', 'e', 'l', 's'] => some .models
  | ['r', 'e', 'p', 'o', 's', 'i', 't', 'o', 'r', 'y'] => some .repository
  | ['h', 'a', 'n', 'd', 'l', 'e', 'r', 's'] => some .handlers
  | _ => none

def refers (follow : Follow) : List (List Char) → Option Reference
  | [name] =>
      if follow = .call ∧ name ∉ builtins then some (.function (String.ofList name)) else none
  | [['p'], name] => some (.param (String.ofList name))
  | [['r'], name] => if follow = .call then some (.method (String.ofList name)) else none
  | [qualifier, name] => (generated? qualifier).map (.imported · (String.ofList name))
  | [['h'], ['r', 'e', 'p', 'o'], name] => some (.access (String.ofList name))
  | _ => none

def reference? (w : Word) : Option Reference := refers w.follow (w.letters.splitOn '.')

instance : Joins Raw where
  empty := by decide
  append one other := by
    refine ⟨?_, oneLineAppend.mpr ⟨one.2, other.2⟩⟩
    simp [one.1, other.1]

theorem wordlyRaw {s : String} (wordly : Wordly s.toList) : Raw s :=
  ⟨wordly.without (by decide), wordly.without (by decide)⟩

/-- What the word refers to is there. -/
def Settled (D : Reference → Prop) (w : Word) : Prop := ∀ ref, reference? w = some ref → D ref

def within (refs : List Reference) (w : Word) : Bool :=
  match reference? w with
  | none => true
  | some ref => refs.contains ref

section
variable {D : Reference → Prop} {refs : List Reference} {n : Char} {name : String} {p : Package}

theorem withinSettled (known : ∀ ref ∈ refs, D ref) (holds : within refs w = true) :
    Settled D w := by
  intro ref refers
  rw [within, refers] at holds
  exact known ref (List.contains_iff_mem.mp holds)

theorem free (w : Word) (holds : within [] w = true) : Settled D w :=
  withinSettled (List.forall_mem_nil D) holds

theorem wordlyInside {cs : List Char} (wordly : Wordly cs) : ∀ c ∈ cs, inWord c = true :=
  fun c member => by simp [inWord, wordly c member]

theorem wordlyFixed {cs : List Char} (fixed : cs.all isWordly = true) :
    Wordly (String.ofList cs).toList := by
  rw [String.toList_ofList]
  exact List.all_eq_true.mp fixed

theorem wordlyAfter {cs : List Char} (fixed : cs.all isWordly = true)
    (wordly : Wordly name.toList) :
    Wordly (String.ofList cs ++ name).toList := by
  rw [String.toList_append]
  exact List.forall_mem_append.mpr ⟨wordlyFixed fixed, wordly⟩

theorem wordlyBefore {cs : List Char} (wordly : Wordly name.toList)
    (fixed : cs.all isWordly = true) :
    Wordly (name ++ String.ofList cs).toList := by
  rw [String.toList_append]
  exact List.forall_mem_append.mpr ⟨wordly, wordlyFixed fixed⟩

theorem referenceBare (wordly : Wordly name.toList) (follow : Follow) :
    reference? ⟨name.toList, follow⟩ = refers follow [name.toList] := by
  rw [reference?, List.splitOn_eq_singleton (wordly.without (by decide))]

theorem referenceSelected {qualifier : String} (plain : Wordly qualifier.toList)
    (wordly : Wordly name.toList) (follow : Follow) :
    reference? ⟨(qualifier ++ "." ++ name).toList, follow⟩ =
      refers follow [qualifier.toList, name.toList] := by
  have split : (qualifier ++ "." ++ name).toList = qualifier.toList ++ '.' :: name.toList := by
    simp
  rw [reference?, split, List.splitOn_append_cons_self_of_not_mem (plain.without (by decide)),
    List.splitOn_eq_singleton (wordly.without (by decide))]

theorem fitsFree (inside : name.toList.all inWord = true) (outside : inWord n = false)
    (holds : within [] ⟨name.toList, .of n⟩ = true) : FitsWord (Settled D) n name :=
  ⟨List.all_eq_true.mp inside, outside, free _ holds⟩

theorem fitsNamed (wordly : Wordly name.toList) (outside : inWord n = false) (bare : n ≠ '(') :
    FitsWord (Settled D) n name := by
  refine ⟨wordlyInside wordly, outside, fun ref referred => ?_⟩
  have follow : Follow.of n ≠ .call := by
    unfold Follow.of
    split_ifs <;> simp_all
  rw [referenceBare wordly, refers, if_neg fun both => follow both.1] at referred
  contradiction

theorem fitsFunction (wordly : Wordly name.toList) (known : D (.function name))
    (outside : inWord n = false) : FitsWord (Settled D) n name := by
  refine ⟨wordlyInside wordly, outside, fun ref referred => ?_⟩
  rw [referenceBare wordly, refers] at referred
  split at referred
  · obtain rfl := Option.some.inj referred
    rwa [String.ofList_toList]
  · contradiction

theorem fitsSelected {qualifier : String} (plain : Wordly qualifier.toList)
    (wordly : Wordly name.toList) (outside : inWord n = false)
    (known : ∀ ref, refers (.of n) [qualifier.toList, name.toList] = some ref → D ref) :
    FitsWord (Settled D) n (qualifier ++ "." ++ name) := by
  have dot : inWord '.' = true := by decide
  refine ⟨?_, outside, fun ref referred => known ref ?_⟩
  · simp only [String.toList_append]
    exact List.forall_mem_append.mpr ⟨List.forall_mem_append.mpr
      ⟨wordlyInside plain, List.forall_mem_singleton.mpr dot⟩, wordlyInside wordly⟩
  · rwa [referenceSelected plain wordly] at referred

theorem fitsParam (wordly : Wordly name.toList) (known : D (.param name))
    (outside : inWord n = false) : FitsWord (Settled D) n ("p." ++ name) := by
  have plain : Wordly "p".toList := wordlyFixed (by decide)
  have dotted : "p." = "p" ++ "." := by decide
  rw [dotted]
  refine fitsSelected plain wordly outside fun ref referred => ?_
  obtain rfl := Option.some.inj referred
  rwa [String.ofList_toList]

theorem fitsLocal {qualifier : String} (plain : Wordly qualifier.toList)
    (wordly : Wordly name.toList) (outside : inWord n = false)
    (other : refers (.of n) [qualifier.toList, name.toList] = none) :
    FitsWord (Settled D) n (qualifier ++ "." ++ name) := by
  refine fitsSelected plain wordly outside fun ref referred => ?_
  rw [other] at referred
  contradiction

theorem fitsRowField (wordly : Wordly name.toList) (outside : inWord n = false) :
    FitsWord (Settled D) n ("m." ++ name) := by
  have dotted : "m." = "m" ++ "." := by decide
  rw [dotted]
  exact fitsLocal (wordlyFixed (by decide)) wordly outside rfl

theorem fitsRequestField (wordly : Wordly name.toList) (outside : inWord n = false) :
    FitsWord (Settled D) n ("req." ++ name) := by
  have dotted : "req." = "req" ++ "." := by decide
  rw [dotted]
  exact fitsLocal (wordlyFixed (by decide)) wordly outside rfl

theorem refersImported (follow : Follow) (p : Package) (name : List Char) :
    refers follow [p.name.toList, name] =
      if p ∈ [.dto, .models, .repository, .handlers] then
        some (.imported p (String.ofList name)) else none := by
  cases p <;> simp only [Package.name, String.reduceToList] <;> rfl

theorem fitsImported (wordly : Wordly name.toList)
    (known : p ∈ [.dto, .models, .repository, .handlers] → D (.imported p name))
    (outside : inWord n = false) : FitsWord (Settled D) n (p.name ++ "." ++ name) := by
  have plain : Wordly p.name.toList := by cases p <;> exact wordlyFixed (by decide)
  refine fitsSelected plain wordly outside fun ref referred => ?_
  rw [refersImported, String.ofList_toList] at referred
  split at referred
  · obtain rfl := Option.some.inj referred
    exact known ‹_›
  · contradiction

theorem fitsForeign {cs : List Char} (other : p ∉ [.dto, .models, .repository, .handlers])
    (wordly : cs.all isWordly = true) (outside : inWord n = false) :
    FitsWord (Settled D) n (p.name ++ "." ++ String.ofList cs) :=
  fitsImported (wordlyFixed wordly)
    (fun known => absurd known other) outside

end
end Go
end RestScaffold
