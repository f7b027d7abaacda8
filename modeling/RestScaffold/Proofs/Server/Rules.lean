import RestScaffold.Proofs.Code.Struct
import RestScaffold.Proofs.Server.Wording
import RestScaffold.Server.Dto

/-! What the fields of requests are checked for: rules with commas between them, and words with
blanks between them in the rule that lists values. Each part is read back, and all of it can stand
in a tag unless a listed value cannot. -/
namespace RestScaffold
open Catalog Code Text

namespace Go

def readRule (cs : List Char) : String × List String :=
  (upTo '=' cs,
    if '=' ∈ cs then
      (((cs.dropWhile (· ≠ '=')).drop 1).splitOn ' ').map String.ofList
    else [])

def readRules (text : String) : List (String × List String) :=
  (text.toList.splitOn ',').map readRule

def ruleText (rule : String × List String) : String :=
  if rule.2.isEmpty then rule.1 else rule.1 ++ "=" ++ " ".intercalate rule.2

structure RuleFits (rule : String × List String) : Prop where
  name : '=' ∉ rule.1.toList ∧ ',' ∉ rule.1.toList
  words : ∀ w ∈ rule.2, ' ' ∉ w.toList ∧ ',' ∉ w.toList

theorem splitParts (separator : String) (c : Char) (single : separator.toList = [c])
    {parts : List String} (some : parts ≠ []) (bare : ∀ p ∈ parts, c ∉ p.toList) :
    (separator.intercalate parts).toList.splitOn c = parts.map String.toList := by
  rw [String.toList_intercalate, single]
  exact List.splitOn_intercalate c (List.forall_mem_map.mpr bare) (by simpa using some)

theorem ruleRead {rule : String × List String} (fits : RuleFits rule) :
    readRule (ruleText rule).toList = rule := by
  obtain ⟨name, words⟩ := rule
  have whole : name.toList.takeWhile (· ≠ '=') = name.toList := by
    refine List.takeWhile_eq_self_iff.mpr fun c member => decide_eq_true fun same => ?_
    exact fits.name.1 (same ▸ member)
  cases words with
  | nil =>
      have bare : '=' ∉ name.toList := fits.name.1
      show readRule name.toList = _
      rw [readRule, if_neg bare, upTo, whole, String.ofList_toList]
  | cons w more =>
      have text : (ruleText (name, w :: more)).toList =
          name.toList ++ '=' :: (" ".intercalate (w :: more)).toList := by
        rw [ruleText, if_neg (by simp), String.toList_append, String.toList_append,
          List.append_assoc]
        rfl
      have left : ((name.toList ++ '=' :: (" ".intercalate (w :: more)).toList).dropWhile
          (· ≠ '=')).drop 1 = (" ".intercalate (w :: more)).toList := by
        rw [List.dropWhile_append_of_pos (List.takeWhile_eq_self_iff.mp whole),
          List.dropWhile_cons_of_neg (by decide)]
        rfl
      have parts := splitParts " " ' ' rfl (List.cons_ne_nil w more)
        fun p member => (fits.words p member).1
      rw [text, readRule, if_pos (by simp), upToFirst fits.name.1, left, parts, List.map_map,
        String.ofList_toList]
      simp [Function.comp_def]

theorem rulesRead {rules : List (String × List String)} (some : rules ≠ [])
    (fits : ∀ r ∈ rules, RuleFits r) :
    readRules (",".intercalate (rules.map ruleText)) = rules := by
  have bare : ∀ t ∈ rules.map ruleText, ',' ∉ t.toList := by
    refine List.forall_mem_map.mpr fun r member => ?_
    have name := (fits r member).name.2
    have words : ',' ∉ (" ".intercalate r.2).toList :=
      freeIntercalate (by decide) fun w inside => ((fits r member).words w inside).2
    unfold ruleText
    split
    · exact name
    · simp only [String.toList_append, List.mem_append, not_or]
      exact ⟨⟨name, by decide⟩, words⟩
  rw [readRules, splitParts "," ',' rfl (by simpa using some) bare, List.map_map,
    List.map_map]
  refine (List.map_congr_left fun r member => ?_).trans (List.map_id rules)
  exact ruleRead (fits r member)

def isTagCharacter (c : Char) : Bool := c ≠ '`' && c ≠ '"' && c ≠ '\n' && c ≠ '\\'

theorem taggedEach {s : String} : Tagged s ↔ ∀ c ∈ s.toList, isTagCharacter c = true := by
  simp only [Tagged, GoString.Literal, isTagCharacter, Bool.and_eq_true, decide_eq_true_eq,
    and_assoc]
  constructor
  · rintro ⟨free, literal⟩ c member
    exact ⟨fun same => free (same ▸ member), literal c member⟩
  · exact fun each => ⟨fun member => (each _ member).1 rfl, fun c member => (each c member).2⟩

theorem taggedAppend {s t : String} : Tagged (s ++ t) ↔ Tagged s ∧ Tagged t := by
  simp only [taggedEach, String.toList_append, List.forall_mem_append]

instance : Joins Tagged := ⟨by decide, fun one other => taggedAppend.mpr ⟨one, other⟩⟩

theorem Tagged.oneLine {s : String} (tagged : Tagged s) : OneLine s := fun feed =>
  (tagged.2 _ feed).2.1 rfl

theorem taggedIntercalate {separator : String} {parts : List String} (between : Tagged separator) :
    Tagged (separator.intercalate parts) ↔ ∀ s ∈ parts, Tagged s := by
  refine ⟨fun whole => ?_, joinsIntercalate between⟩
  induction parts with
  | nil => nofun
  | cons s rest ih =>
      cases rest with
      | nil => simpa using whole
      | cons t more =>
          rw [String.intercalate_cons_cons, taggedAppend, taggedAppend] at whole
          exact List.forall_mem_cons.mpr ⟨whole.1.1, ih whole.2⟩

theorem taggedFree {s : String} (backquote : '`' ∉ s.toList) (quote : '"' ∉ s.toList)
    (feed : OneLine s) (slash : '\\' ∉ s.toList) : Tagged s :=
  ⟨backquote, fun _ member => ⟨fun same => quote (same ▸ member), fun same => feed (same ▸ member),
    fun same => slash (same ▸ member)⟩⟩

theorem wordlyTagged {s : String} (wordly : Naming.Wordly s.toList) : Tagged s :=
  taggedFree (wordly.without (by decide)) (wordly.without (by decide)) (wordly.without (by decide))
    (wordly.without (by decide))

end Go

def Numerical (cs : List Char) : Prop := ∀ c ∈ cs, c.isAlphanum = true ∨ c = '.' ∨ c = '-'

theorem digitsNumerical (n : Nat) : Numerical (Nat.toDigits 10 n) := fun c member => by
  have digit : c.isDigit = true := Nat.isDigit_of_mem_toDigits (by decide) (by decide) member
  exact .inl (by simp [Char.isAlphanum, digit])

theorem numberNumerical (n : Nat) : Numerical (toString n).toList := by
  have digits := digitsNumerical n
  rwa [← Nat.toList_repr] at digits

theorem decimalNumerical (d : Double.Decimal) : Numerical d.text.toList := by
  have digits := digitsNumerical d.digits
  have zeros (n : Nat) : Numerical (List.replicate n '0') := fun c member => by
    rw [List.eq_of_mem_replicate member]
    exact .inl rfl
  unfold Double.Decimal.text
  dsimp only
  split
  · rw [String.toList_ofList]
    exact List.forall_mem_append.mpr ⟨digits, zeros _⟩
  · have padded (n : Nat) : Numerical (List.replicate n '0' ++ Nat.toDigits 10 d.digits) :=
      List.forall_mem_append.mpr ⟨zeros n, digits⟩
    rw [String.toList_ofList]
    split
    · exact fun c member => padded _ c (List.mem_of_mem_take member)
    · refine List.forall_mem_append.mpr ⟨fun c member => padded _ c (List.mem_of_mem_take member),
        List.forall_mem_cons.mpr ⟨.inr (.inl rfl), fun c member => ?_⟩⟩
      have inside := (List.dropWhile_sublist _).subset (List.mem_reverse.mp member)
      exact padded _ c (List.mem_of_mem_drop (List.mem_reverse.mp inside))

theorem doubleNumerical (d : Double) : Numerical d.text.toList := by
  have sign : Numerical (if d.negative then "-" else "").toList := by
    split
    · exact List.forall_mem_singleton.mpr (.inr (.inr rfl))
    · exact nofun
  have letters : ∀ name ∈ ["NaN", "inf"], name.toList.all Char.isAlphanum = true := by decide
  have named : ∀ name ∈ ["NaN", "inf"], Numerical name.toList := fun name known _ member =>
    .inl (List.all_eq_true.mp (letters name known) _ member)
  have size : Numerical (if d.isSpecial then "inf"
      else if d.significand = 0 then "0" else d.shortest.text).toList := by
    split
    · exact named _ (by decide)
    split
    · exact List.forall_mem_singleton.mpr (.inl rfl)
    · exact decimalNumerical _
  rw [Double.text]
  split
  · exact named _ (by decide)
  · rw [String.toList_append]
    exact List.forall_mem_append.mpr ⟨sign, size⟩

theorem Numerical.without {cs : List Char} (numerical : Numerical cs) {c : Char}
    (odd : c.isAlphanum = false ∧ c ≠ '.' ∧ c ≠ '-') : c ∉ cs := by
  intro member
  rcases numerical c member with digit | point | sign
  · exact absurd digit (by simp [odd.1])
  · exact odd.2.1 point
  · exact odd.2.2 sign

namespace Server.Dto
open Go

variable {v : ValidationRules} {c : ColumnShape} {required : Bool}

def enumValues (v : ValidationRules) (c : ColumnShape) : List String :=
  (v.enums.get? c.name).getD []

def ruleList (v : ValidationRules) (c : ColumnShape) : List (String × List String) :=
  (if (StorageType.ofText c.dataType).isTextual then
    ((v.minLength.get? c.name).map fun n => ("min", [toString n])).toList ++
      ((lengthLimit v c).map fun n => ("max", [toString n])).toList
  else []) ++
  (if (StorageType.ofText c.dataType).isNumeric then
    ((v.minValue.get? c.name).map fun d => ("gte", [d.text])).toList ++
      ((v.maxValue.get? c.name).map fun d => ("lte", [d.text])).toList
  else []) ++
  (if v.emailFields.contains c.name then [("email", [])] else []) ++
  (if v.urlFields.contains c.name then [("url", [])] else []) ++
  (if v.uuidFields.contains c.name then [("uuid", [])] else []) ++
  (if (enumValues v c).isEmpty then [] else [("oneof", enumValues v c)])

def bindingRules (v : ValidationRules) (c : ColumnShape) (required : Bool) :
    List (String × List String) :=
  (if required then "required" else "omitempty", []) :: ruleList v c

theorem ruleWord (name word : String) : ruleText (name, [word]) = name ++ "=" ++ word := by
  simp [ruleText]

theorem ruleBare (name : String) : ruleText (name, []) = name := rfl

theorem rulesText (v : ValidationRules) (c : ColumnShape) :
    rules v c = (ruleList v c).map ruleText := by
  have lengths : lengthRules v c = (if (StorageType.ofText c.dataType).isTextual then
      ((v.minLength.get? c.name).map fun n => ("min", [toString n])).toList ++
        ((lengthLimit v c).map fun n => ("max", [toString n])).toList
      else []).map ruleText := by
    unfold lengthRules
    split
    · cases v.minLength.get? c.name <;> cases lengthLimit v c <;> simp [ruleWord]
    · rfl
  have values : valueRules v c = (if (StorageType.ofText c.dataType).isNumeric then
      ((v.minValue.get? c.name).map fun d => ("gte", [d.text])).toList ++
        ((v.maxValue.get? c.name).map fun d => ("lte", [d.text])).toList
      else []).map ruleText := by
    unfold valueRules
    split
    · cases v.minValue.get? c.name <;> cases v.maxValue.get? c.name <;> simp [ruleWord]
    · rfl
  have formats : formatRules v c =
      ((if v.emailFields.contains c.name then [("email", [])] else []) ++
      (if v.urlFields.contains c.name then [("url", [])] else []) ++
      (if v.uuidFields.contains c.name then [("uuid", [])] else [])).map ruleText := by
    unfold formatRules
    split <;> split <;> split <;> rfl
  have enums : enumRules v c =
      (if (enumValues v c).isEmpty then [] else [("oneof", enumValues v c)]).map ruleText := by
    unfold enumRules enumValues
    cases v.enums.get? c.name with
    | none => rfl
    | some values => cases values <;> rfl
  rw [rules, lengths, values, formats, enums, ruleList]
  simp only [List.map_append, List.append_assoc]

theorem bindingOf : binding v c required =
    if required = true ∨ ruleList v c ≠ [] then
      some (",".intercalate ((bindingRules v c required).map ruleText))
    else none := by
  unfold binding
  rw [rulesText, bindingRules]
  cases required with
  | true => simp [ruleBare]
  | false =>
      cases ruleList v c with
      | nil => rfl
      | cons r more => simp [ruleBare]

theorem bindingNone (none : binding v c required = none) : enumValues v c = [] := by
  rw [bindingOf, ite_eq_right_iff] at none
  by_contra some
  have listed : ("oneof", enumValues v c) ∈ ruleList v c := by
    refine List.mem_append_right _ ?_
    rw [if_neg (by simpa using some)]
    exact List.mem_singleton_self _
  exact absurd (none (.inr (List.ne_nil_of_mem listed))) (by simp)

def ruleNames : List String :=
  ["required", "omitempty", "min", "max", "gte", "lte", "email", "url", "uuid", "oneof"]

theorem ruleListed {rule : String × List String} (member : rule ∈ bindingRules v c required) :
    rule.1 ∈ ruleNames ∧ ((∀ w ∈ rule.2, Numerical w.toList) ∨ rule.2 = enumValues v c) := by
  simp only [bindingRules, ruleList, List.mem_cons, List.mem_append, List.mem_ite_nil_right,
    List.mem_ite_nil_left, Option.mem_toList, Option.map_eq_some_iff, List.not_mem_nil,
    or_false] at member
  rcases member with rfl | ((((⟨-, ⟨n, -, rfl⟩ | ⟨n, -, rfl⟩⟩ | ⟨-, ⟨d, -, rfl⟩ | ⟨d, -, rfl⟩⟩) |
    ⟨-, rfl⟩) | ⟨-, rfl⟩) | ⟨-, rfl⟩) | ⟨-, rfl⟩
  · cases required <;> exact ⟨by simp [ruleNames], .inl nofun⟩
  · exact ⟨by simp [ruleNames], .inl (List.forall_mem_singleton.mpr (numberNumerical n))⟩
  · exact ⟨by simp [ruleNames], .inl (List.forall_mem_singleton.mpr (numberNumerical n))⟩
  · exact ⟨by simp [ruleNames], .inl (List.forall_mem_singleton.mpr (doubleNumerical d))⟩
  · exact ⟨by simp [ruleNames], .inl (List.forall_mem_singleton.mpr (doubleNumerical d))⟩
  · exact ⟨by simp [ruleNames], .inl nofun⟩
  · exact ⟨by simp [ruleNames], .inl nofun⟩
  · exact ⟨by simp [ruleNames], .inl nofun⟩
  · exact ⟨by simp [ruleNames], .inr rfl⟩

theorem singleWord {s : String} (single : isSingleWord s = true) :
    s ≠ "" ∧ ' ' ∉ s.toList ∧ ',' ∉ s.toList ∧ '"' ∉ s.toList ∧ OneLine s := by
  simp only [isSingleWord, Bool.and_eq_true, Bool.not_eq_true', List.all_eq_true,
    bne_iff_ne] at single
  obtain ⟨some, each⟩ := single
  refine ⟨fun none => ?_, fun member => ?_, fun member => ?_, fun member => ?_, fun member => ?_⟩
  · rw [none] at some
    contradiction
  · exact absurd (each _ member).1.1 (by decide)
  · exact (each _ member).1.2 rfl
  · exact (each _ member).2 rfl
  · exact absurd (each _ member).1.1 (by decide)

section
variable (single : ∀ w ∈ enumValues v c, isSingleWord w = true)
include single

theorem bindingFits : ∀ rule ∈ bindingRules v c required, RuleFits rule := by
  intro rule member
  obtain ⟨name, words⟩ := ruleListed member
  have fixed : ∀ name ∈ ruleNames, '=' ∉ name.toList ∧ ',' ∉ name.toList := by decide
  refine ⟨fixed _ name, fun w inside => ?_⟩
  rcases words with number | listed
  · exact ⟨(number w inside).without (by decide), (number w inside).without (by decide)⟩
  · obtain ⟨-, blank, comma, -⟩ := singleWord (single w (listed ▸ inside))
    exact ⟨blank, comma⟩

theorem bindingRead {b : String} (made : binding v c required = some b) :
    readRules b = bindingRules v c required := by
  rw [bindingOf] at made
  split at made
  · cases made
    exact rulesRead (List.cons_ne_nil _ _) (bindingFits single)
  · contradiction

theorem bindingOneLine {b : String} (made : binding v c required = some b) : OneLine b := by
  have fixed : ∀ name ∈ ruleNames, OneLine name := by decide
  have equals : OneLine "=" := by decide
  rw [bindingOf] at made
  split at made
  · cases made
    refine oneLineIntercalate (by decide) (List.forall_mem_map.mpr fun rule member => ?_)
    obtain ⟨name, words⟩ := ruleListed member
    have each : ∀ w ∈ rule.2, OneLine w := fun w inside => by
      rcases words with number | listed
      · exact (number w inside).without (by decide)
      · obtain ⟨-, -, -, -, oneLine⟩ := singleWord (single w (listed ▸ inside))
        exact oneLine
    unfold ruleText
    split
    · exact fixed _ name
    · have listed : OneLine (" ".intercalate rule.2) := oneLineIntercalate (by decide) each
      simp [fixed _ name, equals, listed]
  · contradiction

theorem wordTagged {w : String} (member : w ∈ enumValues v c) :
    Tagged w ↔ '`' ∉ w.toList ∧ '\\' ∉ w.toList := by
  obtain ⟨-, -, -, quote, oneLine⟩ := singleWord (single w member)
  refine and_congr_right fun _ => ⟨fun literal inside => (literal _ inside).2.2 rfl,
    fun free c inside => ⟨?_, ?_, ?_⟩⟩
  · exact fun same => quote (same ▸ inside)
  · exact fun same => oneLine (same ▸ inside)
  · exact fun same => free (same ▸ inside)

end

theorem numericalTagged {s : String} (numerical : Numerical s.toList) : Tagged s :=
  taggedFree (numerical.without (by decide)) (numerical.without (by decide))
    (numerical.without (by decide)) (numerical.without (by decide))

theorem ruleTagged {rule : String × List String} (name : Tagged rule.1) :
    Tagged (ruleText rule) ↔ ∀ w ∈ rule.2, Tagged w := by
  have equals : Tagged "=" := by decide
  have blank : Tagged " " := by decide
  unfold ruleText
  split
  · rename_i none
    simp [List.isEmpty_iff.mp none, name]
  · rw [taggedAppend, taggedAppend, taggedIntercalate blank]
    simp [name, equals]

theorem bindingTagged : (∀ b, binding v c required = some b → Tagged b) ↔
    ∀ w ∈ enumValues v c, Tagged w := by
  have fixed : ∀ name ∈ ruleNames, Tagged name := by decide
  have comma : Tagged "," := by decide
  have each : (∀ rule ∈ bindingRules v c required, Tagged (ruleText rule)) ↔
      ∀ w ∈ enumValues v c, Tagged w := by
    constructor
    · intro all w member
      have listed : ("oneof", enumValues v c) ∈ bindingRules v c required := by
        refine List.mem_cons_of_mem _ (List.mem_append_right _ ?_)
        rw [if_neg (by simpa using List.ne_nil_of_mem member)]
        exact List.mem_singleton_self _
      exact (ruleTagged (fixed _ (ruleListed listed).1)).mp (all _ listed) w member
    · intro all rule member
      obtain ⟨name, words⟩ := ruleListed member
      refine (ruleTagged (fixed _ name)).mpr fun w inside => ?_
      rcases words with number | listed
      · exact numericalTagged (number w inside)
      · exact all w (listed ▸ inside)
  cases made : binding v c required with
  | none => simp [bindingNone made]
  | some b =>
      rw [bindingOf] at made
      split at made
      · cases made
        rw [← each, ← List.forall_mem_map (f := ruleText), ← taggedIntercalate comma]
        simp
      · contradiction

end Server.Dto
end RestScaffold
