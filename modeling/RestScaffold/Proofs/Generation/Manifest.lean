import RestScaffold.Generation.Manifest
import RestScaffold.Proofs.Generation.Files
import RestScaffold.Proofs.Json.Record
import RestScaffold.Proofs.SortedMap

/-! The record of a pass is found again by the next one. -/
namespace RestScaffold.Manifest
open Json

variable {m : Manifest} {t u : FileTree} {root : String}

theorem plain (m : Manifest) : Plain m.toJson :=
  plainRecord (List.forall_mem_map.mpr fun entry _ => plainTexts entry.2)

theorem readToJson (sorted : m.Sorted) : readMap (readList readText) m.toJson = some m := by
  simp only [toJson, ofMap, record, readMap, List.map_map]
  rw [mapMSome]
  · exact congrArg some (SortedMap.ofListEntries sorted)
  · rintro ⟨key, items⟩ -
    simp [readTexts]

theorem parseText (sorted : m.Sorted) : parse? m.text = some m := by
  rw [parse?, text, parsePretty (plain m)]
  exact readToJson sorted

theorem fileNameDescends : Path.Descends fileName :=
  ⟨by decide, by decide⟩

theorem fileNameNames : Path.names fileName = [fileName] := by decide

def place (root : String) : FileTree.Location := FileTree.base root ++ [fileName]

theorem writeOk (wrote : m.write t root = (u, .ok ())) : t.write (path root) m.text = .ok u := by
  simp only [write] at wrote
  split at wrote
  · rename_i written found
    cases wrote
    exact found
  · cases wrote

theorem writeError {e : WriteError} (wrote : m.write t root = (u, .error e)) : u = t := by
  simp only [write] at wrote
  split at wrote
  · cases wrote
  · cases wrote
    rfl

theorem writeAdds (wrote : m.write t root = (u, .ok ())) :
    t.Adds u root [fileName] ∧ u.node? (place root) = some (.file m.text) := by
  have some : Path.names fileName ≠ [] := by decide
  have adds := FileTree.writeAdds fileNameDescends some (writeOk wrote)
  obtain ⟨-, -, free, rfl⟩ := FileTree.writeReaches fileNameDescends some (writeOk wrote)
  refine ⟨adds, ?_⟩
  rw [place, ← fileNameNames, FileTree.putFile free, if_pos rfl]

theorem readFound (sorted : m.Sorted) (atRoot : t.ReachesRoot root)
    (reaches : t.Reaches root fileName) (found : t.node? (place root) = some (.file m.text)) :
    read t root = m := by
  rw [place, ← fileNameNames] at found
  simp only [read, path, FileTree.read, FileTree.findReached atRoot reaches, found,
    parseText sorted, Option.getD_some]

theorem writtenRead (sorted : m.Sorted) (wrote : m.write t root = (u, .ok ())) :
    read u root = m := by
  obtain ⟨adds, written⟩ := writeAdds wrote
  obtain ⟨atRoot, reaches⟩ := adds.reaches _ List.mem_cons_self
  exact readFound sorted atRoot reaches written

theorem parseSorted {s : String} (parsed : parse? s = some m) : m.Sorted := by
  simp only [parse?, Option.bind_eq_some_iff] at parsed
  obtain ⟨j, -, document⟩ := parsed
  unfold readMap at document
  split at document
  · obtain ⟨entries, -, listed⟩ := Option.bind_eq_some_iff.mp document
    cases listed
    exact SortedMap.sortedOfList entries
  · contradiction

theorem readSorted (t : FileTree) (root : String) : (read t root).Sorted := by
  unfold read
  split
  · rename_i contents found
    cases parsed : parse? contents with
    | none => exact SortedMap.sortedEmpty
    | some m => exact parseSorted parsed
  · exact SortedMap.sortedEmpty

theorem readFile {contents : String} (found : t.read (path root) = .ok contents) :
    t.IsFile (place root) := by
  have there := FileTree.readOk found
  rw [path, FileTree.placeBelow root fileNameDescends, fileNameNames] at there
  exact ⟨contents, there⟩

theorem readMissing (missing : ¬t.IsFile (place root)) : read t root = ∅ := by
  rw [read]
  split
  · rename_i contents found
    exact absurd (readFile found) missing
  · rfl

def document (entries : List (String × List String)) : Json :=
  record (entries.map fun (name, paths) => (name, texts paths))

theorem readTextIff {j : Json} {s : String} : readText j = some s ↔ j = Json.text s := by
  cases j <;> simp [readText, Json.text]

theorem readTextsIff {j : Json} {items : List String} :
    readList readText j = some items ↔ j = texts items := by
  constructor
  · intro found
    unfold readList at found
    split at found
    · rename_i members
      exact congrArg Json.array (mapMWritten (fun _ _ => readTextIff.mp) found)
    · contradiction
  · rintro rfl
    exact readTexts items

def readMember (member : JsonString × Json) : Option (String × List String) := do
  some (← member.1, ← readList readText member.2)

theorem readMemberIff {member : JsonString × Json} {entry : String × List String} :
    readMember member = some entry ↔ member = (some entry.1, texts entry.2) := by
  obtain ⟨key, value⟩ := member
  obtain ⟨name, paths⟩ := entry
  cases found : readList readText value with
  | none => simp [readMember, found, ← readTextsIff]
  | some items => cases key <;> simp [readMember, found, ← readTextsIff]

theorem readDocumentIff {j : Json} :
    readMap (readList readText) j = some m ↔
      ∃ entries, j = document entries ∧ m = SortedMap.ofList entries := by
  constructor
  · intro found
    unfold readMap at found
    split at found
    · rename_i members
      obtain ⟨entries, listed, equal⟩ := Option.bind_eq_some_iff.mp found
      have written := mapMWritten (fun _ _ => readMemberIff.mp) listed
      refine ⟨entries, congrArg Json.object ?_, (Option.some.inj equal).symm⟩
      rw [written, List.map_map]
      rfl
    · contradiction
  · rintro ⟨entries, rfl, rfl⟩
    simp only [document, record, readMap, List.map_map]
    rw [mapMSome]
    · rfl
    · rintro ⟨name, paths⟩ -
      simp [readTexts]

theorem parseIff {s : String} :
    parse? s = some m ↔
      ∃ entries, Json.parse s = some (document entries) ∧ m = SortedMap.ofList entries := by
  simp only [parse?, Option.bind_eq_some_iff, readDocumentIff]
  constructor
  · rintro ⟨_, parsed, entries, rfl, equal⟩
    exact ⟨entries, parsed, equal⟩
  · rintro ⟨entries, parsed, equal⟩
    exact ⟨_, parsed, entries, rfl, equal⟩

/-- What a tree holds at the place of the record decides what is read there: the record that was
written last, the members of any document that looks like one, and nothing otherwise. -/
theorem readBack (t : FileTree) (root : String) :
    (∀ (m : Manifest) (u : FileTree), m.Sorted → m.write t root = (u, .ok ()) →
      read u root = m) ∧
    (∀ contents entries, t.read (path root) = .ok contents →
      Json.parse contents = some (document entries) → read t root = SortedMap.ofList entries) ∧
    (∀ contents, t.read (path root) = .ok contents →
      (∀ entries, Json.parse contents ≠ some (document entries)) → read t root = ∅) ∧
    ((∀ contents, t.read (path root) ≠ .ok contents) → read t root = ∅) := by
  refine ⟨fun m u => writtenRead, fun contents entries found spelled => ?_,
    fun contents found other => ?_, fun unread => ?_⟩
  · have parsed := parseIff.mpr ⟨entries, spelled, rfl⟩
    simp only [read, found, parsed, Option.getD_some]
  · have unparsed : parse? contents = none := by
      cases parsed : parse? contents with
      | none => rfl
      | some m =>
          obtain ⟨entries, spelled, -⟩ := parseIff.mp parsed
          exact absurd spelled (other entries)
    rw [read, found]
    exact congrArg (Option.getD · ∅) unparsed
  · rw [read]
    split
    · rename_i contents found
      exact absurd found (unread contents)
    · rfl

def holding (contents : String) : FileTree := ⟨[([fileName], .file contents)]⟩

theorem readBackStrange :
    let m : Manifest := ⟨[("a\"\\\n", []), ("é\x00", ["x/😀", "\t"])]⟩
    let repeated : Manifest := ⟨[("a", ["b"]), ("a", [])]⟩
    (m.write {} "").2 = .ok () ∧ read (m.write {} "").1 "" = m ∧
      read (holding repeated.text) "" = ⟨[("a", [])]⟩ ∧ read (holding "[]") "" = ∅ ∧
      read {} "" = ∅ := by
  intro m repeated
  have wrote : m.write {} "" = (holding m.text, .ok ()) := by decide +kernel
  have before : "a\"\\\n" < "é\x00" := by decide
  have sorted : m.Sorted := List.pairwise_pair.mpr before
  refine ⟨congrArg Prod.snd wrote, ?_, ?_, ?_, ?_⟩
  · rw [wrote]
    exact (readBack {} "").1 m _ sorted wrote
  · exact (readBack (holding repeated.text) "").2.1 repeated.text repeated.entries
      (by decide +kernel) (parsePretty (plain repeated))
  · exact (readBack (holding "[]") "").2.2.1 "[]" (by decide +kernel) fun _ spelled => by
      rw [show Json.parse "[]" = some (.array []) from rfl] at spelled
      cases spelled
  · exact (readBack {} "").2.2.2 fun _ found => by
      rw [show FileTree.read {} (path "") = .error .notFound from by decide +kernel] at found
      cases found

end RestScaffold.Manifest
