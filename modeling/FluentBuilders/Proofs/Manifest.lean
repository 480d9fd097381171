import FluentBuilders.Manifest
import FluentBuilders.Proofs.FileTree
import FluentBuilders.Proofs.Json.RoundTrip
import FluentBuilders.Proofs.Text.Utf8

/-!
A manifest that was written is read back as it is.

1. Fields of objects in any order.
2. Files, entries, manifests.
3. `Manifest.ofText?_text`: the text of a manifest, and `load?_written` its file.
-/

namespace FluentBuilders

open Text Json

/-! ## 1. Fields -/

section Fields

variable {α : Type} {members : List (String × Json)} {key : String} {v : Json}

theorem required_ordered (hkeys : (members.map (·.1)).Nodup) {i : Nat}
    (h : members[i]? = some (key, v)) {read : FieldReader α} {a : α} (hread : read v.ordered = .ok a) :
    required (Json.object members).ordered key read = .ok a := by
  unfold required
  rw [get?_ordered hkeys (List.mem_of_getElem? h)]
  dsimp only
  rw [hread]
  rfl

theorem withDefault_ordered (hkeys : (members.map (·.1)).Nodup) {i : Nat}
    (h : members[i]? = some (key, v)) {read : FieldReader α} {a : α} (hread : read v.ordered = .ok a) (default : α) :
    withDefault (Json.object members).ordered key default read = .ok a := by
  unfold withDefault
  rw [get?_ordered hkeys (List.mem_of_getElem? h)]
  dsimp only
  rw [hread]
  rfl

theorem readText_ordered (s : String) : readText (Json.text s).ordered = .ok s := rfl

theorem readBool_ordered (b : Bool) : readBool (Json.bool b).ordered = .ok b := rfl

/-- A list is read where each of its items is. -/
theorem readList_ordered {items : List α} {write : α → Json} {read : FieldReader α}
    (h : ∀ a ∈ items, read (write a).ordered = .ok a) :
    readList read (Json.list (items.map write)).ordered = .ok items := by
  have hitems : ∀ index, readItems read index ((items.map write).map ordered) = .ok items := by
    induction items with
    | nil => exact fun _ => rfl
    | cons a rest ih =>
      intro index
      rw [List.map_cons, List.map_cons, readItems, h a List.mem_cons_self,
        ih (fun b hb => h b (List.mem_cons_of_mem _ hb)) (index + 1)]
      rfl
  rw [ordered, orderedItems_eq]
  exact hitems 0

end Fields

/-! ## 2. Manifests -/

/-- The members of a written file. -/
def FileHandle.members (f : FileHandle) : List (String × Json) :=
  [("path", .text f.path), ("sha256", .text f.digest)]

theorem FileHandle.keys_nodup (f : FileHandle) : (f.members.map (·.1)).Nodup :=
  show ["path", "sha256"].Nodup by decide

theorem FileHandle.tidy (f : FileHandle) (depth : Nat) : Tidy (depth + 1) f.toJson := by
  refine .object f.keys_nodup fun m hm => ?_
  simp only [List.mem_cons, List.not_mem_nil, or_false] at hm
  rcases hm with rfl | rfl
  · exact .text depth f.path
  · exact .text depth f.digest

theorem readFileHandle_toJson (f : FileHandle) : readFileHandle f.toJson.ordered = .ok f := by
  have hpath : required (Json.object f.members).ordered "path" readText = .ok f.path :=
    required_ordered f.keys_nodup (i := 0) rfl (readText_ordered f.path)
  have hdigest : withDefault (Json.object f.members).ordered "sha256" "" readText = .ok f.digest :=
    withDefault_ordered f.keys_nodup (i := 1) rfl (readText_ordered f.digest) ""
  show FileHandle.mk <$> required (Json.object f.members).ordered "path" readText
    <*> withDefault (Json.object f.members).ordered "sha256" "" readText = _
  rw [hpath, hdigest]
  rfl

/-- The members of a written entry. -/
def ManifestEntry.members (e : ManifestEntry) : List (String × Json) :=
  [("module", .text e.module), ("type_name", .text e.typeName), ("namespace", .text e.package),
    ("source", .text e.source), ("path", .ofText? e.path), ("sha256", .text e.digest),
    ("aggregating", .bool e.aggregating),
    ("dependencies", .list (e.dependencies.map FileHandle.toJson))]

theorem ManifestEntry.keys_nodup (e : ManifestEntry) : (e.members.map (·.1)).Nodup :=
  show ["module", "type_name", "namespace", "source", "path", "sha256", "aggregating",
    "dependencies"].Nodup by decide

theorem ManifestEntry.tidy (e : ManifestEntry) (depth : Nat) : Tidy (depth + 3) e.toJson := by
  have hpath : Tidy (depth + 2) (.ofText? e.path) := by
    cases e.path with
    | none => exact .null _
    | some s => exact .text _ s
  have hdependencies : Tidy (depth + 2) (.list (e.dependencies.map FileHandle.toJson)) := by
    refine .list fun j hj => ?_
    obtain ⟨f, -, rfl⟩ := List.mem_map.mp hj
    exact f.tidy depth
  refine .object e.keys_nodup fun m hm => ?_
  simp only [List.mem_cons, List.not_mem_nil, or_false] at hm
  rcases hm with rfl | rfl | rfl | rfl | rfl | rfl | rfl | rfl
  · exact .text _ e.module
  · exact .text _ e.typeName
  · exact .text _ e.package
  · exact .text _ e.source
  · exact hpath
  · exact .text _ e.digest
  · exact .bool _ e.aggregating
  · exact hdependencies

theorem readNullable_ofText? (s : Option String) :
    readNullable readText (Json.ofText? s).ordered = .ok s := by
  cases s <;> rfl

theorem readEntry_toJson (e : ManifestEntry) : readEntry e.toJson.ordered = .ok e := by
  have hkeys := e.keys_nodup
  have htext : ∀ (i : Nat) {key s : String}, e.members[i]? = some (key, Json.text s) →
      required (Json.object e.members).ordered key readText = .ok s := fun _ _ s h =>
    required_ordered hkeys h (readText_ordered s)
  have hpath : optionalText (Json.object e.members).ordered "path" = .ok e.path :=
    withDefault_ordered hkeys (i := 4) rfl (readNullable_ofText? e.path) none
  have haggregating : withDefault (Json.object e.members).ordered "aggregating" false readBool =
      .ok e.aggregating :=
    withDefault_ordered hkeys (i := 6) rfl (readBool_ordered e.aggregating) false
  have hdependencies : withDefault (Json.object e.members).ordered "dependencies" []
      (readList readFileHandle) = .ok e.dependencies :=
    withDefault_ordered hkeys (i := 7) rfl (readList_ordered fun f _ => readFileHandle_toJson f) []
  show ManifestEntry.mk <$> required (Json.object e.members).ordered "module" readText
      <*> required (Json.object e.members).ordered "type_name" readText
      <*> required (Json.object e.members).ordered "namespace" readText
      <*> required (Json.object e.members).ordered "source" readText
      <*> optionalText (Json.object e.members).ordered "path"
      <*> required (Json.object e.members).ordered "sha256" readText
      <*> withDefault (Json.object e.members).ordered "aggregating" false readBool
      <*> withDefault (Json.object e.members).ordered "dependencies" []
        (readList readFileHandle) = _
  rw [htext 0 rfl, htext 1 rfl, htext 2 rfl, htext 3 rfl, hpath, htext 5 rfl, haggregating,
    hdependencies]
  rfl

/-- The members of a written manifest. -/
def Manifest.members (m : Manifest) : List (String × Json) :=
  [("package_name", .text m.toolName), ("generator_version", .text m.generatorVersion),
    ("schema_version", .text m.schemaVersion), ("profile_id", .text m.profileId),
    ("artifacts", .list (m.artifacts.map ManifestEntry.toJson))]

theorem Manifest.keys_nodup (m : Manifest) : (m.members.map (·.1)).Nodup :=
  show ["package_name", "generator_version", "schema_version", "profile_id", "artifacts"].Nodup by
    decide

theorem Manifest.tidy (m : Manifest) : Tidy maxDepth m.toJson := by
  show Tidy (199 + 1) m.toJson
  refine .object m.keys_nodup fun e he => ?_
  simp only [List.mem_cons, List.not_mem_nil, or_false] at he
  rcases he with rfl | rfl | rfl | rfl | rfl
  · exact .text _ m.toolName
  · exact .text _ m.generatorVersion
  · exact .text _ m.schemaVersion
  · exact .text _ m.profileId
  · refine .list fun j hj => ?_
    obtain ⟨e, -, rfl⟩ := List.mem_map.mp hj
    exact e.tidy 195

theorem readManifest_toJson {m : Manifest} (hversion : versionFault? m.schemaVersion = none) :
    readManifest m.toJson.ordered = .ok m := by
  have hkeys := m.keys_nodup
  have hread : readVersion (Json.text m.schemaVersion).ordered = .ok m.schemaVersion := by
    show (if (versionFault? m.schemaVersion).isNone then Checked.ok m.schemaVersion
      else .fault .valueError) = _
    rw [hversion]
    rfl
  have htool : withDefault (Json.object m.members).ordered "package_name" FluentBuilders.toolName
      readText = .ok m.toolName :=
    withDefault_ordered hkeys (i := 0) rfl (readText_ordered m.toolName) _
  have hgenerator : withDefault (Json.object m.members).ordered "generator_version"
      FluentBuilders.generatorVersion readText = .ok m.generatorVersion :=
    withDefault_ordered hkeys (i := 1) rfl (readText_ordered m.generatorVersion) _
  have hschema : withDefault (Json.object m.members).ordered "schema_version"
      FluentBuilders.schemaVersion readVersion = .ok m.schemaVersion :=
    withDefault_ordered hkeys (i := 2) rfl hread _
  have hprofile : required (Json.object m.members).ordered "profile_id" readText =
      .ok m.profileId :=
    required_ordered hkeys (i := 3) rfl (readText_ordered m.profileId)
  have hartifacts : withDefault (Json.object m.members).ordered "artifacts" []
      (readList readEntry) = .ok m.artifacts :=
    withDefault_ordered hkeys (i := 4) rfl (readList_ordered fun e _ => readEntry_toJson e) []
  show Manifest.mk <$> withDefault (Json.object m.members).ordered "package_name"
        FluentBuilders.toolName readText
      <*> withDefault (Json.object m.members).ordered "generator_version"
        FluentBuilders.generatorVersion readText
      <*> withDefault (Json.object m.members).ordered "schema_version"
        FluentBuilders.schemaVersion readVersion
      <*> required (Json.object m.members).ordered "profile_id" readText
      <*> withDefault (Json.object m.members).ordered "artifacts" [] (readList readEntry) = _
  rw [htool, hgenerator, hschema, hprofile, hartifacts]
  rfl

/-! ## 3. Texts and files -/

/-- A manifest whose version is accepted is read back from its text. -/
theorem Manifest.ofText?_text {m : Manifest} (hversion : versionFault? m.schemaVersion = none) :
    Manifest.ofText? m.text = some m := by
  unfold Manifest.ofText? Manifest.text
  rw [read?_pretty m.tidy, Option.bind_some, readManifest_toJson hversion]
  rfl

/-- The version of this layout is accepted. -/
theorem versionFault?_current : versionFault? schemaVersion = none := by
  decide +kernel

theorem Manifest.return_not_mem_text (m : Manifest) : '\r' ∉ m.text.toList := by
  unfold Manifest.text Json.pretty
  rw [String.toList_append, String.toList_ofList, List.mem_append, not_or]
  exact ⟨m.tidy.return_not_mem 0, by decide⟩

/-- A manifest comes from the content of a file, wherever that stands. -/
theorem Manifest.load?_file {m : Manifest} {t : FileTree} {p : FilePath}
    (h : Manifest.load? t p = some m) : ∃ c, t.look p = .ok (.file c) ∧
      ∀ (t' : FileTree) (p' : FilePath), t'.look p' = .ok (.file c) →
        Manifest.load? t' p' = some m := by
  have hfile : t.isFile p = true := by
    unfold Manifest.load? at h
    split at h
    · next hfile => exact hfile
    · cases h
  obtain ⟨c, hlook⟩ := FileTree.isFile_iff.mp hfile
  refine ⟨c, hlook, fun t' p' hlook' => ?_⟩
  rw [← h]
  unfold Manifest.load? FileTree.readText FileTree.isFile FileTree.readBytes
  rw [hlook, hlook']

/-- A manifest is read back from the file that it was written into. -/
theorem Manifest.load?_written {m : Manifest} (hversion : versionFault? m.schemaVersion = none)
    {t : FileTree} {p : FilePath} (h : t.look p = .ok (.file (encode m.text))) :
    Manifest.load? t p = some m := by
  unfold Manifest.load? FileTree.readText FileTree.isFile FileTree.readBytes
  rw [h]
  dsimp only
  rw [if_pos rfl, decode?_encode]
  dsimp only
  rw [unifyLines_eq m.return_not_mem_text]
  exact Manifest.ofText?_text hversion

end FluentBuilders
