import KeywordDocs.Batch
import KeywordDocs.Proofs.Encoding
import KeywordDocs.Proofs.Processing
import KeywordDocs.Proofs.Values

/-!
# Reports in writing

A report can be written down when all its paths are text (`Report.toJson?_eq_some_iff`), and then
nothing of it is lost: records and the description of the host can be read back from the values of
their members (`LibraryRecord.ofJson?`, `HostEnvironment.ofJson?`). `transcript_loses_nothing` says
so of the two texts of a report, as they are read by name.
-/

namespace KeywordDocs

/-! ### Readers -/

namespace Json

/-- A value without members: one that is the same in order. -/
inductive Flat : Json → Prop
  | null : Flat .null
  | bool (b : Bool) : Flat (.bool b)
  | string (s : String) : Flat (.string s)
  | strings (texts : List String) : Flat (ofStrings texts)

theorem Flat.plain {v : Json} (h : v.Flat) (depth : Nat) : Plain (depth + 1) v := by
  cases h with
  | null => exact .null
  | bool b => exact .bool b
  | string s => exact .string s
  | strings texts =>
    refine .array fun v hv => ?_
    obtain ⟨s, _, rfl⟩ := List.mem_map.mp hv
    exact .string s

theorem Flat.sorted {v : Json} (h : v.Flat) : v.sorted = v := by
  cases h with
  | null => rfl
  | bool b => rfl
  | string s => rfl
  | strings texts =>
    rw [ofStrings, Json.sorted, sortedItems_eq_map, List.map_map]
    rfl

/-- The text a value is. -/
def text? : Json → Option String
  | .string s => some s
  | _ => none

/-- The Boolean a value is. -/
def flag? : Json → Option Bool
  | .bool b => some b
  | _ => none

/-- The texts a value lists. -/
def texts? : Json → Option (List String)
  | .array items => items.mapM text?
  | _ => none

theorem texts?_ofStrings (texts : List String) : (ofStrings texts).texts? = some texts := by
  change (texts.map string).mapM text? = some texts
  induction texts with
  | nil => rfl
  | cons s texts ih => simp [List.mapM_cons, ih, text?]

/-- The text a member is, if there is one. -/
def present? : Option Json → Option (Option String)
  | none => some none
  | some v => v.text?.map some

/-- The text a value is, `null` standing for none. -/
def nullable? : Json → Option (Option String)
  | .null => some none
  | v => v.text?.map some

end Json

/-- The status of a word. -/
def LibraryStatus.ofWord? : String → Option LibraryStatus
  | "pending" => some .pending
  | "success" => some .success
  | "error" => some .error
  | _ => none

/-- The cache status of a word. -/
def CacheStatus.ofWord? : String → Option CacheStatus
  | "hit" => some .hit
  | "miss" => some .miss
  | "none" => some .none
  | _ => none

@[simp]
theorem LibraryStatus.ofWord?_word (s : LibraryStatus) : ofWord? s.word = some s := by
  cases s <;> rfl

@[simp]
theorem CacheStatus.ofWord?_word (s : CacheStatus) : ofWord? s.word = some s := by
  cases s <;> rfl

/-- Reads a record by the names of its members. -/
def LibraryRecord.ofJson? (v : Json) : Option LibraryRecord := do
  let name ← (v.get? "name").bind Json.text?
  let libraryKey ← (v.get? "libraryKey").bind Json.text?
  let status ← ((v.get? "status").bind Json.text?).bind LibraryStatus.ofWord?
  let message ← (v.get? "message").bind Json.text?
  let xmlLibdocPath ← Json.present? (v.get? "xmlLibdocPath")
  let sourcePath ← (v.get? "sourcePath").bind Json.nullable?
  let physical ← (v.get? "physical").bind Json.flag?
  let cacheStatus ← ((v.get? "cacheStatus").bind Json.text?).bind CacheStatus.ofWord?
  let diagnostic ← Json.present? (v.get? "diagnostic")
  some ⟨name, libraryKey, status, message, xmlLibdocPath.map .ofString, sourcePath.map .ofString,
    physical, cacheStatus, diagnostic⟩

/-- Reads a description of the host by the names of its members. -/
def HostEnvironment.ofJson? (v : Json) : Option HostEnvironment := do
  let pythonVersion ← (v.get? "pythonVersion").bind Json.text?
  let pythonExecutable ← (v.get? "pythonExecutable").bind Json.text?
  let platform ← (v.get? "platform").bind Json.text?
  let moduleSearchPath ← (v.get? "moduleSearchPath").bind Json.texts?
  let pythonPath ← (v.get? "pythonPath").bind Json.text?
  let jythonPath ← (v.get? "jythonPath").bind Json.text?
  let classPath ← (v.get? "classPath").bind Json.text?
  let ironpythonPath ← (v.get? "ironpythonPath").bind Json.text?
  some ⟨pythonVersion, pythonExecutable, platform, moduleSearchPath, pythonPath, jythonPath, classPath,
    ironpythonPath⟩

/-! ### Records -/

namespace LibraryRecord

variable {r : LibraryRecord}

/-- The paths of a record. -/
def paths (r : LibraryRecord) : List Path := r.xmlLibdocPath.toList ++ r.sourcePath.toList

/-- All paths of the record are text. -/
def IsText (r : LibraryRecord) : Prop := ∀ p ∈ r.paths, ∃ s, p = .ofString s

/-- The members that a record is written with, given the texts of its paths. -/
def members (r : LibraryRecord) (xml source : Option String) : List (String × Json) :=
  [("name", .string r.name), ("libraryKey", .string r.libraryKey),
    ("status", .string r.status.word), ("message", .string r.message)] ++
  (xml.map fun s => ("xmlLibdocPath", Json.string s)).toList ++
  [("sourcePath", Json.ofOption source), ("physical", .bool r.physical),
    ("cacheStatus", .string r.cacheStatus.word)] ++
  (r.diagnostic.map fun d => ("diagnostic", Json.string d)).toList

/-- The record as JSON, its paths being text. -/
def json (r : LibraryRecord) : Json :=
  .object (r.members (r.xmlLibdocPath.bind Path.text?) (r.sourcePath.bind Path.text?))

theorem pathJson?_eq_some_iff {p : Option Path} {j : Option Json} :
    pathJson? p = some j ↔
      (∀ q ∈ p.toList, ∃ s, q = .ofString s) ∧ j = (p.bind Path.text?).map Json.string := by
  cases p with
  | none => simp [pathJson?, eq_comm]
  | some p =>
    cases htext : p.text? with
    | none =>
      have hnot : ¬ ∃ s, p = .ofString s := by
        rintro ⟨s, hs⟩
        rw [Path.text?_eq_some_iff.mpr hs] at htext
        cases htext
      simp [pathJson?, htext, hnot]
    | some s =>
      have htexts : ∃ s, p = .ofString s := ⟨s, Path.text?_eq_some_iff.mp htext⟩
      simp [pathJson?, htext, htexts, eq_comm]

theorem isText_iff : r.IsText ↔
    (∀ q ∈ r.xmlLibdocPath.toList, ∃ s, q = .ofString s) ∧
      ∀ q ∈ r.sourcePath.toList, ∃ s, q = .ofString s :=
  List.forall_mem_append

theorem json_eq (r : LibraryRecord) :
    r.json = .object (
      [("name", .string r.name), ("libraryKey", .string r.libraryKey),
        ("status", .string r.status.word), ("message", .string r.message)] ++
      (((r.xmlLibdocPath.bind Path.text?).map Json.string).map (("xmlLibdocPath", ·))).toList ++
      [("sourcePath", ((r.sourcePath.bind Path.text?).map Json.string).getD .null),
        ("physical", .bool r.physical), ("cacheStatus", .string r.cacheStatus.word)] ++
      (r.diagnostic.map fun d => ("diagnostic", Json.string d)).toList) := by
  rw [json, members, Option.map_map]
  cases r.sourcePath.bind Path.text? with
  | none => rfl
  | some s => rfl

/-- A record can be written down when all its paths are text. -/
theorem toJson?_eq_some_iff {v : Json} : r.toJson? = some v ↔ r.IsText ∧ v = r.json := by
  rw [isText_iff, json_eq]
  simp only [toJson?, Option.bind_eq_bind, Option.bind_eq_some_iff, pathJson?_eq_some_iff,
    Option.some.injEq]
  constructor
  · rintro ⟨xml, ⟨hxml, rfl⟩, source, ⟨hsource, rfl⟩, rfl⟩
    exact ⟨⟨hxml, hsource⟩, rfl⟩
  · rintro ⟨⟨hxml, hsource⟩, rfl⟩
    exact ⟨_, ⟨hxml, rfl⟩, _, ⟨hsource, rfl⟩, rfl⟩

section Members

variable {xml source : Option String}

theorem flat_members : ∀ m ∈ r.members xml source, m.2.Flat := by
  have hsource : (Json.ofOption source).Flat := by
    cases source with
    | none => exact .null
    | some s => exact .string s
  simp only [members, List.forall_mem_append, List.forall_mem_cons]
  refine ⟨⟨⟨⟨.string _, .string _, .string _, .string _, List.forall_mem_nil _⟩, ?_⟩, hsource, .bool _,
    .string _, List.forall_mem_nil _⟩, ?_⟩
  · cases xml with
    | none => exact List.forall_mem_nil _
    | some s => exact List.forall_mem_singleton.mpr (.string s)
  · cases r.diagnostic with
    | none => exact List.forall_mem_nil _
    | some d => exact List.forall_mem_singleton.mpr (.string d)

theorem nodup_members : ((r.members xml source).map Prod.fst).Nodup := by
  unfold members
  cases xml <;> cases r.diagnostic <;> simp

theorem get?_optional_members (r : LibraryRecord) (xml source : Option String) :
    (Json.object (r.members xml source)).get? "xmlLibdocPath" = xml.map .string ∧
    (Json.object (r.members xml source)).get? "diagnostic" = r.diagnostic.map .string ∧
    (Json.object (r.members xml source)).get? "sourcePath" = some (Json.ofOption source) := by
  unfold members
  cases xml <;> cases r.diagnostic <;> simp [Json.get?, List.lookup_cons]

/-- A record is read back from its members. -/
theorem ofJson?_members (hxml : r.xmlLibdocPath = xml.map .ofString)
    (hsource : r.sourcePath = source.map .ofString) :
    ofJson? (.object (r.members xml source)) = some r := by
  obtain ⟨name, key, status, message, xmlPath, sourcePath, physical, cacheStatus, diagnostic⟩ := r
  dsimp only at hxml hsource
  subst hxml hsource
  cases xml <;> cases source <;> cases diagnostic <;>
    simp [ofJson?, members, Json.get?, List.lookup_cons, Json.text?, Json.present?, Json.nullable?,
      Json.flag?, Json.ofOption]

end Members

/-- The value of a record, as it is read by name. -/
theorem get?_sorted_json (r : LibraryRecord) (name : String) :
    r.json.sorted.get? name = r.json.get? name :=
  Json.get?_sorted nodup_members (fun m hm => (flat_members m hm).sorted) name

theorem text?_bind_of_isText {p : Option Path} (h : ∀ q ∈ p.toList, ∃ s, q = .ofString s) :
    p = (p.bind Path.text?).map .ofString := by
  cases p with
  | none => rfl
  | some q =>
    obtain ⟨s, rfl⟩ := h q (by simp)
    rw [Option.bind_some, Path.text?_eq_some_iff.mpr rfl]
    rfl

/-- A record is read back from its value. -/
theorem ofJson?_json (h : r.IsText) : ofJson? r.json = some r :=
  ofJson?_members (text?_bind_of_isText (isText_iff.mp h).1) (text?_bind_of_isText (isText_iff.mp h).2)

theorem ofJson?_sorted_json (h : r.IsText) : ofJson? r.json.sorted = some r := by
  rw [← ofJson?_json h]
  simp only [ofJson?, get?_sorted_json]

/-- The path of the libdoc and the diagnostic are missing where there is none, and the path of the source
is `null`. -/
theorem get?_json_optional (h : r.IsText) :
    (r.json.get? "xmlLibdocPath" = none ↔ r.xmlLibdocPath = none) ∧
    (r.json.get? "diagnostic" = none ↔ r.diagnostic = none) ∧
    (r.json.get? "sourcePath" = some .null ↔ r.sourcePath = none) := by
  obtain ⟨hxml, hdiagnostic, hsource⟩ :=
    r.get?_optional_members (r.xmlLibdocPath.bind Path.text?) (r.sourcePath.bind Path.text?)
  have hxmlPath := text?_bind_of_isText (isText_iff.mp h).1
  have hsourcePath := text?_bind_of_isText (isText_iff.mp h).2
  rw [json, hxml, hdiagnostic, hsource]
  generalize r.xmlLibdocPath.bind Path.text? = xml at hxmlPath ⊢
  generalize r.sourcePath.bind Path.text? = source at hsourcePath ⊢
  rw [hxmlPath, hsourcePath]
  refine ⟨by simp, by simp, ?_⟩
  cases source with
  | none => simp [Json.ofOption]
  | some s => simp [Json.ofOption]

end LibraryRecord

/-! ### The host -/

namespace HostEnvironment

/-- The members that a description of the host is written with. -/
def members (e : HostEnvironment) : List (String × Json) :=
  [("pythonVersion", .string e.pythonVersion), ("pythonExecutable", .string e.pythonExecutable),
    ("platform", .string e.platform), ("moduleSearchPath", Json.ofStrings e.moduleSearchPath),
    ("pythonPath", .string e.pythonPath), ("jythonPath", .string e.jythonPath),
    ("classPath", .string e.classPath), ("ironpythonPath", .string e.ironpythonPath)]

theorem flat_members (e : HostEnvironment) : ∀ m ∈ e.members, m.2.Flat := by
  simp only [members, List.forall_mem_cons]
  exact ⟨.string _, .string _, .string _, .strings _, .string _, .string _, .string _, .string _,
    List.forall_mem_nil _⟩

theorem ofJson?_toJson (e : HostEnvironment) : ofJson? e.toJson = some e := by
  simp [ofJson?, toJson, Json.get?, List.lookup_cons, Json.text?, Json.texts?_ofStrings]

/-- A description of the host is read back from its value. -/
theorem ofJson?_sorted_toJson (e : HostEnvironment) : ofJson? e.toJson.sorted = some e := by
  have hnodup : (e.members.map Prod.fst).Nodup := by simp [members]
  have hget : ∀ name, e.toJson.sorted.get? name = e.toJson.get? name :=
    Json.get?_sorted hnodup fun m hm => (e.flat_members m hm).sorted
  rw [← ofJson?_toJson e]
  simp only [ofJson?, hget]

end HostEnvironment

/-! ### Reports -/

/-- All paths of the report are text. -/
def Report.IsText (report : Report) : Prop := ∀ r ∈ report.libraries.records, r.IsText

/-- The members that the records of a catalog are written as, their paths being text. -/
def Catalog.members (c : Catalog) : List (String × Json) := c.records.map fun r => (r.libraryKey, r.json)

/-- The report as JSON, its paths being text. -/
def Report.json (report : Report) : Json :=
  .object [("libraries", .object report.libraries.members), ("environment", report.environment.toJson)]

theorem Catalog.mapM_member?_eq_some_iff {records : List LibraryRecord} {ms : List (String × Json)} :
    records.mapM member? = some ms ↔
      (∀ r ∈ records, r.IsText) ∧ ms = records.map fun r => (r.libraryKey, r.json) := by
  induction records generalizing ms with
  | nil => simp [eq_comm]
  | cons r records ih =>
    simp only [List.mapM_cons, Option.bind_eq_bind, Option.bind_eq_some_iff, ih, member?,
      Option.map_eq_some_iff, LibraryRecord.toJson?_eq_some_iff, List.forall_mem_cons, List.map_cons]
    constructor
    · rintro ⟨_, ⟨_, ⟨htext, rfl⟩, rfl⟩, _, ⟨htexts, rfl⟩, h⟩
      exact ⟨⟨htext, htexts⟩, (Option.some.inj h).symm⟩
    · rintro ⟨⟨htext, htexts⟩, rfl⟩
      exact ⟨_, ⟨_, ⟨htext, rfl⟩, rfl⟩, _, ⟨htexts, rfl⟩, rfl⟩

namespace Report

variable {report : Report}

/-- **A report can be written down when all its paths are text.** -/
theorem toJson?_eq_some_iff {v : Json} : report.toJson? = some v ↔ report.IsText ∧ v = report.json := by
  simp only [toJson?, Catalog.toJson?, Option.map_eq_some_iff, Catalog.mapM_member?_eq_some_iff]
  constructor
  · rintro ⟨_, ⟨_, ⟨htext, rfl⟩, rfl⟩, rfl⟩
    exact ⟨htext, rfl⟩
  · rintro ⟨htext, rfl⟩
    exact ⟨_, ⟨_, ⟨htext, rfl⟩, rfl⟩, rfl⟩

theorem render_eq_ok_iff {layout : Json.Layout} {text : String} :
    report.render layout = .ok text ↔
      report.IsText ∧ text = String.ofList (report.json.render layout 0) := by
  unfold render
  cases h : report.toJson? with
  | none =>
    have hnot : ¬ report.IsText := fun htext => by
      rw [toJson?_eq_some_iff.mpr ⟨htext, rfl⟩] at h
      cases h
    simp [hnot]
  | some v =>
    obtain ⟨htext, rfl⟩ := toJson?_eq_some_iff.mp h
    simp [htext, eq_comm]

theorem plain_json (report : Report) : Json.Plain Json.maxNesting report.json := by
  have hrecord : ∀ r : LibraryRecord, Json.Plain 125 r.json := fun r =>
    .object fun m hm => (LibraryRecord.flat_members m hm).plain 123
  have hlibraries : Json.Plain 126 (.object report.libraries.members) := by
    refine .object fun m hm => ?_
    obtain ⟨r, _, rfl⟩ := List.mem_map.mp hm
    exact hrecord r
  have henvironment : Json.Plain 126 report.environment.toJson :=
    .object fun m hm => (report.environment.flat_members m hm).plain 124
  refine .object fun m hm => ?_
  rcases List.mem_pair.mp hm with rfl | rfl
  · exact hlibraries
  · exact henvironment

/-- The members of a written report, as they are read. -/
theorem sorted_json (report : Report) :
    report.json.sorted = .object [("environment", report.environment.toJson.sorted),
      ("libraries", .object (Json.sortedMembers [] report.libraries.members))] := by
  have horder : "environment" ≠ "libraries" ∧ "environment" < "libraries" := by decide
  have hinsert : ∀ libraries host : Json,
      Json.insertMember "environment" host (Json.insertMember "libraries" libraries []) =
        [("environment", host), ("libraries", libraries)] := fun libraries host => by
    rw [Json.insertMember, Json.insertMember, if_neg horder.1, if_pos horder.2]
  rw [json, Json.sorted, Json.sortedMembers, Json.sortedMember, Json.sortedMembers, Json.sortedMember,
    Json.sortedMembers, hinsert, Json.sorted]

/-- The reports of batches have one record under each key. -/
theorem nodup_keys_of_runBatch {σ : Type} {p : Processor σ} {environment : HostEnvironment}
    {cacheDir : Path} {registry : Registry} {references : List Reference} {w : World σ}
    (h : (p.runBatch environment cacheDir registry references w).value.1 = .ok report) :
    report.libraries.keys.Nodup := by
  cases hmake : (makeCacheDir cacheDir w).value with
  | error e =>
    rw [(Processor.runBatch_of_error hmake).1] at h
    cases h
  | ok made =>
    rw [(Processor.runBatch_of_made hmake).1] at h
    cases h
    exact Catalog.nodup_keys_insertAll Catalog.nodup_keys_empty _

/-- Different reports have different values. -/
theorem eq_of_json_eq {other : Report} (texts : report.IsText) (texts' : other.IsText)
    (h : other.json = report.json) : other = report := by
  obtain ⟨⟨records⟩, environment⟩ := report
  obtain ⟨⟨records'⟩, environment'⟩ := other
  obtain ⟨hlibraries, henvironment⟩ : Json.object (Catalog.members ⟨records'⟩) =
      .object (Catalog.members ⟨records⟩) ∧ environment'.toJson = environment.toJson := by
    simpa [json] using h
  have hrecords : records' = records := by
    refine Json.eq_of_map_eq (fun r hr r' hr' heq => ?_) (Json.object.inj hlibraries)
    have hread := LibraryRecord.ofJson?_json (texts' r hr)
    rw [(Prod.mk.inj heq).2, LibraryRecord.ofJson?_json (texts r' hr')] at hread
    exact (Option.some.inj hread).symm
  have hhost := HostEnvironment.ofJson?_toJson environment'
  rw [henvironment, HostEnvironment.ofJson?_toJson] at hhost
  rw [hrecords, Option.some.inj hhost]

/-- Different reports have different texts. -/
theorem eq_of_render_eq {other : Report} {layout layout' : Json.Layout} {text : String}
    (h : report.render layout = .ok text) (h' : other.render layout' = .ok text) : other = report := by
  obtain ⟨htext, rfl⟩ := render_eq_ok_iff.mp h
  obtain ⟨htext', heq⟩ := render_eq_ok_iff.mp h'
  have hterm := Json.termOfString?_render report.plain_json layout
  rw [heq, Json.termOfString?_render other.plain_json layout'] at hterm
  have hjson : other.json = report.json :=
    Json.toTerm_injective other.plain_json report.plain_json (Option.some.inj hterm)
  exact eq_of_json_eq htext htext' hjson

/-- **A report loses nothing in writing.** Let a batch give a report whose paths are all text. Then
it is written on one line without line breaks, and as the last line of a text that one is read as
the same value as the report spread over lines. The value has two members. One holds a member for
each record, under its key, and the record can be read back from it; what there is no path or
diagnostic for is missing or `null`. The other gives back the description of the host. So no other
report has the same text. -/
theorem transcript_loses_nothing {σ : Type} {p : Processor σ} {environment : HostEnvironment}
    {cacheDir : Path} {registry : Registry} {references : List Reference} {w : World σ}
    (produced : (p.runBatch environment cacheDir registry references w).value.1 = .ok report)
    (texts : report.IsText) :
    ∃ line lines libraries host,
      report.render .compact = .ok line ∧ report.render .pretty = .ok lines ∧
      '\n' ∉ line.toList ∧ '\r' ∉ line.toList ∧
      let value := Json.object [("environment", host), ("libraries", .object libraries)]
      Json.readLastLine? (Json.ofTerm? Json.maxNesting) line = some value ∧
      Json.ofString? lines = some value ∧
      (libraries.map Prod.fst).Perm report.libraries.keys ∧ (libraries.map Prod.fst).Nodup ∧
      (∀ r ∈ report.libraries.records, ∃ record, libraries.lookup r.libraryKey = some record ∧
        LibraryRecord.ofJson? record = some r ∧
        (record.get? "xmlLibdocPath" = none ↔ r.xmlLibdocPath = none) ∧
        (record.get? "diagnostic" = none ↔ r.diagnostic = none) ∧
        (record.get? "sourcePath" = some .null ↔ r.sourcePath = none)) ∧
      HostEnvironment.ofJson? host = some report.environment ∧
      ∀ (other : Report) (layout layout' : Json.Layout) (text : String),
        report.render layout = .ok text → other.render layout' = .ok text → other = report := by
  have hclear := Json.clear_compact report.plain_json 0
  have hnames : (report.libraries.members.map Prod.fst) = report.libraries.keys := List.map_map
  have hnodup : (report.libraries.members.map Prod.fst).Nodup :=
    hnames ▸ nodup_keys_of_runBatch produced
  have hperm := Json.perm_members_sorted hnodup
  have hkeys : ((Json.sortedMembers [] report.libraries.members).map Prod.fst).Perm
      report.libraries.keys := by
    rw [← hnames]
    exact (hperm.map Prod.fst).trans (.of_eq List.map_map)
  have hline : ∀ c ∈ (String.ofList (report.json.render .compact 0)).toList, 32 ≤ c.toNat := by
    rwa [String.toList_ofList]
  refine ⟨String.ofList (report.json.render .compact 0), String.ofList (report.json.render .pretty 0),
    Json.sortedMembers [] report.libraries.members, report.environment.toJson.sorted,
    render_eq_ok_iff.mpr ⟨texts, rfl⟩, render_eq_ok_iff.mpr ⟨texts, rfl⟩,
    fun hmem => absurd (hline _ hmem) (by decide), fun hmem => absurd (hline _ hmem) (by decide), ?_⟩
  intro value
  have hvalue : value = report.json.sorted := report.sorted_json.symm
  rw [hvalue]
  refine ⟨Json.readLastLine?_compact report.plain_json, Json.ofString?_render report.plain_json .pretty,
    hkeys, hkeys.nodup_iff.mpr (nodup_keys_of_runBatch produced), fun r hr => ?_,
    report.environment.ofJson?_sorted_toJson, fun other layout layout' text => eq_of_render_eq⟩
  have hmem : (r.libraryKey, r.json.sorted) ∈ Json.sortedMembers [] report.libraries.members := by
    refine hperm.mem_iff.mpr (List.mem_map.mpr ⟨(r.libraryKey, r.json), ?_, rfl⟩)
    exact List.mem_map_of_mem hr
  refine ⟨r.json.sorted, Json.lookup_eq_some_of_mem ?_ hmem,
    LibraryRecord.ofJson?_sorted_json (texts r hr), ?_⟩
  · exact hkeys.nodup_iff.mpr (nodup_keys_of_runBatch produced)
  · simp only [LibraryRecord.get?_sorted_json]
    exact LibraryRecord.get?_json_optional (texts r hr)

end Report

namespace Awkward

/-- Tools that fail with a message of two lines: no file can be loaded and no libdoc generated. -/
def processor : Processor Unit where
  loader :=
    { loadFile := fun _ _ => throw (.notImportable "no \"file\"\nthere")
      importModule := fun dotted => pure ⟨dotted, none⟩
      hasAttribute := fun _ _ => pure false }
  generator _ _ _ := throw (.root (.other "nothing\n\"to do\""))

def environment : HostEnvironment := ⟨"3.12\n", "", "linux", ["/a\\b", ""], "n/a", "n/a", "n/a", "n/a"⟩

def world : World Unit := ⟨⟨[], [], 0, false⟩, 0, ()⟩

/-- A module and a file with quotes, backslashes and line breaks in their names. -/
def references : List Reference := [⟨"a\"\n"⟩, ⟨"b\t\\.py"⟩]

def report : Report where
  libraries :=
    ⟨[{ name := "a\"\n", libraryKey := "a\"\n", status := .error
        message := "Unexpected error: nothing\n\"to do\"", xmlLibdocPath := none, sourcePath := none
        physical := false, cacheStatus := .none, diagnostic := some "nothing\n\"to do\"" },
      { name := "b\t\\", libraryKey := "b\t\\.py", status := .error
        message := "Could not import 'b\t\\': 'no \"file\"\nthere'", xmlLibdocPath := none
        sourcePath := some (.ofString "b\t\\.py"), physical := true, cacheStatus := .none
        diagnostic := none }]⟩
  environment := environment

theorem produced : (processor.runBatch environment (.ofString "cache") .empty references world).value.1 =
    .ok report := by
  decide +kernel

theorem texts : report.IsText := by
  intro r hr p hp
  rcases List.mem_pair.mp hr with rfl | rfl
  · cases hp
  · exact ⟨_, List.mem_singleton.mp hp⟩

end Awkward

/-- Quotes, backslashes and line breaks in names, messages and in the description of the host. -/
theorem Report.transcript_loses_nothing_sample :
    (Awkward.processor.runBatch Awkward.environment (.ofString "cache") .empty Awkward.references
      Awkward.world).value.1 = .ok Awkward.report ∧ Awkward.report.IsText ∧
    ∃ line libraries host,
      Awkward.report.render .compact = .ok line ∧ '\n' ∉ line.toList ∧
      Json.readLastLine? (Json.ofTerm? Json.maxNesting) line =
        some (.object [("environment", host), ("libraries", .object libraries)]) ∧
      HostEnvironment.ofJson? host = some Awkward.environment ∧
      ∀ r ∈ Awkward.report.libraries.records, ∃ record,
        libraries.lookup r.libraryKey = some record ∧ LibraryRecord.ofJson? record = some r := by
  obtain ⟨line, _, libraries, host, hline, _, hbreak, _, hvalue, _, _, _, hrecords, hhost, _⟩ :=
    Report.transcript_loses_nothing Awkward.produced Awkward.texts
  refine ⟨Awkward.produced, Awkward.texts, line, libraries, host, hline, hbreak, hvalue, hhost, ?_⟩
  intro r hr
  obtain ⟨record, hlookup, hread, _⟩ := hrecords r hr
  exact ⟨record, hlookup, hread⟩

end KeywordDocs
