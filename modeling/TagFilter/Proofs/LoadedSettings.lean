import TagFilter.SettingsDocument

/-!
# The settings that are handed on

Settings come from a document or are the default, and in either case their marker is one
that means nothing else to the scanner.

* `checkMarker_eq_ok_iff`: which markers pass the check; the default one does
  (`Settings.checked_default`).
* `Settings.ofDocument_eq_ok_iff`, `Settings.ofDocument_eq_error_iff`: the settings of a
  document are what its sections say, and a value of the wrong kind is refused before the
  marker is looked at.
* `Document.field?_cases`: what a section says is the default, or was read from a value of
  the document.
* `Settings.ofDocument_lenient`: a document that is read strictly is read leniently as the
  same settings.
* `loadSettings_eq_ok_iff`, `isReserved_of_loadSettings`: settings from a file are those of
  the document in it, and their marker is not reserved.
-/

namespace TagFilter

/-! ## The check -/

/-- **Markers.**  The markers that pass are the characters that are not reserved. -/
theorem checkMarker_eq_ok_iff {marker : Char} :
    checkMarker marker = .ok () ↔ isReserved marker = false := by
  unfold checkMarker
  cases isReserved marker <;> simp

/-- The failure names the marker that is refused. -/
theorem checkMarker_eq_error_iff {marker : Char} {failure : SettingsFailure} :
    checkMarker marker = .error failure ↔
      isReserved marker = true ∧ failure = .reservedMarker marker := by
  unfold checkMarker
  cases isReserved marker <;> simp [eq_comm]

namespace Settings

/-- Settings that pass the check are handed on as they are. -/
theorem checked_eq_ok_iff {settings found : Settings} :
    settings.checked = .ok found ↔ found = settings ∧ isReserved settings.marker = false := by
  rw [checked, ← checkMarker_eq_ok_iff]
  cases checkMarker settings.marker with
  | ok _ => simp [Except.map, eq_comm]
  | error failure => simp [Except.map]

/-- Settings that do not pass fail for their marker. -/
theorem checked_eq_error_iff {settings : Settings} {failure : SettingsFailure} :
    settings.checked = .error failure ↔
      isReserved settings.marker = true ∧ failure = .reservedMarker settings.marker := by
  rw [checked, ← checkMarker_eq_error_iff]
  cases checkMarker settings.marker with
  | ok _ => simp [Except.map]
  | error _ => simp [Except.map]

/-- **The default.**  The settings that are used without a document pass the check. -/
theorem checked_default : ({} : Settings).checked = .ok {} :=
  checked_eq_ok_iff.mpr ⟨rfl, by decide⟩

end Settings

/-! ## Sections -/

namespace Document

/-- The values right below a document. -/
def values : Document → List Document
  | .list items => items
  | .table entries => entries.map Prod.snd
  | .null | .flag _ | .number _ | .text _ => []

/-- A value that is found under a name is one of those of the table. -/
theorem mem_values_of_lookup {name : Text} {entries : List (Text × Document)} {value : Document}
    (h : lookup name entries = some value) : value ∈ (Document.table entries).values := by
  induction entries with
  | nil => cases h
  | cons entry entries ih =>
      obtain ⟨key, first⟩ := entry
      rw [lookup] at h
      split at h
      · obtain rfl := Option.some.inj h
        exact List.mem_cons_self
      · exact List.mem_cons_of_mem first (ih h)

variable {α : Type} {tolerance : Tolerance} {name : String} {place : Nat}
  {read : Document → Option α} {missing found : α} {document : Document}

/-- **Sections.**  What a section says under a name is the default, or was read from one of
its values. -/
theorem field?_cases (h : document.field? tolerance name place read missing = some found) :
    found = missing ∨ ∃ value ∈ document.values, read value = some found := by
  cases document with
  | null | flag | number | text => cases h
  -- a table is asked for the name, a list for the place, and what is not there is the default
  | table entries =>
      rw [field?] at h
      cases hlookup : lookup name.toList entries with
      | none =>
          rw [hlookup] at h
          exact .inl (Option.some.inj h).symm
      | some value =>
          rw [hlookup] at h
          exact .inr ⟨value, mem_values_of_lookup hlookup, h⟩
  | list items =>
      cases tolerance with
      | strict => cases h
      | lenient =>
          cases hitem : items[place]? with
          | none =>
              simp only [field?, hitem] at h
              exact .inl (Option.some.inj h).symm
          | some value =>
              simp only [field?, hitem] at h
              exact .inr ⟨value, List.mem_of_getElem? hitem, h⟩

/-- A table that has no such name says what is said by default. -/
theorem field?_table_of_lookup_eq_none {entries : List (Text × Document)}
    (h : lookup name.toList entries = none) :
    (Document.table entries).field? tolerance name place read missing = some missing := by
  rw [field?, h]

/-- What a section says strictly it says leniently, if its values do. -/
theorem field?_lenient {other : Document → Option α}
    (hread : ∀ value found, read value = some found → other value = some found)
    (h : document.field? .strict name place read missing = some found) :
    document.field? .lenient name place other missing = some found := by
  cases document with
  | null | flag | number | text | list => cases h
  | table entries =>
      rw [field?] at h ⊢
      cases hlookup : lookup name.toList entries with
      | none => rwa [hlookup] at h
      | some value =>
          rw [hlookup] at h
          exact hread value found h

/-- A truth value is one leniently, too. -/
theorem truth?_lenient {value : Document} {found : Bool} (h : value.truth? .strict = some found) :
    value.truth? .lenient = some found := by
  cases value with
  | flag _ => exact h
  | null | number | text | list | table => cases h

end Document

/-! ## Documents -/

variable {tolerance : Tolerance} {document : Document} {settings : Settings}
  {failure : SettingsFailure}

namespace Settings

/-- What a document says about settings is what its two sections say. -/
theorem ofDocument?_eq_some_iff :
    ofDocument? tolerance document = some settings ↔
      document.field? tolerance "parser" 0 (markerOf? tolerance) '*' = some settings.marker ∧
        document.field? tolerance "matching" 1 (Matching.ofDocument? tolerance) {} =
          some settings.matching := by
  rw [ofDocument?]
  cases document.field? tolerance "parser" 0 (markerOf? tolerance) '*' with
  | none => simp
  | some marker =>
      cases document.field? tolerance "matching" 1 (Matching.ofDocument? tolerance) {} with
      | none => simp
      | some matching =>
          constructor
          · rintro ⟨⟩
            exact ⟨rfl, rfl⟩
          · rintro ⟨hmarker, hmatching⟩
            obtain rfl := Option.some.inj hmarker
            obtain rfl := Option.some.inj hmatching
            rfl

/-- **Documents.**  The settings of a document are what it says, if the marker is free. -/
theorem ofDocument_eq_ok_iff :
    ofDocument tolerance document = .ok settings ↔
      ofDocument? tolerance document = some settings ∧ isReserved settings.marker = false := by
  rw [ofDocument]
  cases ofDocument? tolerance document with
  | none => simp
  | some said =>
      constructor
      · intro h
        obtain ⟨rfl, hfree⟩ := checked_eq_ok_iff.mp h
        exact ⟨rfl, hfree⟩
      · rintro ⟨hsaid, hfree⟩
        obtain rfl := Option.some.inj hsaid
        exact checked_eq_ok_iff.mpr ⟨rfl, hfree⟩

/-- A document that says nothing of use is refused for a value of the wrong kind; only one
that says what the settings are can be refused for its marker. -/
theorem ofDocument_eq_error_iff :
    ofDocument tolerance document = .error failure ↔
      ofDocument? tolerance document = none ∧ failure = .wrongValue ∨
        ∃ said, ofDocument? tolerance document = some said ∧
          isReserved said.marker = true ∧ failure = .reservedMarker said.marker := by
  rw [ofDocument]
  cases ofDocument? tolerance document with
  | none =>
      constructor
      · intro h
        exact .inl ⟨rfl, (Except.error.inj h).symm⟩
      · rintro (⟨-, rfl⟩ | ⟨said, hsaid, -⟩)
        · rfl
        · cases hsaid
  | some said => simp [checked_eq_error_iff]

/-- A table that names neither section stands for the default, whatever else it names. -/
theorem ofDocument_table_of_lookup_eq_none {entries : List (Text × Document)}
    (parser : lookup "parser".toList entries = none)
    (matching : lookup "matching".toList entries = none) :
    ofDocument tolerance (.table entries) = .ok {} := by
  have hsaid : ofDocument? tolerance (.table entries) = some {} :=
    ofDocument?_eq_some_iff.mpr ⟨Document.field?_table_of_lookup_eq_none parser,
      Document.field?_table_of_lookup_eq_none matching⟩
  exact ofDocument_eq_ok_iff.mpr ⟨hsaid, by decide⟩

end Settings

/-- A marker that is read strictly is read leniently. -/
theorem markerOf?_lenient {marker : Char} (h : markerOf? .strict document = some marker) :
    markerOf? .lenient document = some marker :=
  Document.field?_lenient (fun _ _ hread => hread) h

/-- A matching section that is read strictly is read leniently. -/
theorem Matching.ofDocument?_lenient {matching : Matching}
    (h : Matching.ofDocument? .strict document = some matching) :
    Matching.ofDocument? .lenient document = some matching := by
  obtain ⟨caseSensitive, hcase, hrest⟩ := Option.bind_eq_some_iff.mp h
  obtain ⟨emptyMatchesAll, hempty, hmatching⟩ := Option.bind_eq_some_iff.mp hrest
  have hcase' := Document.field?_lenient (fun _ _ => Document.truth?_lenient) hcase
  have hempty' := Document.field?_lenient (fun _ _ => Document.truth?_lenient) hempty
  exact Option.bind_eq_some_iff.mpr ⟨_, hcase', Option.bind_eq_some_iff.mpr ⟨_, hempty', hmatching⟩⟩

/-- **Leniency.**  A document that is read strictly is read leniently as the same settings. -/
theorem Settings.ofDocument_lenient (h : Settings.ofDocument .strict document = .ok settings) :
    Settings.ofDocument .lenient document = .ok settings := by
  obtain ⟨hsaid, hfree⟩ := Settings.ofDocument_eq_ok_iff.mp h
  obtain ⟨hmarker, hmatching⟩ := Settings.ofDocument?_eq_some_iff.mp hsaid
  have hlenient : Settings.ofDocument? .lenient document = some settings :=
    Settings.ofDocument?_eq_some_iff.mpr
      ⟨Document.field?_lenient (fun _ _ => markerOf?_lenient) hmarker,
        Document.field?_lenient (fun _ _ => Matching.ofDocument?_lenient) hmatching⟩
  exact Settings.ofDocument_eq_ok_iff.mpr ⟨hlenient, hfree⟩

/-! ## Files -/

variable {extension content : Text} {found : Option Text}

/-- What a file holds is loaded as the settings of the document that is read in it. -/
theorem loadSettings_of_document {read : Text → Option Document}
    (hread : documentReader? extension = some read)
    (hdocument : (read (skipOrderMark content)).bind Document.withPaths? = some document) :
    loadSettings extension (some content) = Settings.ofDocument .lenient document := by
  unfold loadSettings
  simp only [hread, hdocument]

/-- There is no file, or it cannot be read as a document, or its document tells. -/
theorem loadSettings_cases (extension : Text) (found : Option Text) :
    (found = none ∧ loadSettings extension found = .error .missing) ∨
      loadSettings extension found = .error .unreadable ∨
      ∃ content read document, found = some content ∧ documentReader? extension = some read ∧
        (read (skipOrderMark content)).bind Document.withPaths? = some document := by
  unfold loadSettings
  cases found with
  | none => exact .inl ⟨rfl, rfl⟩
  | some content =>
      cases documentReader? extension with
      | none => exact .inr (.inl rfl)
      | some read =>
          cases hdocument : (read (skipOrderMark content)).bind Document.withPaths? with
          | none => exact .inr (.inl (by simp only [hdocument]))
          | some document => exact .inr (.inr ⟨content, read, document, rfl, rfl, hdocument⟩)

/-- **Files.**  Settings are loaded if there is a file, in a format that is known, with a
document in it that has settings. -/
theorem loadSettings_eq_ok_iff :
    loadSettings extension found = .ok settings ↔
      ∃ content read document, found = some content ∧ documentReader? extension = some read ∧
        (read (skipOrderMark content)).bind Document.withPaths? = some document ∧
        Settings.ofDocument .lenient document = .ok settings := by
  constructor
  · intro h
    rcases loadSettings_cases extension found with ⟨-, hmissing⟩ | hunreadable |
      ⟨content, read, document, rfl, hread, hdocument⟩
    · cases hmissing.symm.trans h
    · cases hunreadable.symm.trans h
    · rw [loadSettings_of_document hread hdocument] at h
      exact ⟨content, read, document, rfl, hread, hdocument, h⟩
  · rintro ⟨content, read, document, rfl, hread, hdocument, h⟩
    rw [loadSettings_of_document hread hdocument, h]

/-- Whatever a file holds, the marker of its settings means nothing else to the scanner. -/
theorem isReserved_of_loadSettings (h : loadSettings extension found = .ok settings) :
    isReserved settings.marker = false := by
  obtain ⟨content, read, document, -, -, -, hdocument⟩ := loadSettings_eq_ok_iff.mp h
  exact (Settings.ofDocument_eq_ok_iff.mp hdocument).2

/-- Settings are missing exactly if there is no file. -/
theorem loadSettings_eq_missing_iff :
    loadSettings extension found = .error .missing ↔ found = none := by
  constructor
  · intro h
    rcases loadSettings_cases extension found with ⟨hnone, -⟩ | hunreadable |
      ⟨content, read, document, rfl, hread, hdocument⟩
    · exact hnone
    · cases hunreadable.symm.trans h
    -- a document can only be refused for what it says
    · rw [loadSettings_of_document hread hdocument] at h
      rcases Settings.ofDocument_eq_error_iff.mp h with ⟨-, hwrong⟩ | ⟨said, -, -, hreserved⟩
      · cases hwrong
      · cases hreserved
  · rintro rfl
    rfl

end TagFilter
