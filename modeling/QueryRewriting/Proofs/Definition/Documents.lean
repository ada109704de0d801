import QueryRewriting.Definition.Document
import QueryRewriting.Proofs.Json.RoundTrip

/-! # Stored documents and their definitions

Reading undoes writing: the document written for a definition reads as that definition in the
current version. So a document of either layout, once read, can be written in the current layout
without losing anything, and a configuration reads the same wherever and however it is spelt. -/

namespace QueryRewriting

open Json

/-! ## Logging options -/

/-- A list of texts is read as itself. -/
theorem Json.asList_texts (items : List String) : (Json.texts items).asList asText = .ok items := by
  have each : (items.map Json.text).mapM asText = .ok items := by
    induction items with
    | nil => rfl
    | cons item rest ih =>
        rw [List.map_cons, List.mapM_cons, ih]
        rfl
  exact each

/-- The name of a payload is read as the payload. -/
theorem LogPayload.asVariant_name (payload : LogPayload) :
    (Json.text payload.name).asVariant LogPayload.names false = .ok payload := by
  cases payload <;> rfl

/-- A declared field that was not seen yet is read. -/
theorem Json.Record.go_cons {σ : Type} {record : Record} {step : σ → String → Json → Decoded σ}
    {seen : List String} {state : σ} {key : String} {value : Json} {rest : Fields} (next : σ)
    (declared : record.declared.contains key = true) (fresh : seen.contains key = false)
    (reads : step state key value = .ok next) :
    Record.fold.go record step seen state ((key, value) :: rest) =
      Record.fold.go record step (key :: seen) next rest := by
  rw [Record.fold.go, declared, fresh, reads]
  rfl

/-- The settings of an info log are read as they were written. -/
theorem Logging.ofJson_toJson (logging : Logging) :
    Logging.ofJson logging.toJson = .ok logging := by
  have payload := logging.payload.asVariant_name
  have sinks := Json.asList_texts logging.sinks
  simp only [Logging.ofJson, Logging.toJson, asRecord, bind, Except.bind, Record.fold]
  rw [Record.go_cons { sinks := [], payload := logging.payload } rfl rfl (by rw [payload]; rfl),
    Record.go_cons logging rfl rfl (by rw [sinks]; rfl)]
  rfl

/-- So are they off a document. -/
theorem readLogging_toJson (logging : Logging) :
    readLogging (some logging.toJson) = .ok (some logging) := by
  have reads := logging.ofJson_toJson
  unfold Logging.toJson at reads ⊢
  simp only [readLogging, reads]

/-! ## Configurations -/

/-- No value begins in a text of blanks only. -/
theorem Json.Reader.value?_of_blank {cs : List Char} (blank : ∀ c ∈ cs, Text.isBlankChar c = true)
    (fuel depth : Nat) : value? fuel depth cs = none := by
  have inside {c : Char} {rest : List Char} (front : skipBlank cs = c :: rest) :
      Text.isBlankChar c = true := by
    refine blank c ((List.dropWhile_sublist isBlank).subset ?_)
    rw [← skipBlank, front]
    exact List.mem_cons_self
  cases fuel with
  | zero => rw [value?]
  | succ fuel =>
      rw [value?]
      split
      case h_8 c _ _ _ _ _ _ _ _ front =>
        rw [if_neg]
        intro digit
        have blank := inside front
        rw [Text.isBlankChar_of_isDigit digit] at blank
        cases blank
      case h_9 => rfl
      -- Every value of another shape begins with a visible character.
      all_goals
        rename_i front
        cases inside front

/-- A text with a value in it is not blank. -/
theorem Json.isBlank_of_parse? {source : String} {v : Json} (parsed : parse? source = some v) :
    Text.isBlank source = false := by
  rw [Bool.eq_false_iff]
  intro blank
  have nothing := Reader.value?_of_blank (List.all_eq_true.mp blank)
  rw [parse?, read?, front?, nothing] at parsed
  cases parsed

/-- A value that spells a configuration: inline, or as a text of its JSON. -/
inductive Spells (config : Json.Fields) : Json → Prop
  | inline : Spells config (.object config)
  | text (source : String) : parse? source = some (.object config) → Spells config (.text source)

/-- A config is read however it is spelt. -/
theorem Spells.readConfig {config : Json.Fields} {stored : Json} (spells : Spells config stored) :
    readConfig (some stored) = .ok config := by
  cases spells with
  | inline => rfl
  | text source parsed =>
      rw [QueryRewriting.readConfig, if_neg (by rw [isBlank_of_parse? parsed]; decide), parsed]

/-- A configuration that is read again from its own text: it nests no deeper than a text may, and
its numbers survive. -/
structure Json.Fields.Storable (config : Json.Fields) : Prop where
  shallow : (Json.object config).depth ≤ nestingLimit
  survive : ∀ n ∈ (Json.object config).numbers, n.Survives

/-- The text of a storable config spells it. -/
theorem Json.Fields.Storable.spells_print {config : Json.Fields} (storable : config.Storable)
    (ordered : (Json.object config).Ordered) : Spells config (.text (Json.object config).print) :=
  .text _ (parse?_print ordered storable.shallow storable.survive)

/-- The text of an object begins with its brace. -/
theorem Json.isBlank_print_object (fields : Json.Fields) :
    Text.isBlank (Json.object fields).print = false := by
  rw [Text.isBlank, print, String.toList_ofList, chars, List.all_cons]
  rfl

/-- What is read off the text of a config is the config. -/
theorem eq_of_readConfig_print {config read : Json.Fields} (ordered : (Json.object config).Ordered)
    (survive : ∀ n ∈ (Json.object config).numbers, n.Survives)
    (reads : readConfig (some (.text (Json.object config).print)) = .ok read) : read = config := by
  rw [readConfig, if_neg (by rw [isBlank_print_object]; decide)] at reads
  split at reads
  · rename_i fields parsed
    cases reads
    exact Json.object.inj (Json.eq_of_parse?_print ordered survive parsed)
  · cases reads
  · cases reads

/-- A config that was read has its fields in order. -/
theorem ordered_of_readConfig {fields config : Json.Fields} {key : String}
    (ordered : (Json.object fields).Ordered) (reads : readConfig (fields.get? key) = .ok config) :
    (Json.object config).Ordered := by
  unfold readConfig at reads
  split at reads
  · cases reads
    rfl
  · cases reads
    rfl
  · rename_i found
    cases reads
    exact ordered.of_get? found
  · split at reads
    · cases reads
      rfl
    · split at reads
      · rename_i parsed
        cases reads
        exact ordered_of_parse? parsed
      · cases reads
      · cases reads
  · cases reads

/-! ## Documents -/

/-- A kind is read off a text that is not blank. -/
theorem readClass_eq_ok_iff {stored : Option Json} {kind : String} :
    readClass stored = .ok kind ↔ stored = some (.text kind) ∧ Text.isBlank kind = false := by
  unfold readClass
  split
  · rename_i name
    by_cases blank : Text.isBlank name = true
    · rw [if_pos blank]
      constructor
      · intro reads
        cases reads
      · rintro ⟨same, named⟩
        cases same
        rw [blank] at named
        cases named
    · rw [if_neg blank]
      constructor
      · intro reads
        cases reads
        exact ⟨rfl, Bool.eq_false_iff.mpr blank⟩
      · rintro ⟨same, _⟩
        cases same
        rfl
  · rename_i other
    constructor
    · intro reads
      cases reads
    · rintro ⟨same, _⟩
      exact absurd same (other kind)

namespace Definition

variable {id kind : String} {fields config : Json.Fields}

/-- A document of the old layout is read by its old fields. -/
theorem ofFields_legacy (typed : checkType (fields.get? "type") = .ok ())
    (named : readClass (fields.get? "class") = .ok kind)
    (version : readVersion (fields.get? "version") = .ok legacyVersion)
    (configured : readConfig (fields.get? "config") = .ok config) :
    ofFields id fields = .ok ⟨id, kind, config, none, legacyVersion⟩ := by
  simp only [ofFields, typed, named, version, configured, bind, Except.bind]
  rfl

/-- A document of the new layout is read by its new fields. -/
theorem ofFields_current {logging : Option Logging}
    (typed : checkType (fields.get? "type") = .ok ())
    (named : readClass (fields.get? "class") = .ok kind)
    (version : readVersion (fields.get? "version") = .ok currentVersion)
    (configured : readConfig (fields.get? "config_v_003") = .ok config)
    (logged : readLogging (fields.get? "info_logging") = .ok logging) :
    ofFields id fields = .ok ⟨id, kind, config, logging, currentVersion⟩ := by
  simp only [ofFields, typed, named, version, configured, logged, bind, Except.bind]
  rfl

/-- What a document that holds a definition states. -/
theorem of_ofFields {d : Definition} (reads : ofFields id fields = .ok d) :
    d.id = id ∧ readClass (fields.get? "class") = .ok d.kind ∧
      ((d.schemaVersion = legacyVersion ∧ d.logging = none ∧
          readConfig (fields.get? "config") = .ok d.config) ∨
        (d.schemaVersion = currentVersion ∧
          readLogging (fields.get? "info_logging") = .ok d.logging ∧
          readConfig (fields.get? "config_v_003") = .ok d.config)) := by
  simp only [ofFields, bind, Except.bind] at reads
  split at reads
  · cases reads
  split at reads
  · cases reads
  rename_i kind named
  split at reads
  · cases reads
  rename_i version _
  by_cases legacy : version = legacyVersion
  · rw [if_pos legacy] at reads
    split at reads
    · cases reads
    rename_i config configured
    cases reads
    exact ⟨rfl, named, Or.inl ⟨legacy, rfl, configured⟩⟩
  · rw [if_neg legacy] at reads
    by_cases current : version = currentVersion
    · rw [if_pos current] at reads
      split at reads
      · cases reads
      rename_i config configured
      split at reads
      · cases reads
      rename_i logging logged
      cases reads
      exact ⟨rfl, named, Or.inr ⟨current, logged, configured⟩⟩
    · rw [if_neg current] at reads
      cases reads

/-- What was written is read, with the newest version. -/
theorem ofDocument_toDocument {d : Definition} (named : Text.isBlank d.kind = false)
    (ordered : (Json.object d.config).Ordered) (storable : d.config.Storable) :
    ofDocument d.id d.toDocument = .ok { d with schemaVersion := currentVersion } := by
  have configured := (storable.spells_print ordered).readConfig
  have kind := readClass_eq_ok_iff.mpr ⟨rfl, named⟩
  obtain ⟨id, _, config, logging, version⟩ := d
  cases logging with
  | none => exact ofFields_current rfl kind rfl configured rfl
  | some logging => exact ofFields_current rfl kind rfl configured (readLogging_toJson logging)

/-- Only the kind and the configuration of a definition can fail to be read back. -/
theorem ofDocument_toDocument_eq (d : Definition) :
    ofDocument d.id d.toDocument = (do
      let kind ← readClass (some (.text d.kind))
      let config ← readConfig (some (.text (Json.object d.config).print))
      return { d with kind, config, schemaVersion := currentVersion }) := by
  obtain ⟨id, kind, config, logging, version⟩ := d
  cases logging with
  | none => rfl
  | some logging =>
      change (do
        let kind ← readClass (some (.text kind))
        let config ← readConfig (some (.text (Json.object config).print))
        let logging ← readLogging (some logging.toJson)
        return Definition.mk id kind config logging currentVersion) = _
      simp only [readLogging_toJson]
      rfl

/-- If the document written for a definition is read at all, it reads as that definition. -/
theorem eq_of_ofDocument_toDocument {d read : Definition} (ordered : (Json.object d.config).Ordered)
    (survive : ∀ n ∈ (Json.object d.config).numbers, n.Survives)
    (reads : ofDocument d.id d.toDocument = .ok read) :
    read = { d with schemaVersion := currentVersion } := by
  rw [ofDocument_toDocument_eq] at reads
  simp only [bind, Except.bind] at reads
  split at reads
  · cases reads
  rename_i kind named
  split at reads
  · cases reads
  rename_i config configured
  cases reads
  cases (readClass_eq_ok_iff.mp named).1
  cases eq_of_readConfig_print ordered survive configured
  rfl

/-- The version is no part of what is written. -/
theorem toDocument_version (d : Definition) (version : Int) :
    toDocument { d with schemaVersion := version } = d.toDocument := rfl

/-- What was written, read and written again is the same document. -/
theorem map_toDocument_ofDocument {d : Definition} (named : Text.isBlank d.kind = false)
    (ordered : (Json.object d.config).Ordered) (storable : d.config.Storable) :
    (ofDocument d.id d.toDocument).map toDocument = .ok d.toDocument := by
  rw [ofDocument_toDocument named ordered storable]
  exact congrArg Except.ok (d.toDocument_version currentVersion)

/-- A definition that was read off a document can be written again. -/
theorem of_ofDocument {document : Json} {d : Definition} (ordered : document.Ordered)
    (reads : ofDocument id document = .ok d) :
    d.id = id ∧ Text.isBlank d.kind = false ∧ (Json.object d.config).Ordered := by
  cases document with
  | object fields =>
      obtain ⟨same, named, layout⟩ := of_ofFields reads
      refine ⟨same, (readClass_eq_ok_iff.mp named).2, ?_⟩
      rcases layout with ⟨_, _, configured⟩ | ⟨_, _, configured⟩
      · exact ordered_of_readConfig ordered configured
      · exact ordered_of_readConfig ordered configured
  | _ => cases reads

/-- A configuration is read in either layout, whatever else the document holds. -/
theorem ofFields_spells {stored : Json} (spells : Spells config stored)
    (typed : checkType (fields.get? "type") = .ok ())
    (named : readClass (fields.get? "class") = .ok kind) :
    (readVersion (fields.get? "version") = .ok legacyVersion →
        ofFields id (fields.set "config" stored) = .ok ⟨id, kind, config, none, legacyVersion⟩) ∧
      ∀ logging, readVersion (fields.get? "version") = .ok currentVersion →
        readLogging (fields.get? "info_logging") = .ok logging →
        ofFields id (fields.set "config_v_003" stored) =
          .ok ⟨id, kind, config, logging, currentVersion⟩ := by
  have kept {key other : String} (different : other ≠ key) :
      (fields.set key stored).get? other = fields.get? other :=
    Fields.get?_set_of_ne different fields stored
  constructor
  · intro version
    apply ofFields_legacy
    · rwa [kept (by decide)]
    · rwa [kept (by decide)]
    · rwa [kept (by decide)]
    · rw [Fields.get?_set, spells.readConfig]
  · intro logging version logged
    apply ofFields_current
    · rwa [kept (by decide)]
    · rwa [kept (by decide)]
    · rwa [kept (by decide)]
    · rw [Fields.get?_set, spells.readConfig]
    · rwa [kept (by decide)]

/-- **Documents lose nothing.** The document written for a definition reads as that definition in
the current version; so does the one written for a definition that was read off a document of either
layout; writing, reading and writing once more changes nothing; and however a configuration is
spelt, inline or as a text of its JSON, either layout reads it as the same one. -/
theorem documents_lose_nothing :
    (∀ d : Definition, Text.isBlank d.kind = false → (Json.object d.config).Ordered →
      d.config.Storable →
      ofDocument d.id d.toDocument = .ok { d with schemaVersion := currentVersion } ∧
        (ofDocument d.id d.toDocument).map toDocument = .ok d.toDocument) ∧
    (∀ id document d, document.Ordered → ofDocument id document = .ok d → d.config.Storable →
      ofDocument id d.toDocument = .ok { d with schemaVersion := currentVersion } ∧
        (ofDocument id d.toDocument).map toDocument = .ok d.toDocument) ∧
    (∀ config : Json.Fields, (Json.object config).Ordered → config.Storable →
      Spells config (.object config) ∧ Spells config (.text (Json.object config).print)) ∧
    ∀ id kind config (fields : Json.Fields) stored, Spells config stored →
      checkType (fields.get? "type") = .ok () → readClass (fields.get? "class") = .ok kind →
      (readVersion (fields.get? "version") = .ok legacyVersion →
        ofFields id (fields.set "config" stored) = .ok ⟨id, kind, config, none, legacyVersion⟩) ∧
      ∀ logging, readVersion (fields.get? "version") = .ok currentVersion →
        readLogging (fields.get? "info_logging") = .ok logging →
        ofFields id (fields.set "config_v_003" stored) =
          .ok ⟨id, kind, config, logging, currentVersion⟩ := by
  refine ⟨?_, ?_, ?_, ?_⟩
  · intro d named ordered storable
    exact ⟨ofDocument_toDocument named ordered storable,
      map_toDocument_ofDocument named ordered storable⟩
  · intro id document d ordered reads storable
    obtain ⟨rfl, named, configOrdered⟩ := of_ofDocument ordered reads
    exact ⟨ofDocument_toDocument named configOrdered storable,
      map_toDocument_ofDocument named configOrdered storable⟩
  · intro config ordered storable
    exact ⟨.inline, storable.spells_print ordered⟩
  · intro id kind config fields stored spells typed named
    exact ofFields_spells spells typed named

/-! ## A table with marks, nested values and a fraction -/

/-- A config with a text that has to be escaped, and numbers of both sorts. -/
def markedConfig : Json.Fields :=
  [("\"é\\", .list [.text "\x01\n", .null]),
    ("rules", .object [("n", .whole (-7)),
      ("x", .number (.float (.finite false 4503599627370496 (-53))))])]

/-- The text of this config is read as the config. -/
theorem markedConfig_storable : markedConfig.Storable where
  shallow := by decide
  survive := by
    intro n member
    have either : n = .whole (-7) ∨ n = .float (.finite false 4503599627370496 (-53)) := by
      simpa [markedConfig, numbers, numbersItems, numbersFields, Json.whole] using member
    rcases either with rfl | rfl
    · exact Number.survives_whole (by decide) (by decide)
    · exact Number.survives_of_digit '0' ['.', '5'] (by decide +kernel) (by decide)
        (by decide +kernel)

/-- A document of the first layout, with its configuration inline. -/
def markedDocument : Json :=
  .object [("class", .text "replace"), ("config", .object markedConfig), ("type", .text "rewriter")]

/-- The definition with this config, in the old layout. -/
def markedDefinition : Definition := ⟨"r", "replace", markedConfig, none, legacyVersion⟩

/-- The old document loses nothing when it is read, written in the new layout and read again. -/
theorem markedDocument_loses_nothing :
    ofDocument "r" markedDocument = .ok markedDefinition ∧
      ofDocument "r" markedDefinition.toDocument =
        .ok { markedDefinition with schemaVersion := currentVersion } ∧
      ofDocument "r" (toDocument ⟨"r", "replace", markedConfig, some ⟨["tracing"], .detail⟩, 3⟩) =
        .ok ⟨"r", "replace", markedConfig, some ⟨["tracing"], .detail⟩, 3⟩ ∧
      ofFields "r" (Fields.set [("class", .text "replace"), ("type", .text "rewriter")] "config"
        (.text (Json.object markedConfig).print)) = .ok markedDefinition := by
  obtain ⟨written, migrated, spelt, read⟩ := documents_lose_nothing
  have ordered : (Json.object markedConfig).Ordered := rfl
  have inline : ofDocument "r" markedDocument = .ok markedDefinition := rfl
  refine ⟨inline, ?_, ?_, ?_⟩
  · exact (migrated "r" markedDocument markedDefinition rfl inline markedConfig_storable).1
  · exact (written ⟨"r", "replace", markedConfig, some ⟨["tracing"], .detail⟩, 3⟩ rfl ordered
      markedConfig_storable).1
  · exact (read "r" "replace" markedConfig _ _ (spelt markedConfig ordered markedConfig_storable).2
      rfl rfl).1 rfl

end Definition

end QueryRewriting
