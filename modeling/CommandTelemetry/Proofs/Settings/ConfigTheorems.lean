import CommandTelemetry.Proofs.Text.Utf8ReaderTheorems
import CommandTelemetry.Settings.Config

/-!
# What a settings file says

A settings file is accepted as a whole or not at all. What it says when it is accepted is told here
by the values in the places of the settings, and what may be wrong with it by the one key that is.

* `Config.DocumentSays` and `Config.IllTyped` are the two cases of a document, and
  `Config.illTyped_iff` says that there is no third;
* `ConfigFile.Says` and `ConfigFile.Broken` are the same for a file;
* `Config.load_of_said` and `Config.load_of_broken` say what becomes of each.
-/

namespace CommandTelemetry

/-- What a settings file says. Both parts may be left out. -/
structure Said where
  endpoint : Option String
  timeoutSecs : Option Nat
deriving DecidableEq, Repr

/-- The settings of a file that says this: what is left out has its default. -/
def Said.settings (said : Said) : Config :=
  ⟨said.endpoint.getD Config.default.endpoint, said.timeoutSecs.getD Config.default.timeoutSecs⟩

namespace Config

/-! ## Documents -/

/-- What stands under keys that are not known can be passed over: no number in it is too large for
every reader. -/
def PassesOver (known : List String) (table : TomlTable) : Prop :=
  ∀ key value, (key, value) ∈ table.entries → key ∉ known → value.isRepresentable = true

/-- What stands in the places of the endpoint and of the time limit. A table has them under their
names and an array in their order; a date or time has the places and nothing in them. -/
inductive Places : Toml → Option Toml → Option Toml → Prop where
  | table (table : TomlTable) :
    Places (.table table) (table.get? "endpoint") (table.get? "request_timeout_secs")
  | array (items : List Toml) : Places (.array items) items[0]? items[1]?
  | dateTime (text : String) : Places (.dateTime text) none none

/-- The part of a document that holds the settings says this. -/
structure SectionSays (value : Toml) (said : Said) : Prop where
  places : Places value (said.endpoint.map .string) (said.timeoutSecs.map fun n : Nat => .integer n)
  bound : ∀ n ∈ said.timeoutSecs, n < Nat.pow 2 64
  rest : ∀ table, value = .table table → PassesOver ["endpoint", "request_timeout_secs"] table

/-- A document says this. -/
inductive DocumentSays (document : TomlTable) : Said → Prop where
  | nothing (h : document.get? "telemetry" = none) (hrest : PassesOver ["telemetry"] document) :
    DocumentSays document ⟨none, none⟩
  | telemetry {value : Toml} {said : Said} (h : document.get? "telemetry" = some value)
    (hsaid : SectionSays value said) (hrest : PassesOver ["telemetry"] document) :
    DocumentSays document said

/-- A document has a key whose value is of the wrong kind. -/
inductive IllTyped (document : TomlTable) : Prop where
  /-- The part for the settings can hold none. -/
  | telemetry {value : Toml} (h : document.get? "telemetry" = some value)
    (hvalue : ∀ endpoint timeout, ¬ Places value endpoint timeout)
  /-- The endpoint is no text. -/
  | endpoint {value endpoint : Toml} {timeout : Option Toml}
    (h : document.get? "telemetry" = some value) (hplaces : Places value (some endpoint) timeout)
    (hvalue : ∀ text, endpoint ≠ .string text)
  /-- The time limit is no number of 64 bits. -/
  | timeout {value timeout : Toml} {endpoint : Option Toml}
    (h : document.get? "telemetry" = some value) (hplaces : Places value endpoint (some timeout))
    (hvalue : ∀ n : Nat, n < Nat.pow 2 64 → timeout ≠ .integer n)
  /-- There is something that cannot be passed over beside the part for the settings. -/
  | rest (hrest : ¬ PassesOver ["telemetry"] document)
  /-- There is something that cannot be passed over beside the settings. -/
  | sectionRest {table : TomlTable} (h : document.get? "telemetry" = some (.table table))
    (hrest : ¬ PassesOver ["endpoint", "request_timeout_secs"] table)

theorem restIsReadable_iff {known : List String} {table : TomlTable} :
    restIsReadable known table = true ↔ PassesOver known table := by
  rw [restIsReadable, List.all_eq_true]
  constructor
  · intro h key value hentry hknown
    simpa [hknown] using h _ hentry
  · rintro h ⟨key, value⟩ hentry
    by_cases hknown : key ∈ known
    · simp [hknown]
    · simp [h key value hentry hknown]

/-! ### The two values -/

theorem endpointOf?_map (said : Option String) :
    endpointOf? (said.map .string) = some (said.getD default.endpoint) := by
  cases said <;> rfl

theorem endpointOf?_eq_none {value : Toml} (h : ∀ text, value ≠ .string text) :
    endpointOf? (some value) = none := by
  cases value with
  | string text => exact absurd rfl (h text)
  | _ => rfl

theorem timeoutOf?_map (said : Option Nat) (h : ∀ n ∈ said, n < Nat.pow 2 64) :
    timeoutOf? (said.map fun n : Nat => .integer n) = some (said.getD default.timeoutSecs) := by
  cases said with
  | none => rfl
  | some n =>
    have hbound : (n : Int) < timeoutBound := Int.ofNat_lt.2 (h n rfl)
    rw [Option.map_some, timeoutOf?, if_pos ⟨Int.natCast_nonneg n, hbound⟩]
    rfl

theorem timeoutOf?_eq_none {value : Toml} (h : ∀ n : Nat, n < Nat.pow 2 64 → value ≠ .integer n) :
    timeoutOf? (some value) = none := by
  cases value with
  | integer value =>
    rw [timeoutOf?, if_neg]
    rintro ⟨hsign, hbound⟩
    -- a number in the range is one of those that the place may hold
    have hnat : (value.toNat : Int) = value := Int.toNat_of_nonneg hsign
    rw [← hnat] at hbound
    exact h value.toNat (Int.ofNat_lt.1 hbound) (by rw [hnat])
  | _ => rfl

/-- The place of an endpoint holds a text or nothing, or else it holds something else. -/
theorem endpoint_or (place : Option Toml) : (∃ said : Option String, place = said.map .string)
    ∨ ∃ value, place = some value ∧ ∀ text, value ≠ .string text := by
  cases place with
  | none => exact .inl ⟨none, rfl⟩
  | some value =>
    by_cases h : ∃ text, value = .string text
    · obtain ⟨text, rfl⟩ := h
      exact .inl ⟨some text, rfl⟩
    · exact .inr ⟨value, rfl, not_exists.1 h⟩

/-- The place of a time limit holds a number of 64 bits or nothing, or else it holds something
else. -/
theorem timeout_or (place : Option Toml) :
    (∃ said : Option Nat,
        place = said.map (fun n : Nat => .integer n) ∧ ∀ n ∈ said, n < Nat.pow 2 64)
      ∨ ∃ value, place = some value ∧ ∀ n : Nat, n < Nat.pow 2 64 → value ≠ .integer n := by
  cases place with
  | none => exact .inl ⟨none, rfl, fun n hn => by cases hn⟩
  | some value =>
    by_cases h : ∃ n : Nat, n < Nat.pow 2 64 ∧ value = .integer n
    · obtain ⟨n, hn, rfl⟩ := h
      exact .inl ⟨some n, rfl, fun m hm => by cases hm; exact hn⟩
    · exact .inr ⟨value, rfl, fun n hn heq => h ⟨n, hn, heq⟩⟩

theorem ofValues?_map (said : Said) (h : ∀ n ∈ said.timeoutSecs, n < Nat.pow 2 64) :
    ofValues? (said.endpoint.map .string) (said.timeoutSecs.map fun n : Nat => .integer n)
      = some said.settings := by
  rw [ofValues?, endpointOf?_map, timeoutOf?_map _ h]
  rfl

theorem ofValues?_eq_none {endpoint timeout : Option Toml}
    (h : endpointOf? endpoint = none ∨ timeoutOf? timeout = none) :
    ofValues? endpoint timeout = none := by
  rcases h with h | h
  · rw [ofValues?, h]
    rfl
  · rw [ofValues?, h]
    cases endpointOf? endpoint <;> rfl

/-! ### The part for the settings -/

theorem ofValue?_of_rest {value : Toml} {endpoint timeout : Option Toml}
    (h : Places value endpoint timeout)
    (hrest : ∀ table, value = .table table →
      PassesOver ["endpoint", "request_timeout_secs"] table) :
    ofValue? value = ofValues? endpoint timeout := by
  cases h with
  | table table => rw [ofValue?, ofTable?, if_pos (restIsReadable_iff.2 (hrest table rfl))]
  | array items => rfl
  | dateTime text => rfl

theorem ofValue?_eq_none {value : Toml} {endpoint timeout : Option Toml}
    (h : Places value endpoint timeout)
    (hvalues : endpointOf? endpoint = none ∨ timeoutOf? timeout = none) :
    ofValue? value = none := by
  by_cases hrest : ∀ table, value = .table table →
      PassesOver ["endpoint", "request_timeout_secs"] table
  · rw [ofValue?_of_rest h hrest, ofValues?_eq_none hvalues]
  · cases h with
    | table table =>
      rw [ofValue?, ofTable?, if_neg]
      intro hreadable
      refine hrest fun other hother => ?_
      cases hother
      exact restIsReadable_iff.1 hreadable
    | array items => exact absurd (fun table htable => by cases htable) hrest
    | dateTime text => exact absurd (fun table htable => by cases htable) hrest

theorem ofValue?_of_no_places {value : Toml}
    (h : ∀ endpoint timeout, ¬ Places value endpoint timeout) : ofValue? value = none := by
  cases value with
  | table table => exact absurd (.table table) (h _ _)
  | array items => exact absurd (.array items) (h _ _)
  | dateTime text => exact absurd (.dateTime text) (h _ _)
  | _ => rfl

/-! ### Whole documents -/

variable {document : TomlTable}

theorem ofDocument?_of_said {said : Said} (h : DocumentSays document said) :
    ofDocument? document = some said.settings := by
  cases h with
  | nothing h hrest =>
    rw [ofDocument?, if_pos (restIsReadable_iff.2 hrest), h]
    rfl
  | telemetry h hsaid hrest =>
    rw [ofDocument?, if_pos (restIsReadable_iff.2 hrest), h]
    dsimp only
    rw [ofValue?_of_rest hsaid.places hsaid.rest, ofValues?_map said hsaid.bound]

theorem ofDocument?_of_value {value : Toml} (h : document.get? "telemetry" = some value)
    (hvalue : ofValue? value = none) : ofDocument? document = none := by
  rw [ofDocument?, h]
  split
  · exact hvalue
  · rfl

theorem ofDocument?_of_illTyped (h : IllTyped document) : ofDocument? document = none := by
  cases h with
  | telemetry h hvalue => exact ofDocument?_of_value h (ofValue?_of_no_places hvalue)
  | endpoint h hplaces hvalue =>
    exact ofDocument?_of_value h (ofValue?_eq_none hplaces (.inl (endpointOf?_eq_none hvalue)))
  | timeout h hplaces hvalue =>
    exact ofDocument?_of_value h (ofValue?_eq_none hplaces (.inr (timeoutOf?_eq_none hvalue)))
  | rest hrest => rw [ofDocument?, if_neg (hrest ∘ restIsReadable_iff.1)]
  | sectionRest h hrest =>
    apply ofDocument?_of_value h
    rw [ofValue?, ofTable?, if_neg (hrest ∘ restIsReadable_iff.1)]

/-- A document says something, or a key of it has a value of the wrong kind. -/
theorem says_or_illTyped (document : TomlTable) :
    (∃ said, DocumentSays document said) ∨ IllTyped document := by
  by_cases hrest : PassesOver ["telemetry"] document
  · cases h : document.get? "telemetry" with
    | none => exact .inl ⟨_, .nothing h hrest⟩
    | some value =>
      by_cases hplaces : ∃ endpoint timeout, Places value endpoint timeout
      · obtain ⟨endpoint, timeout, hplaces⟩ := hplaces
        rcases endpoint_or endpoint with ⟨saidEndpoint, rfl⟩ | ⟨other, rfl, hother⟩
        · rcases timeout_or timeout with ⟨saidTimeout, rfl, hbound⟩ | ⟨other, rfl, hother⟩
          · by_cases hsection : ∀ table, value = .table table →
                PassesOver ["endpoint", "request_timeout_secs"] table
            · have hsaid : SectionSays value ⟨saidEndpoint, saidTimeout⟩ :=
                ⟨hplaces, hbound, hsection⟩
              exact .inl ⟨_, .telemetry h hsaid hrest⟩
            · obtain ⟨table, htable⟩ := Classical.not_forall.1 hsection
              obtain ⟨rfl, hover⟩ := Classical.not_imp.1 htable
              exact .inr (.sectionRest h hover)
          · exact .inr (.timeout h hplaces hother)
        · exact .inr (.endpoint h hplaces hother)
      · refine .inr (.telemetry h fun endpoint timeout hp => ?_)
        exact hplaces ⟨endpoint, timeout, hp⟩
  · exact .inr (.rest hrest)

/-- A document is of the wrong kind somewhere exactly when it says nothing at all. -/
theorem illTyped_iff : IllTyped document ↔ ∀ said, ¬ DocumentSays document said := by
  constructor
  · intro h said hsaid
    have hnone := ofDocument?_of_illTyped h
    rw [ofDocument?_of_said hsaid] at hnone
    cases hnone
  · intro h
    rcases says_or_illTyped document with ⟨said, hsaid⟩ | hbad
    · exact absurd hsaid (h said)
    · exact hbad

end Config

/-! ## Files -/

/-- The file is accepted and says this. -/
def ConfigFile.Says (file : ConfigFile) (said : Said) : Prop :=
  ∃ text document, file = .bytes (Utf8.encode text) ∧ Toml.read? text = some document
    ∧ Config.DocumentSays document said

/-- There is something in the place of the file that cannot be used. -/
inductive ConfigFile.Broken : ConfigFile → Prop where
  | unreadable (reason : String) : Broken (.unreadable reason)
  | notText {content : Bytes} (h : ∀ text, content ≠ Utf8.encode text) : Broken (.bytes content)
  | malformed {text : String} (h : Toml.read? text = none) : Broken (.bytes (Utf8.encode text))
  | illTyped {text : String} {document : TomlTable} (h : Toml.read? text = some document)
    (hbad : Config.IllTyped document) : Broken (.bytes (Utf8.encode text))

namespace Config

variable {file : ConfigFile} {said : Said}

theorem load_encode (text : String) : load (.bytes (Utf8.encode text)) = ofText text := by
  rw [load, Utf8.decode?_encode]

theorem load_of_said (h : file.Says said) : load file = .ok said.settings := by
  obtain ⟨text, document, rfl, hread, hsaid⟩ := h
  rw [load_encode, ofText, hread, Option.bind_some, ofDocument?_of_said hsaid]

theorem load_of_broken (h : file.Broken) : ∃ error, load file = .error error := by
  cases h with
  | unreadable reason => exact ⟨_, rfl⟩
  | @notText content h =>
    cases hdecode : Utf8.decode? content with
    | none => exact ⟨.io "stream did not contain valid UTF-8", by rw [load, hdecode]⟩
    | some text => exact absurd (Utf8.decode?_eq_some_iff.1 hdecode) (h text)
  | malformed h => exact ⟨malformed, by rw [load_encode, ofText, h, Option.bind_none]⟩
  | illTyped h hbad =>
    exact ⟨malformed, by
      rw [load_encode, ofText, h, Option.bind_some, ofDocument?_of_illTyped hbad]⟩

end Config

/-- A file is absent, or it says something, or it is broken. -/
theorem ConfigFile.says_or_broken (file : ConfigFile) :
    file = .absent ∨ (∃ said, file.Says said) ∨ file.Broken := by
  cases file with
  | absent => exact .inl rfl
  | unreadable reason => exact .inr (.inr (.unreadable reason))
  | bytes content =>
    by_cases htext : ∃ text, content = Utf8.encode text
    · obtain ⟨text, rfl⟩ := htext
      cases hread : Toml.read? text with
      | none => exact .inr (.inr (.malformed hread))
      | some document =>
        rcases Config.says_or_illTyped document with ⟨said, hsaid⟩ | hbad
        · exact .inr (.inl ⟨said, text, document, rfl, hread, hsaid⟩)
        · exact .inr (.inr (.illTyped hread hbad))
    · exact .inr (.inr (.notText (not_exists.1 htext)))

/-- A broken file says nothing, whatever part of it is in order. -/
theorem ConfigFile.Broken.not_said {file : ConfigFile} (h : file.Broken) (said : Said) :
    ¬ file.Says said := by
  intro hsaid
  obtain ⟨error, herror⟩ := Config.load_of_broken h
  rw [Config.load_of_said hsaid] at herror
  cases herror

end CommandTelemetry
