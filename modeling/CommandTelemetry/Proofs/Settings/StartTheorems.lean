import CommandTelemetry.Proofs.Settings.ConfigTheorems
import CommandTelemetry.Proofs.Settings.DirectoryTheorems
import CommandTelemetry.Proofs.Text.HeadlineTheorems
import CommandTelemetry.Settings.Start

/-!
# Every start has its settings

Whatever the environment and whatever stands in the place of the settings file, a program starts
with settings: the endpoint is the one that the environment names, or else the one that the file
says, or else the default one, and the time limit is the file's or the default one.

* `Config.Settles` lists these cases, by what the file says and not by how it is read;
* `Config.atStart_settles` says that they hold, and that a broken file is as good as none.
-/

namespace CommandTelemetry

/-- The environment names this endpoint: the bytes of the variable are its UTF-8 form, and it has a
character that is no blank. -/
def Environment.NamesEndpoint (environment : Environment) (endpoint : String) : Prop :=
  environment.bytes? Config.endpointVariable = some (Utf8.encode endpoint)
    ∧ ∃ c ∈ endpoint.toList, Text.isBlank c = false

/-- The environments differ at most in the variable for the endpoint. -/
structure Environment.SameButEndpoint (environment other : Environment) : Prop where
  bytes? : ∀ name, name ≠ Config.endpointVariable → environment.bytes? name = other.bytes? name
  accountHome : environment.accountHome = other.accountHome

namespace Config

variable {look : Path → ConfigFile} {environment other : Environment} {said : Said}

/-! ## The environment -/

theorem namedEndpoint?_eq_some_iff {endpoint : String} :
    namedEndpoint? environment = some endpoint ↔ environment.NamesEndpoint endpoint := by
  rw [namedEndpoint?, Environment.text?, Option.filter_eq_some_iff, Option.bind_eq_some_iff,
    Environment.NamesEndpoint, ← Text.saysNothing_eq_false_iff, Bool.not_eq_true']
  simp only [Utf8.decode?_eq_some_iff]
  constructor
  · rintro ⟨⟨bytes, hbytes, rfl⟩, hsaid⟩
    exact ⟨hbytes, hsaid⟩
  · rintro ⟨hbytes, hsaid⟩
    exact ⟨⟨_, hbytes, rfl⟩, hsaid⟩

theorem overridden_of_names {endpoint : String} (h : environment.NamesEndpoint endpoint)
    (config : Config) : config.overridden environment = ⟨endpoint, config.timeoutSecs⟩ := by
  rw [overridden, namedEndpoint?_eq_some_iff.2 h]
  rfl

theorem overridden_of_not_names (h : ∀ endpoint, ¬ environment.NamesEndpoint endpoint)
    (config : Config) : config.overridden environment = config := by
  cases hnamed : namedEndpoint? environment with
  | none => rw [overridden, hnamed]; rfl
  | some endpoint => exact absurd (namedEndpoint?_eq_some_iff.1 hnamed) (h endpoint)

/-- The settings directory does not depend on the variable for the endpoint. -/
theorem file_congr (h : environment.SameButEndpoint other) :
    SettingsDirectory.file environment = SettingsDirectory.file other := by
  have hpath : environment.bytes? SettingsDirectory.pathVariable
      = other.bytes? SettingsDirectory.pathVariable := h.bytes? _ (by decide)
  have hhome : environment.bytes? SettingsDirectory.homeVariable
      = other.bytes? SettingsDirectory.homeVariable := h.bytes? _ (by decide)
  have hplatform : environment.bytes? SettingsDirectory.platformVariable
      = other.bytes? SettingsDirectory.platformVariable := h.bytes? _ (by decide)
  simp only [SettingsDirectory.file, SettingsDirectory.resolve, SettingsDirectory.platform?,
    SettingsDirectory.platformHome?, SettingsDirectory.expandTilde, Environment.text?,
    Environment.path?, hpath, hhome, hplatform, h.accountHome]

/-! ## The file -/

/-- The environment leads to a file that says this. -/
def Finds (look : Path → ConfigFile) (environment : Environment) (said : Said) : Prop :=
  ∃ path, SettingsDirectory.file environment = .ok path ∧ (look path).Says said

theorem find_of_finds (h : Finds look environment said) :
    find look environment = .ok said.settings := by
  obtain ⟨path, hpath, hsaid⟩ := h
  rw [find, hpath]
  exact load_of_said hsaid

/-- Where no file says anything, the default settings are found or none. -/
theorem find_of_not_finds (h : ∀ said, ¬ Finds look environment said) :
    (find look environment).toOption.getD default = default := by
  cases hpath : SettingsDirectory.file environment with
  | error error => rw [find, hpath]; rfl
  | ok path =>
    have hfind : find look environment = load (look path) := by rw [find, hpath]; rfl
    rcases (look path).says_or_broken with habsent | ⟨said, hsaid⟩ | hbroken
    · rw [hfind, habsent]; rfl
    · exact absurd ⟨path, hpath, hsaid⟩ (h said)
    · obtain ⟨error, herror⟩ := load_of_broken hbroken
      rw [hfind, herror]; rfl

/-! ## The start -/

/-- The settings that a start is to have. -/
structure Settles (look : Path → ConfigFile) (environment : Environment) (config : Config) :
    Prop where
  endpoint_named : ∀ endpoint, environment.NamesEndpoint endpoint → config.endpoint = endpoint
  endpoint_said : (∀ endpoint, ¬ environment.NamesEndpoint endpoint) →
    ∀ said, Finds look environment said → config.endpoint = said.endpoint.getD default.endpoint
  endpoint_default : (∀ endpoint, ¬ environment.NamesEndpoint endpoint) →
    (∀ said, ¬ Finds look environment said) → config.endpoint = default.endpoint
  timeout_said : ∀ said, Finds look environment said →
    config.timeoutSecs = said.timeoutSecs.getD default.timeoutSecs
  timeout_default : (∀ said, ¬ Finds look environment said) →
    config.timeoutSecs = default.timeoutSecs

theorem atStart_of_finds (h : Finds look environment said) :
    atStart look environment = said.settings.overridden environment := by
  rw [atStart, find_of_finds h]
  rfl

theorem atStart_of_not_finds (h : ∀ said, ¬ Finds look environment said) :
    atStart look environment = default.overridden environment := by
  rw [atStart, find_of_not_finds h]

theorem settles_atStart (look : Path → ConfigFile) (environment : Environment) :
    Settles look environment (atStart look environment) where
  endpoint_named endpoint h := by rw [atStart, overridden_of_names h]
  endpoint_said h said hfinds := by
    rw [atStart_of_finds hfinds, overridden_of_not_names h]
    rfl
  endpoint_default h hnone := by rw [atStart_of_not_finds hnone, overridden_of_not_names h]
  timeout_said said hfinds := by
    rw [atStart_of_finds hfinds]
    rfl
  timeout_default hnone := by
    rw [atStart_of_not_finds hnone]
    rfl

/-- Where nothing or something broken stands in the place of the file, nothing is said. -/
theorem not_finds (h : ∀ path, SettingsDirectory.file environment = .ok path →
      (look path).Broken ∨ look path = .absent) (said : Said) : ¬ Finds look environment said := by
  rintro ⟨path, hpath, hsaid⟩
  rcases h path hpath with hbroken | habsent
  · exact hbroken.not_said said hsaid
  · obtain ⟨text, document, hbytes, -⟩ := hsaid
    rw [habsent] at hbytes
    cases hbytes

/-- Applying the environment a second time changes nothing. -/
theorem overridden_overridden (config : Config) (environment : Environment) :
    (config.overridden environment).overridden environment = config.overridden environment := by
  unfold overridden
  cases namedEndpoint? environment <;> rfl

/-- A start has its settings, whatever the environment and the file. The time limit does not depend
on the variable for the endpoint, a broken file gives the settings that no file gives, and the
environment counts once. -/
theorem atStart_settles (look : Path → ConfigFile) (environment : Environment) :
    Settles look environment (atStart look environment)
      ∧ (∀ other, environment.SameButEndpoint other →
          (atStart look environment).timeoutSecs = (atStart look other).timeoutSecs)
      ∧ (∀ lookElsewhere : Path → ConfigFile,
          (∀ path, SettingsDirectory.file environment = .ok path →
            (look path).Broken ∧ lookElsewhere path = .absent) →
          atStart look environment = atStart lookElsewhere environment)
      ∧ ∀ config : Config,
          (config.overridden environment).overridden environment
            = config.overridden environment := by
  refine ⟨settles_atStart look environment, ?_, ?_, fun config => ?_⟩
  · intro other hsame
    have hfind : find look environment = find look other := by
      rw [find, find, file_congr hsame]
    show ((find look environment).toOption.getD default).timeoutSecs = _
    rw [hfind]
    rfl
  · intro lookElsewhere h
    have hbroken := not_finds fun path hpath => .inl (h path hpath).1
    have habsent := not_finds fun path hpath => .inr (h path hpath).2
    rw [atStart_of_not_finds hbroken, atStart_of_not_finds habsent]
  · exact overridden_overridden config environment

/-- A file with an endpoint, in an environment that names a blank one; and the same file with a time
limit that is none, which then gives nothing at all. -/
theorem atStart_settles_negative_limit :
    let environment : Environment :=
      { bindings := [("ACONTEXT_PATH", Utf8.encode "/etc/acontext"),
        ("ACONTEXT_TELEMETRY_ENDPOINT", Utf8.encode " \u2003")] }
    let sound : Path → ConfigFile := fun _ => .bytes (Utf8.encode "telemetry.endpoint=\"u\"")
    let broken : Path → ConfigFile := fun _ =>
      .bytes (Utf8.encode "telemetry.endpoint=\"u\"\ntelemetry.request_timeout_secs=-1")
    (∀ endpoint, ¬ environment.NamesEndpoint endpoint)
      ∧ Finds sound environment ⟨some "u", none⟩ ∧ atStart sound environment = ⟨"u", 10⟩
      ∧ (∀ path, (broken path).Broken)
      ∧ atStart broken environment = atStart (fun _ => .absent) environment := by
  intro environment sound broken
  have hblank : ∀ endpoint, ¬ environment.NamesEndpoint endpoint := by
    rintro endpoint ⟨hbytes, c, hc, hvisible⟩
    have htext : Utf8.decode? (Utf8.encode " \u2003") = some endpoint :=
      Utf8.decode?_eq_some_iff.2 (Option.some.inj hbytes)
    rw [Utf8.decode?_encode, Option.some.injEq] at htext
    subst htext
    have hall : " \u2003".toList.all Text.isBlank = true := by decide
    rw [List.all_eq_true.1 hall c hc] at hvisible
    cases hvisible
  have hfile : SettingsDirectory.file environment = .ok ⟨"/etc/acontext/config.toml"⟩ := by
    rw [SettingsDirectory.file, SettingsDirectory.resolve_eq (.fromEnvironment rfl),
      SettingsDirectory.expandTilde_of_no_home rfl]
    rfl
  have hfinds : Finds sound environment ⟨some "u", none⟩ := by
    refine ⟨_, hfile, _, _, rfl, rfl, .telemetry rfl ⟨.table _, ?_, ?_⟩ ?_⟩
    · intro n hn
      cases hn
    · rintro table htable
      cases htable
      exact restIsReadable_iff.1 rfl
    · exact restIsReadable_iff.1 rfl
  have hbroken : ∀ path, (broken path).Broken := by
    intro path
    refine .illTyped rfl (.timeout rfl (.table _) fun n hn heq => ?_)
    cases heq
  obtain ⟨hsettles, -⟩ := atStart_settles sound environment
  obtain ⟨-, -, halike, -⟩ := atStart_settles broken environment
  have hstart : atStart sound environment = ⟨"u", 10⟩ := by
    have hendpoint := hsettles.endpoint_said hblank _ hfinds
    have htimeout := hsettles.timeout_said _ hfinds
    cases hconfig : atStart sound environment with
    | mk endpoint timeoutSecs =>
      rw [hconfig] at hendpoint htimeout
      cases hendpoint
      cases htimeout
      rfl
  exact ⟨hblank, hfinds, hstart, hbroken, halike _ fun path _ => ⟨hbroken path, rfl⟩⟩

end Config

end CommandTelemetry
