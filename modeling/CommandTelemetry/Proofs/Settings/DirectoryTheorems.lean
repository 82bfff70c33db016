import CommandTelemetry.Proofs.FileSystem.PathTheorems
import CommandTelemetry.Proofs.Text.Utf8ReaderTheorems
import CommandTelemetry.Settings.Directory

/-!
# Directories under the home directory

A text with a tilde and a slash at its front means a directory under the home directory, whether it
is named for the occasion or by the environment.

* `SettingsDirectory.resolve_of_decides` says when it leads there: unless what follows starts with a
  slash once more, for then it is an absolute path that takes the place of the home directory;
* `SettingsDirectory.resolve_leaves_home` is such a text.
-/

namespace CommandTelemetry

/-- The path goes on from another one by the names of a text. -/
structure Path.Continues (path start : Path) (rest : String) : Prop where
  isAbsolute : path.isAbsolute = start.isAbsolute
  steps : path.steps = start.steps ++ steps ⟨rest⟩

/-- A text behind a path leads on from there, unless it is absolute. Then it is alone on the way,
which shows unless the path was the root. -/
theorem Path.continues_join_iff (start : Path) (rest : String) :
    (start.join rest).Continues start rest
      ↔ isAbsolute ⟨rest⟩ = false ∨ start.isAbsolute = true ∧ start.steps = [] := by
  cases hrest : isAbsolute ⟨rest⟩ with
  | false =>
    refine ⟨fun _ => .inl rfl, fun _ => ⟨?_, ?_⟩⟩
    · exact isAbsolute_join_of_relative start hrest
    · exact steps_join_of_relative start hrest
  | true =>
    rw [join_of_absolute start hrest]
    constructor
    · intro h
      refine .inr ⟨?_, ?_⟩
      · rw [← h.isAbsolute, hrest]
      · exact List.self_eq_append_left.1 h.steps
    · rintro (hrelative | ⟨habsolute, hsteps⟩)
      · cases hrelative
      · constructor
        · rw [hrest, habsolute]
        · rw [hsteps, List.nil_append]

namespace SettingsDirectory

variable {environment : Environment} {named : Option String} {text rest : String}

/-! ## Texts with a tilde -/

theorem afterTilde?_eq_some_iff : afterTilde? text = some rest ↔ text = "~/" ++ rest := by
  rw [← String.toList_inj, String.toList_append, afterTilde?]
  split
  · next tail htail => simp [htail, ← String.toList_inj]
  · next hother =>
    refine ⟨fun h => (by cases h), fun h => ?_⟩
    exact absurd h (hother _)

theorem expandTilde_of_home {home : Path} (h : environment.path? homeVariable = some home) :
    expandTilde environment ("~/" ++ rest) = home.join rest := by
  rw [expandTilde, afterTilde?_eq_some_iff.2 rfl, h]

theorem expandTilde_of_no_tilde (h : ∀ rest, text ≠ "~/" ++ rest) :
    expandTilde environment text = ⟨text⟩ := by
  cases hrest : afterTilde? text with
  | none => rw [expandTilde, hrest]
  | some rest => exact absurd (afterTilde?_eq_some_iff.1 hrest) (h rest)

theorem expandTilde_of_no_home (h : environment.path? homeVariable = none) :
    expandTilde environment text = ⟨text⟩ := by
  rw [expandTilde, h]
  cases afterTilde? text <;> rfl

theorem expandTilde_congr {other : Environment}
    (h : other.path? homeVariable = environment.path? homeVariable) (text : String) :
    expandTilde other text = expandTilde environment text := by
  rw [expandTilde, expandTilde, h]

/-! ## Directories -/

/-- The text that decides which directory it is: one named for the occasion, or else the one that
the environment names. -/
inductive Decides (environment : Environment) : Option String → String → Prop where
  | named (text : String) : Decides environment (some text) text
  | fromEnvironment {text : String}
    (h : environment.bytes? pathVariable = some (Utf8.encode text)) : Decides environment none text

theorem resolve_eq (h : Decides environment named text) :
    resolve environment named = .ok (expandTilde environment text) := by
  cases h with
  | named => rfl
  | fromEnvironment h =>
    rw [resolve, Environment.text?, h, Option.bind_some, Utf8.decode?_encode]
    rfl

/-- Where a text leads that decides on the directory. Behind a tilde and a slash it continues the
way of the home directory, unless it starts with a slash once more. Every other text is the
directory as it stands. For a text named for the occasion no other variable counts. -/
theorem resolve_of_decides (h : Decides environment named text) :
    ∃ directory, resolve environment named = .ok directory
      ∧ (∀ home rest, environment.path? homeVariable = some home → text = "~/" ++ rest →
          (directory.Continues home rest
              ↔ Path.isAbsolute ⟨rest⟩ = false ∨ home.isAbsolute = true ∧ home.steps = [])
            ∧ (Path.isAbsolute ⟨rest⟩ = true → directory = ⟨rest⟩))
      ∧ (environment.path? homeVariable = none ∨ (∀ rest, text ≠ "~/" ++ rest) →
          directory = ⟨text⟩)
      ∧ ∀ other : Environment, other.path? homeVariable = environment.path? homeVariable →
          resolve other (some text) = .ok directory := by
  refine ⟨expandTilde environment text, resolve_eq h, ?_, ?_, ?_⟩
  · rintro home rest hhome rfl
    rw [expandTilde_of_home hhome]
    exact ⟨home.continues_join_iff rest, home.join_of_absolute⟩
  · rintro (hhome | hother)
    · exact expandTilde_of_no_home hhome
    · exact expandTilde_of_no_tilde hother
  · intro other hhome
    rw [resolve_eq (.named text), expandTilde_congr hhome]

/-- A text of the environment with slashes to spare, and a home directory with one at its end. -/
theorem resolve_of_decides_spare_slashes :
    let environment : Environment :=
      { bindings := [("HOME", Utf8.encode "/home/u/"), ("ACONTEXT_PATH", Utf8.encode "~/a//b/")] }
    Decides environment none "~/a//b/" ∧ environment.path? homeVariable = some ⟨"/home/u/"⟩
      ∧ ∃ directory, resolve environment none = .ok directory
        ∧ directory.Continues ⟨"/home/u/"⟩ "a//b/" ∧ directory.steps = ["home", "u", "a", "b"] := by
  intro environment
  have hdecides : Decides environment none "~/a//b/" := .fromEnvironment rfl
  have hhome : environment.path? homeVariable = some ⟨"/home/u/"⟩ := by
    show some (Path.mk (Utf8.decodeLossy (Utf8.encode "/home/u/"))) = _
    rw [Utf8.decodeLossy_encode]
  obtain ⟨directory, hdirectory, hexpands, -, -⟩ := resolve_of_decides hdecides
  have hcontinues : directory.Continues ⟨"/home/u/"⟩ "a//b/" :=
    (hexpands _ "a//b/" hhome rfl).1.2 (.inl (by decide))
  refine ⟨hdecides, hhome, directory, hdirectory, hcontinues, ?_⟩
  rw [hcontinues.steps]
  decide

/-- A text whose second slash leads out of the home directory. -/
theorem resolve_leaves_home :
    let environment : Environment := { bindings := [("HOME", Utf8.encode "/home/u")] }
    environment.path? homeVariable = some ⟨"/home/u"⟩
      ∧ resolve environment (some "~//etc") = .ok ⟨"/etc"⟩
      ∧ ¬ ∃ directory, resolve environment (some "~//etc") = .ok directory
        ∧ directory.Continues ⟨"/home/u"⟩ "/etc" := by
  intro environment
  have hhome : environment.path? homeVariable = some ⟨"/home/u"⟩ := by
    show some (Path.mk (Utf8.decodeLossy (Utf8.encode "/home/u"))) = _
    rw [Utf8.decodeLossy_encode]
  have hdirectory : resolve environment (some "~//etc") = .ok ⟨"/etc"⟩ := by
    rw [resolve_eq (.named _), show "~//etc" = "~/" ++ "/etc" from rfl, expandTilde_of_home hhome]
    rfl
  refine ⟨hhome, hdirectory, ?_⟩
  rintro ⟨directory, hother, hcontinues⟩
  rw [hdirectory] at hother
  cases hother
  have hsteps := hcontinues.steps
  revert hsteps
  decide

end SettingsDirectory

end CommandTelemetry
