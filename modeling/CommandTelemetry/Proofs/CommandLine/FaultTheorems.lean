import CommandTelemetry.CommandLine.Fault
import CommandTelemetry.Proofs.Lifecycle.EndingTheorems
import CommandTelemetry.Proofs.Text.MessageLineTheorems

/-!
# Reported causes

What is reported of a command line that could not be read is one clean line: what the first line of
the printed text says, or the name of the cause when it says nothing.

* `Fault.exists_words` says that a message begins with words of its own, whatever was typed;
* `Fault.isClean_label` says that the name of every cause is a clean line;
* `Fault.headline_reported` says what is reported, for every printed text.
-/

namespace CommandTelemetry

namespace Text

theorem isBlank_of_isDigit {c : Char} (h : c.isDigit = true) : isBlank c = false := by
  have hrange : 48 ≤ c.toNat ∧ c.toNat ≤ 57 := by
    simpa [Char.isDigit, UInt32.le_iff_toNat_le] using h
  generalize hn : c.toNat = n at hrange
  simp [isBlank, hn]
  omega

/-- A number is written as one clean line. -/
theorem isClean_decimal (n : Nat) : IsClean (decimal n) := by
  constructor
  · rw [decimal, Ne, String.ofList_eq_empty_iff]
    exact digits_ne_nil n
  · rw [decimal, String.toList_ofList]
    constructor
    · intro c hc
      exact isBlank_of_isDigit (isDigit_of_mem_digits (List.mem_of_mem_head? hc))
    · intro c hc
      exact isBlank_of_isDigit (isDigit_of_mem_digits (List.mem_of_getLast? hc))

theorem not_mem_decimal {c : Char} (hc : c.isDigit = false) (n : Nat) :
    c ∉ (decimal n).toList := by
  rw [decimal, String.toList_ofList]
  intro h
  rw [isDigit_of_mem_digits h] at hc
  cases hc

end Text

namespace Fault

open Text

theorem isClean_label (fault : Fault) : IsClean fault.label ∧ '\n' ∉ fault.label.toList := by
  unfold label
  split <;> exact ⟨isClean_iff.2 (by decide +kernel), by decide +kernel⟩

/-- These words begin a message of their own: a clean line that does not begin the text for failures
that say nothing. -/
structure Opens (words : String) : Prop where
  clean : IsClean words
  oneLine : '\n' ∉ words.toList
  distinct : ¬ words.toList <+: Outcome.unknownError.toList

theorem opens_decimal (n : Nat) : Opens (decimal n) where
  clean := isClean_decimal n
  oneLine := not_mem_decimal (by decide) n
  distinct := by
    rintro ⟨rest, hrest⟩
    obtain ⟨c, cs, hdigits, hdigit⟩ := head_digits n
    rw [decimal, String.toList_ofList, hdigits] at hrest
    have hhead : c = 'u' := (List.cons.inj hrest).1
    rw [hhead] at hdigit
    revert hdigit
    decide

theorem opens_of_words {words : String}
    (h : words ≠ "" ∧ trim words.toList = words.toList ∧ '\n' ∉ words.toList
      ∧ words.toList.isPrefixOf Outcome.unknownError.toList = false) : Opens words where
  clean := isClean_iff.2 ⟨h.1, h.2.1⟩
  oneLine := h.2.2.1
  distinct hbegins := by
    have hdistinct := h.2.2.2
    rw [List.isPrefixOf_iff_prefix.2 hbegins] at hdistinct
    cases hdistinct

theorem prefix_append {words text : String} (h : words.toList <+: text.toList) (rest : String) :
    words.toList <+: (text ++ rest).toList := by
  rw [String.toList_append]
  exact h.trans (List.prefix_append _ _)

/-- Every message begins with words of its own, whatever was typed. -/
theorem exists_words (fault : Fault) :
    ∃ words, Opens words ∧ words.toList <+: fault.message.toList := by
  have hself : ∀ words : String, words.toList <+: words.toList := fun _ => List.prefix_rfl
  cases fault with
  | unknownArgument shown =>
    exact ⟨"unexpected argument '", opens_of_words (by decide),
      prefix_append (prefix_append (hself _) _) _⟩
  | unknownCommand word =>
    exact ⟨"unrecognized subcommand '", opens_of_words (by decide),
      prefix_append (prefix_append (hself _) _) _⟩
  | repeated arg =>
    exact ⟨"the argument '", opens_of_words (by decide),
      prefix_append (prefix_append (hself _) _) _⟩
  | missingValue arg =>
    exact ⟨"a value is required for '", opens_of_words (by decide),
      prefix_append (prefix_append (hself _) _) _⟩
  | wrongValue value arg =>
    exact ⟨"invalid value '", opens_of_words (by decide),
      prefix_append (prefix_append (prefix_append (prefix_append (hself _) _) _) _) _⟩
  | unreadableCount value arg =>
    exact ⟨"invalid value '", opens_of_words (by decide),
      prefix_append (prefix_append (prefix_append (prefix_append (hself _) _) _) _) _⟩
  | surplusValue value arg =>
    exact ⟨"unexpected value '", opens_of_words (by decide),
      prefix_append (prefix_append (prefix_append (prefix_append (hself _) _) _) _) _⟩
  | tooFewValues arg given =>
    exact ⟨_, opens_decimal arg.valueCount.least, prefix_append (prefix_append
      (prefix_append (prefix_append (prefix_append (hself _) _) _) _) _) _⟩
  | wrongNumberOfValues arg given =>
    exact ⟨_, opens_decimal arg.valueCount.least, prefix_append (prefix_append
      (prefix_append (prefix_append (prefix_append (hself _) _) _) _) _) _⟩
  | missingEquals arg =>
    exact ⟨"equal sign is needed when assigning values to '", opens_of_words (by decide),
      prefix_append (prefix_append (hself _) _) _⟩
  | missingCommand level =>
    exact ⟨"'", opens_of_words (by decide), prefix_append (prefix_append (hself _) _) _⟩
  | missingArguments args =>
    exact ⟨"the following required arguments were not provided:",
      opens_of_words (by decide), prefix_append (hself _) _⟩

theorem headline_ne_unknownError (fault : Fault) : fault.headline ≠ Outcome.unknownError := by
  intro heq
  obtain ⟨words, hopens, hbegins⟩ := exists_words fault
  have hmarker : IsClean marker := isClean_iff.2 (by decide)
  have hwords := prefix_headline hmarker (by decide) hopens.clean hopens.oneLine hbegins
    fault.label
  rw [Fault.headline, render] at heq
  rw [heq] at hwords
  exact hopens.distinct hwords

/-- What is reported of a command line that could not be read. For every printed text and every
clean name of a cause it is a clean line, and one line if the name is one: what the first line of
the text says, or the name when that is nothing. As a failure it is reported as it stands. The names
of all causes are clean lines, and no cause is reported as an unknown error. -/
theorem headline_reported :
    (∀ label printed : String, IsClean label →
      let line := Text.headline marker label printed
      IsClean line ∧ ('\n' ∉ label.toList → '\n' ∉ line.toList)
        ∧ (∃ message, Tells marker.toList printed.toList message)
        ∧ (∀ message, Tells marker.toList printed.toList message →
            line = if message = [] then label else String.ofList message)
        ∧ Outcome.failed line = .failedWith line)
      ∧ ∀ fault : Fault, IsClean fault.label ∧ '\n' ∉ fault.label.toList
        ∧ fault.headline ≠ Outcome.unknownError
        ∧ ∀ (lifecycle : Lifecycle) (invocation : FailedInvocation),
            (lifecycle.failureReport invocation fault.headline).outcome
              = .failedWith fault.headline := by
  constructor
  · intro label printed hlabel line
    have hclean : IsClean line := isClean_headline hlabel marker printed
    have hvisible : Text.saysNothing line = false := hclean.saysNothing_eq_false
    exact ⟨hclean, fun h => headline_oneLine h marker printed, ⟨_, tells_iff.2 rfl⟩,
      fun message h => headline_of_tells label h, Outcome.failed_of_visible hvisible⟩
  · intro fault
    obtain ⟨hlabel, hline⟩ := isClean_label fault
    have hclean : IsClean fault.headline := isClean_headline hlabel marker fault.render
    refine ⟨hlabel, hline, headline_ne_unknownError fault, fun lifecycle invocation => ?_⟩
    rw [← Outcome.failed_of_visible hclean.saysNothing_eq_false]
    cases invocation <;> rfl

/-- A text that says nothing in its first line, and one whose second line comes from a word that was
typed. -/
theorem headline_reported_first_line :
    let label := "unexpected argument found"
    IsClean label
      ∧ Text.headline marker label "error:\u2003\r\nunknown" = label
      ∧ Text.headline marker label "error: error: unrecognized 'a\nb'"
        = "error: unrecognized 'a" := by
  intro label
  have hlabel : IsClean label := (isClean_label (.unknownArgument "")).1
  obtain ⟨-, -, -, hblank, -⟩ := headline_reported.1 label "error:\u2003\r\nunknown" hlabel
  obtain ⟨-, -, -, htyped, -⟩ :=
    headline_reported.1 label "error: error: unrecognized 'a\nb'" hlabel
  exact ⟨hlabel, hblank [] (tells_iff.2 (by decide)),
    htyped "error: unrecognized 'a".toList (tells_iff.2 (by decide))⟩

end Fault

end CommandTelemetry
