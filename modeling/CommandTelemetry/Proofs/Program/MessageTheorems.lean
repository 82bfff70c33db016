import CommandTelemetry.Program.Scaffold
import CommandTelemetry.Program.Services
import CommandTelemetry.Proofs.Text.HeadlineTheorems

/-!
# Errors say something

No error that the program prints or reports is blank: `Fault.saysNothing_headline` for command lines
that cannot be read, `ScaffoldError.saysNothing_message` for new projects and
`ServiceError.saysNothing_message` for services.
-/

namespace CommandTelemetry

theorem Fault.saysNothing_label (fault : Fault) : Text.saysNothing fault.label = false := by
  unfold Fault.label
  split <;> decide +kernel

theorem Fault.saysNothing_headline (fault : Fault) : Text.saysNothing fault.headline = false :=
  Text.saysNothing_headline _ _ fault.saysNothing_label

open Text in
/-- Every message begins with words of its own, whatever names follow. -/
theorem ScaffoldError.saysNothing_message (error : ScaffoldError) :
    saysNothing error.message = false := by
  cases error with
  | blankName => decide +kernel
  | invalidName name => exact saysNothing_append (by decide +kernel) _
  | alreadyThere path => exact saysNothing_append (by decide +kernel) _
  | notCreated path cause =>
    exact saysNothing_append (saysNothing_append (saysNothing_append (by decide +kernel) _) _) _
  | notWritten path cause =>
    exact saysNothing_append (saysNothing_append (saysNothing_append (by decide +kernel) _) _) _

open Text in
theorem ServiceError.saysNothing_message (error : ServiceError) :
    saysNothing error.message = false := by
  cases error with
  | notInstalled => decide +kernel
  | nulInArgument => decide +kernel
  | exited verb code =>
    exact saysNothing_append (saysNothing_append (saysNothing_append (by decide +kernel) _) _) _
  | killed verb => exact saysNothing_append (saysNothing_append (by decide +kernel) _) _

end CommandTelemetry
