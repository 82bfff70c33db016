import CommandTelemetry.Command.Sample
import CommandTelemetry.Command.Walk
import CommandTelemetry.Dispatch.EventLoop
import CommandTelemetry.Dispatch.History
import CommandTelemetry.Lifecycle.Host
import CommandTelemetry.Main
import CommandTelemetry.Report.EventReader
import CommandTelemetry.Proofs.Command.ClearCommandTheorems
import CommandTelemetry.Proofs.CommandLine.ReaderTheorems
import CommandTelemetry.Proofs.Dispatch.OutboxTheorems
import CommandTelemetry.Proofs.CommandLine.OptionLevelTheorems
import CommandTelemetry.Proofs.Invocation.WalkTheorems
import CommandTelemetry.Proofs.CommandLine.RecordTheorems
import CommandTelemetry.Proofs.Program.RunTheorems
import CommandTelemetry.Proofs.Text.HeadlineTheorems
import CommandTelemetry.Proofs.Text.Utf8ReaderTheorems
import CommandTelemetry.Proofs.Settings.DirectoryTheorems
import CommandTelemetry.Proofs.Settings.ConfigTheorems
import CommandTelemetry.Proofs.Program.RequestTheorems
import CommandTelemetry.Proofs.Dispatch.BoundedWaitTheorems
import CommandTelemetry.Proofs.Dispatch.CompletionTheorems
import CommandTelemetry.Proofs.Lifecycle.SessionTheorems
import CommandTelemetry.Proofs.Lifecycle.SuppressionTheorems
import CommandTelemetry.Proofs.Json.ReaderTheorems
import CommandTelemetry.Proofs.Report.FlagsTheorems
import CommandTelemetry.Proofs.Report.EventTheorems
import CommandTelemetry.Command.Outline
import CommandTelemetry.Proofs.Command.ArenaTheorems
import CommandTelemetry.Proofs.CommandLine.UseTheorems
import CommandTelemetry.Proofs.Command.DistinctCommandTheorems
import CommandTelemetry.Proofs.Invocation.TypedFlagsTheorems
import CommandTelemetry.Proofs.Invocation.StrayTheorems
import CommandTelemetry.Proofs.Command.FlagScopeTheorems
import CommandTelemetry.Proofs.Command.PathTheorems
import CommandTelemetry.Proofs.Invocation.ExecutedTheorems
import CommandTelemetry.Proofs.CommandLine.WordTheorems
import CommandTelemetry.Proofs.Invocation.TypedWordsTheorems
import CommandTelemetry.Proofs.Invocation.WalkStateTheorems
import CommandTelemetry.Proofs.Invocation.ReportedFlagTheorems
import CommandTelemetry.Proofs.Lifecycle.DurationTheorems
import CommandTelemetry.Proofs.FileSystem.TreeTheorems
import CommandTelemetry.Proofs.Program.ScaffoldTheorems
import CommandTelemetry.Proofs.Program.ManifestTheorems
import CommandTelemetry.Proofs.Program.FailedScaffoldTheorems
import CommandTelemetry.Proofs.Settings.StartTheorems
import CommandTelemetry.Proofs.CommandLine.FaultTheorems
import CommandTelemetry.Proofs.CommandLine.ParseTheorems
