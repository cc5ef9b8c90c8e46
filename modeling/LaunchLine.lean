import LaunchLine.Main
import LaunchLine.Proofs.CompleteOptions
import LaunchLine.Proofs.ConfigWords
import LaunchLine.Proofs.Diagnostics
import LaunchLine.Proofs.Discovery
import LaunchLine.Proofs.LengthReport
import LaunchLine.Proofs.LibraryScope
import LaunchLine.Proofs.LineText
import LaunchLine.Proofs.Nesting
import LaunchLine.Proofs.Overridable
import LaunchLine.Proofs.Override
import LaunchLine.Proofs.PanicParts
import LaunchLine.Proofs.PlanText
import LaunchLine.Proofs.Rearranging
import LaunchLine.Proofs.Recognition
import LaunchLine.Proofs.ReportLine
import LaunchLine.Proofs.Running
import LaunchLine.Proofs.SameConfig
import LaunchLine.Proofs.ScopeOrder
import LaunchLine.Proofs.ShellWords
import LaunchLine.Proofs.SourceCheck
import LaunchLine.Proofs.StrictConfig
import LaunchLine.Proofs.TraceTruth
import LaunchLine.Proofs.Utf8
import LaunchLine.Proofs.Vocabulary
