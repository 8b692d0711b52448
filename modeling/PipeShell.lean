import PipeShell.Completion.Command
import PipeShell.Host.Scope
import PipeShell.Main
import PipeShell.Proofs.Command.Grammar
import PipeShell.Proofs.Command.Joining
import PipeShell.Proofs.Command.Reading
import PipeShell.Proofs.Command.RoundTrip
import PipeShell.Proofs.Completion.Chosen
import PipeShell.Proofs.History.Appending
import PipeShell.Proofs.History.Failures
import PipeShell.Proofs.History.Generation
import PipeShell.Proofs.History.RoundTrip
import PipeShell.Proofs.Host.Nesting
import PipeShell.Proofs.Host.Redirected
import PipeShell.Proofs.Session.Saving
import PipeShell.Proofs.Shell.Recording
import PipeShell.Proofs.Shell.Strategies
import PipeShell.Proofs.Search.Directories
import PipeShell.Proofs.Shell.Reports
import PipeShell.Proofs.Launch.Traces
import PipeShell.Proofs.Shell.Children
import PipeShell.Proofs.Shell.Loop
