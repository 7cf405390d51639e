import Malleus.Machine.Panic
import Malleus.Machine.Memory
import Malleus.Arch.ExceptionEntry
import Malleus.Arch.Fault
import Malleus.Analyzer.CriticalInstant
import Malleus.Analyzer.LeastResponse
import Malleus.Analyzer.Convergence
import Malleus.Analyzer.Uncertainty
import Malleus.Analyzer.SharedPriority
import Malleus.Text.Quantity
import Malleus.Manifest.Units
import Malleus.Manifest.Schema
import Malleus.Manifest.Validate
import Malleus.Manifest.Findings
import Malleus.Manifest.TickRate
import Malleus.Manifest.Acceptance
import Malleus.Kernel.Admission
import Malleus.Manifest.Ticks
import Malleus.Cli.Analyze
import Malleus.Cli.Handoff
import Malleus.Cli.Contract
import Malleus.Cli.TickRate
import Malleus.Cli.Commands
import Malleus.Cli.FinerClock
import Malleus.Manifest.Codes
import Malleus.Manifest.Levels
import Malleus.Manifest.Deadlines
import Malleus.Cli.DeadlineDefault
import Malleus.Analyzer.Sustainability
import Malleus.Analyzer.Utilisation
import Malleus.Analyzer.Isolation
import Malleus.Cli.Reordering
import Malleus.Analyzer.Blocking
import Malleus.Analyzer.DeadlineMonotonic
import Malleus.Analyzer.Deadline
import Malleus.Analyzer.Harmonic
import Malleus.Arch.Startup
import Malleus.Arch.Capture
import Malleus.Arch.Lifecycle
import Malleus.Arch.Snapshot
import Malleus.Arch.Publication
import Malleus.Kernel.Delay
import Malleus.Manifest.Alignment
import Malleus.Manifest.Report
import Malleus.Kernel.Period
import Malleus.Kernel.ClosedLoop
import Malleus.Cli.RealTime
import Malleus.Cli.Unanswered
import Malleus.Kernel.ReadySet
import Malleus.Kernel.Hardware
import Malleus.Kernel.Dispatch
import Malleus.Manifest.RoundTrip
import Malleus.Analyzer.Accuracy
import Malleus.Analyzer.Naming
import Malleus.Manifest.Grammar
import Malleus.Manifest.HashOrder
import Malleus.Manifest.Padding
import Malleus.Manifest.Explanations
import Malleus.Manifest.Locations
