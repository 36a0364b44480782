import Sweep.Host.Memory
import Sweep.Machine.Memory
import Sweep.Main
import Sweep.Proofs.Grammar
import Sweep.Proofs.MemorySweep
import Sweep.Proofs.Mirror
import Sweep.Proofs.Expansion
import Sweep.Proofs.Redefinition
import Sweep.Proofs.Printing
import Sweep.Proofs.GroupNames
import Sweep.Proofs.Template
import Sweep.Proofs.Exclusion
import Sweep.Proofs.DryRun
import Sweep.Proofs.Composition
import Sweep.Proofs.Verdict
import Sweep.Proofs.GlobLanguage
import Sweep.Proofs.GlobComponents
import Sweep.Proofs.GlobReading
import Sweep.Proofs.Json
import Sweep.Proofs.Refusal
import Sweep.Proofs.Settings
import Sweep.Proofs.LiteralPattern
import Sweep.Proofs.LiteralSearch
import Sweep.Proofs.Independence
import Sweep.Proofs.History
import Sweep.Proofs.WholeMatch
import Sweep.Proofs.GlobChoices
import Sweep.Proofs.GlobExpansion
import Sweep.Proofs.LineForms
import Sweep.Proofs.Spacing
import Sweep.Proofs.Stability
import Sweep.Proofs.Escapes
import Sweep.Proofs.Tracking
