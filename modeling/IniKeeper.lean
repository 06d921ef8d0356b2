import IniKeeper.Main
import IniKeeper.Proofs.RoundTrip
import IniKeeper.Proofs.Invariance
import IniKeeper.Proofs.Formatting
import IniKeeper.Proofs.MergePreview
import IniKeeper.Proofs.Repeating
import IniKeeper.Proofs.Atomicity
import IniKeeper.Proofs.Chronicle
import IniKeeper.Proofs.Separation
import IniKeeper.Proofs.Updates
import IniKeeper.Proofs.Readability
import IniKeeper.Proofs.Tallies
import IniKeeper.Proofs.Relayout
import IniKeeper.Proofs.LongRunningManager
import IniKeeper.Proofs.Finding
import IniKeeper.Proofs.Presence
import IniKeeper.Proofs.FailedLoads
import IniKeeper.Proofs.Classification
import IniKeeper.Proofs.Pruning
