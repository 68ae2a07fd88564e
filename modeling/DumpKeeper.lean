import DumpKeeper.Main
import DumpKeeper.Proofs.History
import DumpKeeper.Proofs.Isolation
import DumpKeeper.Proofs.Survival
import DumpKeeper.Proofs.Faults
import DumpKeeper.Proofs.Upload
import DumpKeeper.Proofs.Backends
import DumpKeeper.Proofs.Exposition
import DumpKeeper.Proofs.Counting
import DumpKeeper.Proofs.Balance
import DumpKeeper.Proofs.Outcome
import DumpKeeper.Proofs.Loading
import DumpKeeper.Proofs.Validity
import DumpKeeper.Proofs.Defects
import DumpKeeper.Proofs.Timer
import DumpKeeper.Proofs.Timetable
import DumpKeeper.Proofs.Modest
import DumpKeeper.Proofs.Apart
import DumpKeeper.Proofs.Lifecycle
import DumpKeeper.Proofs.Decision
import DumpKeeper.Proofs.Endurance
import DumpKeeper.Proofs.Keeping
import DumpKeeper.Proofs.Closing
import DumpKeeper.Proofs.Parallel
import DumpKeeper.Proofs.Trees
import DumpKeeper.Proofs.Twins
import DumpKeeper.Proofs.Discretion
import DumpKeeper.Proofs.Partition
import DumpKeeper.Proofs.Retrying
import DumpKeeper.Proofs.Layers
import DumpKeeper.Proofs.Loosening
import DumpKeeper.Proofs.Stamp
import DumpKeeper.Proofs.Deletions
import DumpKeeper.Proofs.Chronology
import DumpKeeper.Proofs.StampReading
import DumpKeeper.Proofs.DumpTime
import DumpKeeper.Proofs.Compact
import DumpKeeper.Proofs.Scanning
import DumpKeeper.Proofs.Boundaries
import DumpKeeper.Proofs.WrittenLocator
import DumpKeeper.Proofs.Selection
import DumpKeeper.Proofs.Arrangement
import DumpKeeper.Proofs.Emptying
import DumpKeeper.Proofs.Loggers
import DumpKeeper.Proofs.Logging
