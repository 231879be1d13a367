import Testbed.Main
import Testbed.Console.Interleaving
import Testbed.Guest.Call
import Testbed.Pool
import Testbed.Rehearsal.Performance
import Testbed.Storage
import Testbed.Proofs.Console.Handover
import Testbed.Proofs.Console.Isolation
import Testbed.Proofs.Console.Ledger
import Testbed.Proofs.Console.Logs
import Testbed.Proofs.Console.Migration
import Testbed.Proofs.Console.Outlived
import Testbed.Proofs.Console.Reconciliation
import Testbed.Proofs.Console.Shutdown
import Testbed.Proofs.Console.Snapshot
import Testbed.Proofs.Console.Tracking
import Testbed.Proofs.Guest.Ownership
import Testbed.Proofs.Host.Phases
import Testbed.Proofs.Host.Reboot
import Testbed.Proofs.Host.Toolstack
import Testbed.Proofs.Transport.Classification
import Testbed.Proofs.Waiting.Tries
import Testbed.Proofs.Console.Endings
import Testbed.Proofs.Transport.Banner
import Testbed.Proofs.Transport.Background
import Testbed.Proofs.Text.Trimming
import Testbed.Proofs.Xe.Parameters
import Testbed.Proofs.Xe.Listing
import Testbed.Proofs.Transport.Logging
import Testbed.Proofs.Storage.Plugs
import Testbed.Proofs.Waiting.Policies
import Testbed.Proofs.Xe.Numbers
import Testbed.Proofs.Transport.Timeouts
import Testbed.Proofs.CommandLine.Filtering
import Testbed.Proofs.Text.Finding
import Testbed.Proofs.Rehearsal.Stage
import Testbed.Proofs.Rehearsal.Bench
import Testbed.Proofs.Rehearsal.Shell.Expansion
