import CertMint.Json.Printer
import CertMint.Json.Reader
import CertMint.Log.Outlets
import CertMint.Main
import CertMint.Mint.Rendering
import CertMint.Proofs.Chains
import CertMint.Proofs.Containment
import CertMint.Proofs.Precedence
import CertMint.Proofs.Sessions
import CertMint.Settings.Desk
import CertMint.Proofs.Lineage
import CertMint.Proofs.Provision
import CertMint.Proofs.Runs
import CertMint.Proofs.Saving
import CertMint.Proofs.Histories
import CertMint.Proofs.Desks
import CertMint.Proofs.Registration
import CertMint.Proofs.Wirings
import CertMint.Proofs.Positions
import CertMint.Proofs.Levels
import CertMint.Proofs.Summaries
import CertMint.Proofs.KeyNames
import CertMint.Proofs.Validity
import CertMint.Proofs.Singles
import CertMint.Proofs.Distances
import CertMint.Proofs.Requests
import CertMint.Proofs.DigestNames
import CertMint.Proofs.Origins
import CertMint.Proofs.Places
import CertMint.Proofs.MetricNotes
import CertMint.Proofs.DefaultFiles
import CertMint.Proofs.LogLines
import CertMint.Proofs.Renewals
import CertMint.Proofs.Reviews
