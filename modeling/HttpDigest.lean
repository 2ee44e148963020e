import HttpDigest.Adapters
import HttpDigest.CommandLine
import HttpDigest.Failure.Fields
import HttpDigest.Main
import HttpDigest.RemoteDirectory
import HttpDigest.Proofs.Acceptance
import HttpDigest.Proofs.Closure
import HttpDigest.Proofs.Completeness
import HttpDigest.Proofs.NonceCheck
import HttpDigest.Proofs.Priority
import HttpDigest.Proofs.Staleness
import HttpDigest.Proofs.Course
import HttpDigest.Proofs.Decisive
import HttpDigest.Proofs.Provenance
import HttpDigest.Proofs.Refresh
import HttpDigest.Proofs.Revocation
import HttpDigest.Proofs.Transparency
import HttpDigest.Proofs.Budget
import HttpDigest.Proofs.Prehashed
import HttpDigest.Proofs.WellFormed
import HttpDigest.Proofs.DirectoryContract
import HttpDigest.Proofs.Secrecy
import HttpDigest.Proofs.TokenGrammar
import HttpDigest.Proofs.Tampering
import HttpDigest.Proofs.Binding
import HttpDigest.Proofs.Legibility
import HttpDigest.Proofs.Guarding
import HttpDigest.Proofs.Supply
import HttpDigest.Proofs.Overriding
import HttpDigest.Proofs.Residency
import HttpDigest.Proofs.UserAddress
import HttpDigest.Proofs.Decomposition
import HttpDigest.Proofs.Attachment
import HttpDigest.Proofs.Loading
import HttpDigest.Proofs.Resolution
import HttpDigest.Proofs.NonceCommand
import HttpDigest.Proofs.QuotedEntry
import HttpDigest.Proofs.ResponseForms
