import VariantStrip.Main
import VariantStrip.Proofs.History
import VariantStrip.Proofs.Rerun
import VariantStrip.Proofs.RuleSet
import VariantStrip.Proofs.Votes
import VariantStrip.Proofs.Merge
import VariantStrip.Proofs.MergedReference
import VariantStrip.Proofs.RuleList
import VariantStrip.Proofs.CatalogText
import VariantStrip.Proofs.Validation
import VariantStrip.Proofs.Batching
import VariantStrip.Proofs.PassKey
import VariantStrip.Proofs.ReportFiles
import VariantStrip.Proofs.Bookkeeping
import VariantStrip.Proofs.MergedCatalog
import VariantStrip.Proofs.Refusal
import VariantStrip.Proofs.MergeRun
import VariantStrip.Proofs.Wildcard
import VariantStrip.Proofs.ReferenceSearch
import VariantStrip.Proofs.IgnoringCase
import VariantStrip.Proofs.ReportReading
import VariantStrip.Proofs.PrepareFailure
import VariantStrip.Proofs.LostVotes
import VariantStrip.Proofs.CatalogVotes
import VariantStrip.Proofs.Precedence
import VariantStrip.Proofs.LogFolder
import VariantStrip.Proofs.VariantIdentity
import VariantStrip.Proofs.Signatures
import VariantStrip.Proofs.FailureLog
import VariantStrip.Proofs.RuleMove
import VariantStrip.Proofs.TallyMonoid
import VariantStrip.Proofs.NamedHost
