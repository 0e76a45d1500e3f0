import CertRegistry.Draft.Lookup
import CertRegistry.Draft.Service
import CertRegistry.Http.RouteName
import CertRegistry.Proofs.Request.Approval
import CertRegistry.Proofs.Step.Entitlement
import CertRegistry.Proofs.Step.Issuance
import CertRegistry.Proofs.Step.Isolation
import CertRegistry.Proofs.Step.Lifecycle
import CertRegistry.Proofs.Step.Resolution
import CertRegistry.Proofs.Step.Submission
import CertRegistry.Settings.Deployment
import CertRegistry.Settings.Standard
import CertRegistry.Step
import CertRegistry.Proofs.Input.Values
import CertRegistry.Proofs.Store.Law
import CertRegistry.Proofs.Step.Law
import CertRegistry.Proofs.Step.Audit
import CertRegistry.Proofs.Step.Declared
import CertRegistry.Proofs.Redaction.Masking
import CertRegistry.Proofs.Step.Redaction
import CertRegistry.Proofs.Number.Double
import CertRegistry.Proofs.Page
import CertRegistry.Proofs.Step.Listing
import CertRegistry.Proofs.Certificate.Rule
import CertRegistry.Proofs.Store.Refresh
import CertRegistry.Proofs.Admin.Command
import CertRegistry.Proofs.Redaction.Label
import CertRegistry.Proofs.Redaction.Secret
import CertRegistry.Proofs.Step.Creation
import CertRegistry.Proofs.Step.BulkAction
import CertRegistry.Proofs.Step.Stamp
import CertRegistry.Proofs.Step.Newest
import CertRegistry.Proofs.Request.Commutation
import CertRegistry.Proofs.Http.RouteName
import CertRegistry.Proofs.Step.Log
