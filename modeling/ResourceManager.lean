import ResourceManager.Catalogue.All
import ResourceManager.Config.Json
import ResourceManager.Config.Store
import ResourceManager.Factory
import ResourceManager.Resource.Identity
import ResourceManager.Proofs.Addressing
import ResourceManager.Proofs.Authentication
import ResourceManager.Proofs.Bookkeeping
import ResourceManager.Proofs.Conclusion
import ResourceManager.Proofs.ErrorDetails
import ResourceManager.Proofs.HandPolling
import ResourceManager.Proofs.IdentityRoundTrip
import ResourceManager.Proofs.IdentityShape
import ResourceManager.Proofs.Interruption
import ResourceManager.Proofs.Layering
import ResourceManager.Proofs.Listing
import ResourceManager.Proofs.Parameters
import ResourceManager.Proofs.PollerStates
import ResourceManager.Proofs.ProfileTables
import ResourceManager.Proofs.Reporting
import ResourceManager.Proofs.Resolution
import ResourceManager.Proofs.Saving
import ResourceManager.Proofs.Secrecy
import ResourceManager.Proofs.Serialization
import ResourceManager.Proofs.Substitution
import ResourceManager.Proofs.TerminalFailure
import ResourceManager.Proofs.TokenLifetime
import ResourceManager.Proofs.TokenSharing
