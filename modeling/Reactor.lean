import Reactor.Files.Memory
import Reactor.Main
import Reactor.Proofs.ImportDepth
import Reactor.Proofs.ParentChain
import Reactor.Proofs.VersionPrecedence
import Reactor.Proofs.Registry
import Reactor.Proofs.Descent
import Reactor.Proofs.Ownership
import Reactor.Proofs.Renumbering
import Reactor.Proofs.VisitingOrder
import Reactor.Proofs.Isolation
import Reactor.Proofs.FailedRendering
import Reactor.Proofs.RenderedGaps
import Reactor.Proofs.ConfigurationLayers
import Reactor.Proofs.KeySets
import Reactor.Proofs.DeclaredKeys
import Reactor.Proofs.NeutralValues
import Reactor.Proofs.PropertyLayers
import Reactor.Proofs.SuppliedParents
import Reactor.Proofs.SharedCache
import Reactor.Proofs.YamlLeaves
import Reactor.Proofs.TextParts
import Reactor.Proofs.BindingChannels
import Reactor.Proofs.DatabaseUrl
import Reactor.Proofs.DatabaseName
import Reactor.Proofs.Components
import Reactor.Proofs.Location
import Reactor.Proofs.WrappedProjects
import Reactor.Proofs.RepositoryLayout
import Reactor.Proofs.ForeignElements
import Reactor.Proofs.Comments
import Reactor.Proofs.UnpinnedVersions
import Reactor.Proofs.PropertyLines
import Reactor.Proofs.MemoryHistory
import Reactor.Proofs.NormalJoins
