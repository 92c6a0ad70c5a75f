import RemoteCall.Value.Display
import RemoteCall.Samples
import RemoteCall.Http.Config
import RemoteCall.Http.Network
import RemoteCall.Proofs.Json.Id
import RemoteCall.Proofs.Registry.Multicall
import RemoteCall.Proofs.Transfer
import RemoteCall.Proofs.Xml.Layout
import RemoteCall.Proofs.Depth
import RemoteCall.Proofs.Registry.Operation
import RemoteCall.Proofs.Registry.History
import RemoteCall.Proofs.Registry.Nesting
import RemoteCall.Proofs.Registry.Introspection
import RemoteCall.Proofs.Base64.Accepted
import RemoteCall.Proofs.DateTime.Spelling
import RemoteCall.Proofs.Json.Dates
import RemoteCall.Proofs.Registry.Origin
import RemoteCall.Proofs.Http.Message
import RemoteCall.Proofs.Http.Server
import RemoteCall.Proofs.Http.Client
import RemoteCall.Proofs.Registry.Typed
import RemoteCall.Proofs.Registry.Agreement
import RemoteCall.Proofs.Registry.Capabilities
import RemoteCall.Proofs.Composition
