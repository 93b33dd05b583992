import PromiseHttp.Proofs.Client.Lengths
import PromiseHttp.Proofs.Client.Limits
import PromiseHttp.Proofs.Connection.Deliveries
import PromiseHttp.Proofs.Connection.Succession
import PromiseHttp.Proofs.Connection.Survival
import PromiseHttp.Proofs.Endpoint.Fidelity
import PromiseHttp.Proofs.Http.RoundTrip
import PromiseHttp.Proofs.Promise.Aggregate
import PromiseHttp.Proofs.Promise.Deadlines
import PromiseHttp.Proofs.Promise.Waiting
import PromiseHttp.Proofs.Workers.Closing
import PromiseHttp.Rehearsal.Peer
import PromiseHttp.Rehearsal.Server
import PromiseHttp.Rehearsal.Writer
import PromiseHttp.Proofs.Endpoint.Life
import PromiseHttp.Proofs.Endpoint.Lifetime
import PromiseHttp.Proofs.Endpoint.LifeCycle
import PromiseHttp.Proofs.Promise.Racing
import PromiseHttp.Proofs.Promise.Chaining
import PromiseHttp.Proofs.Promise.Trees
import PromiseHttp.Proofs.Client.Encodings
import PromiseHttp.Proofs.Workers.Fairness
import PromiseHttp.Proofs.Client.Announced
import PromiseHttp.Proofs.Connection.FileTransfers
import PromiseHttp.Proofs.Connection.Leftovers
import PromiseHttp.Proofs.Client.Targets
