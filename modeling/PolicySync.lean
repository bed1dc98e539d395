import PolicySync.Config.Display
import PolicySync.Json.Text
import PolicySync.Proofs.Cluster.Objects
import PolicySync.Proofs.Config.Environment
import PolicySync.Proofs.Config.Sources
import PolicySync.Proofs.Memory.Edits
import PolicySync.Proofs.Memory.History
import PolicySync.Proofs.Pass.Collecting
import PolicySync.Proofs.Pass.Independence
import PolicySync.Proofs.Pass.Interleaving
import PolicySync.Proofs.Pass.Listing
import PolicySync.Proofs.Pass.Requests
import PolicySync.Proofs.Pass.Writing
import PolicySync.Proofs.Resource.Codec
import PolicySync.Proofs.Resource.Naming
import PolicySync.Proofs.Resource.Schema
import PolicySync.Proofs.Role.Inheritance
import PolicySync.Proofs.Role.KindGrant
import PolicySync.Proofs.Role.Omission
import PolicySync.Proofs.Role.Turns
import PolicySync.Proofs.Simulation.Chronicle
import PolicySync.Proofs.Simulation.Health
import PolicySync.Proofs.Simulation.Publishing
import PolicySync.Proofs.Simulation.Reconcile
import PolicySync.Proofs.Simulation.Shutdown
import PolicySync.Proofs.Tuple.Plan
import PolicySync.Proofs.TupleService.Racing
import PolicySync.Proofs.TupleService.Repetition
import PolicySync.Simulation.Server
import PolicySync.Simulation.Trials
