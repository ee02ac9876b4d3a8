import RoleOperator.Main
import RoleOperator.Metrics.Service
import RoleOperator.Proofs.Dispatch.Budget
import RoleOperator.Proofs.Dispatch.Depth
import RoleOperator.Proofs.Dispatch.Filtering
import RoleOperator.Proofs.Dispatch.Keys
import RoleOperator.Proofs.Dispatch.Selection
import RoleOperator.Proofs.Dispatch.Stopping
import RoleOperator.Proofs.Dispatch.Timers
import RoleOperator.Proofs.Finalization.Exclusion
import RoleOperator.Proofs.Finalization.Execution
import RoleOperator.Proofs.Finalization.Residue
import RoleOperator.Proofs.Finalization.Timing
import RoleOperator.Proofs.Finalization.Twins
import RoleOperator.Proofs.Queue.Backoff
import RoleOperator.Proofs.Queue.Service
import RoleOperator.Proofs.Queue.Waking
import RoleOperator.Proofs.Reconcile.Convergence
import RoleOperator.Proofs.Reconcile.Leftovers
import RoleOperator.Proofs.Reconcile.Vanishing
import RoleOperator.Proofs.Role.Encoding
import RoleOperator.Proofs.Role.History
import RoleOperator.Proofs.Role.Location
import RoleOperator.Proofs.Settings.Environment
import RoleOperator.Proofs.Storage.Mounting
import RoleOperator.Proofs.Store.Contention
import RoleOperator.Proofs.Store.Retrying
import RoleOperator.Proofs.Supervision.Draining
import RoleOperator.Proofs.Vault.Reasons
import RoleOperator.Registry
import RoleOperator.Settings
import RoleOperator.Simulation.Operator
import RoleOperator.Simulation.Queue
import RoleOperator.Simulation.ScriptedServer
import RoleOperator.Simulation.Supervision
import RoleOperator.Storage.Etcd
import RoleOperator.Vault.Adapter
