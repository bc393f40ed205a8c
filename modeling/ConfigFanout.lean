import ConfigFanout.Api.Session
import ConfigFanout.Cluster.Scenario
import ConfigFanout.Json.Parser
import ConfigFanout.Main
import ConfigFanout.Proofs.Clearance
import ConfigFanout.Proofs.Differences
import ConfigFanout.Proofs.EarlyRecord
import ConfigFanout.Proofs.Failures
import ConfigFanout.Proofs.ForeignFinalizers
import ConfigFanout.Proofs.Guard
import ConfigFanout.Proofs.Independence
import ConfigFanout.Proofs.Kinds
import ConfigFanout.Proofs.Ledger
import ConfigFanout.Proofs.LostUpdates
import ConfigFanout.Proofs.Mirrors
import ConfigFanout.Proofs.Misdirection
import ConfigFanout.Proofs.Objections
import ConfigFanout.Proofs.Overtaking
import ConfigFanout.Proofs.PhaseOrder
import ConfigFanout.Proofs.Pruning
import ConfigFanout.Proofs.Release
import ConfigFanout.Proofs.Repetition
import ConfigFanout.Proofs.TornDown
import ConfigFanout.Proofs.Upkeep
import ConfigFanout.Proofs.Vacated
import ConfigFanout.Proofs.WakeUps
