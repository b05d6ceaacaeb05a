import ClusterKeeper.Json.Printer
import ClusterKeeper.Json.Reader
import ClusterKeeper.Duration.Reader
import ClusterKeeper.Duration.Writer
import ClusterKeeper.Error
import ClusterKeeper.Cloud.Basic
import ClusterKeeper.Retry.Loop
import ClusterKeeper.Reconciler
import ClusterKeeper.Digest.Sha256
import ClusterKeeper.Stack.State
import ClusterKeeper.Cloud.Call
import ClusterKeeper.Resources
import ClusterKeeper.Resources.MainStack
import ClusterKeeper.Operator
import ClusterKeeper.Cluster.Data
import ClusterKeeper.Memory.Stores
import ClusterKeeper.Memory.Sandbox
import ClusterKeeper.Rehearsal.World
import ClusterKeeper.Rehearsal.Stage
import ClusterKeeper.Rehearsal.Attempts
import ClusterKeeper.Stack.Data
import ClusterKeeper.Pass.Data
import ClusterKeeper.Rehearsal.WorldData
import ClusterKeeper.Rehearsal.StageData
import ClusterKeeper.Yaml.Reader
import ClusterKeeper.Yaml.Data
import ClusterKeeper.CommandLine.Reader
import ClusterKeeper.Launch.Start
import ClusterKeeper.Cluster.Definition
import ClusterKeeper.Main
import ClusterKeeper.Proofs.LossyPasses
import ClusterKeeper.Proofs.ConcurrentPasses
import ClusterKeeper.Proofs.SafeUpdates
import ClusterKeeper.Proofs.FaithfulPasses
import ClusterKeeper.Proofs.StackTransitions
import ClusterKeeper.Proofs.Neighbours
import ClusterKeeper.Proofs.Turns
import ClusterKeeper.Proofs.StepCancellation
import ClusterKeeper.Proofs.CallOrder
import ClusterKeeper.Proofs.Scaling
import ClusterKeeper.Proofs.UnambiguousRouting
import ClusterKeeper.Proofs.Convergence
import ClusterKeeper.Proofs.Blocks
import ClusterKeeper.Proofs.MeasuredSteps
import ClusterKeeper.Proofs.RetryLoop
import ClusterKeeper.Proofs.DeletionBudget
import ClusterKeeper.Proofs.StackDeletions
import ClusterKeeper.Proofs.ParkedInstances
import ClusterKeeper.Proofs.CompletedHooks
import ClusterKeeper.Proofs.LooseRemovals
import ClusterKeeper.Proofs.ObservedStacks
import ClusterKeeper.Proofs.SoundConfigs
import ClusterKeeper.Proofs.DurationTexts
import ClusterKeeper.Proofs.PolicyFields
import ClusterKeeper.Proofs.InjectedFaults
import ClusterKeeper.Proofs.MasterNames
