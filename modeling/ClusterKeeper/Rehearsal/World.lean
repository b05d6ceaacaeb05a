import ClusterKeeper.Memory.Stores
import ClusterKeeper.Pass.Engine

/-!
# A world to rehearse in

A cloud in memory that writes down every call in full. A failure can be aimed
at the calls with one first argument, can let some calls go by first, and can
end after some uses.
-/

set_option autoImplicit false

namespace ClusterKeeper.Rehearsal

structure Failure where
  call : String
  argument : Option String
  error : CloudError
  skip : Nat
  times : Option Nat
  deriving DecidableEq, Repr

structure World where
  accountId : String
  stores : Memory.Stores
  renderError : Option String
  failures : List Failure
  calls : List Cloud.Call
  measurements : List Measurement

namespace World

def defaultAccountId : String := "123456789012"

def flag (b : Bool) : String := if b then "true" else "false"

def template (account : String) (cluster : Cluster) (s : StackState) : String :=
  "|".intercalate
    [account, cluster.id, s.name, s.masterImageId, s.masterInstanceType,
     s.masterCloudConfigVersion, s.masterInstanceResourceName, flag s.masterMonitoring,
     s.workerCount, s.workerImageId, s.workerInstanceType, s.workerCloudConfigVersion,
     flag s.workerMonitoring, s.versionBundleVersion]

def conduct (w : World) : Memory.Conduct where
  accountId := w.accountId
  render account cluster state :=
    match w.renderError with
    | some e => .error e
    | none => .ok (template account cluster state)
  checksDevice := true
  updatesInPlace := true

def firstArgument? : Cloud.Call → Option String
  | .guestClients s | .describeStack _ s | .createStack _ s _ _ | .updateStack _ s _
  | .deleteStack _ s | .stopInstance s _ | .waitUntilInstanceStopped s
  | .detachVolume s _ _ | .waitUntilVolumeAvailable s | .deleteVolume s
  | .describeGroup s | .headBucket s | .createBucket s | .listObjects s
  | .deleteObjects s _ | .deleteBucket s | .currentKey s | .desiredKey s | .createKey s
  | .deleteKey s => some s
  | .completeLifecycleAction action => some action.instanceId
  | .accountId | .describeVolumes _ | .renderTemplate _ _ _ => none

def isLogged : Cloud.Call → Bool
  | .renderTemplate _ _ _ => false
  | _ => true

end World

namespace Failure

def isFor (f : Failure) (c : Cloud.Call) : Bool :=
  f.call = c.fullName &&
    (f.argument.isNone || f.argument = World.firstArgument? c)

def take (c : Cloud.Call) : List Failure → Option CloudError × List Failure
  | [] => (none, [])
  | f :: rest =>
    if f.isFor c then
      if 0 < f.skip then (none, { f with skip := f.skip - 1 } :: rest)
      else
        match f.times with
        | none => (some f.error, f :: rest)
        | some n =>
          if n ≤ 1 then (some f.error, rest)
          else (some f.error, { f with times := some (n - 1) } :: rest)
    else
      let (e, failures) := take c rest
      (e, f :: failures)

end Failure

namespace World

def carryOut (c : Cloud.Call) (w : World) : Except c.Fault c.Value × World :=
  let (reply, stores) := w.stores.answer w.conduct c
  (reply, { w with stores := stores })

def answer (c : Cloud.Call) (w : World) : Except c.Fault c.Value × World :=
  if isLogged c then
    let w := { w with calls := w.calls ++ [c] }
    match Failure.take c w.failures with
    | (some e, failures) => (Cloud.failWith c e, { w with failures := failures })
    | (none, failures) => carryOut c { w with failures := failures }
  else carryOut c w

def note (m : Measurement) (w : World) : World :=
  { w with measurements := w.measurements ++ [m] }

def run {α : Type} (p : Program (Engine Cloud) α) (w : World) : Option α × World :=
  p.run (Engine.rehearse (S := Cloud) answer note) w

end World

end ClusterKeeper.Rehearsal
