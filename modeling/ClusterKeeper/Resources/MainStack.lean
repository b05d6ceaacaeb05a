import ClusterKeeper.Resource
import ClusterKeeper.Stack.State
import ClusterKeeper.Volumes

/-!
# Stacks of a cluster

The main stack of a cluster is created if it does not exist, and is otherwise
scaled, updated or left alone. Updating replaces the master, so its volumes
are retired first. With the cluster go its main stack and two stacks in the
account of the operator.
-/

set_option autoImplicit false

namespace ClusterKeeper

structure StackDeletion where
  guestMain : String
  hostMain : String
  hostSetup : String
  deriving DecidableEq, Repr

namespace StackDeletion

def ofCluster (cluster : String) : StackDeletion :=
  ⟨Names.guestMainStack cluster, Names.hostMainStack cluster, Names.hostSetupStack cluster⟩

def targets (d : StackDeletion) : List (Account × String) :=
  [(.guest, d.guestMain), (.host, d.hostMain), (.host, d.hostSetup)]

end StackDeletion

/-- The state of the stack of that name, given what describing it answered. A
stack that lacks an output can still be deleted, so this is no error. -/
def StackState.ofAnswer (name : String) (answer : Except CloudError Stack) :
    Except Error StackState :=
  match StackOutputs.ofAnswer name answer with
  | .ok outputs =>
    match ofOutputs outputs name with
    | .ok state => .ok state
    | .error (.notFound _) => .ok (unread name)
    | .error e => .error e
  | .error (.stackNotFound _) => .ok absent
  | .error (.outputsNotAccessible _ _) => .ok (unread name)
  | .error e => .error e

namespace MainStack

def render (cluster : Cluster) (state : StackState) (account : String) :
    Action Cloud String := do
  match ← Cloud.renderTemplate account cluster state with
  | .ok body => pure body
  | .error source => throw (.renderTemplate state.name source)

def deleteAll : List (Account × String) → Action Cloud (List String)
  | [] => pure []
  | (account, name) :: rest => do
    let answer ← Cloud.deleteStack account name
    let failed ← deleteAll rest
    match Cloud.accept CloudError.isNotFound () answer with
    | .ok () => pure failed
    | .error _ => pure (name :: failed)

def updateChange (desired : StackState) (decision : Decision) (body : String) : StackState :=
  { desired with
    shouldScale := decision = .scale
    shouldUpdate := decision = .update
    updateRequest := some ⟨desired.name, body⟩ }

def submit (request : UpdateRequest) : Action Cloud Unit := do
  let answer ← Cloud.updateStack .guest request.stack request.body
  Cloud.orFail ("update stack " ++ request.stack)
    (Cloud.accept CloudError.isNoUpdatesToPerform () answer)

def applyUpdate (policy : RetryPolicy) (cluster : Cluster) (change : StackState) :
    Action Cloud Unit :=
  match change.updateRequest with
  | none => pure ()
  | some request =>
    if change.shouldUpdate then do
      Volumes.retireEtcd policy cluster.id
      submit request
    else if change.shouldScale then submit request
    else pure ()

def resource (cloudConfigVersion : String) (policy : RetryPolicy) :
    CrudResource Cloud Cluster where
  State := StackState
  CreateChange := StackState
  UpdateChange := StackState
  DeleteChange := StackDeletion
  name := "stack"
  currentState _ cluster := do
    let name := Names.guestMainStack cluster.id
    StackState.ofAnswer name (← Cloud.describeStack .guest name)
  desiredState _ cluster := pure (StackState.desired cluster cloudConfigVersion)
  createPatch _ _ current desired :=
    pure (if current.exists? then .empty else .ofCreate desired)
  updatePatch context cluster current desired :=
    if current.hasOutputs then
      match current.decide desired context.updatesAllowed with
      | .keep => pure .empty
      | decision => do
        let account ← lookUpAccount
        let body ← render cluster desired account
        pure (.ofUpdate (updateChange desired decision body))
    else pure .empty
  deletePatch _ cluster _ _ := pure (.ofDelete (.ofCluster cluster.id))
  applyCreate _ cluster change := do
    let account ← lookUpAccount
    let body ← render cluster change account
    let answer ← Cloud.createStack .guest change.name body
      [(Names.ownershipTag cluster.id, Names.owned)]
    Cloud.orFail ("create stack " ++ change.name)
      (Cloud.accept CloudError.isAlreadyExists () answer)
  applyUpdate _ cluster change := applyUpdate policy cluster change
  applyDelete _ _ change := do
    let failed ← deleteAll change.targets
    if failed ≠ [] then
      throw (.deletionMustBeRetried ("stacks " ++ ", ".intercalate failed))

def patchFor (cluster : Cluster) (desired : StackState) (decision : Decision) :
    Action Cloud (Patch StackState StackState StackDeletion) := do
  let account ← lookUpAccount
  let body ← render cluster desired account
  pure (.ofUpdate (updateChange desired decision body))

/-- Without outputs nothing is decided. -/
theorem updatePatch_cases (cloudConfigVersion : String) (policy : RetryPolicy)
    (context : PassContext) (cluster : Cluster) (current desired : StackState) :
    (resource cloudConfigVersion policy).updatePatch context cluster current desired =
        pure .empty ∧
      (current.hasOutputs = true → current.decide desired context.updatesAllowed = .keep) ∨
    (resource cloudConfigVersion policy).updatePatch context cluster current desired =
        patchFor cluster desired (current.decide desired context.updatesAllowed) ∧
      current.hasOutputs = true := by
  unfold resource
  dsimp only
  by_cases ho : current.hasOutputs = true
  · rw [if_pos ho]
    cases current.decide desired context.updatesAllowed with
    | keep => exact .inl ⟨rfl, fun _ => rfl⟩
    | scale => exact .inr ⟨rfl, ho⟩
    | update => exact .inr ⟨rfl, ho⟩
  · rw [if_neg ho]
    exact .inl ⟨rfl, fun h => absurd h ho⟩

end MainStack

end ClusterKeeper
