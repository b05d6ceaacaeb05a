import ClusterKeeper.Text.Quoted

/-!
# Errors

What a call of the cloud answers when it fails, and what a pass makes of it.
-/

set_option autoImplicit false

namespace ClusterKeeper

/-! ## Conditions of cloud calls

What a call answers when it does not succeed. Which of them is expected
depends on the caller: a deletion takes a missing resource for done. -/

inductive CloudError where
  | notFound (resource : String)
  | alreadyExists (resource : String)
  | incorrectState (resource message : String)
  | noUpdatesToPerform (resource : String)
  | throttled
  | api (service message : String)
  deriving DecidableEq, Repr

namespace CloudError

def message : CloudError → String
  | notFound resource => resource ++ " does not exist"
  | alreadyExists resource => resource ++ " already exists"
  | incorrectState resource message => resource ++ " is in an incorrect state: " ++ message
  | noUpdatesToPerform resource => "no updates are to be performed on " ++ resource
  | throttled => "request was throttled"
  | api service message => service ++ " API call failed: " ++ message

def kind : CloudError → String
  | notFound _ => "NotFound"
  | alreadyExists _ => "AlreadyExists"
  | incorrectState _ _ => "IncorrectState"
  | noUpdatesToPerform _ => "NoUpdatesToPerform"
  | throttled => "Throttled"
  | api _ _ => "Api"

def isNotFound : CloudError → Bool
  | notFound _ => true
  | _ => false

def isAlreadyExists : CloudError → Bool
  | alreadyExists _ => true
  | _ => false

def isIncorrectState : CloudError → Bool
  | incorrectState _ _ => true
  | _ => false

def isNoUpdatesToPerform : CloudError → Bool
  | noUpdatesToPerform _ => true
  | _ => false

end CloudError

/-! ## Errors of a pass

Each error is one of eight kinds. The kind tells whether a condition is a
failure or a state that passes, such as a stack that is still being created. -/

inductive Error where
  | invalidConfig (reason : String)
  | invalidVersion (version : String)
  | notFound (what : String)
  | deletionMustBeRetried (what : String)
  | stackNotFound (stack : String)
  | outputsNotAccessible (stack status : String)
  | renderTemplate (stack source : String)
  | executionFailed (action : String) (source : CloudError)
  deriving DecidableEq, Repr

namespace Error

def message : Error → String
  | invalidConfig reason => "invalid config: " ++ reason
  | invalidVersion version =>
    "no resource set handles version bundle version " ++ Text.quoted version
  | notFound what => what ++ " not found"
  | deletionMustBeRetried what => "deletion of " ++ what ++ " must be retried"
  | stackNotFound stack => "stack " ++ Text.quoted stack ++ " not found"
  | outputsNotAccessible stack status =>
    "outputs of stack " ++ Text.quoted stack ++ " are not accessible in status " ++ status
  | renderTemplate stack _ => "failed to render template for stack " ++ Text.quoted stack
  | executionFailed action _ => "failed to " ++ action

def category : Error → String
  | invalidConfig _ => "InvalidConfig"
  | invalidVersion _ => "InvalidVersion"
  | notFound _ => "NotFound"
  | deletionMustBeRetried _ => "DeletionMustBeRetried"
  | stackNotFound _ => "StackNotFound"
  | outputsNotAccessible _ _ => "OutputsNotAccessible"
  | renderTemplate _ _ => "RenderTemplate"
  | executionFailed _ _ => "ExecutionFailed"

def source? : Error → Option String
  | renderTemplate _ source => some source
  | executionFailed _ source => some source.message
  | _ => none

end Error

end ClusterKeeper
