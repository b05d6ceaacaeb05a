import ClusterKeeper.Data.Format
import ClusterKeeper.Decimal
import ClusterKeeper.Duration.Writer
import ClusterKeeper.Retry.Policy
import ClusterKeeper.Semver
import ClusterKeeper.Text.Quoted

/-!
# Configuration

What an installation is configured with, and the conditions it has to meet.
The first condition that is violated is reported; among the version bundles
the first faulty one decides.
-/

set_option autoImplicit false

namespace ClusterKeeper

structure VersionBundle where
  version : String
  cloudConfigVersion : String
  deriving DecidableEq, Repr

structure Config where
  installationName : String
  guestUpdateEnabled : Bool
  versionBundles : List VersionBundle
  retry : RetryPolicy
  volumeDeletionTimeout : Duration

inductive ConfigError where
  | readFile (path : String)
  | parseYaml (path : String)
  | emptyInstallationName
  | noVersionBundles
  | invalidVersion (version : String)
  | duplicateVersion (version : String)
  | missingCloudConfigVersion (version : String)
  | invalidRetryMultiplier (multiplier : Float)
  | retryDelaysOutOfOrder (initialDelay maxDelay : Duration)

namespace ConfigError

def kind : ConfigError → String
  | readFile _ => "ReadFile"
  | parseYaml _ => "ParseYaml"
  | emptyInstallationName => "EmptyInstallationName"
  | noVersionBundles => "NoVersionBundles"
  | invalidVersion _ => "InvalidVersion"
  | duplicateVersion _ => "DuplicateVersion"
  | missingCloudConfigVersion _ => "MissingCloudConfigVersion"
  | invalidRetryMultiplier _ => "InvalidRetryMultiplier"
  | retryDelaysOutOfOrder _ _ => "RetryDelaysOutOfOrder"

def message : ConfigError → String
  | readFile path => "failed to read config file " ++ path
  | parseYaml path => "failed to parse config file " ++ path
  | emptyInstallationName => "installationName must not be empty"
  | noVersionBundles => "at least one version bundle must be configured"
  | invalidVersion version =>
    "version bundle version " ++ Text.quoted version ++ " is not a semantic version"
  | duplicateVersion version =>
    "version bundle " ++ version ++ " is configured more than once"
  | missingCloudConfigVersion version =>
    "version bundle " ++ version ++ " has no cloud-config version"
  | invalidRetryMultiplier multiplier =>
    "retry multiplier must be a finite number of at least 1, got " ++ floatText multiplier
  | retryDelaysOutOfOrder initialDelay maxDelay =>
    "retry maxDelay (" ++ maxDelay.text ++ ") must not be shorter than initialDelay (" ++
      initialDelay.text ++ ")"

end ConfigError

namespace Config

def require (condition : Bool) (e : ConfigError) : Except ConfigError Unit :=
  if condition then .ok () else .error e

def checkBundles (seen : List Semver) : List VersionBundle → Except ConfigError Unit
  | [] => .ok ()
  | bundle :: rest => do
    match Semver.parse? bundle.version with
    | none => .error (.invalidVersion bundle.version)
    | some version =>
      require (version ∉ seen) (.duplicateVersion bundle.version)
      require (bundle.cloudConfigVersion ≠ "") (.missingCloudConfigVersion bundle.version)
      checkBundles (version :: seen) rest

def validate (c : Config) : Except ConfigError Unit := do
  require (c.installationName ≠ "") .emptyInstallationName
  require (!c.versionBundles.isEmpty) .noVersionBundles
  checkBundles [] c.versionBundles
  require (c.retry.multiplier.isFinite && c.retry.multiplier ≥ 1.0)
    (.invalidRetryMultiplier c.retry.multiplier)
  require (c.retry.initialDelay ≤ c.retry.maxDelay)
    (.retryDelaysOutOfOrder c.retry.initialDelay c.retry.maxDelay)

def volumeDeletionPolicy (c : Config) : RetryPolicy :=
  .withMaxElapsed c.volumeDeletionTimeout

def defaultVolumeDeletionTimeout : Duration := .ofMilliseconds 30000

end Config

def VersionBundle.decode {V : Type} (f : DataFormat V) (v : V) : Option VersionBundle := do
  let fields ← f.fields? ["version", "cloudConfigVersion"] v
  let version ← required? fields "version" f.text?
  let cloudConfigVersion ← required? fields "cloudConfigVersion" f.text?
  pure ⟨version, cloudConfigVersion⟩

namespace Config

def fieldNames : List String :=
  ["installationName", "guestUpdateEnabled", "versionBundles", "retry",
   "volumeDeletionTimeout"]

def decode {V : Type} (f : DataFormat V) (v : V) : Option Config := do
  let fields ← f.fields? fieldNames v
  let installationName ← required? fields "installationName" f.text?
  let guestUpdateEnabled ← defaulted? fields "guestUpdateEnabled" f.bool? false
  let versionBundles ← required? fields "versionBundles" (f.list? (VersionBundle.decode f))
  let retry ← defaulted? fields "retry" (RetryPolicy.decode f) RetryPolicy.standard
  let volumeDeletionTimeout ←
    defaulted? fields "volumeDeletionTimeout" f.duration? defaultVolumeDeletionTimeout
  pure ⟨installationName, guestUpdateEnabled, versionBundles, retry, volumeDeletionTimeout⟩

end Config

end ClusterKeeper
