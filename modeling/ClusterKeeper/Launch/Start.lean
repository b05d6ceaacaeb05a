import ClusterKeeper.CommandLine.Reader
import ClusterKeeper.Config
import ClusterKeeper.Files
import ClusterKeeper.Logging.Session
import ClusterKeeper.Operator
import ClusterKeeper.Yaml.Data
import ClusterKeeper.Yaml.Reader

/-!
# Starting the operator

The configuration is found and read, and the operator is built from it.
-/

set_option autoImplicit false

namespace ClusterKeeper

/-! ## Configuration files

A configuration is read from one YAML document and has to be valid. -/

namespace Config

def ofText (path text : String) : Except ConfigError Config :=
  match (Yaml.read? text).bind (decode Yaml.format) with
  | none => .error (.parseYaml path)
  | some c => c.validate.map fun _ => c

def ofFile (files : FileView) (path : String) : Except ConfigError Config :=
  match files.text? path with
  | none => .error (.readFile path)
  | some text => ofText path text

end Config

/-! ## Loading the configuration

The configuration is in the file that was given, else in the first of some
places that exists. An answer on the command line to whether updates are
allowed goes before that of the file. -/

inductive LoadError where
  | requiredFileMissing (searched : List String)
  | loadConfig (source : ConfigError)

namespace LoadError

def kind : LoadError → String
  | requiredFileMissing _ => "RequiredFileMissing"
  | loadConfig _ => "LoadConfig"

def message : LoadError → String
  | requiredFileMissing searched =>
    "failed to locate a required file in any of the following locations: " ++
      Text.quotedList searched
  | loadConfig _ => "failed to load operator config"

def source? : LoadError → Option ConfigError
  | requiredFileMissing _ => none
  | loadConfig e => some e

end LoadError

namespace Launch

def standardPlaces : List String :=
  ["deploy/config/aws-operator.yaml", "/etc/aws-operator/config.yaml"]

def searchPath (given : Option String) (places : List String) : List String :=
  given.elim places fun path => [path]

def locate (files : FileView) (given : Option String) (places : List String) :
    Except LoadError String :=
  let searched := searchPath given places
  match searched.find? files.pathExists with
  | some path => .ok path
  | none => .error (.requiredFileMissing searched)

def override (a : RunArguments) (c : Config) : Config :=
  { c with guestUpdateEnabled := a.guestUpdateEnabled.getD c.guestUpdateEnabled }

def load (files : FileView) (a : RunArguments) : Except LoadError Config := do
  let path ← locate files a.configFile standardPlaces
  match Config.ofFile files path with
  | .ok c => pure (override a c)
  | .error e => throw (.loadConfig e)

end Launch

/-! ## The start

Logging is set up first, then the configuration is loaded, then the resource
sets are built. The first of these that fails ends the start. -/

inductive StartError where
  | initLogging (source : LoggingError)
  | loadConfig (source : LoadError)
  | buildReconciler (source : Error)

namespace StartError

def kind : StartError → String
  | initLogging _ => "InitLogging"
  | loadConfig _ => "LoadConfig"
  | buildReconciler _ => "BuildReconciler"

def message : StartError → String
  | initLogging _ => "failed to initialize logging"
  | loadConfig _ => "failed to load configuration"
  | buildReconciler _ => "failed to build reconciler"

end StartError

namespace Launch

def programName : String := "aws-operator"

def logVariable : String := "AWS_OPERATOR_LOG"

structure Surroundings where
  time : String
  environment : String → Option String
  files : FileTree

def start (s : Surroundings) (a : RunArguments) :
    Except StartError (Reconciler Cloud Cluster) := do
  let session ← ((LogSession.silent s.files).setUp s.time s.environment logVariable
    programName).mapError .initLogging
  let config ← (load session.files.view a).mapError .loadConfig
  (Operator.reconciler config).mapError .buildReconciler

end Launch

end ClusterKeeper
