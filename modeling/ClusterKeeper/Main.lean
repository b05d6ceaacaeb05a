import ClusterKeeper.Cluster.Definition
import ClusterKeeper.CommandLine.Reader
import ClusterKeeper.Launch.Start
import ClusterKeeper.Operator

/-!
# The command line

Prints the definition of clusters, or loads the configuration and says whether
an operator can be built from it. The clouds are not part of this program.
-/

set_option autoImplicit false

namespace ClusterKeeper.Terminal

def readText (handle : IO.FS.Handle) : IO (Option String) := do
  try
    pure (String.fromUTF8? (← handle.readBinToEnd))
  catch _ =>
    pure none

def lookAt (path : String) : IO (Option (Option String)) := do
  try
    let handle ← IO.FS.Handle.mk path .read
    some <$> readText handle
  catch _ =>
    pure none

def viewOf (paths : List String) : IO FileView := do
  let found ← paths.mapM fun path => do
    pure ((← lookAt path).map (path, ·))
  pure (.ofList (found.filterMap id))

def readEnvironment (names : List String) : IO (String → Option String) := do
  let values ← names.mapM fun name => do
    pure ((← IO.getEnv name).map (name, ·))
  pure fun name => (values.filterMap id).lookup name

def failWith (messages : List String) : IO UInt32 := do
  IO.eprintln (": ".intercalate messages)
  pure 1

def runOperator (a : RunArguments) : IO UInt32 := do
  let files ← viewOf (Launch.searchPath a.configFile Launch.standardPlaces)
  match Launch.load files a with
  | .error e => failWith (e.message :: e.source?.toList.map ConfigError.message)
  | .ok c =>
    match Operator.reconciler c with
    | .error e => failWith [e.message]
    | .ok r =>
      IO.println r.summary
      pure 0

def run (arguments : List String) : IO UInt32 := do
  let environment ← readEnvironment (CommandLine.RunOption.all.map (·.variableName))
  match CommandLine.read environment arguments with
  | .error e => failWith [e.message]
  | .ok .definition =>
    IO.print ClusterDefinition.text
    pure 0
  | .ok (.run a) => runOperator a

end ClusterKeeper.Terminal

def main (arguments : List String) : IO UInt32 := ClusterKeeper.Terminal.run arguments
