/-!
# The command line

The commands, and how they are read.
-/

set_option autoImplicit false

namespace ClusterKeeper

/-! ## Commands

What the program can be told to do, and why a command line cannot be taken. -/

structure RunArguments where
  configFile : Option String
  guestUpdateEnabled : Option Bool
  deriving DecidableEq, Repr

inductive Command where
  | definition
  | run (arguments : RunArguments)
  deriving DecidableEq, Repr

inductive UsageError where
  | help
  | version
  | missingSubcommand
  | unknownSubcommand
  | unknownArgument
  | invalidValue
  | tooManyValues
  | repeated
  deriving DecidableEq, Repr

namespace UsageError

def message : UsageError → String
  | help => "usage: crd | run [--config FILE] [--guest-update-enabled BOOL]"
  | version => "version 0.1.0"
  | missingSubcommand => "a subcommand is needed: crd or run"
  | unknownSubcommand => "there is no such subcommand"
  | unknownArgument => "there is no such argument"
  | invalidValue => "an option has no value or a wrong one"
  | tooManyValues => "a flag has a value"
  | repeated => "an option is given more than once"

end UsageError

/-! ## Reading command lines

Options have a value, attached to them or in the next argument. A value is
checked when the next option or the end is reached, so a fault before that
point hides it. What the command line leaves out is taken from the
environment. -/

namespace CommandLine

inductive Argument where
  | escape
  | long (name : String) (value : Option String)
  | short (letter : Char) (rest : List Char)
  | word (text : String)
  deriving DecidableEq, Repr

def Argument.ofText (text : String) : Argument :=
  match text.toList with
  | '-' :: '-' :: [] => .escape
  | '-' :: '-' :: rest =>
    let name := rest.takeWhile (· ≠ '=')
    let value := match rest.dropWhile (· ≠ '=') with
      | _ :: value => some (String.ofList value)
      | [] => none
    .long (String.ofList name) value
  | '-' :: letter :: rest => .short letter rest
  | _ => .word text

def flag {α : Type} (e : UsageError) (value : Option String) : Except UsageError α :=
  .error (if value.isSome then .tooManyValues else e)

inductive RunOption where
  | config
  | guestUpdateEnabled
  deriving DecidableEq, Repr

namespace RunOption

def ofName? : String → Option RunOption
  | "config" => some config
  | "guest-update-enabled" => some guestUpdateEnabled
  | _ => none

def ofLetter? : Char → Option RunOption
  | 'c' => some config
  | _ => none

def all : List RunOption := [config, guestUpdateEnabled]

def variableName : RunOption → String
  | config => "AWS_OPERATOR_CONFIG"
  | guestUpdateEnabled => "AWS_OPERATOR_GUEST_UPDATE_ENABLED"

end RunOption

structure Given where
  config : Option String
  guestUpdateEnabled : Option Bool
  deriving DecidableEq, Repr

namespace Given

def nothing : Given := ⟨none, none⟩

def has (g : Given) : RunOption → Bool
  | .config => g.config.isSome
  | .guestUpdateEnabled => g.guestUpdateEnabled.isSome

def truth? : String → Option Bool
  | "true" => some true
  | "false" => some false
  | _ => none

def set (g : Given) (o : RunOption) (value : String) : Except UsageError Given :=
  if g.has o then .error .repeated
  else match o with
    | .config => .ok { g with config := some value }
    | .guestUpdateEnabled =>
      match truth? value with
      | some b => .ok { g with guestUpdateEnabled := some b }
      | none => .error .invalidValue

def complete (environment : String → Option String) (g : Given) (o : RunOption) :
    Except UsageError Given :=
  match environment o.variableName with
  | some value => if g.has o then .ok g else g.set o value
  | none => .ok g

end Given

inductive Pending where
  | nothing
  | awaiting (o : RunOption)
  | unchecked (o : RunOption) (value : String)
  deriving DecidableEq, Repr

def Pending.settle (p : Pending) (g : Given) : Except UsageError Given :=
  match p with
  | nothing => .ok g
  | awaiting _ => .error .invalidValue
  | unchecked o value => g.set o value

def attached? : List Char → Option String
  | [] => none
  | '=' :: value => some (String.ofList value)
  | value => some (String.ofList value)

def meet (g : Given) (p : Pending) (o : RunOption) (value : Option String) :
    Except UsageError (Given × Pending) := do
  let g ← p.settle g
  match value with
  | some value => pure (← g.set o value, .nothing)
  | none => pure (g, .awaiting o)

def readOptions : Given → Pending → List String → Except UsageError Given
  | g, p, [] => p.settle g
  | g, p, text :: rest =>
    match Argument.ofText text with
    | .escape => if rest.isEmpty then p.settle g else .error .unknownArgument
    | .long name value =>
      if name = "help" then
        if value.isSome then .error .tooManyValues
        else do
          let _ ← p.settle g
          .error .help
      else match RunOption.ofName? name with
        | some o => do
          let (g, p) ← meet g p o value
          readOptions g p rest
        | none => .error .unknownArgument
    | .short letter characters =>
      if letter = 'h' then do
        let _ ← p.settle g
        .error .help
      else match RunOption.ofLetter? letter with
        | some o => do
          let (g, p) ← meet g p o (attached? characters)
          readOptions g p rest
        | none => .error .unknownArgument
    | .word value =>
      match p with
      | .awaiting o => readOptions g (.unchecked o value) rest
      | _ => .error .unknownArgument

def configFile? (g : Given) : Option String := g.config.filter (· ≠ "")

def readRun (environment : String → Option String) (arguments : List String) :
    Except UsageError Command := do
  let g ← readOptions .nothing .nothing arguments
  let g ← RunOption.all.foldlM (Given.complete environment) g
  pure (.run ⟨configFile? g, g.guestUpdateEnabled⟩)

def readDefinition : List String → Except UsageError Command
  | [] => .ok .definition
  | text :: rest =>
    match Argument.ofText text with
    | .escape => if rest.isEmpty then .ok .definition else .error .unknownArgument
    | .long name value => if name = "help" then flag .help value else .error .unknownArgument
    | .short letter _ => .error (if letter = 'h' then .help else .unknownArgument)
    | .word _ => .error .unknownArgument

def subcommands : List String := ["crd", "run", "help"]

def readHelp : List String → UsageError
  | [] => .help
  | [name] => if subcommands.contains name then .help else .unknownSubcommand
  | _ => .unknownSubcommand

def read (environment : String → Option String) : List String → Except UsageError Command
  | [] => .error .missingSubcommand
  | text :: rest =>
    match Argument.ofText text with
    | .escape => .error (match rest with
      | [] => .missingSubcommand
      | name :: _ => if subcommands.contains name then .unknownArgument else .unknownSubcommand)
    | .long name value =>
      if name = "help" then flag .help value
      else if name = "version" then flag .version value
      else .error .unknownArgument
    | .short letter _ =>
      .error (if letter = 'h' then .help else if letter = 'V' then .version
        else .unknownArgument)
    | .word name =>
      if name = "crd" then readDefinition rest
      else if name = "run" then readRun environment rest
      else if name = "help" then .error (readHelp rest)
      else .error .unknownSubcommand

end CommandLine

end ClusterKeeper
