import ClusterKeeper.Files
import ClusterKeeper.Logging.Filter

/-!
# Logging

Logging is set up once. From then on the events that pass the filter are
printed and, if a directory is set, added to a file in it. Setting it up again
changes nothing, but the directory has to be usable each time.
-/

set_option autoImplicit false

namespace ClusterKeeper

inductive LoggingError where
  | initFileAppender (directory : String)
  deriving DecidableEq, Repr

namespace LoggingError

def kind : LoggingError → String
  | initFileAppender _ => "InitFileAppender"

def message : LoggingError → String
  | initFileAppender directory =>
    "failed to initialize rolling file appender in " ++ directory

end LoggingError

structure LogSink where
  filter : LogFilter
  file : Option FileTree.Place

structure LogSession where
  sink : Option LogSink
  printed : List LogEvent
  files : FileTree

namespace LogSession

def silent (files : FileTree) : LogSession := ⟨none, [], files⟩

def emit (time : String) (s : LogSession) (e : LogEvent) : LogSession :=
  match s.sink with
  | none => s
  | some sink =>
    if sink.filter.passes e then
      { s with
        printed := s.printed ++ [e]
        files := sink.file.elim s.files fun place => s.files.append place (e.line time) }
    else s

def ownTarget : String := "aws_operator::logging"

def alreadySetUp : LogEvent := ⟨.debug, ownTarget, "logging is already initialized", []⟩

def fileEnabled (directory : String) : LogEvent :=
  ⟨.info, ownTarget, "file logging enabled", [("directory", directory)]⟩

def fileDisabled : LogEvent :=
  ⟨.debug, ownTarget, "file logging disabled, because no log directory set", []⟩

def directoryVariable (filterVariable : String) : String := filterVariable ++ "_DIRECTORY"

def fileName (program : String) : String := program ++ ".log"

def openLog (files : FileTree) (directory : Option String) (program : String) :
    Except LoggingError (FileTree × Option FileTree.Place) :=
  match directory with
  | none => .ok (files, none)
  | some directory =>
    match files.openFile? directory (fileName program) with
    | some (files, place) => .ok (files, some place)
    | none => .error (.initFileAppender directory)

def setUp (time : String) (environment : String → Option String)
    (filterVariable program : String) (s : LogSession) : Except LoggingError LogSession := do
  let directory := environment (directoryVariable filterVariable)
  let (files, file) ← openLog s.files directory program
  match s.sink with
  | some _ => pure ({ s with files := files }.emit time alreadySetUp)
  | none =>
    let sink : LogSink := ⟨.ofText ((environment filterVariable).getD ""), file⟩
    pure ({ s with files := files, sink := some sink }.emit time
      (directory.elim fileDisabled fileEnabled))

end LogSession

end ClusterKeeper
