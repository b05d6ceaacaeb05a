import ClusterKeeper.Text.Quoted

/-!
# Log events

A message of some level from some part of the program, perhaps with details,
and the line that is written of it: the time, the level, the part, the message
and the details.
-/

set_option autoImplicit false

namespace ClusterKeeper

inductive LogLevel where
  | error
  | warn
  | info
  | debug
  | trace
  deriving DecidableEq, Repr

namespace LogLevel

def all : List LogLevel := [error, warn, info, debug, trace]

def text : LogLevel → String
  | error => "ERROR"
  | warn => "WARN"
  | info => "INFO"
  | debug => "DEBUG"
  | trace => "TRACE"

def verbosity : LogLevel → Nat
  | error => 1
  | warn => 2
  | info => 3
  | debug => 4
  | trace => 5

end LogLevel

structure LogEvent where
  level : LogLevel
  target : String
  message : String
  details : List (String × String)
  deriving DecidableEq, Repr

namespace LogEvent

def paddedLevel (l : LogLevel) : String :=
  String.ofList (List.replicate (5 - l.text.length) ' ') ++ l.text

def shown (c : Char) : String :=
  if ['\x07', '\x08', '\x0c', '\x1b', '\x7f'].contains c then
    (if c.toNat < 16 then "\\x0" else "\\x") ++ Text.hexDigits c.toNat
  else if 0x80 ≤ c.toNat && c.toNat ≤ 0x9f then Text.codePointEscape c
  else c.toString

def text (e : LogEvent) : String :=
  String.join (e.message.toList.map shown ++ e.details.map fun (name, value) =>
    " " ++ name ++ "=" ++ value)

def line (time : String) (e : LogEvent) : String :=
  time ++ " " ++ paddedLevel e.level ++ " " ++ e.target ++ ": " ++ e.text ++ "\n"

def tells (e : LogEvent) (name : String) : Bool :=
  name = "message" || e.details.any fun (n, _) => n = name

def cutAt? (mark : List Char) : List Char → Option (List Char × List Char)
  | [] => none
  | c :: rest =>
    if mark.isPrefixOf (c :: rest) then some ([], (c :: rest).drop mark.length)
    else (cutAt? mark rest).map fun (front, behind) => (c :: front, behind)

def partsOfLine? (line : String) : Option (String × String × String) := do
  let (_, rest) ← cutAt? [' '] line.toList
  let (level, rest) ← cutAt? [' '] (rest.dropWhile (· = ' '))
  let (target, text) ← cutAt? [':', ' '] rest
  some (String.ofList level, String.ofList target, String.ofList text)

end LogEvent

end ClusterKeeper
