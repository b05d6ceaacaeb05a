import ClusterKeeper.Text.Basic

/-!
# Files

What programs see of files, and the trees that they are in.
-/

set_option autoImplicit false

namespace ClusterKeeper

/-! ## Views of files

All that matters of files to a program that only reads them: what exists, and
what text it holds. -/

structure FileView where
  pathExists : String → Bool
  text? : String → Option String

namespace FileView

def ofList (known : List (String × Option String)) : FileView where
  pathExists path := (known.lookup path).isSome
  text? path := (known.lookup path).join

end FileView

/-! ## File trees

The files and directories below a working directory, and what relative paths
lead to in it. Nothing is known of what lies above, nor of absolute paths. -/

inductive FileEntry where
  | file (content : List UInt8)
  | directory
  deriving DecidableEq, Repr

structure FileTree where
  entries : List (List String × FileEntry)

namespace FileTree

def empty : FileTree := ⟨[]⟩

def entry? (t : FileTree) (names : List String) : Option FileEntry :=
  if names.isEmpty then some .directory else t.entries.lookup names

def set (t : FileTree) (names : List String) (e : FileEntry) : FileTree :=
  if (t.entry? names).isSome then
    ⟨t.entries.map fun (n, old) => if n = names then (n, e) else (n, old)⟩
  else ⟨t.entries ++ [(names, e)]⟩

structure Place where
  above : Nat
  names : List String
  deriving DecidableEq, Repr

namespace Place

def start : Place := ⟨0, []⟩

def parent (p : Place) : Place :=
  if p.names.isEmpty then { p with above := p.above + 1 } else { p with names := p.names.dropLast }

def child? (p : Place) (name : String) : Option Place :=
  if p.above = 0 then some { p with names := p.names ++ [name] } else none

end Place

def at? (t : FileTree) (p : Place) : Option FileEntry :=
  if p.above = 0 then t.entry? p.names else some .directory

def follow? (t : FileTree) (p : Place) (part : String) : Option Place :=
  if t.at? p ≠ some .directory then none
  else if part = "" || part = "." then some p
  else if part = ".." then some p.parent
  else (p.child? part).filter fun child => (t.at? child).isSome

def parts? (path : String) : Option (List String) :=
  if path = "" || path.startsWith "/" then none else some (Text.split '/' path)

def locate? (t : FileTree) (path : String) : Option Place := do
  (← parts? path).foldlM t.follow? .start

def pathExists (t : FileTree) (path : String) : Bool := (t.locate? path).isSome

def content? (t : FileTree) (path : String) : Option (List UInt8) := do
  match ← t.at? (← t.locate? path) with
  | .file content => some content
  | .directory => none

def text? (t : FileTree) (path : String) : Option String := do
  String.fromUTF8? ⟨(← t.content? path).toArray⟩

def view (t : FileTree) : FileView := ⟨t.pathExists, t.text?⟩

def followOrMake? (step : FileTree × Place) (part : String) : Option (FileTree × Place) :=
  let (t, p) := step
  match t.follow? p part with
  | some q => some (t, q)
  | none =>
    if t.at? p ≠ some .directory then none
    else (p.child? part).map fun child => (t.set child.names .directory, child)

def makeDirectories? (t : FileTree) (path : String) : Option (FileTree × Place) := do
  if path = "" then some (t, .start)
  else (← parts? path).foldlM followOrMake? (t, .start)

def openFile? (t : FileTree) (directory path : String) : Option (FileTree × Place) := do
  let (t, p) ← t.makeDirectories? directory
  let parts ← parts? path
  let (t, p) ← parts.dropLast.foldlM followOrMake? (t, p)
  if t.at? p ≠ some .directory then none
  else
    let p ← p.child? (← parts.getLast?)
    match t.at? p with
    | some .directory => none
    | some (.file _) => some (t, p)
    | none => some (t.set p.names (.file []), p)

def append (t : FileTree) (p : Place) (text : String) : FileTree :=
  match t.at? p with
  | some (.file content) => t.set p.names (.file (content ++ text.toUTF8.toList))
  | _ => t

def put (t : FileTree) (path : String) (e : FileEntry) : FileTree :=
  let names := Text.split '/' path
  let t := (List.range names.length).foldl (fun t n =>
    let above := names.take n
    if (t.entry? above).isSome then t else t.set above .directory) t
  if e = .directory && (t.entry? names).isSome then t else t.set names e

def filesIn (t : FileTree) (p : Place) : List (String × List UInt8) :=
  t.entries.filterMap fun (names, e) =>
    match e with
    | .file content =>
      if p.above = 0 && names.dropLast = p.names then names.getLast?.map (·, content) else none
    | .directory => none

end FileTree

end ClusterKeeper
