import Runbook.Table
import Runbook.Text.Blank
import Runbook.Text.Utf8
/-! Files and directories as paths find them from a working directory. Files only grow: they
are created empty and appended to. -/
namespace Runbook

/-- Why a path cannot be used. -/
inductive PathFault where
  | missing
  | notDirectory
  | isDirectory
  | nameTooLong
  | nulInName
  | malformedText
  deriving DecidableEq, Repr

def PathFault.message : PathFault → String
  | .missing => "No such file or directory (os error 2)"
  | .notDirectory => "Not a directory (os error 20)"
  | .isDirectory => "Is a directory (os error 21)"
  | .nameTooLong => "File name too long (os error 36)"
  | .nulInName => "file name contained an unexpected NUL byte"
  | .malformedText => "stream did not contain valid UTF-8"

inductive Node where
  | file (content : Bytes)
  | directory
  /-- The device that is always empty and takes what is written to it. -/
  | nullDevice
  deriving DecidableEq, Repr

structure FileTree where
  /-- Nodes by their full path, with a slash before each component. -/
  nodes : Table Node
  /-- The components of the working directory. -/
  home : List String

namespace FileTree

def fullPath (components : List String) : String :=
  String.join (components.map ("/" ++ ·))

def node? (t : FileTree) (components : List String) : Option Node :=
  if components.isEmpty then some .directory else t.nodes.get? (fullPath components)

/-- The names between the slashes of a path; some may be empty. -/
def components (path : String) : List String := (Text.cut (· == '/') path.toList).map String.ofList

/-- Goes from a node along the components of a path. The last one may be missing. -/
def walk (t : FileTree) (here : List String) : List String → Except PathFault (List String)
  | [] => .ok here
  | name :: rest =>
    match t.node? here with
    | none => .error .missing
    | some .directory =>
      if name = "" ∨ name = "." then t.walk here rest
      else if name = ".." then t.walk here.dropLast rest
      else if 255 < name.utf8ByteSize then .error .nameTooLong
      else t.walk (here ++ [name]) rest
    | some _ => .error .notDirectory

/-- A path that can be followed, whatever there is. -/
def check (path : String) : Except PathFault Unit :=
  if path.toList.contains '\x00' then .error .nulInName
  else if path.isEmpty then .error .missing
  else if 4096 ≤ path.utf8ByteSize then .error .nameTooLong
  else .ok ()

/-- Where a path begins. -/
def origin (t : FileTree) (path : String) : List String :=
  if path.startsWith "/" then [] else t.home

/-- The components of the node that a path means. -/
def locate (t : FileTree) (path : String) : Except PathFault (List String) := do
  check path
  t.walk (t.origin path) (components path)

def find (t : FileTree) (path : String) : Except PathFault Node := do
  match t.node? (← t.locate path) with
  | some node => .ok node
  | none => .error .missing

def isFile (t : FileTree) (path : String) : Bool :=
  match t.find path with
  | .ok (.file _) => true
  | _ => false

def read (t : FileTree) (path : String) : Except PathFault Bytes := do
  match ← t.find path with
  | .file content => .ok content
  | .directory => .error .isDirectory
  | .nullDevice => .ok []

def readText (t : FileTree) (path : String) : Except PathFault String := do
  match Text.ofBytes? (← t.read path) with
  | some text => .ok text
  | none => .error .malformedText

/-- The way to the directory that has the last name of a path in it, where there is a slash
behind that name. -/
def outerDirectory? (path : String) : Option (List String) :=
  match (components path).reverse with
  | "" :: rest =>
    match rest.dropWhile (·.isEmpty) with
    | [] => none
    | name :: outer => if name = "." ∨ name = ".." then none else some (outer.reverse ++ ["."])
  | _ => none

/-- Makes a path ready for appending: a missing file is created. A name with a slash behind it
can only be that of a directory, and is not looked up. -/
def openAppend (t : FileTree) (path : String) : Except PathFault FileTree := do
  check path
  if let some outer := outerDirectory? path then
    let _ ← t.walk (t.origin path) outer
    throw .isDirectory
  let place ← t.locate path
  match t.node? place with
  | some .directory => throw .isDirectory
  | some _ => return t
  | none => return { t with nodes := t.nodes.set (fullPath place) (.file []) }

/-- Adds bytes at the end of a file. -/
def append (t : FileTree) (path : String) (bytes : Bytes) : FileTree :=
  match t.locate path with
  | .error _ => t
  | .ok place =>
    match t.node? place with
    | some (.file content) =>
      { t with nodes := t.nodes.set (fullPath place) (.file (content ++ bytes)) }
    | _ => t

def addNode (t : FileTree) (place : List String) (node : Node) : FileTree :=
  { t with nodes := t.nodes.set (fullPath place) node }

/-- Creates the directory and those above it, where they are missing. -/
def addDirectory (t : FileTree) (place : List String) : FileTree :=
  ((List.range place.length).map (fun n => place.take (n + 1))).foldl
    (fun t p => if (t.node? p).isNone then t.addNode p .directory else t) t

/-- A tree with nothing in it but the working directory and the null device. -/
def bare (home : List String) : FileTree :=
  ((⟨.empty, home⟩ : FileTree).addDirectory home).addDirectory ["dev"]
    |>.addNode ["dev", "null"] .nullDevice

/-- Puts a file, or a directory where there is no content, at a relative path. -/
def place (t : FileTree) (path : String) (content : Option Bytes) : FileTree :=
  let full := t.home ++ (components path).filter fun c => c ≠ "" ∧ c ≠ "."
  match content with
  | none => t.addDirectory full
  | some bytes => (t.addDirectory full.dropLast).addNode full (.file bytes)

/-- What is below the working directory, by relative path; directories have no content. -/
def listing (t : FileTree) : List (String × Option Bytes) :=
  let top := fullPath t.home ++ "/"
  t.nodes.sorted.filterMap fun (path, node) =>
    if path.startsWith top then
      let name := (path.drop top.length).toString
      match node with
      | .file content => some (name, some content)
      | .directory => some (name, none)
      | .nullDevice => none
    else none

end FileTree

end Runbook
