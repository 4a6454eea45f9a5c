import NicKeeper.Dict
import NicKeeper.Host.Error
import NicKeeper.Program
import NicKeeper.Text.Utf8

/-!
# A node's files and tools

What a daemon on a node can see of it: a tree of files and directories below one root, and the
vendor's tools. Of a tool the world knows what each run of it will print and how it will end; the
last of the known runs is repeated for ever. Runs are recorded in order.
-/

namespace NicKeeper

/-- The parts of a path from the root of the tree. A first part `/`, which no entry can have, leads
out of the tree. -/
abbrev Path := List String

/-- The name of an entry: a text in UTF-8, or bytes that are none. -/
inductive EntryName where
  | text (name : String)
  | bytes (raw : List UInt8) (noText : Text.Utf8.decode? raw = none)
  deriving DecidableEq

/-- A name as text, with U+FFFD for what is none. -/
def EntryName.shown : EntryName → String
  | .text name => name
  | .bytes raw _ => String.ofList (Text.Utf8.decodeLenient raw)

inductive Content where
  | directory
  | file (bytes : List UInt8)
  deriving DecidableEq, Repr

/-- What a run of a tool prints, and how it ends. -/
structure ToolReply where
  stdout : List UInt8 := []
  stderr : List UInt8 := []
  status : ExitStatus := .exited 0
  deriving DecidableEq, Repr, Inhabited

structure Command where
  program : String
  arguments : List String
  deriving DecidableEq, Repr

def Command.line (command : Command) : String :=
  command.program ++ " " ++ " ".intercalate command.arguments

inductive SystemCall where
  | readFile (path : Path)
  /-- The names in a directory, in the order in which the system delivers them. -/
  | listDirectory (path : Path)
  | fileExists (path : Path)
  | runTool (command : Command)
  deriving DecidableEq, Repr

abbrev SystemCall.Answer : SystemCall → Type
  | .readFile _ => Except IoError (List UInt8)
  | .listDirectory _ => Except IoError (List EntryName)
  | .fileExists _ => Bool
  | .runTool _ => Except IoError ToolReply

abbrev systemService : Service := ⟨SystemCall, SystemCall.Answer⟩

structure World where
  /-- Where the root of the tree is, as the system knows it. -/
  root : String := "/sys"
  /-- The entries of the tree. The directories on the way to an entry are there as well. -/
  tree : List (List EntryName × Content) := []
  /-- The runs still to come of each tool. -/
  tools : Dict (List ToolReply) := {}
  commands : List Command := []
  deriving Inhabited

namespace World

/-- What a path without steps back and empty parts leads to. -/
def content? (world : World) (path : Path) : Option Content :=
  let place := path.map EntryName.text
  match world.tree.find? fun entry => entry.1 == place with
  | some entry => some entry.2
  | none =>
    if path.isEmpty || world.tree.any fun entry => place.isPrefixOf entry.1 then some .directory
    else none

def maxNameBytes : Nat := 255

def maxPathBytes : Nat := 4095

/-- Whether a part of a path stays where it is. -/
def stays (part : String) : Bool := part == "" || part == "."

/-- The error for a name that no entry has. -/
def missing (name : String) : IoError :=
  if name.utf8ByteSize ≤ maxNameBytes then .notFound else .nameTooLong

/-- Follows the parts of a path outside the tree, where nothing is known to be. -/
def followOutside : Path → Except IoError (Path × Content)
  | [] => .ok (["/"], .directory)
  | part :: rest => if stays part || part == ".." then followOutside rest else .error (missing part)

/-- Follows the parts of a path from a directory: `..` goes one step back, and every step is made
from a directory. -/
def follow (world : World) (place : Path) (content : Content) :
    Path → Except IoError (Path × Content)
  | [] => .ok (place, content)
  | part :: rest =>
    match content with
    | .file _ => .error .notADirectory
    | .directory =>
      if stays part then world.follow place .directory rest
      else if part == ".." then
        if place.isEmpty then followOutside rest else world.follow place.dropLast .directory rest
      else
        match world.content? (place ++ [part]) with
        | some content => world.follow (place ++ [part]) content rest
        | none => .error (missing part)

/-- How many bytes a path has when it is written out. -/
def byteSize (world : World) (path : Path) : Nat :=
  let size (parts : Path) := parts.foldl (fun bytes part => bytes + 1 + part.utf8ByteSize) 0
  match path with
  | "/" :: parts => size parts
  | parts => world.root.utf8ByteSize + size parts

def resolve (world : World) (path : Path) : Except IoError (Path × Content) :=
  if path.any fun part => part.toList.contains '\x00' then .error .nulInPath
  else if maxPathBytes < world.byteSize path then .error .nameTooLong
  else
    match path with
    | "/" :: parts => followOutside parts
    | parts => world.follow [] .directory parts

/-- The names of what lies right below a directory, each once. -/
def childNames (world : World) (path : Path) : List EntryName :=
  let place := path.map EntryName.text
  (world.tree.filterMap fun entry =>
    if place.isPrefixOf entry.1 then (entry.1.drop place.length).head? else none).eraseDups

def readFile (world : World) (path : Path) : Except IoError (List UInt8) := do
  match ← world.resolve path with
  | (_, .file bytes) => return bytes
  | (_, .directory) => throw .isADirectory

def listDirectory (world : World) (path : Path) : Except IoError (List EntryName) := do
  match ← world.resolve path with
  | (place, .directory) => return world.childNames place
  | (_, .file _) => throw .notADirectory

/-- Takes the next run of a tool; the last one stays. -/
def nextReply : List ToolReply → ToolReply × List ToolReply
  | [] => ({}, [])
  | [last] => (last, [last])
  | reply :: rest => (reply, rest)

def runTool (world : World) (command : Command) : Except IoError ToolReply × World :=
  if command.arguments.any fun argument => argument.toList.contains '\x00' then
    (.error .nulInArgument, world)
  else match world.tools.get? command.program with
    | none => (.error .notFound, world)
    | some replies =>
      let (reply, rest) := nextReply replies
      (.ok reply, { world with
        tools := world.tools.insert command.program rest
        commands := world.commands ++ [command] })

def handle : Handler systemService World
  | .readFile path, world => (world.readFile path, world)
  | .listDirectory path, world => (world.listDirectory path, world)
  | .fileExists path, world => ((world.resolve path).toOption.isSome, world)
  | .runTool command, world => world.runTool command

end World

end NicKeeper
