/-! Files and directories as a value, reached by path texts. -/

namespace RecordSmith

-----------------------------------------------------------------------------------------
-- Nodes and failures
-----------------------------------------------------------------------------------------

/-- What a file holds: a text, or bytes that are no text. -/
inductive Content where
  | text (value : String)
  | binary (bytes : List UInt8)
deriving Repr, DecidableEq

/-- What a path may lead to. -/
inductive Node where
  | file (content : Content)
  | directory
deriving Repr, DecidableEq

/-- Why a path cannot be used. -/
inductive Failure where
  | notFound
  | notDirectory
  | isDirectory
  | tooLong
  | nulInName
  | notText
deriving Repr, DecidableEq

/-- The failure as messages give it. -/
def Failure.message : Failure → String
  | .notFound => "No such file or directory (os error 2)"
  | .notDirectory => "Not a directory (os error 20)"
  | .isDirectory => "Is a directory (os error 21)"
  | .tooLong => "File name too long (os error 36)"
  | .nulInName => "file name contained an unexpected NUL byte"
  | .notText => "stream did not contain valid UTF-8"

-----------------------------------------------------------------------------------------
-- Stores
-----------------------------------------------------------------------------------------

/-- A place in the tree of directories: the names from the root. -/
abbrev Location := List String

/-- The files and directories below the root. The first node at a location counts. There are no
links and no devices, and every file may be read and written by everyone.
-/
structure Store where
  nodes : List (Location × Node)
deriving Repr, DecidableEq

namespace Store

/-- The first node at a location. -/
def find? (location : Location) : List (Location × Node) → Option Node
  | [] => none
  | (held, node) :: rest => if held = location then some node else find? location rest

/-- Sets a node. A location that is already there keeps its place. -/
def put (location : Location) (node : Node) : List (Location × Node) → List (Location × Node)
  | [] => [(location, node)]
  | (held, old) :: rest =>
      if held = location then (held, node) :: rest else (held, old) :: put location node rest

/-- What is at a location. The root is a directory. -/
def node? (store : Store) (location : Location) : Option Node :=
  if location.isEmpty then some .directory else find? location store.nodes

/-- Puts a node at a location. -/
def insert (store : Store) (location : Location) (node : Node) : Store :=
  ⟨put location node store.nodes⟩

/-- Takes away what is at a location and below it. -/
def erase (store : Store) (location : Location) : Store :=
  ⟨store.nodes.filter fun (held, _) => !location.isPrefixOf held⟩

-----------------------------------------------------------------------------------------
-- Walking
-----------------------------------------------------------------------------------------

/-- The location that one name of a path leads to. -/
def enter (location : Location) (name : String) : Location :=
  if name = "" || name = "." then location
  else if name = ".." then location.dropLast
  else location ++ [name]

/-- The name has at most 255 bytes. -/
def nameFits (name : String) : Bool :=
  name.utf8ByteSize ≤ 255

/-- The location that the names of a path lead to. Every name but the last has to lead to a
directory, and a directory knows no name that is too long.
-/
def walk (store : Store) (location : Location) : List String → Except Failure Location
  | [] => .ok location
  | name :: rest =>
      match store.node? location with
      | none => .error .notFound
      | some (.file _) => .error .notDirectory
      | some .directory =>
          if nameFits name then store.walk (enter location name) rest else .error .tooLong

/-- The names of a path text. -/
def namesOf (path : String) : List String :=
  (path.toList.splitOn '/').map String.ofList

/-- Where a path text starts: at the root if it begins with a slash, else at the base. -/
def startOf (base : Location) (path : String) : Location :=
  if path.toList.head? = some '/' then [] else base

/-- What is wrong with a path text, whatever the store holds: a NUL in it, 4096 bytes or more,
or no character at all.
-/
def pathFault? (path : String) : Option Failure :=
  if path.toList.contains '\x00' then some .nulInName
  else if path.utf8ByteSize ≥ 4096 then some .tooLong
  else if path.isEmpty then some .notFound
  else none

/-- The location that a path text leads to. -/
def locate (store : Store) (base : Location) (path : String) : Except Failure Location :=
  match pathFault? path with
  | some failure => .error failure
  | none => store.walk (startOf base path) (namesOf path)

/-- What a path text leads to. -/
def look (store : Store) (base : Location) (path : String) : Except Failure Node := do
  let location ← store.locate base path
  match store.node? location with
  | none => .error .notFound
  | some node => .ok node

-----------------------------------------------------------------------------------------
-- Reading and writing
-----------------------------------------------------------------------------------------

/-- A path text leads to a file. -/
def isFile (store : Store) (base : Location) (path : String) : Bool :=
  match store.look base path with
  | .ok (.file _) => true
  | _ => false

/-- A path text leads to a file or a directory. -/
def holds (store : Store) (base : Location) (path : String) : Bool :=
  match store.look base path with
  | .ok _ => true
  | .error _ => false

/-- The text of the file that a path text leads to. -/
def readText (store : Store) (base : Location) (path : String) : Except Failure String := do
  match ← store.look base path with
  | .file (.text value) => .ok value
  | .file (.binary _) => .error .notText
  | .directory => .error .isDirectory

/-- The location of a file to be written. All but the last name have to lead to a directory,
and the last has to be the name of a file.
-/
def target (store : Store) (base : Location) (path : String) : Except Failure Location :=
  match pathFault? path with
  | some failure => .error failure
  | none => do
      let names := (namesOf path).reverse.dropWhile (· = "")
      let parent ← store.walk (startOf base path) (names.tail.reverse ++ [""])
      match names.head? with
      | none => .error .isDirectory
      | some last =>
          if last = "." || last = ".." || path.toList.getLast? = some '/' then
            .error .isDirectory
          else if !nameFits last then .error .tooLong
          else
            match store.node? (parent ++ [last]) with
            | some .directory => .error .isDirectory
            | _ => .ok (parent ++ [last])

/-- Writes a text to the file that a path text names, which need not be there before. -/
def writeText (store : Store) (base : Location) (path text : String) : Except Failure Store := do
  let location ← store.target base path
  return store.insert location (.file (.text text))

end Store

end RecordSmith
