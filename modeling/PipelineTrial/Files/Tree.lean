import PipelineTrial.Dictionary

/-! File trees: directories with named entries over files with bytes, and what can be done to a path. -/

namespace PipelineTrial

/-- Why an operation on a path cannot be done. -/
inductive FileError where
  | notFound
  | notDirectory
  | isDirectory
  | badName
  | notText
  | permissionDenied
  | deviceFailed
  deriving DecidableEq

/-- The text of a failed operation. -/
def FileError.message : FileError → String
  | .notFound => "no such file or directory"
  | .notDirectory => "not a directory"
  | .isDirectory => "is a directory"
  | .badName => "file name too long or not allowed"
  | .notText => "the file does not hold text"
  | .permissionDenied => "permission denied"
  | .deviceFailed => "input or output failed"

/-- A file with its bytes, a file that cannot be read, or a directory with its entries. -/
inductive FileTree where
  | file (content : ByteArray)
  /-- Each such file fails in its own way: its reader may not read it, it may be gone since it was listed. -/
  | unreadable (error : FileError)
  | directory (entries : List (String × FileTree))

/-- The names from a directory down to an entry. -/
abbrev FilePath := List String

/-- The path that a text names; empty names and single points stay in place. -/
def FilePath.ofText (text : String) : FilePath :=
  -- Names are separated by slashes.
  ((text.splitOn "/").filter fun name => name != "" && name != ".")

/-- The greatest number of bytes in a name. -/
def nameLimit : Nat := 255

/-- Whether an entry can have a name. -/
def acceptsName (name : String) : Bool :=
  -- Slashes do not occur in names.
  name != "" && name.utf8ByteSize ≤ nameLimit && !name.toList.contains '\x00'

namespace FileTree

/-- The directory without entries. -/
def empty : FileTree := .directory []

/-- What stands at a path. -/
def find? : FilePath → FileTree → Option FileTree
  | [], tree => some tree
  | name :: path, .directory entries =>
    match Entries.get? name entries with
    | none => none
    | some child => find? path child
  | _ :: _, _ => none

/-- Whether anything stands at a path. -/
def contains (path : FilePath) (tree : FileTree) : Bool := (find? path tree).isSome

/-- Whether a file stands at a path, be it one that cannot be read. -/
def isFile (path : FilePath) (tree : FileTree) : Bool :=
  -- All that is no directory is a file.
  match find? path tree with
  | none | some (.directory _) => false
  | some (.file _) | some (.unreadable _) => true

/-- The bytes of the file at a path. -/
def readBytes (path : FilePath) (tree : FileTree) : Except FileError ByteArray :=
  -- A file that cannot be read says why.
  match find? path tree with
  | none => .error .notFound
  | some (.directory _) => .error .isDirectory
  | some (.unreadable error) => .error error
  | some (.file content) => .ok content

/-- The text of the file at a path. -/
def readText (path : FilePath) (tree : FileTree) : Except FileError String :=
  -- The bytes have to be valid UTF-8.
  match readBytes path tree with
  | .error error => .error error
  | .ok content =>
    match String.fromUTF8? content with
    | none => .error .notText
    | some text => .ok text

/-- What keeps directories from being made at all places of a path. -/
def obstacle? : FilePath → FileTree → Option FileError
  | [], .directory _ => none
  | name :: path, .directory entries =>
    -- What is missing is made, and holds no obstacle but a bad name.
    if !acceptsName name then some .badName
    else obstacle? path ((Entries.get? name entries).getD empty)
  | _, _ => some .notDirectory

/-- The tree after directories were made on a path down to its end or to the first obstacle. -/
def withDirectories : FilePath → FileTree → FileTree
  | name :: path, .directory entries =>
    -- Nothing is made for a bad name, nor below a file.
    if !acceptsName name then .directory entries
    else
      let child := (Entries.get? name entries).getD empty
      .directory (Entries.insert name (withDirectories path child) entries)
  | _, tree => tree

/-- The tree with directories at all places of a path. -/
def makeDirectories (path : FilePath) (tree : FileTree) : Except FileError FileTree :=
  -- They are all made unless something is in the way.
  match obstacle? path tree with
  | some error => .error error
  | none => .ok (withDirectories path tree)

/-- The tree with a file at a path, in place of an earlier file. -/
def write (content : ByteArray) : FilePath → FileTree → Except FileError FileTree
  | [], .directory _ => .error .isDirectory
  | [], _ => .ok (.file content)
  | name :: path, .directory entries =>
    -- The directories on the way have to exist.
    if !acceptsName name then .error .badName
    else
      let child? := match Entries.get? name entries with
        | some child => some child
        | none => if path = [] then some (.file content) else none
      match child? with
      | none => .error .notFound
      | some child =>
        match write content path child with
        | .error error => .error error
        | .ok child => .ok (.directory (Entries.insert name child entries))
  | _ :: _, _ => .error .notDirectory

/-- The tree with a file at a path and directories on the way to it. -/
def writeThrough (content : ByteArray) (path : FilePath) (tree : FileTree) :
    Except FileError FileTree :=
  -- The directories come first.
  match makeDirectories path.dropLast tree with
  | .error error => .error error
  | .ok tree => write content path tree

/-- The tree without the directory at a path and all in it. -/
def removeDirectory : FilePath → FileTree → Except FileError FileTree
  | [], .directory _ => .ok empty
  | name :: path, .directory entries =>
    -- Only the last directory on the path goes.
    match Entries.get? name entries with
    | none => .error .notFound
    | some (.directory inner) =>
      if path = [] then .ok (.directory (Entries.erase name entries))
      else
        match removeDirectory path (.directory inner) with
        | .error error => .error error
        | .ok child => .ok (.directory (Entries.insert name child entries))
    | some _ => .error .notDirectory
  | _, _ => .error .notDirectory

end FileTree

end PipelineTrial
