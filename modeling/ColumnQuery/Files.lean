/-! Files as they are seen by a program that only reads: what stands at a path, and the tree of files
and directories that decides it. -/
namespace ColumnQuery

/-- What stands at a path. A path may also lead through a file as if that were a directory. -/
inductive FileEntry
  | absent
  | throughFile
  | directory
  | file (content : ByteArray)

/-- Why there is no text at a path. -/
inductive ReadFault
  | absent
  | throughFile
  | directory
  | notText
deriving DecidableEq

/-- The text of the reason. -/
def ReadFault.message : ReadFault → String
  | .absent => "No such file or directory (os error 2)"
  | .throughFile => "Not a directory (os error 20)"
  | .directory => "Is a directory (os error 21)"
  | .notText => "stream did not contain valid UTF-8"

namespace FileEntry

/-- Whether anything stands there. -/
def exists? : FileEntry → Bool
  | .absent | .throughFile => false
  | .directory | .file _ => true

/-- The text that stands there. -/
def text : FileEntry → Except ReadFault String
  | .absent => .error .absent
  | .throughFile => .error .throughFile
  | .directory => .error .directory
  | .file content =>
    match String.fromUTF8? content with
    | some text => .ok text
    | none => .error .notText

end FileEntry

/-- Files and directories below one root, each by the names that lead to it. A directory that holds
something need not be listed. -/
structure FileTree where
  files : List (List String × ByteArray)
  directories : List (List String)

namespace FileTree

/-- The names in a path, those that stay in place left out. -/
def names (path : String) : List String :=
  (path.splitOn "/").filter fun name => name ≠ "" ∧ name ≠ "."

/-- The content of the file at a place. -/
def file? (tree : FileTree) (place : List String) : Option ByteArray :=
  tree.files.lookup place

/-- Whether there is a directory at a place. -/
def isDirectory (tree : FileTree) (place : List String) : Bool :=
  place.isEmpty || tree.directories.any place.isPrefixOf ||
    tree.files.any fun file => place.isPrefixOf file.1 && place.length < file.1.length

/-- What stands where names lead from a directory. -/
def walk (tree : FileTree) (place : List String) : List String → FileEntry
  | [] => .directory
  | ".." :: rest => walk tree place.dropLast rest
  | name :: rest =>
    let next := place ++ [name]
    match tree.file? next with
    | some content => if rest.isEmpty then .file content else .throughFile
    | none => if tree.isDirectory next then walk tree next rest else .absent

/-- What stands at a path, which starts from a working directory unless it starts at the root. -/
def entry (tree : FileTree) (working : List String) (path : String) : FileEntry :=
  if path.isEmpty then .absent
  else
    let start := if path.startsWith "/" then [] else working
    match tree.walk start (names path) with
    | .file content =>
      if path.endsWith "/" || path.endsWith "/." then .throughFile else .file content
    | other => other

end FileTree

end ColumnQuery
