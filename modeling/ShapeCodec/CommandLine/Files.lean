/-
# Files by their paths

A path is followed name by name, from the working directory or from the top of all directories.
Where a name is followed by another, or by a slash, it has to be that of a directory, and what
goes wrong first is what is reported. Of the directories above the working directory, and of the
top, nothing is known but that they are there.

Key definitions: `Obstacle`, `Obstacle.message`, `Files`, `Files.walk`, `Files.read`.
-/
import ShapeCodec.Text.Quoted

namespace ShapeCodec.CommandLine

/-- Why the file of a path cannot be read. -/
inductive Obstacle where
  | missing
  | isDirectory
  /-- A name in front of a slash is that of a file. -/
  | notDirectory
  | nameTooLong
  /-- The path holds a character that no path can hold. -/
  | nullCharacter
deriving DecidableEq

/-- The wording of an obstacle on the way to a path. -/
def Obstacle.message (path : String) : Obstacle → String
  | missing => "[Errno 2] No such file or directory: " ++ quoted path
  | isDirectory => "[Errno 21] Is a directory: " ++ quoted path
  | notDirectory => "[Errno 20] Not a directory: " ++ quoted path
  | nameTooLong => "[Errno 36] File name too long: " ++ quoted path
  | nullCharacter => "embedded null byte"

/-- The most bytes that a name can have. -/
def longestName : Nat := 255

/-- The most bytes that a path can have. -/
def longestPath : Nat := 4095

/-- The texts of files, by the paths that lead to them from the working directory. -/
abbrev Files := List (String × String)

/-- The names in a path, those left out that lead nowhere else. -/
def pathNames (path : String) : List String :=
  (path.splitOn "/").filter fun name => name != "" && name != "."

/-- What a path leads to: a file with its text, or a directory with the names that lead to it. -/
inductive Place where
  | file (text : String)
  | directory (names : List String)
deriving DecidableEq

/-- The names that lead to the top of all directories. -/
def top : List String := ["/"]

/-- The names that lead to the directory above one: the last is taken back, unless it is a step
upwards itself. The top has itself above it. -/
def parent (names : List String) : List String :=
  match names.getLast? with
  | none => [".."]
  | some ".." => names ++ [".."]
  | some _ => if names = top then top else names.dropLast

/-- What is found by a name in a directory. -/
def Files.enter (files : Files) (here : List String) (name : String) : Except Obstacle Place :=
  if name = "" ∨ name = "." then .ok (.directory here)
  else if name = ".." then .ok (.directory (parent here))
  else if longestName < name.utf8ByteSize then .error .nameTooLong
  else
    let names := here ++ [name]
    match files.find? fun file => pathNames file.1 == names with
    | some file => .ok (.file file.2)
    | none =>
      if files.any fun file => names.isPrefixOf (pathNames file.1) then .ok (.directory names)
      else .error .missing

/-- What names lead to, one after the other, from a directory. -/
def Files.walk (files : Files) (here : List String) : List String → Except Obstacle Place
  | [] => .ok (.directory here)
  | name :: rest => do
    match ← files.enter here name with
    | .directory names => files.walk names rest
    | .file text => if rest.isEmpty then return .file text else .error .notDirectory

/-- What a path leads to. -/
def Files.follow (files : Files) (path : String) : Except Obstacle Place :=
  if path.isEmpty then .error .missing
  else if path.contains '\x00' then .error .nullCharacter
  else if longestPath < path.utf8ByteSize then .error .nameTooLong
  else files.walk (if path.startsWith "/" then top else []) (path.splitOn "/")

/-- The text of the file that a path leads to. -/
def Files.read (files : Files) (path : String) : Except Obstacle String := do
  match ← files.follow path with
  | .file text => return text
  | .directory _ => .error .isDirectory

end ShapeCodec.CommandLine
