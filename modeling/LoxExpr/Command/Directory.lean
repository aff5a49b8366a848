/-!
# Directories

A directory as a value: names with the files and directories they stand for.  A
path is resolved from it one component at a time, and every way in which a path
can fail to lead to a readable file has a cause of its own.

What surrounds the directory is unknown.  A path that leaves it finds no names
there, although the surroundings are directories themselves.

Main results:

- Theorem `decodeContent_toUTF8`: the encoding of a text is decoded to that text.
-/

namespace LoxExpr.Command

/-- Why a file cannot be read as text. -/
inductive ReadFault
  | notFound
  | notDirectory
  | isDirectory
  | nameTooLong
  | notText
  | other (description : String)
deriving DecidableEq

/-- The message of a fault, with the number of the system error. -/
def ReadFault.message : ReadFault → String
  | .notFound => "No such file or directory (os error 2)"
  | .notDirectory => "Not a directory (os error 20)"
  | .isDirectory => "Is a directory (os error 21)"
  | .nameTooLong => "File name too long (os error 36)"
  | .notText => "stream did not contain valid UTF-8"
  | .other description => description

/-- What a name in a directory stands for. -/
inductive Entry
  | file (content : ByteArray)
  | directory (entries : List (String × Entry))

/-- A directory, given by its entries. -/
abbrev Directory := List (String × Entry)

/-- The text that the bytes of a file encode. -/
def decodeContent (content : ByteArray) : Except ReadFault String :=
  match String.fromUTF8? content with
  | some text => .ok text
  | none => .error .notText

/-- The encoding of a text is decoded to that text. -/
theorem decodeContent_toUTF8 (text : String) : decodeContent text.toUTF8 = .ok text := by
  have decoded : String.fromUTF8? text.toUTF8 = some text := by
    simp only [String.fromUTF8?, String.toUTF8_eq_toByteArray, dif_pos text.isValidUTF8]
    rfl
  rw [decodeContent, decoded]

namespace Directory

/-- The greatest number of bytes in one component of a path. -/
def maxComponentSize : Nat := 255

/-- The greatest number of bytes in a path. -/
def maxPathSize : Nat := 4095

/-- Follows the components of a path from a place inside of nested directories,
the innermost first; outside of all of them nothing is known by name. -/
def follow (place : List Directory) : List String → Except ReadFault ByteArray
  | [] => .error .isDirectory
  | component :: later =>
    if component = "" ∨ component = "." then follow place later
    else if component = ".." then follow place.tail later
    else if maxComponentSize < component.utf8ByteSize then .error .nameTooLong
    else
      match place.head?.bind (List.lookup component) with
      | none => .error .notFound
      | some (.directory entries) => follow (entries :: place) later
      | some (.file content) => if later.isEmpty then .ok content else .error .notDirectory

/-- The bytes of the file that a path leads to. -/
def read (d : Directory) (path : String) : Except ReadFault ByteArray :=
  if maxPathSize < path.utf8ByteSize then .error .nameTooLong
  else follow (if path.startsWith "/" then [] else [d]) (path.splitOn "/")

/-- The text of the file that a path leads to. -/
def readText (d : Directory) (path : String) : Except ReadFault String :=
  (d.read path).bind decodeContent

end Directory

end LoxExpr.Command
