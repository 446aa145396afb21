import OpenApi.Entries

set_option autoImplicit false

/-! # Directories of text files

The command line reads the files of the directory it runs in. A `Directory` holds such files in memory, by
their paths. -/

namespace OpenApi

/-- Why a file cannot be read. -/
inductive ReadError where
  | notFound
  | isDirectory
  /-- The path goes on behind a file. -/
  | notDirectory
  /-- The file is no text. -/
  | notText
  | other (message : String)
  deriving DecidableEq, Repr

/-- The wording of a read error. -/
def ReadError.message : ReadError → String
  | .notFound => "No such file or directory (os error 2)"
  | .isDirectory => "Is a directory (os error 21)"
  | .notDirectory => "Not a directory (os error 20)"
  | .notText => "stream did not contain valid UTF-8"
  | .other message => message

/-- The texts of the files in and below a directory, each with its path of names with slashes between. -/
structure Directory where
  files : Entries String
  deriving Repr

namespace Directory

/-- The names on a path. -/
def names (path : String) : List String := path.splitOn "/"

/-- The text of the file at a place. -/
def file? (d : Directory) (place : List String) : Option String :=
  Entries.get? d.files ("/".intercalate place)

/-- Whether a place is a directory. The first place is the directory itself. -/
def hasDirectory (d : Directory) (place : List String) : Bool :=
  place.isEmpty || d.files.any fun e =>
    place.isPrefixOf (names e.1) && place.length < (names e.1).length

/-- Follows a path from a place on. -/
def readFrom (d : Directory) (place : List String) : List String → Except ReadError String
  | [] => match d.file? place with
    | some text => .ok text
    | none => .error (if d.hasDirectory place then .isDirectory else .notFound)
  | name :: rest =>
      if d.hasDirectory place then
        if name = "" || name = "." then readFrom d place rest
        else if name = ".." then readFrom d place.dropLast rest
        else readFrom d (place ++ [name]) rest
      else .error (if (d.file? place).isSome then .notDirectory else .notFound)

/-- Reads the file of a path. -/
def read (d : Directory) (path : String) : Except ReadError String :=
  if path = "" || path.startsWith "/" then .error .notFound else d.readFrom [] (names path)

end Directory

end OpenApi
