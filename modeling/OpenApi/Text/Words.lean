import OpenApi.Text.Letters
import OpenApi.Text.CaseMap

set_option autoImplicit false

/-! # Words of a name and their case forms

A name is cut into pieces at every character that is neither a letter nor a number, and each piece
into words where its case changes: before an upper case letter that follows lower case, and before
the last capital of a run of capitals that goes on in lower case (`HTTPServer` is `HTTP`, `Server`).
The five case forms join the same words in different ways. -/

namespace OpenApi

namespace Text

/-! ## Pieces -/

/-- The parts of a text between its separators, empty parts included. -/
def segments : List Char → List (List Char)
  | [] => [[]]
  | c :: cs =>
      if isAlphanumeric c then
        match segments cs with
        | s :: ss => (c :: s) :: ss
        | [] => [[c]]
      else [] :: segments cs

/-- The maximal runs of letters and numbers. -/
def pieces (cs : List Char) : List (List Char) := (segments cs).filter (· ≠ [])

/-! ## Words -/

/-- The case of the letters read since the last word boundary. -/
inductive Mode where
  | boundary
  | lower
  | upper
  deriving DecidableEq

/-- The mode after a character; one without case changes nothing. -/
def Mode.after (mode : Mode) (c : Char) : Mode :=
  if isLowercase c then .lower else if isUppercase c then .upper else mode

/-- The words of a piece; `rev` holds the letters of the current word, last first. -/
def humps (mode : Mode) (rev : List Char) : List Char → List (List Char)
  | [] => if rev = [] then [] else [rev.reverse]
  | [c] => [(c :: rev).reverse]
  | c :: next :: rest =>
      if mode.after c = .lower && isUppercase next then
        (c :: rev).reverse :: humps .boundary [] (next :: rest)
      else if mode = .upper && isUppercase c && isLowercase next then
        rev.reverse :: humps .boundary [c] (next :: rest)
      else humps (mode.after c) (c :: rev) (next :: rest)

/-- The words of a text. -/
def words (cs : List Char) : List (List Char) := (pieces cs).flatMap (humps .boundary [])

/-! ## Case forms of a word -/

/-- A word in lower case; a capital sigma at its end takes the final form. -/
def lowerWord : List Char → List Char
  | [] => []
  | [c] => if c = 'Σ' then ['ς'] else toLower c
  | c :: rest => toLower c ++ lowerWord rest

/-- A word in upper case. -/
def upperWord (w : List Char) : List Char := w.flatMap toUpper

/-- A word with its first letter in upper case and the others in lower case. -/
def capitalize : List Char → List Char
  | [] => []
  | c :: rest => toUpper c ++ lowerWord rest

/-! ## Case forms of a name -/

/-- The words capitalized and joined: `PetOwner`. -/
def pascalCase (s : String) : String := String.ofList ((words s.toList).flatMap capitalize)

/-- As `pascalCase`, with the first word in lower case: `petOwner`. -/
def camelCase (s : String) : String :=
  String.ofList <| match words s.toList with
    | [] => []
    | w :: ws => lowerWord w ++ ws.flatMap capitalize

/-- The words in lower case, joined by underscores: `pet_owner`. -/
def snakeCase (s : String) : String :=
  String.ofList (List.intercalate ['_'] ((words s.toList).map lowerWord))

/-- The words in upper case, joined by underscores: `PET_OWNER`. -/
def screamingCase (s : String) : String :=
  String.ofList (List.intercalate ['_'] ((words s.toList).map upperWord))

/-- The words in lower case, joined by hyphens: `pet-owner`. -/
def kebabCase (s : String) : String :=
  String.ofList (List.intercalate ['-'] ((words s.toList).map lowerWord))

end Text

end OpenApi
