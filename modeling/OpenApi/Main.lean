import OpenApi.CommandLine.Run

set_option autoImplicit false

/-! # The program

The outer layer of the command line: reads files from the disk, and does what an outcome says. -/

namespace OpenApi

/-- Reads a file of the working directory. -/
def readFile (path : String) : IO (Except ReadError String) := do
  try
    let bytes ← IO.FS.readBinFile path
    match String.fromUTF8? bytes with
    | some text => pure (.ok text)
    | none => pure (.error .notText)
  catch e => match e with
    | .noFileOrDirectory .. => pure (.error .notFound)
    | .inappropriateType .. => pure (.error .isDirectory)
    | e => pure (.error (.other (toString e)))

/-- Does what an outcome says. -/
def perform (o : Outcome) : IO UInt32 := do
  for (path, text) in o.written do
    IO.FS.writeFile path text
  (← IO.getStdout).putStr o.stdout
  (← IO.getStderr).putStr o.stderr
  pure o.exit.toUInt32

end OpenApi

/-- Runs the program. -/
def main (args : List String) : IO UInt32 := do
  OpenApi.perform (← OpenApi.run OpenApi.readFile args)
