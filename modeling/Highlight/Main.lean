import Highlight.CommandLine

/-!
# `Highlight.Main`: the command line

Reads the files that the arguments name, and prints what `Highlight.CommandLine` computes.
-/

set_option autoImplicit false

namespace Highlight

/-- Reads a file. -/
def readFile (path : String) : IO File := do
  try
    let bytes ← IO.FS.readBinFile path
    return .content bytes.toList
  catch
    | .noFileOrDirectory _ _ _ => return .missing
    | .inappropriateType _ _ _ => return .directory
    | e => throw e

end Highlight

/-- Runs the program. -/
def main (args : List String) : IO UInt32 := do
  let result ← match Highlight.CommandLine.Arguments.ofList args with
    | none => pure Highlight.CommandLine.refused
    | some a => do
      let definition ← Highlight.readFile a.language
      let text ← Highlight.readFile a.input
      pure (Highlight.CommandLine.runWith a definition text)
  (← IO.getStdout).putStr result.output
  (← IO.getStderr).putStr result.errors
  return result.exitCode.toUInt32
