import NaturalDeduction.CommandLine.Run

/-! The program: files and variables come from the operating system. -/
section
open NaturalDeduction

def openSystemFile (path : String) : IO Opened := do
  try
    let contents ← IO.FS.readFile path
    return .text contents
  catch
    | .noFileOrDirectory .. => return .missing
    | .inappropriateType _ code _ => return if code = 20 then .belowFile else .directory
    | cause => throw cause

def systemHost : Host IO := ⟨openSystemFile, fun name => IO.getEnv name⟩

def main (words : List String) : IO UInt32 := do
  let outcome ← CommandLine.run systemHost words
  for line in outcome.output do
    IO.println line
  match outcome.result with
  | .ok code => return code.toUInt32
  | .error cause =>
      IO.eprintln cause.message
      return 1

end
