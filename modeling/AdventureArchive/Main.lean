import AdventureArchive.CommandLine.Tool

/-!
# Command line

The tools on the files of the machine they run on.
-/

namespace AdventureArchive.CommandLine

/-- What a failed access to a file says about its path; error codes come with either sign. -/
def nodeOf (failed : IO.Error) : Except FileFault FileNode :=
  match failed with
  | .noFileOrDirectory .. => .error .notFound
  | .inappropriateType _ code _ =>
      if code = 21 ∨ code = -21 then .ok .directory else .error .notADirectory
  | other => .error (.system (toString other))

instance : FileSystem IO where
  lookUp path := do
    try
      return .ok (.file (← IO.FS.readBinFile path).toList)
    catch failed =>
      return nodeOf failed
  store path bytes := do
    try
      IO.FS.writeBinFile path ⟨bytes.toArray⟩
      return .ok ()
    catch failed =>
      match nodeOf failed with
      | .error fault => return .error fault
      | .ok _ => return .error .isADirectory

end AdventureArchive.CommandLine

open AdventureArchive.CommandLine in
/-- Runs the tool that the first argument names. -/
def main (arguments : List String) : IO UInt32 := do
  match arguments with
  | name :: rest =>
      match Tool.all.find? fun tool => tool.name == name with
      | some tool =>
          let exit ← tool.execute rest (← IO.getEnv "RELIC_PARALLEL_DECODE")
          IO.print exit.output
          IO.eprint exit.errors
          return exit.code.toUInt32
      | none => IO.eprintln ("unknown tool " ++ name)
  | [] => IO.eprint (lines (Tool.all.map Tool.usage))
  return 2
