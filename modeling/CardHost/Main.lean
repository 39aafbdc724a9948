import CardHost.CommandLine.Tool

namespace CardHost

/-- How a failure of the file system is reported. The system's numbers come with either sign. -/
def DeviceError.ofIO : IO.Error → DeviceError
  | .noFileOrDirectory .. => .noFile
  | .inappropriateType _ code _ => if code = 21 ∨ code = -21 then .fileIsDirectory else .throughFile
  | .invalidArgument _ code _ => if code = 36 ∨ code = -36 then .nameTooLong else .nameWithNul
  | .permissionDenied .. => .fileFailure "Permission denied (os error 13)"
  | e => .fileFailure (toString e)

instance : Environment IO where
  findVariable name := IO.getEnv name
  readFile name := do
    try return .ok (← IO.FS.readBinFile name)
    catch e => return .error (.ofIO e)
  writeFile name bytes := do
    try
      IO.FS.writeBinFile name bytes
      return .ok ()
    catch e => return .error (.ofIO e)

end CardHost

def main (words : List String) : IO UInt32 := do
  let outcome ← CardHost.CommandLine.run words
  let stdout ← IO.getStdout
  stdout.write outcome.stdout
  stdout.flush
  IO.eprint outcome.stderr
  return outcome.exit.toUInt32
