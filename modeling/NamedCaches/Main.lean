import NamedCaches.Report
set_option autoImplicit false
/-!
# The command line

Runs the settings report on the machine: environment variables come from the process, files
from its working directory. A path that cannot be read counts as missing.
-/

namespace NamedCaches.CommandLine

/-- The machine this process runs on, as a host. -/
def machine : Host IO where
  envVar k := IO.getEnv k
  entry p := do
    try
      let bytes ← IO.FS.readBinFile p
      pure (.ok (.file bytes))
    catch _ =>
      pure (.error .notFound)

/-- Runs the report and writes what it wrote; the exit code is the report's. -/
def run : IO UInt32 := do
  let o ← Report.run machine
  let out ← IO.getStdout
  let err ← IO.getStderr
  o.out.forM fun l => out.putStrLn l
  o.err.forM fun l => err.putStrLn l
  pure o.code

end NamedCaches.CommandLine

def main : IO UInt32 := NamedCaches.CommandLine.run
