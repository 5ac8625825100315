import CaptureFlow.Command.Arguments
import CaptureFlow.Command.Run
import Std.Time.DateTime.Timestamp

/-!
# The command

Reads arguments and files, runs the command, and prints and writes what the run
came to. All decisions are made by the run.
-/

namespace CaptureFlow.Main

open Command

/-- The refusal of the system that an exception tells. -/
def systemFault : IO.Error → SystemFault
  | .noFileOrDirectory _ _ _ => .notFound
  | .inappropriateType _ code details => ⟨details, code.toNat⟩
  | .permissionDenied _ code details => ⟨details, code.toNat⟩
  | .otherError code details => ⟨details, code.toNat⟩
  | error => ⟨toString error, 0⟩

/-- The content of an open file. -/
def readHandle (handle : IO.FS.Handle) : IO Content := do
  try
    let bytes ← handle.readBinToEnd
    pure (.octets bytes.data.toList)
  catch error => pure (.unreadable (systemFault error))

/-- The content of the file at a path. -/
def readFile (path : String) : IO (Except SystemFault Content) := do
  try
    let handle ← IO.FS.Handle.mk path .read
    let content ← readHandle handle
    pure (.ok content)
  catch error => pure (.error (systemFault error))

/-- Writes a file, or tells why that is not possible. -/
def writeFile (path : String) (bytes : Bytes) : IO (Except SystemFault Unit) := do
  try
    IO.FS.writeBinFile path ⟨bytes.toArray⟩
    pure (.ok ())
  catch error => pure (.error (systemFault error))

/-- The present instant. -/
def now : IO Instant := do
  let time ← Std.Time.Timestamp.now
  let nanos := time.toNanosecondsSinceUnixEpoch.toInt
  pure ⟨nanos / Instant.nanosPerSecond, (nanos % Instant.nanosPerSecond).toNat⟩

/-- Runs the command with the options given, and tells its exit code. -/
def runOptions (options : Options) : IO UInt32 := do
  let file ← readFile options.file
  let now ← now
  let attempt := fun created => options.run ⟨fun _ => file, fun _ => created⟩ now
  let planned := attempt (.ok ())
  let outcome ← match planned.archive with
    | none => pure planned
    | some (path, trace) =>
      match ← writeFile path trace.archive with
      | .ok () => pure planned
      | .error fault => pure (attempt (.error fault))
  (← IO.getStdout).putStr outcome.printed
  match outcome.stop with
  | none => pure ()
  | some (.failure failure) => (← IO.getStderr).putStrLn failure.text
  | some (.overflow _) => (← IO.getStderr).putStrLn "attempt to subtract with overflow"
  pure (exitCode outcome.stop).toUInt32

/-- What the command prints when it is asked for help. -/
def helpText : String :=
  "Usage: pkttrace [OPTIONS] <FILE>\n"

/-- Runs the command. -/
def main (arguments : List String) : IO UInt32 := do
  match Options.ofArguments arguments with
  | .ok options => runOptions options
  | .error .version =>
    IO.println s!"pkttrace {programVersion}"
    pure 0
  | .error .help =>
    IO.print helpText
    pure 0
  | .error _ =>
    (← IO.getStderr).putStr helpText
    pure 2

end CaptureFlow.Main

/-- Runs the command. -/
def main (arguments : List String) : IO UInt32 :=
  CaptureFlow.Main.main arguments
