import SampleRecorder.CommandLine.Program
import Std.Time.DateTime.Timestamp

/-!
# The command line

Connects the program to the files, the standard streams and the clock of the system.
-/

namespace SampleRecorder.CommandLine

open Files (Problem System)

/-- The number and the wording that the system gives to a failure. -/
def systemReport? : IO.Error → Option (UInt32 × String)
  | .alreadyExists _ code details => some (code, details)
  | .otherError code details => some (code, details)
  | .resourceBusy code details => some (code, details)
  | .resourceVanished code details => some (code, details)
  | .unsupportedOperation code details => some (code, details)
  | .hardwareFault code details => some (code, details)
  | .unsatisfiedConstraints code details => some (code, details)
  | .illegalOperation code details => some (code, details)
  | .protocolError code details => some (code, details)
  | .timeExpired code details => some (code, details)
  | .interrupted _ code details => some (code, details)
  | .noFileOrDirectory _ code details => some (code, details)
  | .invalidArgument _ code details => some (code, details)
  | .permissionDenied _ code details => some (code, details)
  | .resourceExhausted _ code details => some (code, details)
  | .inappropriateType _ code details => some (code, details)
  | .noSuchThing _ code details => some (code, details)
  | _ => none

/-- The number of a failure, which some operations report negated. -/
def failureNumber (code : UInt32) : Nat := min code.toNat (0 - code).toNat

/-- The problem that a failure of the system stands for. -/
def problemOf (e : IO.Error) : Problem :=
  match systemReport? e with
  | none => .other (toString e) none
  | some (code, details) =>
    match [Problem.notFound, .notDirectory, .isDirectory, .alreadyExists, .nameTooLong].find?
        (·.number? == some (failureNumber code)) with
    | some problem => problem
    | none => .other details (some (failureNumber code))

/-- Carries out an operation on a path of the system. -/
def attempt {α : Type} (path : String) (action : IO α) : IO (Except Problem α) :=
  if path.toList.contains '\x00' then pure (.error .badName)
  else
    try
      let result ← action
      pure (.ok result)
    catch e => pure (.error (problemOf e))

/-- The files of the system. -/
def systemFiles : System IO where
  read path := attempt path do
    let bytes ← IO.FS.readBinFile path
    pure bytes.toList
  write path bytes := attempt path (IO.FS.writeBinFile path ⟨bytes.toArray⟩)
  createDirectory path := attempt path (IO.FS.createDir path)
  rename old new := attempt new (IO.FS.rename old new)
  remove path := do
    let _ ← attempt path (IO.FS.removeFile path)

/-- All bytes of a stream. -/
partial def readToEnd (stream : IO.FS.Stream) (seen : ByteArray) : IO ByteArray := do
  let more ← stream.read 65536
  if more.isEmpty then pure seen else readToEnd stream (seen ++ more)

/-- The report on a port, which cannot be opened as one. -/
def reportOnPort (port : String) : IO String := do
  let opened ← attempt port (IO.FS.Handle.mk port .readWrite)
  pure (Source.portReport opened)

/-- The directory of the program under one that the environment names, or under one in the home directory. -/
def standardDirectory (name underHome : String) : IO String := do
  match ← IO.getEnv name, ← IO.getEnv "HOME" with
  | some directory, home =>
    if Files.Path.isAbsolute directory then pure (Files.Path.join directory directoryName)
    else pure (inHome home)
  | none, home => pure (inHome home)
where
  inHome (home : Option String) : String :=
    match home with
    | some home => Files.Path.join (Files.Path.join home underHome) directoryName
    | none => "."

/-- What the program finds outside. -/
def systemEnvironment : IO (Environment IO) := do
  let settingsDirectory ← standardDirectory "XDG_CONFIG_HOME" ".config"
  let dataDirectory ← standardDirectory "XDG_DATA_HOME" ".local/share"
  let input ← IO.getStdin
  pure {
    files := systemFiles
    readInput := do
      let bytes ← readToEnd input .empty
      pure bytes.toList
    portProblem := reportOnPort
    now := do
      let t ← Std.Time.Timestamp.now
      pure t.toMillisecondsSinceUnixEpoch.val
    settingsDirectory
    dataDirectory
  }

end SampleRecorder.CommandLine

/-- Runs the program. -/
def main (arguments : List String) : IO UInt32 := do
  let report ← SampleRecorder.CommandLine.run (← SampleRecorder.CommandLine.systemEnvironment) arguments
  for line in report.out do IO.println line
  for line in report.err do IO.eprintln line
  pure (UInt32.ofNat report.code)
