import Stencil.Command.Run

/-!
# The program

Reads what a run can see, runs, and writes what the run gives. Only the files that the command
line names are read, and the standard input only where it is the template.
-/

namespace Stencil.Main

open Command

/-- A variable of the environment, written with an equals sign behind its name. -/
def variableOf (bytes : List UInt8) : String × ByteArray :=
  let name := bytes.takeWhile (· != '='.toUInt8)
  (Text.lossy ⟨name.toArray⟩, ⟨(bytes.drop (name.length + 1)).toArray⟩)

/-- The environment, written as its variables with a zero byte behind each. -/
def environmentOf (bytes : ByteArray) : Environment :=
  ⟨((bytes.data.toList.splitOn 0).filter (!·.isEmpty)).map variableOf⟩

/-- The number of a system error. Some are told with a sign. -/
def errorNumber (code : UInt32) : Nat := (if code < 0x80000000 then code else 0 - code).toNat

/-- What a path leads to that could not be read. -/
def entryOfError : IO.Error → Except FileFault FileEntry
  | .noFileOrDirectory .. => .error .notFound
  | .inappropriateType _ code details =>
    match errorNumber code with
    | 20 => .error .notDirectory
    | 21 => .ok .directory
    | _ => .error (.other details)
  | .invalidArgument _ code details =>
    if errorNumber code == 36 then .error .nameTooLong else .error (.other details)
  | .permissionDenied _ code _ =>
    .error (.other ("Permission denied (os error " ++ toString (errorNumber code) ++ ")"))
  | e => .error (.other (toString e))

/-- The size of what a path leads to, if it can be told. -/
def readSize? (path : String) : IO (Option Nat) := do
  try
    return some (← (← IO.FS.realPath path).metadata).byteSize.toNat
  catch _ => return none

/-- What a path leads to. Where the content cannot be read, the size may still be told. -/
def readEntry (path : String) : IO (Except FileFault FileEntry) := do
  try
    return .ok (.file (← IO.FS.readBinFile path))
  catch e =>
    match entryOfError e, ← readSize? path with
    | .error (.other reason), some bytes => return .ok (.locked bytes reason)
    | entry, _ => return entry

def readFiles (paths : List String) : IO Files := do
  let entries ← paths.mapM fun path => return (path, ← readEntry path)
  return ⟨fun path => (entries.lookup path).getD (.error .notFound)⟩

def readEnvironment : IO Environment := do
  try
    return environmentOf (← IO.FS.readBinFile "/proc/self/environ")
  catch _ => return ⟨[]⟩

/-- The time in milliseconds since 1970: the time at which the entry of this process is looked
    at. -/
def readClock : IO Int := do
  let info ← (← IO.FS.realPath "/proc/self").metadata
  return info.modified.sec * 1000 + info.modified.nsec.toNat / 1000000

def readSeed : IO UInt64 := do
  let bytes ← IO.getRandomBytes 8
  return bytes.data.foldl (fun seed b => 256 * seed + b.toUInt64) 0

def readSurroundings (environment : Environment) (request : Option Request) :
    IO Surroundings := do
  let files ← readFiles ((request.map Request.paths).getD [])
  let input ←
    if request.any Request.readsInput then IO.FS.readBinFile "/dev/stdin"
    else pure ByteArray.empty
  return ⟨⟨← readClock, environment⟩, .ofSeed (← readSeed), files, input⟩

end Stencil.Main

open Stencil in
def main (args : List String) : IO UInt32 := do
  let environment ← Main.readEnvironment
  let request := (Command.Invocation.read environment args).toOption.map fun i => i.request
  let exit := Command.run (← Main.readSurroundings environment request) args
  let output ← IO.getStdout
  output.putStr exit.output
  output.flush
  for line in exit.errors do IO.eprintln line
  return exit.code.toUInt32
