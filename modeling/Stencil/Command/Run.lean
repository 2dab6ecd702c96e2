import Stencil.Command.Listing
import Stencil.Config.Decode

/-!
# Runs

A run of the program: its command line is read, its request is carried out, and what is left
behind is put into an exit code, a text for the standard output, and lines for the standard
error.
-/

namespace Stencil.Command

structure Exit where
  code : Nat
  output : String
  errors : List String

def carryOut [Dice] (decode : Config.Format) (s : Surroundings) : Request → Transcript
  | .render request => render decode s request
  | .expressions request => listExpressions decode s request
  | .validate request => validate decode s request
  | .version format => .written (versionText format)

def Request.paths : Request → List String
  | .render r => r.config.toList ++ r.file.toList.filter fun path => !isStandardInput path
  | .expressions r => r.config.toList
  | .validate r => r.files
  | .version _ => []

def Request.readsInput : Request → Bool
  | .render r => r.file.all isStandardInput
  | _ => false

def Invocation.log (e : Environment) (i : Invocation) : Option LogView :=
  if i.quiet then none else some (.ofVerbosity e i.verbosity)

def refusalCode : Nat := 64

def helpLines : List String :=
  ["Usage: mockexpr [OPTIONS] <COMMAND>", "",
    "  render [FILE]       render a template file, or the standard input",
    "  expressions         list the expressions",
    "  validate FILE...    check configuration files",
    "  version             tell the version"]

def Stop.exit : Stop → Exit
  | .help => ⟨0, unlines helpLines, []⟩
  | .version program => ⟨0, versionLine program, []⟩
  | .refused e => ⟨refusalCode, "", ["error: " ++ e.message, ""] ++ helpLines⟩

def Stop.exitCode (s : Stop) : Nat := s.exit.code

/-- Runs the program on a command line, with a format of configurations. -/
def runWith [Dice] (decode : Config.Format) (s : Surroundings) (args : List String) : Exit :=
  match Invocation.read s.world.environment args with
  | .error stop => stop.exit
  | .ok invocation =>
    let t := carryOut decode s invocation.request
    ⟨t.exitCode, t.output, t.errorLines (invocation.log s.world.environment)⟩

def run (s : Surroundings) (args : List String) : Exit := runWith Config.ofYaml s args

end Stencil.Command
