import Stencil.Command.Checking

/-!
# Lists on command

The expressions of an engine with their descriptions, and the version of the program.
-/

namespace Stencil.Command

open Text

/-- A text filled up with blanks to a number of characters. -/
def padded (width : Nat) (s : String) : String :=
  s ++ String.ofList (List.replicate (width - s.length) ' ')

def expressionLines (expressions : List Expression) : List String :=
  let width := (expressions.map fun e => e.identifier.utf8ByteSize).foldl max 0
  expressions.map fun e => padded width e.identifier ++ "  " ++ e.description

def expressionJson (e : Expression) : Json :=
  .object [("identifier", .string e.identifier), ("description", .string e.description)]

def expressionsText (format : Format) (expressions : List Expression) : String :=
  match format with
  | .human => unlines (expressionLines expressions)
  | .json => (Json.array (expressions.map expressionJson)).pretty ++ "\n"

def listExpressions [Dice] (decode : Config.Format) (s : Surroundings) (request : ListRequest) :
    Transcript :=
  let setup := engine decode s request.config
  let start := setup.records.map Remark.record
  match setup.result with
  | .error f => .failed start f
  | .ok e =>
    let text := expressionsText request.format e.registry.expressions
    (Transcript.written text).after start

def programVersion : String := "0.3.0"

def versionLine (program : String) : String := program ++ " " ++ programVersion ++ "\n"

def versionText : Format → String
  | .human => versionLine programName
  | .json =>
    (Json.object [("name", .string programName), ("version", .string programVersion)]).compact ++
      "\n"

end Stencil.Command
