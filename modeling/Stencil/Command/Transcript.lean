import Stencil.Config.Error
import Stencil.Files
import Stencil.Log.Filter
import Stencil.World

/-!
# Transcripts

What a run takes from its surroundings, and what it leaves behind: the text of the standard
output, the remarks of the standard error in order, and the failure that ends it, if one does.
Remarks for the log are kept as records; what is shown of them is decided at the end.
-/

namespace Stencil.Command

structure Surroundings where
  world : World
  words : Words
  files : Files
  input : ByteArray

inductive Remark where
  /-- A record for the log. -/
  | record (record : Log.Record)
  /-- A line that is always shown. -/
  | line (text : String)

structure LogView where
  filter : Log.Filter
  /-- Whether a record names the part of the program that it comes from. -/
  showOrigin : Bool

def levelOf : Nat → Log.Level
  | 0 => .warn
  | 1 => .info
  | 2 => .debug
  | _ => .trace

/-- How the log is shown at a verbosity. A readable filter in the environment comes first. -/
def LogView.ofVerbosity (e : Environment) (verbosity : Nat) : LogView where
  filter := ((e.text? "MOCKEXPR_LOG_LEVEL").bind Log.Filter.read?).getD
    (Log.Filter.atLevel (levelOf verbosity))
  showOrigin := 2 ≤ verbosity

/-- The line that is shown of a remark, if one is. -/
def Remark.shown? (log : Option LogView) : Remark → Option String
  | .line text => some text
  | .record r =>
    log.bind fun view => if view.filter.shows r then some (r.line view.showOrigin) else none

structure Transcript where
  output : String
  remarks : List Remark
  failure : Option Failure

namespace Transcript

/-- A run that fails before it has written anything. -/
def failed (remarks : List Remark) (failure : Failure) : Transcript := ⟨"", remarks, some failure⟩

def written (output : String) : Transcript := ⟨output, [], none⟩

def after (t : Transcript) (remarks : List Remark) : Transcript :=
  { t with remarks := remarks ++ t.remarks }

/-- The lines of the standard error. The failure comes last. -/
def errorLines (log : Option LogView) (t : Transcript) : List String :=
  t.remarks.filterMap (Remark.shown? log) ++
    (t.failure.map fun f => "error: " ++ f.message).toList

def exitCode (t : Transcript) : Nat :=
  match t.failure with
  | some f => f.exitCode
  | none => 0

end Transcript

end Stencil.Command
