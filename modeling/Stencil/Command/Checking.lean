import Stencil.Command.Rendering

/-!
# Checking configurations on command

Every file is loaded, also behind one that fails. A file passes if it can be loaded and, where
that is asked, gives no warning. The run fails with the failure of the first file that does not
pass.
-/

namespace Stencil.Command

open Text

variable (decode : Config.Format)

structure CheckReport where
  file : String
  valid : Bool
  errors : List String
  warnings : List String
deriving DecidableEq, Repr

/-- The errors of a configuration that cannot be loaded, one by one where there are several. -/
def errorTexts : ConfigError → List String
  | .notValid _ issues => issues.map Issue.display
  | e => [e.message]

/-- The report on a file that was loaded, or was not, and why the file does not pass. -/
def CheckReport.ofResult (strict : Bool) (file : String) :
    Except ConfigError Loaded → CheckReport × Option Failure
  | .ok loaded =>
    let failure :=
      if strict && !loaded.warnings.isEmpty then
        some (.config (.notValid file loaded.warnings))
      else none
    ({ file := file
       valid := failure.isNone
       errors := []
       warnings := loaded.warnings.map Issue.display },
      failure)
  | .error e => (⟨file, false, errorTexts e, []⟩, some (.config e))

/-- The report on a file, and why the file does not pass. -/
def check (s : Surroundings) (strict : Bool) (file : String) : CheckReport × Option Failure :=
  CheckReport.ofResult strict file (loadConfig decode s file).result

/-- The reports on files, and the first failure; there may have been one before them. -/
def checkAll (s : Surroundings) (strict : Bool) (earlier : Option Failure) :
    List String → List CheckReport × Option Failure
  | [] => ([], earlier)
  | file :: rest =>
    let (report, failure) := check decode s strict file
    let (reports, first) := checkAll s strict (earlier.or failure) rest
    (report :: reports, first)

def checkRecord (file : String) : Log.Record :=
  ⟨.info, "mockexpr::cli::commands::validate", "validating configuration",
    [Log.plain "file" file]⟩

def checkRemarks (s : Surroundings) (file : String) : List Remark :=
  (checkRecord file :: (loadConfig decode s file).records).map .record

def CheckReport.lines (r : CheckReport) : List String :=
  (r.file ++ ": " ++ if r.valid then "ok" else "FAILED") ::
    (r.errors ++ r.warnings).map fun m => "  " ++ m

def CheckReport.json (r : CheckReport) : Json :=
  .object [("file", .string r.file), ("valid", .bool r.valid),
    ("errors", .array (r.errors.map .string)), ("warnings", .array (r.warnings.map .string))]

def unlines (lines : List String) : String := String.join (lines.map fun l => l ++ "\n")

/-- What is written of reports. -/
def reportsText (format : Format) (reports : List CheckReport) : String :=
  match format with
  | .human => unlines (reports.flatMap CheckReport.lines)
  | .json => (Json.array (reports.map CheckReport.json)).pretty ++ "\n"

def validate (s : Surroundings) (request : CheckRequest) : Transcript :=
  let (reports, failure) := checkAll decode s request.strict none request.files
  { output := reportsText request.format reports
    remarks := request.files.flatMap (checkRemarks decode s)
    failure := failure }

end Stencil.Command
