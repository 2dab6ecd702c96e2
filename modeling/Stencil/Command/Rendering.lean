import Stencil.Command.Invocation
import Stencil.Command.Transcript
import Stencil.Config.Load
import Stencil.Expression.Builtin
import Stencil.Metrics
import Stencil.Text.Json

/-!
# Rendering on command

The template is rendered as many times as is asked, each time with the random words that the
time before left. Every render is written at once, and all of them together are reported,
counted and, if no placeholder may be left, judged.
-/

namespace Stencil.Command

open Text

variable (decode : Config.Format)

/-! ### The engine -/

def origin : String := "mockexpr::cli::commands"

def warningRecord (warning : Issue) : Log.Record :=
  ⟨.warn, origin, warning.message, [Log.quoted "location" warning.path]⟩

def loadedRecord (path : String) : Log.Record :=
  ⟨.info, origin, "configuration loaded", [Log.plain "file" path]⟩

/-- How the program loads configurations: up to the usual size, and with overrides. -/
def loadConfig (s : Surroundings) (path : String) : Loading :=
  Config.loadFile decode ⟨Config.usualSizeLimit, some s.world.environment.text?⟩ s.files path

structure Setup (α : Type) where
  result : Except Failure α
  records : List Log.Record

def configuration (s : Surroundings) : Option String → Setup Config
  | none => ⟨.ok .standard, []⟩
  | some path =>
    let loading := loadConfig decode s path
    match loading.result with
    | .error e => ⟨.error (.config e), loading.records⟩
    | .ok loaded =>
      ⟨.ok loaded.config,
        loading.records ++ loaded.warnings.map warningRecord ++ [loadedRecord path]⟩

def engine [Dice] (s : Surroundings) (path : Option String) : Setup Engine :=
  let setup := configuration decode s path
  match setup.result with
  | .error f => ⟨.error f, setup.records⟩
  | .ok config =>
    match Engine.ofConfig config with
    | .error e => ⟨.error (.registry e), setup.records⟩
    | .ok e => ⟨.ok e, setup.records ++ e.registry.records⟩

/-! ### The template -/

/-- Whether a path stands for the standard input: a dash, with nothing but idle names behind
    it. -/
def isStandardInput (path : String) : Bool :=
  match FileTree.names path with
  | first :: rest => first == "-" && rest.all FileTree.isIdle
  | [] => false

def inputText (s : Surroundings) : Except Failure String :=
  match String.fromUTF8? s.input with
  | some text => .ok text
  | none => .error (.io FileFault.notText.message)

def template (s : Surroundings) : Option String → Except Failure String
  | none => inputText s
  | some path =>
    if isStandardInput path then inputText s
    else
      match s.files.read path with
      | .ok text => .ok text
      | .error fault => .error (.io (path ++ ": " ++ fault.message))

/-! ### The renders -/

def renderings (e : Engine) (world : World) (words : Words) (template : String) :
    Nat → List Rendering
  | 0 => []
  | n + 1 =>
    let r := e.render world words template
    r :: renderings e world r.words template n

/-- A report in one line. What did not happen is left out. -/
def summary (r : Report) : String :=
  "substituted: " ++ toString r.substituted ++
  (if r.unknown.isEmpty then "" else ", unknown: " ++ ", ".intercalate r.unknown) ++
  (if r.malformed == 0 then "" else ", malformed: " ++ toString r.malformed) ++
  (if r.skipped == 0 then "" else ", skipped: " ++ toString r.skipped) ++
  (if r.unterminated then ", unterminated" else "")

def reportJson (r : Report) : Json :=
  .object [("escaped", .number r.escaped), ("malformed", .number r.malformed),
    ("skipped", .number r.skipped), ("substituted", .number r.substituted),
    ("unknown", .array (r.unknown.map .string)), ("unterminated", .bool r.unterminated)]

def renderingJson (request : RenderRequest) (index : Nat) (r : Rendering) : Json :=
  .object ([("index", .number index), ("output", .string r.output)] ++
    if request.report then [("report", reportJson r.report)] else [])

def terminated (text : String) : String := if text.endsWith "\n" then text else text ++ "\n"

/-- Several renders are kept apart by line ends. -/
def written (request : RenderRequest) (index : Nat) (r : Rendering) : String :=
  match request.format with
  | .human => if 1 < request.times then terminated r.output else r.output
  | .json => (renderingJson request index r).compact ++ "\n"

def writtenFrom (request : RenderRequest) (index : Nat) : List Rendering → String
  | [] => ""
  | r :: rest => written request index r ++ writtenFrom request (index + 1) rest

/-- What is remarked of a render. In JSON the report is part of the output. -/
def remarks (e : Engine) (request : RenderRequest) (r : Rendering) : List Remark :=
  (e.records r).map .record ++
    if request.report && request.format == .human then [.line (summary r.report)] else []

def noPlaceholdersRecord : Log.Record :=
  ⟨.info, "mockexpr::cli::commands::render", "template contains no placeholders", []⟩

/-- The number of placeholders that are left in renders. -/
def unresolved : List Rendering → Nat
  | [] => 0
  | r :: rest => r.report.unresolved + unresolved rest

def renderTemplate (e : Engine) (world : World) (words : Words) (request : RenderRequest)
    (template : String) : Transcript :=
  let all := renderings e world words template request.times
  let left := unresolved all
  { output := writtenFrom request 0 all
    remarks :=
      (if e.mayHoldPlaceholders template then [] else [.record noPlaceholdersRecord]) ++
      all.flatMap (remarks e request) ++
      (if request.metrics then (Metrics.ofRenderings all).lines.map .line else [])
    failure := if request.strict && left != 0 then some (.unresolved left) else none }

/-- Carries out a request to render. The configuration is loaded before the template is read. -/
def render [Dice] (s : Surroundings) (request : RenderRequest) : Transcript :=
  let setup := engine decode s request.config
  let start := setup.records.map Remark.record
  match setup.result with
  | .error f => .failed start f
  | .ok e =>
    match template s request.file with
    | .error f => .failed start f
    | .ok text => (renderTemplate e s.world s.words request text).after start

end Stencil.Command
