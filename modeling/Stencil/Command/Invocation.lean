import Stencil.Command.Grammar
import Stencil.Number.Reading

/-!
# Invocations

What the program can be asked to do, and how its command line says it. Some switches hold for
every command and stand in front of its name or behind it; where one is given on both sides,
the one behind the name counts.
-/

namespace Stencil.Command

inductive Color where
  | auto
  | always
  | never
deriving DecidableEq, Repr

inductive Format where
  | human
  | json
deriving DecidableEq, Repr

structure RenderRequest where
  /-- The file of the template; none or a dash stands for the standard input. -/
  file : Option String
  config : Option String
  times : Nat
  report : Bool
  metrics : Bool
  /-- Whether a placeholder that is left makes the run fail. -/
  strict : Bool
  format : Format
deriving DecidableEq, Repr

structure ListRequest where
  config : Option String
  format : Format
deriving DecidableEq, Repr

structure CheckRequest where
  files : List String
  format : Format
  /-- Whether a warning makes a configuration unusable. -/
  strict : Bool
deriving DecidableEq, Repr

inductive Request where
  | render (request : RenderRequest)
  | expressions (request : ListRequest)
  | validate (request : CheckRequest)
  | version (format : Format)
deriving DecidableEq, Repr

/-- What to do, and how to speak of it. -/
structure Invocation where
  request : Request
  verbosity : Nat
  quiet : Bool
  color : Color
deriving DecidableEq, Repr

/-! ### Values -/

def choose {β : Type} (names : List (String × β)) (s : String) : Except UsageError β :=
  match names.lookup s with
  | some v => .ok v
  | none => .error .badValue

def Color.names : List (String × Color) :=
  [("auto", .auto), ("always", .always), ("never", .never)]

def Format.names : List (String × Format) := [("human", .human), ("json", .json)]

/-- A path; it has to be some. -/
def readPath (s : String) : Except UsageError String :=
  if s.isEmpty then .error .badValue else .ok s

def mostTimes : Nat := 4294967295

/-- A number of times, at least one. -/
def readTimes (s : String) : Except UsageError Nat :=
  match Number.integer? 10 1 mostTimes s.toList with
  | some n => .ok n.toNat
  | none => .error .badNumber

/-- A setter that reads a value and puts it in its place. -/
def setting {α β : Type} (read : String → Except UsageError β) (put : β → α → α) : Setter α :=
  fun s a =>
    match read s with
    | .ok v => .ok (put v a)
    | .error e => .error e

/-! ### Switches -/

/-- What the switches of every command have said. -/
structure Manner where
  verbosity : Nat
  quiet : Bool
  /-- The colour choice of the command line. -/
  color : Option Color
  /-- The colour choice of the environment. -/
  usualColor : Option Color

def Manner.unsaid : Manner := ⟨0, false, none, none⟩

structure Asked (ρ : Type) where
  manner : Manner
  request : ρ

def Asked.inManner {ρ : Type} (change : Manner → Manner) (a : Asked ρ) : Asked ρ :=
  { a with manner := change a.manner }

def Asked.alter {ρ : Type} (change : ρ → ρ) (a : Asked ρ) : Asked ρ :=
  { a with request := change a.request }

def mostVerbose : Nat := 255

def commonSwitches (ρ : Type) : List (Switch (Asked ρ)) :=
  [⟨"verbose", some 'v', .counter (Asked.inManner fun m =>
      { m with verbosity := min mostVerbose (m.verbosity + 1) }), none⟩,
    ⟨"quiet", some 'q', .flag (Asked.inManner fun m => { m with quiet := true }), none⟩,
    ⟨"color", none, .valued (setting (choose Color.names) fun c =>
        Asked.inManner fun m => { m with color := some c }),
      some ⟨"MOCKEXPR_COLOR", setting (choose Color.names) fun c =>
        Asked.inManner fun m => { m with usualColor := some c }⟩⟩,
    ⟨"help", some 'h', .help, none⟩,
    ⟨"version", some 'V', .version, none⟩]

def configSwitch {ρ : Type} (put : String → ρ → ρ) : Switch (Asked ρ) :=
  let set : Setter (Asked ρ) := setting readPath fun path => Asked.alter (put path)
  ⟨"config", some 'c', .valued set, some ⟨"MOCKEXPR_CONFIG", set⟩⟩

def formatSwitch {ρ : Type} (put : Format → ρ → ρ) : Switch (Asked ρ) :=
  ⟨"format", some 'f', .valued (setting (choose Format.names) fun f => Asked.alter (put f)), none⟩

def onSwitch {ρ : Type} (name : String) (put : ρ → ρ) : Switch (Asked ρ) :=
  ⟨name, none, .flag (Asked.alter put), none⟩

/-! ### The commands -/

def programName : String := "mockexpr"

def commandNames : List String := ["render", "expressions", "validate", "version", "help"]

/-- What stands in front of the name of a command. -/
def mainGrammar : Grammar (Asked Unit) :=
  ⟨programName, commonSwitches Unit, .none, commandNames⟩

def commandGrammar {ρ : Type} (name : String) (switches : List (Switch (Asked ρ)))
    (operands : Operands (Asked ρ)) : Grammar (Asked ρ) :=
  ⟨programName ++ "-" ++ name, switches ++ commonSwitches ρ, operands, []⟩

def renderGrammar : Grammar (Asked RenderRequest) :=
  commandGrammar "render"
    [configSwitch fun path r => { r with config := some path },
      ⟨"repeat", some 'n', .valued (setting readTimes fun n =>
        Asked.alter fun r => { r with times := n }), none⟩,
      onSwitch "report" fun r => { r with report := true },
      onSwitch "metrics" fun r => { r with metrics := true },
      onSwitch "strict" fun r => { r with strict := true },
      formatSwitch fun f r => { r with format := f }]
    (.one (setting readPath fun path => Asked.alter fun r => { r with file := some path }))

def expressionsGrammar : Grammar (Asked ListRequest) :=
  commandGrammar "expressions"
    [configSwitch fun path r => { r with config := some path },
      formatSwitch fun f r => { r with format := f }]
    .none

def validateGrammar : Grammar (Asked CheckRequest) :=
  commandGrammar "validate"
    [formatSwitch fun f r => { r with format := f },
      onSwitch "strict" fun r => { r with strict := true }]
    (.many (setting readPath fun path =>
      Asked.alter fun r => { r with files := r.files ++ [path] }))

def versionGrammar : Grammar (Asked Format) :=
  commandGrammar "version" [formatSwitch fun f _ => f] .none

def readCommand {ρ : Type} (g : Grammar (Asked ρ)) (e : Environment) (usual : ρ)
    (args : List String) : Except Stop (Asked ρ) := do
  let (r, _) ← g.words (.start ⟨.unsaid, usual⟩) args
  return (← g.finish e r).value

/-- What came of asking for help: it has to be asked of the program or of a command, and
    commands have none of their own. -/
def helpOn : List String → Stop
  | [] => .help
  | [name] => if commandNames.contains name then .help else .refused .unknownCommand
  | _ => .refused .unknownCommand

/-- Reads the name of a command and the words behind it. -/
def readRequest (e : Environment) (name : String) (args : List String) :
    Except Stop (Asked Request) :=
  match name with
  | "render" => do
    let a ← readCommand renderGrammar e ⟨none, none, 1, false, false, false, .human⟩ args
    return ⟨a.manner, .render a.request⟩
  | "expressions" => do
    let a ← readCommand expressionsGrammar e ⟨none, .human⟩ args
    return ⟨a.manner, .expressions a.request⟩
  | "validate" => do
    let a ← readCommand validateGrammar e ⟨[], .human, false⟩ args
    if a.request.files.isEmpty then .error (.refused .missingOperand)
    else return ⟨a.manner, .validate a.request⟩
  | "version" => do
    let a ← readCommand versionGrammar e .human args
    return ⟨a.manner, .version a.request⟩
  | _ => .error (helpOn args)

/-- The invocation of a request, with the manners of both sides of the command's name. -/
def Invocation.of (front behind : Manner) (request : Request) : Invocation where
  request := request
  verbosity := if behind.verbosity == 0 then front.verbosity else behind.verbosity
  quiet := front.quiet || behind.quiet
  color := (((behind.color <|> front.color) <|> behind.usualColor) <|> front.usualColor).getD .auto

def Invocation.read (e : Environment) (args : List String) : Except Stop Invocation := do
  let (front, command) ← mainGrammar.words (.start ⟨.unsaid, ()⟩) args
  match command with
  | none =>
    let front ← mainGrammar.finish e front
    .error (.refused (if front.given.isEmpty then .nothingGiven else .missingCommand))
  | some (name, rest) =>
    let asked ← readRequest e name rest
    let front ← mainGrammar.finish e front
    return .of front.value.manner asked.manner asked.request

end Stencil.Command
