import Stencil.Text.Lossy
import Stencil.World

/-!
# Command lines

A command has switches, which are given by a long name or a letter, operands, and perhaps
commands of its own. Its command line is read word by word into a value of a type `α`, which
the switches and operands change.

A value is taken in only when the next switch or operand begins, or at the end. Until then it
is held, so that an unknown switch is complained of before a bad value in front of it.
-/

namespace Stencil.Command

open Text

inductive UsageError where
  /-- A word that is neither a switch nor an operand of the command. -/
  | unknownArgument
  /-- A word that is no command where there has to be one. -/
  | unknownCommand
  /-- There is no command, but something else. -/
  | missingCommand
  /-- There is nothing at all. -/
  | nothingGiven
  /-- There is no operand, and there has to be one. -/
  | missingOperand
  /-- A switch without its value, or with one that is empty or none of the choices. -/
  | badValue
  /-- A value that is not a number in range. -/
  | badNumber
  /-- A switch that may be given once is given again. -/
  | givenAgain
  /-- A switch that takes no value has one. -/
  | superfluousValue
deriving DecidableEq, Repr

def UsageError.message : UsageError → String
  | .unknownArgument => "unexpected argument"
  | .unknownCommand => "unknown command"
  | .missingCommand => "a command is missing"
  | .nothingGiven => "nothing to do"
  | .missingOperand => "a file is missing"
  | .badValue => "a value is missing or not one of the choices"
  | .badNumber => "a number is out of range"
  | .givenAgain => "a switch is given again"
  | .superfluousValue => "a switch takes no value"

inductive Stop where
  | help
  /-- It asks for the version of a program. -/
  | version (program : String)
  | refused (error : UsageError)
deriving DecidableEq, Repr

/-- How a text changes what has been read. -/
abbrev Setter (α : Type) := String → α → Except UsageError α

inductive Action (α : Type) where
  /-- Takes no value and is given once. -/
  | flag (set : α → α)
  /-- Takes no value and is given any number of times. -/
  | counter (increment : α → α)
  /-- Takes a value and is given once. -/
  | valued (set : Setter α)
  /-- Asks for help. -/
  | help
  /-- Asks for the version. -/
  | version

/-- A variable of the environment that stands in for a switch that is not given. -/
structure Substitute (α : Type) where
  name : String
  set : Setter α

structure Switch (α : Type) where
  name : String
  letter : Option Char
  action : Action α
  substitute : Option (Substitute α)

inductive Operands (α : Type) where
  | none
  | one (set : Setter α)
  | many (add : Setter α)

structure Grammar (α : Type) where
  /-- The program that the command is, where it tells its version. -/
  program : String
  switches : List (Switch α)
  operands : Operands α
  /-- The names of its own commands. -/
  commands : List String

/-! ### Words -/

inductive Word where
  /-- Only operands follow. -/
  | separator
  /-- A switch by its long name, perhaps with a value. -/
  | long (name : String) (value : Option String)
  /-- Switches by their letters, the last perhaps with a value. -/
  | letters (letters : List Char)
  /-- Anything else; a dash alone is no switch. -/
  | other
deriving DecidableEq, Repr

def Word.ofLong (s : List Char) : Word :=
  match s.dropWhile (· != '=') with
  | [] => .long (String.ofList s) none
  | _ :: value => .long (String.ofList (s.takeWhile (· != '='))) (some (String.ofList value))

def Word.ofString (s : String) : Word :=
  match s.toList with
  | ['-', '-'] => .separator
  | '-' :: '-' :: name => .ofLong name
  | '-' :: c :: rest => .letters (c :: rest)
  | _ => .other

/-! ### What has been read -/

structure Held (α : Type) where
  /-- The switch that they belong to; operands have none. -/
  name : Option String
  set : Setter α
  values : List String

structure Reading (α : Type) where
  value : α
  /-- The names of the switches that have been taken in. -/
  given : List String
  held : Option (Held α)
  operandsOnly : Bool
  operands : Nat

namespace Reading

def start {α : Type} (value : α) : Reading α := ⟨value, [], none, false, 0⟩

def isAwaiting {α : Type} (r : Reading α) : Bool := r.held.any fun h => h.values.isEmpty

def applyAll {α : Type} (set : Setter α) : List String → α → Except Stop α
  | [], a => .ok a
  | v :: rest, a =>
    match set v a with
    | .ok a => applyAll set rest a
    | .error e => .error (.refused e)

/-- Takes in values: there have to be some, their switch must not have been given before, and
    they have to be good. -/
def takeIn {α : Type} (r : Reading α) (h : Held α) : Except Stop (Reading α) :=
  if h.values.isEmpty then .error (.refused .badValue)
  else if h.name.any r.given.contains then .error (.refused .givenAgain)
  else
    match applyAll h.set h.values r.value with
    | .ok a => .ok { r with value := a, given := h.name.toList ++ r.given }
    | .error stop => .error stop

def settle {α : Type} (r : Reading α) : Except Stop (Reading α) :=
  match r.held with
  | none => .ok r
  | some h => { r with held := none }.takeIn h

/-- Holds a value for the switch that has none yet. -/
def supply {α : Type} (r : Reading α) (value : String) : Reading α :=
  { r with held := r.held.map fun h => { h with values := h.values ++ [value] } }

end Reading

/-! ### Reading -/

namespace Grammar

def named? {α : Type} (g : Grammar α) (name : String) : Option (Switch α) :=
  g.switches.find? fun s => s.name == name

def lettered? {α : Type} (g : Grammar α) (letter : Char) : Option (Switch α) :=
  g.switches.find? fun s => s.letter == some letter

/-- A switch without a value; one that takes a value waits for it. -/
def occur {α : Type} (g : Grammar α) (r : Reading α) (s : Switch α) : Except Stop (Reading α) := do
  let r ← r.settle
  match s.action with
  | .flag set =>
    if r.given.contains s.name then .error (.refused .givenAgain)
    else return { r with value := set r.value, given := s.name :: r.given }
  | .counter increment => return { r with value := increment r.value, given := s.name :: r.given }
  | .valued set => return { r with held := some ⟨some s.name, set, []⟩ }
  | .help => .error .help
  | .version => .error (.version g.program)

def occurWith {α : Type} (r : Reading α) (s : Switch α) (value : String) :
    Except Stop (Reading α) :=
  match s.action with
  | .valued set => do (← r.settle).takeIn ⟨some s.name, set, [value]⟩
  | _ => .error (.refused .superfluousValue)

def long {α : Type} (g : Grammar α) (r : Reading α) (name : String) (value : Option String) :
    Except Stop (Reading α) :=
  match g.named? name, value with
  | none, _ => .error (.refused .unknownArgument)
  | some s, none => g.occur r s
  | some s, some value => occurWith r s value

/-- Switches by their letters. Behind the letter of a switch that takes a value, the rest is
    its value, with or without an equals sign between. -/
def letters {α : Type} (g : Grammar α) (r : Reading α) : List Char → Except Stop (Reading α)
  | [] => .ok r
  | c :: rest =>
    match g.lettered? c with
    | none => .error (.refused .unknownArgument)
    | some s =>
      match s.action, rest with
      | .valued _, [] => g.occur r s
      | .valued _, '=' :: value => occurWith r s (String.ofList value)
      | .valued _, value => occurWith r s (String.ofList value)
      | _, rest =>
        match g.occur r s with
        | .ok r => g.letters r rest
        | .error stop => .error stop

/-- Why a word is no operand. A command has to be named, unless its name comes too late. -/
def surplus {α : Type} (g : Grammar α) (r : Reading α) (word : String) : UsageError :=
  if g.commands.isEmpty || (r.operandsOnly && g.commands.contains word) then .unknownArgument
  else .unknownCommand

def operand {α : Type} (g : Grammar α) (r : Reading α) (word : String) :
    Except Stop (Reading α) :=
  match g.operands with
  | .none => .error (.refused (g.surplus r word))
  | .one set =>
    if r.operands == 0 then do
      let r ← r.settle
      return { r with held := some ⟨none, set, [word]⟩, operands := 1 }
    else .error (.refused (g.surplus r word))
  | .many add =>
    match r.held with
    | some ⟨none, _, _⟩ => return { r.supply word with operands := r.operands + 1 }
    | _ => do
      let r ← r.settle
      return { r with held := some ⟨none, add, [word]⟩, operands := r.operands + 1 }

/-- A word that is not the name of a command. -/
def word {α : Type} (g : Grammar α) (r : Reading α) (w : String) : Except Stop (Reading α) :=
  if r.operandsOnly then g.operand r w
  else
    match Word.ofString w with
    | .separator => .ok { r with operandsOnly := true }
    | .long name value => g.long r name value
    | .letters cs => g.letters r cs
    | .other => if r.isAwaiting then .ok (r.supply w) else g.operand r w

/-- Reads words up to the name of a command, which is given back with the words behind it. -/
def words {α : Type} (g : Grammar α) (r : Reading α) :
    List String → Except Stop (Reading α × Option (String × List String))
  | [] => .ok (r, none)
  | w :: rest =>
    if !r.operandsOnly && !r.isAwaiting && g.commands.contains w then .ok (r, some (w, rest))
    else
      match g.word r w with
      | .ok r => g.words r rest
      | .error stop => .error stop

/-- Sets what a variable of the environment stands in for. -/
def substitute {α : Type} (e : Environment) (r : Reading α) (s : Switch α) :
    Except Stop (Reading α) :=
  match s.substitute with
  | none => .ok r
  | some v =>
    match e.bytes? v.name with
    | none => .ok r
    | some bytes =>
      if r.given.contains s.name then .ok r
      else r.takeIn ⟨some s.name, v.set, [lossy bytes]⟩

/-- Takes in what is held, and the environment for switches that are not given. -/
def finish {α : Type} (g : Grammar α) (e : Environment) (r : Reading α) :
    Except Stop (Reading α) := do
  g.switches.foldlM (substitute e) (← r.settle)

end Grammar

end Stencil.Command
