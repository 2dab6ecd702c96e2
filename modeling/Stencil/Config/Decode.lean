import Stencil.Config.Basic
import Stencil.Config.Error
import Stencil.Yaml.Document
import Stencil.Yaml.Scalar

/-!
# Configurations as documents

A configuration is written as a mapping of sections, each of which is a mapping of fields. What
is left out has its usual value; what is not known, given twice, or of another type is refused,
with the path to it and its place.
-/

namespace Stencil.Config

open Yaml

/-- Why a document is no configuration: at which field, where, and what. -/
structure Mismatch where
  path : List String
  mark : Mark
  text : String
deriving DecidableEq, Repr

namespace Mismatch

/-- The path in front of a message; the root has none. -/
def lead (m : Mismatch) : String :=
  if m.path.isEmpty then "" else ".".intercalate m.path ++ ": "

/-- The place behind a message; the beginning of the document is not told. -/
def place (m : Mismatch) : String :=
  if m.mark.line == 0 && m.mark.column == 0 then ""
  else " at line " ++ toString (m.mark.line + 1) ++ " column " ++ toString (m.mark.column + 1)

def message (m : Mismatch) : String := m.lead ++ m.text ++ m.place

end Mismatch

/-- A place in a document: the nodes that have a slot, the path, and the node. -/
structure Spot where
  named : List (Nat × Node)
  path : List String
  node : Node

namespace Spot

/-- The node that an alias stands for: of those that share its slot, the one that begins last. -/
def resolve (named : List (Nat × Node)) : Node → Node
  | .alias m slot => (named.reverse.lookup slot).getD (.absent m)
  | n => n

/-- The node at a place, or the one that it stands for. -/
def target (s : Spot) : Node := resolve s.named s.node

def mismatch (s : Spot) (text : String) : Mismatch := ⟨s.path, s.target.mark, text⟩

/-- The mismatch of a node that is not of the expected type. -/
def wrongType (s : Spot) (expected : String) : Mismatch :=
  match s.target with
  | .scalar h style text =>
    match Value.ofScalar h.tag style text with
    | .ok v => s.mismatch ("invalid type: " ++ v.describe ++ ", expected " ++ expected)
    | .error demanded =>
      s.mismatch ("invalid value: " ++ (Value.text text).describe ++ ", expected " ++ demanded)
  | .sequence _ _ => s.mismatch ("invalid type: sequence, expected " ++ expected)
  | _ => s.mismatch ("invalid type: map, expected " ++ expected)

def string (s : Spot) : Except Mismatch String :=
  match s.target with
  | .scalar _ _ text => .ok text
  | _ => .error (s.wrongType "a string")

def char (s : Spot) : Except Mismatch Char :=
  match s.target with
  | .scalar _ _ text =>
    match text.toList with
    | [c] => .ok c
    | _ => .error (s.mismatch
        ("invalid value: " ++ (Value.text text).describe ++ ", expected a character"))
  | _ => .error (s.wrongType "a character")

/-- The text of a scalar that may mean a value of a type: a plain one, or a literal one with the
    tag of the type. -/
def typed? (s : Spot) (tag : String) : Option String :=
  match s.target with
  | .scalar h style text =>
    if style == .plain || (style == .literal && h.tag == some (coreTag tag)) then some text
    else none
  | _ => none

def truth (s : Spot) : Except Mismatch Bool :=
  match (s.typed? "bool").bind truth? with
  | some b => .ok b
  | none => .error (s.wrongType "a boolean")

def size (s : Spot) : Except Mismatch Nat :=
  match (s.typed? "int").bind fun text => natural? Number.maxWord text.toList with
  | some n => .ok n
  | none => .error (s.wrongType "usize")

/-- The text of a scalar, unless it means that there is none. A tag that demands nothing of
    something is a fault of the mapping around it, `outside`. -/
def optional (s : Spot) (outside : Spot) : Except Mismatch (Option String) :=
  match s.target with
  | .scalar h .plain text =>
    match h.tag with
    | some tag =>
      if tag == coreTag "null" then
        if isNull text then .ok none
        else .error (outside.mismatch
          ("invalid value: " ++ (Value.text text).describe ++ ", expected null"))
      else s.string.map some
    | none => if text.isEmpty || isNull text then .ok none else s.string.map some
  | _ => s.string.map some

end Spot

/-! ### Mappings -/

/-- A field of a mapping that describes a value of a type. `read` is given the place of the
    mapping and of the field. -/
structure Field (α : Type) where
  name : String
  read : Spot → Spot → α → Except Mismatch α

def choice (names : List String) : String :=
  match names with
  | [a, b] => "`" ++ a ++ "` or `" ++ b ++ "`"
  | _ => "one of " ++ ", ".intercalate (names.map fun n => "`" ++ n ++ "`")

def fieldName (key : Spot) : Except Mismatch String :=
  match key.target with
  | .scalar _ _ text => .ok text
  | _ => .error (key.wrongType "field identifier")

/-- The place of a value. Behind an alias for a key the path does not know the name. -/
def valueSpot (outside : Spot) (key value : Node) : Spot :=
  let step := match key with
    | .scalar _ _ text => text
    | _ => "?"
  ⟨outside.named, outside.path ++ [step], value⟩

def readPairs {α : Type} (fields : List (Field α)) (outside : Spot) (seen : List String) (a : α) :
    List (Node × Node) → Except Mismatch α
  | [] => .ok a
  | (key, value) :: rest => do
    let keySpot : Spot := ⟨outside.named, outside.path, key⟩
    let name ← fieldName keySpot
    match fields.find? fun f => f.name == name with
    | none => .error (keySpot.mismatch ("unknown field `" ++ name ++ "`, expected " ++
        choice (fields.map Field.name)))
    | some field =>
      if seen.contains name then .error (outside.mismatch ("duplicate field `" ++ name ++ "`"))
      else
        let a ← field.read outside (valueSpot outside key value) a
        readPairs fields outside (name :: seen) a rest

/-- Reads a mapping; a plain scalar without text is a mapping without fields. -/
def readMapping {α : Type} (expected : String) (fields : List (Field α)) (usual : α) (s : Spot) :
    Except Mismatch α :=
  match s.target with
  | .mapping _ pairs => readPairs fields s [] usual pairs
  | .scalar _ .plain "" => .ok usual
  | _ => .error (s.wrongType ("struct " ++ expected))

/-! ### The sections -/

def stringField {α : Type} (name : String) (set : String → α → α) : Field α :=
  ⟨name, fun _ s a => s.string.map fun v => set v a⟩

def charField {α : Type} (name : String) (set : Char → α → α) : Field α :=
  ⟨name, fun _ s a => s.char.map fun v => set v a⟩

def sizeField {α : Type} (name : String) (set : Nat → α → α) : Field α :=
  ⟨name, fun _ s a => s.size.map fun v => set v a⟩

def truthField {α : Type} (name : String) (set : Bool → α → α) : Field α :=
  ⟨name, fun _ s a => s.truth.map fun v => set v a⟩

/-- A field that is a text or nothing. -/
def optionalField {α : Type} (name : String) (set : Option String → α → α) : Field α :=
  ⟨name, fun outside s a => (s.optional outside).map fun v => set v a⟩

def delimiterFields : List (Field Delimiters) :=
  [stringField "start" fun v d => { d with opening := v },
    stringField "end" fun v d => { d with closing := v },
    charField "args_open" fun v d => { d with argsOpen := v },
    charField "args_close" fun v d => { d with argsClose := v },
    charField "separator" fun v d => { d with separator := v },
    optionalField "escape" fun v d => { d with escape := v }]

def limitFields : List (Field Limits) :=
  [sizeField "max_expansions" fun v l => { l with expansions := v },
    sizeField "max_placeholder_length" fun v l => { l with bodyLength := v }]

def settingFields : List (Field Settings) :=
  [sizeField "max_string_length" fun v s => { s with stringLength := v },
    truthField "enable_environment" fun v s => { s with environment := v }]

def sections : List (Field Config) :=
  [⟨"syntax", fun _ s c =>
      (readMapping "Syntax" delimiterFields .standard s).map fun v => { c with delimiters := v }⟩,
    ⟨"limits", fun _ s c =>
      (readMapping "RenderLimits" limitFields .standard s).map fun v => { c with limits := v }⟩,
    ⟨"expressions", fun _ s c =>
      (readMapping "ExpressionSettings" settingFields .standard s).map
        fun v => { c with settings := v }⟩]

def ofNode (root : Node) : Except Mismatch Config :=
  readMapping "EngineConfig" sections .standard ⟨root.named, [], root⟩

/-- What this format says of every text that is not well-formed. -/
def notYaml : String := "malformed YAML"

/-- The configuration that a text describes. A text with a second document is malformed. -/
def ofYaml (text : String) : Except ReadFault Config :=
  let malformed (located : Bool) : ReadFault := @ReadFault.malformed located notYaml
  match Content.ofText text with
  | .void => .ok .standard
  | .malformed => .error (malformed true)
  | .document root alone =>
    match ofNode root with
    | .ok c => if alone then .ok c else .error (malformed false)
    | .error m =>
      if alone then .error (.mismatch (some (m.mark.line + 1)) m.message)
      else .error (malformed true)

end Stencil.Config
