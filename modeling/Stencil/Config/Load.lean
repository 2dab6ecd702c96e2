import Stencil.Config.Check
import Stencil.Config.Override

/-!
# Loading a configuration

A configuration is found, measured, read, overridden and checked, in this order, and the first
stage that fails decides. How a text is read is a parameter: these stages hold for any format.
-/

namespace Stencil

open Text

/-- A format of configurations: how to read one from a text. -/
abbrev Config.Format := String → Except ReadFault Config

structure Loaded where
  config : Config
  warnings : List Issue
deriving DecidableEq, Repr

structure Loading where
  result : Except ConfigError Loaded
  records : List Log.Record

structure LoadOptions where
  /-- The greatest size of a file in bytes. -/
  sizeLimit : Nat
  /-- The variables by name, if there shall be overrides. -/
  overrides : Option (String → Option String)

namespace Config

/-- The greatest size of a file in bytes, if nothing else is said. -/
def usualSizeLimit : Nat := 1048576

def checked (path : String) (c : Config) : Except ConfigError Loaded :=
  if c.isValid then .ok ⟨c, c.warnings⟩ else .error (.notValid path c.errors)

def ofText (format : Format) (path text : String) : Except ConfigError Config :=
  if (trim text.toList).isEmpty then .error (.notReadable path .blank)
  else
    match format text with
    | .ok c => .ok c
    | .error fault => .error (.notReadable path fault)

def completed (overrides : Option (String → Option String)) (path : String) (c : Config) :
    Loading :=
  match overrides with
  | none => ⟨checked path c, []⟩
  | some value? =>
    let o := c.overridden value?
    match o.error with
    | some error => ⟨.error error, o.records⟩
    | none => ⟨checked path o.config, o.records⟩

/-- Loads a configuration from a text; the path is only spoken of. -/
def loadText (format : Format) (overrides : Option (String → Option String))
    (path text : String) : Loading :=
  match ofText format path text with
  | .ok c => completed overrides path c
  | .error error => ⟨.error error, []⟩

def loadingRecord (path : String) (bytes : Nat) : Log.Record where
  level := .debug
  origin := "mockexpr::config::loader"
  message := "loading engine configuration"
  details := [Log.plain "path" path, Log.count "bytes" bytes]

def loadFile (format : Format) (options : LoadOptions) (files : Files) (path : String) :
    Loading :=
  match files.entry path with
  | .error _ => ⟨.error (.missingFile path), []⟩
  | .ok entry =>
    let size := FileEntry.size entry
    if options.sizeLimit < size then
      ⟨.error (.tooLarge path size options.sizeLimit), []⟩
    else
      match FileEntry.text entry with
      | .error fault => ⟨.error (.notReadable path (.unreadable fault)), []⟩
      | .ok text =>
        let loading := loadText format options.overrides path text
        { loading with records := loadingRecord path text.utf8ByteSize :: loading.records }

end Config

end Stencil
