import Stencil.Config.Issue
import Stencil.Expression.Registry
import Stencil.Files

/-!
# Errors

Everything that can stop a run. Rendering itself never fails; what can fail is finding,
reading and checking a configuration, registering expressions, and reading and writing. Every
error has a message and an exit code.
-/

namespace Stencil

inductive ReadFault where
  /-- There is nothing but blanks. -/
  | blank
  /-- The file cannot be read. -/
  | unreadable (fault : FileFault)
  /-- The text is not well-formed, in the words of the format. Whether there is a line to point at
      is known. -/
  | malformed (located : Bool) {words : String}
  /-- The text is well-formed but describes no configuration. -/
  | mismatch (line : Option Nat) (message : String)
deriving DecidableEq, Repr

def ReadFault.message : ReadFault → String
  | .blank => "configuration file is empty"
  | .unreadable fault => fault.message
  | @malformed _ words => words
  | .mismatch _ message => message

inductive ConfigError where
  | notReadable (path : String) (fault : ReadFault)
  | notValid (path : String) (issues : List Issue)
  | missingFile (path : String)
  | tooLarge (path : String) (size limit : Nat)
  | badValue (field value expected : String)
deriving DecidableEq, Repr

def ConfigError.message : ConfigError → String
  | .notReadable path fault => "parse error in " ++ path ++ ": " ++ fault.message
  | .notValid path issues =>
    "validation failed for " ++ path ++ ": " ++ "; ".intercalate (issues.map Issue.display)
  | .missingFile path => "file not found: " ++ path
  | .tooLarge path size limit =>
    "configuration file " ++ path ++ " is " ++ toString size ++ " bytes (limit: " ++
      toString limit ++ ")"
  | .badValue field value expected =>
    "invalid value for '" ++ field ++ "': got '" ++ value ++ "', expected " ++ expected

inductive Failure where
  | config (error : ConfigError)
  | registry (error : RegistryError)
  | io (message : String)
  | json (message : String)
  | yaml (message : String)
  | unresolved (count : Nat)
deriving DecidableEq, Repr

namespace Failure

def message : Failure → String
  | .config error => error.message
  | .registry error => error.message
  | .io message => "I/O error: " ++ message
  | .json message => "JSON error: " ++ message
  | .yaml message => "YAML error: " ++ message
  | .unresolved count => toString count ++ " placeholder(s) left unexpanded"

def exitCode : Failure → Nat
  | .config _ => 2
  | .yaml _ => 2
  | .io _ => 3
  | .registry _ => 4
  | .json _ => 1
  | .unresolved _ => 1

end Failure

end Stencil
