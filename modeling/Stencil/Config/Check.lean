import Stencil.Config.Basic
import Stencil.Config.Issue
import Stencil.Text.Ascii
import Stencil.Text.Blank

/-!
# Checking a configuration

Whether a configuration describes placeholders that can be told from text, arguments that can
be told from each other, and limits that leave something to do. All issues are found, in the
order of the fields. A configuration is valid if none of them is an error.
-/

namespace Stencil

open Text

namespace Delimiters

/-- A character that cannot be punctuation: it belongs to identifiers, blanks or quotes. -/
def collides (c : Char) : Bool := isNameChar c || isBlank c || c == '"'

def collisionIssue (path : String) (c : Char) : List Issue :=
  Issue.onlyIf (collides c) (.error path
    ("'" ++ c.toString ++ "' collides with identifier, whitespace or quote characters"))

/-- Whether an opening delimiter begins inside an escape in front of it, so that the escape is
    never seen. -/
def shadowed (escape opening : List Char) : Bool :=
  !opening.isEmpty && splitFirst opening (escape ++ opening) != some (escape, [])

/-- The issues of the escape; at most one. -/
def escapeIssues (d : Delimiters) : List Issue :=
  match d.escape with
  | none => []
  | some escape =>
    if escape.isEmpty then
      [.error "syntax.escape" "must not be empty (use null to disable)"]
    else if escape == d.opening then
      [.error "syntax.escape" "must differ from syntax.start"]
    else
      Issue.onlyIf (shadowed escape.toList d.opening.toList) (.error "syntax.escape"
        "overlaps syntax.start and would never be recognised")

def frameIssues (d : Delimiters) : List Issue :=
  Issue.onlyIf d.opening.isEmpty (.error "syntax.start" "delimiter must not be empty") ++
  Issue.onlyIf d.closing.isEmpty (.error "syntax.end" "delimiter must not be empty") ++
  Issue.onlyIf (!d.opening.isEmpty && d.opening == d.closing)
    (.error "syntax.end" "must differ from syntax.start")

def argumentIssues (d : Delimiters) : List Issue :=
  collisionIssue "syntax.args_open" d.argsOpen ++
  collisionIssue "syntax.args_close" d.argsClose ++
  collisionIssue "syntax.separator" d.separator ++
  Issue.onlyIf (d.argsOpen == d.argsClose)
    (.error "syntax.args_close" "must differ from syntax.args_open") ++
  Issue.onlyIf (d.separator == d.argsOpen || d.separator == d.argsClose)
    (.error "syntax.separator" "must differ from the argument brackets") ++
  Issue.onlyIf (d.closing.toList.contains d.argsClose || d.closing.toList.contains d.separator)
    (.warning "syntax.end"
      "contains argument punctuation; placeholders with arguments will be cut short")

def issues (d : Delimiters) : List Issue := d.frameIssues ++ d.argumentIssues ++ d.escapeIssues

end Delimiters

def Limits.issues (l : Limits) : List Issue :=
  Issue.onlyIf (l.expansions == 0) (.warning "limits.max_expansions"
    "is zero; every placeholder will pass through unexpanded") ++
  Issue.onlyIf (l.bodyLength == 0)
    (.error "limits.max_placeholder_length" "must be greater than zero")

/-- A length of strings above this is large. -/
def Settings.largeLength : Nat := 1048576

def Settings.issues (s : Settings) : List Issue :=
  Issue.onlyIf (s.stringLength == 0) (.warning "expressions.max_string_length"
    "is zero; RANDOM_STRING and RANDOM_PASSWORD will render empty") ++
  Issue.onlyIf (largeLength < s.stringLength) (.warning "expressions.max_string_length"
    "exceeds 1048576 bytes; responses may become very large") ++
  Issue.onlyIf s.environment (.warning "expressions.enable_environment"
    "templates can read any process environment variable")

namespace Config

/-- All issues of a configuration, in the order of the fields. -/
def issues (c : Config) : List Issue :=
  c.delimiters.issues ++ c.limits.issues ++ c.settings.issues

def errors (c : Config) : List Issue := c.issues.filter Issue.isError

def warnings (c : Config) : List Issue := c.issues.filter fun i => !i.isError

/-- Whether no issue is an error. -/
def isValid (c : Config) : Bool := c.errors.isEmpty

end Config

end Stencil
