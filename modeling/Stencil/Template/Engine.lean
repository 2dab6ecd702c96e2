import Stencil.Config.Basic
import Stencil.Expression.Registry
import Stencil.Template.Body
import Stencil.Template.Segment

/-!
# Rendering

An engine turns the cuts of a template into pieces of output. Segments other than placeholders
are copied. A placeholder is replaced by the text of the expression that its identifier
resolves to; if its body is no call, if nothing answers to its identifier, or if the limit of
replacements has been reached, it is copied too.

The pieces are the whole story of a render. Its output, its report and its log records are
read off them.
-/

namespace Stencil

open Text

inductive Outcome where
  /-- The expression of this identifier replaced it by a text. -/
  | substituted (identifier value : String) (records : List Log.Record)
  /-- Nothing answers to its identifier. -/
  | unknown (identifier : String)
  /-- Its body is no call. -/
  | malformed (error : BodyError)
  /-- The limit had been reached. -/
  | skipped

def Outcome.isSubstituted : Outcome → Bool
  | .substituted .. => true
  | _ => false

inductive Piece where
  /-- A segment that is no placeholder. -/
  | copied (cut : Cut)
  /-- A placeholder and what became of it. -/
  | placeholder (raw : List Char) (outcome : Outcome)

def Piece.text : Piece → List Char
  | .copied cut => cut.segment.text
  | .placeholder _ (.substituted _ value _) => value.toList
  | .placeholder raw _ => raw

structure Engine where
  registry : Registry
  delimiters : Delimiters
  limits : Limits

/-- The pieces of a render and the random words that are left. -/
structure Rendering where
  pieces : List Piece
  words : Words

namespace Engine

def expand (e : Engine) (world : World) (words : Words) (body : List Char) : Outcome × Words :=
  match Call.ofBody e.delimiters body with
  | .error error => (.malformed error, words)
  | .ok call =>
    match e.registry.resolve call.identifier with
    | none => (.unknown call.identifier, words)
    | some expression =>
      let g := expression.generate world call words
      (.substituted expression.identifier g.value g.records, g.words)

/-- The pieces of a list of cuts, when `count` placeholders have been replaced before. -/
def pieces (e : Engine) (world : World) (count : Nat) (words : Words) : List Cut → Rendering
  | [] => ⟨[], words⟩
  | cut :: rest =>
    match cut.segment with
    | .placeholder raw body =>
      let (outcome, words) :=
        if e.limits.expansions ≤ count then (.skipped, words) else e.expand world words body
      let more := pieces e world (if outcome.isSubstituted then count + 1 else count) words rest
      ⟨.placeholder raw outcome :: more.pieces, more.words⟩
    | _ =>
      let more := pieces e world count words rest
      ⟨.copied cut :: more.pieces, more.words⟩

def render (e : Engine) (world : World) (words : Words) (template : String) : Rendering :=
  e.pieces world 0 words (cuts e.delimiters e.limits.bodyLength template.toList)

/-- Whether a template may hold a placeholder. Without one it is rendered as it is, but for
    escapes. -/
def mayHoldPlaceholders (e : Engine) (template : String) : Bool :=
  Stencil.mayHoldPlaceholders e.delimiters template.toList

end Engine

/-! ### The report -/

structure Report where
  /-- The number of placeholders that were replaced. -/
  substituted : Nat
  /-- The identifiers that nothing answers to, in order. -/
  unknown : List String
  /-- The number of placeholders whose body is no call. -/
  malformed : Nat
  /-- Whether the template ends in an unclosed placeholder. -/
  unterminated : Bool
  /-- The number of placeholders past the limit. -/
  skipped : Nat
  /-- The number of escaped delimiters. -/
  escaped : Nat
deriving DecidableEq, Repr

namespace Piece

def isSubstituted : Piece → Bool
  | .placeholder _ outcome => outcome.isSubstituted
  | _ => false

def unknown? : Piece → Option String
  | .placeholder _ (.unknown identifier) => some identifier
  | _ => none

def isMalformed : Piece → Bool
  | .placeholder _ (.malformed _) => true
  | _ => false

def isSkipped : Piece → Bool
  | .placeholder _ .skipped => true
  | _ => false

def isUnterminated : Piece → Bool
  | .copied ⟨.unterminated _, _⟩ => true
  | _ => false

def isEscaped : Piece → Bool
  | .copied ⟨.escaped _, _⟩ => true
  | _ => false

end Piece

namespace Report

def ofPieces (pieces : List Piece) : Report where
  substituted := pieces.countP Piece.isSubstituted
  unknown := pieces.filterMap Piece.unknown?
  malformed := pieces.countP Piece.isMalformed
  unterminated := pieces.any Piece.isUnterminated
  skipped := pieces.countP Piece.isSkipped
  escaped := pieces.countP Piece.isEscaped

def isClean (r : Report) : Bool :=
  r.unknown.isEmpty && r.malformed == 0 && !r.unterminated && r.skipped == 0

def unresolved (r : Report) : Nat :=
  r.unknown.length + r.malformed + r.skipped + r.unterminated.toNat

end Report

namespace Rendering

def output (r : Rendering) : String := String.ofList (r.pieces.flatMap Piece.text)

def report (r : Rendering) : Report := .ofPieces r.pieces

end Rendering

/-! ### The log -/

namespace Engine

def origin : String := "mockexpr::template"

def overlongRecord (limit length : Nat) : Log.Record where
  level := .debug
  origin := "mockexpr::template::scanner"
  message := "placeholder body exceeds limit, treating as literal"
  details := [Log.count "length" length, Log.count "limit" limit]

def unterminatedRecord (text : List Char) : Log.Record where
  level := .debug
  origin := origin
  message := "unterminated placeholder, copying remainder verbatim"
  details := [Log.count "length" (byteLength text)]

def limitRecord (limit : Nat) : Log.Record where
  level := .warn
  origin := origin
  message := "expansion limit reached, leaving remaining placeholders unexpanded"
  details := [Log.count "limit" limit]

def malformedRecord (raw : List Char) (error : BodyError) : Log.Record where
  level := .debug
  origin := origin
  message := "malformed placeholder left as is"
  details := [Log.quoted "placeholder" (String.ofList raw), Log.plain "error" error.message]

def unknownRecord (r : Registry) (identifier : String) : Log.Record where
  level := .debug
  origin := origin
  message := "unknown expression left as is"
  details := [Log.quoted "identifier" identifier,
    Log.quoted? "suggestion" (r.suggest identifier)]

def substitutedRecord (identifier value : String) : Log.Record where
  level := .trace
  origin := origin
  message := "expanded placeholder"
  details := [Log.quoted "identifier" identifier, Log.plain "value" value]

/-- The records of a piece; `warned` says that the limit has been spoken of. -/
def pieceRecords (e : Engine) (warned : Bool) : Piece → List Log.Record
  | .copied ⟨.unterminated text, _⟩ => [unterminatedRecord text]
  | .copied cut => (cut.overlong.map (overlongRecord e.limits.bodyLength)).toList
  | .placeholder _ .skipped => if warned then [] else [limitRecord e.limits.expansions]
  | .placeholder raw (.malformed error) => [malformedRecord raw error]
  | .placeholder _ (.unknown identifier) => [unknownRecord e.registry identifier]
  | .placeholder _ (.substituted identifier value records) =>
    records ++ [substitutedRecord identifier value]

def recordsFrom (e : Engine) (warned : Bool) : List Piece → List Log.Record
  | [] => []
  | p :: rest => e.pieceRecords warned p ++ e.recordsFrom (warned || p.isSkipped) rest

def records (e : Engine) (r : Rendering) : List Log.Record := e.recordsFrom false r.pieces

end Engine

end Stencil
