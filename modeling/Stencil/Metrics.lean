import Stencil.Template.Engine

/-!
# Metrics

Counts over all renders of a run: how many there were, and what became of their placeholders.
A placeholder is counted under two labels, the expression that replaced it and its outcome. A
placeholder without an expression has a label of its own, so that no label is ever text from a
template.
-/

namespace Stencil

structure PlaceholderLabel where
  expression : String
  outcome : String
deriving DecidableEq, Repr

def PlaceholderLabel.noExpression : String := "__unknown__"

def Outcome.label : Outcome → PlaceholderLabel
  | .substituted identifier _ _ => ⟨identifier, "substituted"⟩
  | .unknown _ => ⟨PlaceholderLabel.noExpression, "unknown"⟩
  | .malformed _ => ⟨PlaceholderLabel.noExpression, "malformed"⟩
  | .skipped => ⟨PlaceholderLabel.noExpression, "skipped"⟩

/-- What a piece is counted under; only placeholders are. -/
def Piece.label? : Piece → Option PlaceholderLabel
  | .copied _ => none
  | .placeholder _ outcome => some outcome.label

structure Metrics where
  renders : Nat
  /-- The labels that have been seen, in order, with their counts. -/
  placeholders : List (PlaceholderLabel × Nat)

namespace Metrics

def empty : Metrics := ⟨0, []⟩

def bump (label : PlaceholderLabel) :
    List (PlaceholderLabel × Nat) → List (PlaceholderLabel × Nat)
  | [] => [(label, 1)]
  | (l, n) :: rest => if l = label then (l, n + 1) :: rest else (l, n) :: bump label rest

def value (m : Metrics) (label : PlaceholderLabel) : Nat := (m.placeholders.lookup label).getD 0

def record (m : Metrics) (r : Rendering) : Metrics where
  renders := m.renders + 1
  placeholders := (r.pieces.filterMap Piece.label?).foldl (fun counts l => bump l counts)
    m.placeholders

def ofRenderings (renderings : List Rendering) : Metrics := renderings.foldl record empty

/-! ### The written form -/

/-- The lines of a metric: what it counts, its type, its samples, and an empty line. A metric
    without samples is not written. -/
def family (name kind description : String) (samples : List String) : List String :=
  if samples.isEmpty then []
  else ["# HELP " ++ name ++ " " ++ description, "# TYPE " ++ name ++ " " ++ kind] ++ samples ++
    [""]

def placeholderSample (entry : PlaceholderLabel × Nat) : String :=
  "mockexpr_placeholders_total\x7bexpression=\"" ++ entry.1.expression ++ "\",outcome=\"" ++
    entry.1.outcome ++ "\"\x7d " ++ toString entry.2

def lines (m : Metrics) : List String :=
  family "mockexpr_renders_total" "counter" "Total number of templates rendered"
    ["mockexpr_renders_total " ++ toString m.renders] ++
  family "mockexpr_placeholders_total" "counter"
    "Placeholders encountered, by expression and outcome"
    (m.placeholders.map placeholderSample) ++
  family "mockexpr_render_duration_us" "summary" "Template render duration in microseconds"
    ["mockexpr_render_duration_us_count " ++ toString m.renders]

end Metrics

end Stencil
