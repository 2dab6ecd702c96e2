import Stencil.Expression.Call
import Stencil.Template.Delimiters

/-!
# Placeholder bodies

What stands between the delimiters of a placeholder is an identifier, and behind it perhaps
arguments between brackets. An argument is a value, or a name and a value with an equals sign
between them. A value in double quotes may hold any text; in it a backslash takes its meaning
from a quote or a backslash. Any other value runs up to the next separator or closing bracket,
the blanks around it aside.
-/

namespace Stencil

open Text

inductive BodyError where
  | missingIdentifier
  | unexpected (found : Char)
  | unclosedArguments
  | unterminatedQuote
  | invalidName (name : String)
  | trailingText
deriving DecidableEq, Repr

def BodyError.message : BodyError → String
  | .missingIdentifier => "missing expression identifier"
  | .unexpected found => "unexpected '" ++ found.toString ++ "' after identifier"
  | .unclosedArguments => "argument list is not closed"
  | .unterminatedQuote => "unterminated quoted value"
  | .invalidName name => "invalid argument name '" ++ name ++ "'"
  | .trailingText => "unexpected text after argument list"

namespace Body

/-- Reads a quoted value up to its closing quote, the opening one of which has been passed. -/
def quoted : List Char → Option (List Char × List Char)
  | [] => none
  | '"' :: rest => some ([], rest)
  | ['\\'] => none
  | '\\' :: c :: rest =>
    (quoted rest).map fun (value, after) =>
      (if c == '"' || c == '\\' then c :: value else '\\' :: c :: value, after)
  | c :: rest => (quoted rest).map fun (value, after) => (c :: value, after)

def endsValue (d : Delimiters) (c : Char) : Bool := c == d.separator || c == d.argsClose

/-- Whether a character ends a name or a bare value that may be a name. -/
def endsToken (d : Delimiters) (c : Char) : Bool := endsValue d c || c == '='

def namedValue (d : Delimiters) (s : List Char) : Except BodyError (String × List Char) :=
  match trimLeft s with
  | '"' :: rest =>
    match quoted rest with
    | some (value, after) => .ok (String.ofList value, after)
    | none => .error .unterminatedQuote
  | rest =>
    .ok (String.ofList (trim (rest.takeWhile fun c => !endsValue d c)),
      rest.dropWhile fun c => !endsValue d c)

def argument (d : Delimiters) (s : List Char) : Except BodyError (Argument × List Char) :=
  match trimLeft s with
  | '"' :: rest =>
    match quoted rest with
    | some (value, after) => .ok (.positional (String.ofList value), after)
    | none => .error .unterminatedQuote
  | rest =>
    let token := String.ofList (trim (rest.takeWhile fun c => !endsToken d c))
    match rest.dropWhile fun c => !endsToken d c with
    | '=' :: after =>
      if isIdentifier token then
        match namedValue d after with
        | .ok (value, after) => .ok (.named token value, after)
        | .error e => .error e
      else .error (.invalidName token)
    | after => .ok (.positional token, after)

/-! ### An argument is never longer than the text it is read from -/

theorem length_quoted_lt {s value after : List Char} (h : quoted s = some (value, after)) :
    after.length < s.length := by
  fun_induction quoted s generalizing value after with
  | case1 => exact absurd h (by simp)
  | case2 rest =>
    simp only [Option.some.injEq, Prod.mk.injEq] at h
    rw [← h.2]
    exact Nat.lt_succ_self _
  | case3 => exact absurd h (by simp)
  | case4 c rest ih =>
    obtain ⟨⟨v, a⟩, hq, hv⟩ := Option.map_eq_some_iff.1 h
    have := ih hq
    simp only [Prod.mk.injEq] at hv
    rw [← hv.2]
    simp only [List.length_cons]
    omega
  | case5 c rest _ _ _ ih =>
    obtain ⟨⟨v, a⟩, hq, hv⟩ := Option.map_eq_some_iff.1 h
    have := ih hq
    simp only [Prod.mk.injEq] at hv
    rw [← hv.2]
    simp only [List.length_cons]
    omega

theorem length_namedValue_le {d : Delimiters} {s after : List Char} {value : String}
    (h : namedValue d s = .ok (value, after)) : after.length ≤ s.length := by
  have hs := length_trimLeft_le s
  simp only [namedValue] at h
  split at h
  · next rest hrest =>
    rw [hrest] at hs
    split at h
    · next v a hq =>
      simp only [Except.ok.injEq, Prod.mk.injEq] at h
      have := length_quoted_lt hq
      simp only [List.length_cons] at hs
      rw [← h.2]
      omega
    · exact absurd h (by simp)
  · simp only [Except.ok.injEq, Prod.mk.injEq] at h
    rw [← h.2]
    exact Nat.le_trans (List.dropWhile_suffix _).length_le hs

theorem length_argument_le {d : Delimiters} {s after : List Char} {a : Argument}
    (h : argument d s = .ok (a, after)) : after.length ≤ s.length := by
  have hs := length_trimLeft_le s
  simp only [argument] at h
  split at h
  · next rest hrest =>
    rw [hrest] at hs
    split at h
    · next v t hq =>
      simp only [Except.ok.injEq, Prod.mk.injEq] at h
      have := length_quoted_lt hq
      simp only [List.length_cons] at hs
      rw [← h.2]
      omega
    · exact absurd h (by simp)
  · have hd := (List.dropWhile_suffix (fun c => !endsToken d c) (l := trimLeft s)).length_le
    split at h
    · next after' hafter =>
      rw [hafter] at hd
      simp only [List.length_cons] at hd
      split at h
      · split at h
        · next v t hv =>
          simp only [Except.ok.injEq, Prod.mk.injEq] at h
          have := length_namedValue_le hv
          rw [← h.2]
          omega
        · exact absurd h (by simp)
      · exact absurd h (by simp)
    · simp only [Except.ok.injEq, Prod.mk.injEq] at h
      rw [← h.2]
      omega

/-- Reads arguments up to the closing bracket, of which there is at least one. -/
def arguments (d : Delimiters) (s : List Char) : Except BodyError (List Argument × List Char) :=
  match _h : argument d s with
  | .error e => .error e
  | .ok (a, after) =>
    match _ht : trimLeft after with
    | c :: rest =>
      if c == d.separator then
        match arguments d rest with
        | .ok (more, after) => .ok (a :: more, after)
        | .error e => .error e
      else if c == d.argsClose then .ok ([a], rest)
      else .error .unclosedArguments
    | [] => .error .unclosedArguments
termination_by s.length
decreasing_by
  have h₁ := length_argument_le _h
  have h₂ := length_trimLeft_le after
  rw [_ht, List.length_cons] at h₂
  omega

/-- Reads what is between the brackets, the opening one of which has been passed. -/
def bracketed (d : Delimiters) (s : List Char) : Except BodyError (List Argument × List Char) :=
  match trimLeft s with
  | [] => arguments d s
  | c :: rest => if c == d.argsClose then .ok ([], rest) else arguments d s

end Body

def Call.ofBody (d : Delimiters) (body : List Char) : Except BodyError Call :=
  let body := trim body
  let identifier := String.ofList (body.takeWhile isNameChar)
  if identifier.isEmpty then .error .missingIdentifier
  else
    match trimLeft (body.dropWhile isNameChar) with
    | [] => .ok ⟨identifier, []⟩
    | c :: rest =>
      if c != d.argsOpen then .error (.unexpected c)
      else
        match Body.bracketed d rest with
        | .error e => .error e
        | .ok (arguments, after) =>
          if (trim after).isEmpty then .ok ⟨identifier, arguments⟩ else .error .trailingText

end Stencil
