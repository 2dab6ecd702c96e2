import Mathlib
import Stencil.Proofs.Numerals
import Stencil.Text.Json

/-!
# JSON texts are read back

A reader of JSON that does not know how the values were written: blanks may stand between any two
parts of a text, and the fields of an object may come in any order. Of what JSON can say it leaves
out `null`, signs and fractions, which no value here has. Both written forms of a value are read as
that value (`Json.read?_compact`, `Json.read?_pretty`), so what is printed as JSON can be said by
what a reader finds in it.

How deep values are nested is bounded by the length of the text, and so is the number of items
between two brackets; the reader counts down from it.
-/

namespace Stencil.Text.Json

/-! ### The reader -/

def isSpace (c : Char) : Bool := c == ' ' || c == '\n' || c == '\r' || c == '\t'

def skip (s : List Char) : List Char := s.dropWhile isSpace

/-- The character that is written by four hexadecimal digits. Halves of a pair are not read. -/
def codePoint? (digits : List Char) : Option Char :=
  (Number.digits? 16 digits).bind fun n => if n.isValidChar then some (Char.ofNat n) else none

/-- The character that stands for a letter or a mark behind a backslash. -/
def escaped? (c : Char) : Option Char :=
  [('"', '"'), ('\\', '\\'), ('/', '/'), ('b', '\x08'), ('f', '\x0c'), ('n', '\n'), ('r', '\r'),
    ('t', '\t')].lookup c

/-- The characters of a string up to the quote that closes it, and what is behind that. -/
def chars? : List Char → Option (List Char × List Char)
  | [] => none
  | '"' :: rest => some ([], rest)
  | '\\' :: 'u' :: x :: y :: z :: w :: rest =>
    (codePoint? [x, y, z, w]).bind fun c => (chars? rest).map fun (cs, rest) => (c :: cs, rest)
  | '\\' :: c :: rest =>
    (escaped? c).bind fun c => (chars? rest).map fun (cs, rest) => (c :: cs, rest)
  | c :: rest =>
    if c.toNat < 0x20 then none else (chars? rest).map fun (cs, rest) => (c :: cs, rest)

/-- A truth value or a natural number, in front of whose digits there is no zero. -/
def word? (s : List Char) : Option (Json × List Char) :=
  let word := s.takeWhile Char.isAlphanum
  let rest := s.dropWhile Char.isAlphanum
  if word = ['t', 'r', 'u', 'e'] then some (.bool true, rest)
  else if word = ['f', 'a', 'l', 's', 'e'] then some (.bool false, rest)
  else if word.head? = some '0' ∧ word ≠ ['0'] then none
  else (Number.digits? 10 word).map fun n => (.number n, rest)

/-- One or more items with commas between them, up to a closing bracket. -/
def items? {α : Type} (closing : Char) (item? : List Char → Option (α × List Char)) :
    Nat → List Char → Option (List α × List Char)
  | 0, _ => none
  | n + 1, s =>
    (item? s).bind fun (a, s) =>
      match skip s with
      | [] => none
      | c :: s =>
        if c = closing then some ([a], s)
        else if c = ',' then (items? closing item? n s).map fun (as, s) => (a :: as, s)
        else none

/-- What stands between two brackets, the opening one of which has been read. -/
def list? {α : Type} (closing : Char) (item? : List Char → Option (α × List Char))
    (s : List Char) : Option (List α × List Char) :=
  match skip s with
  | [] => none
  | c :: rest => if c = closing then some ([], rest) else items? closing item? s.length s

def field? (value? : List Char → Option (Json × List Char)) (s : List Char) :
    Option ((String × Json) × List Char) :=
  match skip s with
  | '"' :: s =>
    (chars? s).bind fun (name, s) =>
      match skip s with
      | ':' :: s => (value? s).map fun (v, s) => ((String.ofList name, v), s)
      | _ => none
  | _ => none

/-- A value that is nested less deep than a number, and what is behind it. -/
def value? : Nat → List Char → Option (Json × List Char)
  | 0, _ => none
  | n + 1, s =>
    match skip s with
    | '"' :: s => (chars? s).map fun (cs, s) => (.string (String.ofList cs), s)
    | '[' :: s => (list? ']' (value? n) s).map fun (items, s) => (.array items, s)
    | '\x7b' :: s => (list? '\x7d' (field? (value? n)) s).map fun (fields, s) => (.object fields, s)
    | s => word? s

/-- The value that a text writes, blanks around it aside. -/
def read? (text : String) : Option Json :=
  match value? (text.length + 1) text.toList with
  | some (v, rest) => if skip rest = [] then some v else none
  | none => none

/-! ### Blanks -/

def Blank (s : List Char) : Prop := ∀ c ∈ s, isSpace c = true

theorem skip_append {s : List Char} (hs : Blank s) (rest : List Char) :
    skip (s ++ rest) = skip rest := by
  rw [skip, List.dropWhile_append_of_pos hs, skip]

theorem skip_cons {c : Char} (hc : isSpace c = false) (rest : List Char) :
    skip (c :: rest) = c :: rest := by
  rw [skip, List.dropWhile_cons_of_neg (by simp [hc])]

/-! ### Strings -/

theorem codePoint?_hexPair : ∀ n < 0x20,
    codePoint? ('0' :: '0' :: hexPair n) = some (Char.ofNat n) := by decide

theorem chars?_escapeChar (c : Char) (rest : List Char) :
    chars? (escapeChar c ++ rest) =
      (chars? rest).map fun (cs, rest) => (c :: cs, rest) := by
  by_cases hspecial : c ∈ ['"', '\\', '\x08', '\x0c', '\n', '\r', '\t']
  · simp only [List.mem_cons, List.not_mem_nil, or_false] at hspecial
    rcases hspecial with rfl | rfl | rfl | rfl | rfl | rfl | rfl <;> rfl
  · simp only [List.mem_cons, List.not_mem_nil, or_false, not_or] at hspecial
    obtain ⟨hquote, hbackslash, hb, hf, hn, hr, ht⟩ := hspecial
    by_cases hcontrol : c.toNat < 0x20
    · have hescape : escapeChar c = '\\' :: 'u' :: '0' :: '0' :: hexPair c.toNat := by
        simp [escapeChar, hquote, hbackslash, hb, hf, hn, hr, ht, hcontrol]
      have hcode := codePoint?_hexPair c.toNat hcontrol
      rw [Char.ofNat_toNat] at hcode
      rw [hescape]
      change (codePoint? ('0' :: '0' :: hexPair c.toNat)).bind _ = _
      rw [hcode, Option.bind_some]
      rfl
    · have hescape : escapeChar c = [c] := by
        simp [escapeChar, hquote, hbackslash, hb, hf, hn, hr, ht, hcontrol]
      rw [hescape, List.singleton_append, chars?.eq_5 _ _ hquote (fun _ _ _ _ _ h _ => hbackslash h)
        (fun _ _ h _ => hbackslash h), if_neg hcontrol]

theorem chars?_flatMap_escapeChar (cs rest : List Char) :
    chars? (cs.flatMap escapeChar ++ '"' :: rest) = some (cs, rest) := by
  induction cs with
  | nil => rfl
  | cons c cs ih =>
    rw [List.flatMap_cons, List.append_assoc, chars?_escapeChar, ih]
    rfl

/-! ### Words -/

/-- A word ends there. -/
def Ends (rest : List Char) : Prop := ∀ c ∈ rest.head?, c.isAlphanum = false

theorem word?_append {word rest : List Char} (hword : ∀ c ∈ word, c.isAlphanum = true)
    (h : Ends rest) :
    word? (word ++ rest) =
      if word = ['t', 'r', 'u', 'e'] then some (.bool true, rest)
      else if word = ['f', 'a', 'l', 's', 'e'] then some (.bool false, rest)
      else if word.head? = some '0' ∧ word ≠ ['0'] then none
      else (Number.digits? 10 word).map fun n => (.number n, rest) := by
  rw [word?, List.takeWhile_append_of_pos hword, List.dropWhile_append_of_pos hword]
  cases rest with
  | nil => simp
  | cons c rest =>
    have hc := h c rfl
    simp [hc]

theorem word?_toDigits (n : Nat) {rest : List Char} (h : Ends rest) :
    word? (Nat.toDigits 10 n ++ rest) = some (.number n, rest) := by
  have hwrites := Number.writes_toDigits n
  have hword : ∀ c ∈ Nat.toDigits 10 n, c.isAlphanum = true := by
    intro c hc
    rw [Char.isAlphanum, hwrites.decimal c hc, Bool.or_true]
  -- a word of letters is no numeral
  have hletter {c : Char} {s : List Char} (hc : c.isDigit = false) :
      Nat.toDigits 10 n ≠ c :: s := by
    intro heq
    exact Number.not_writes_cons hc (heq ▸ hwrites)
  have hzero : ¬ ((Nat.toDigits 10 n).head? = some '0' ∧ Nat.toDigits 10 n ≠ ['0']) :=
    fun hzero => Number.head?_toDigits_ne n hzero.2 hzero.1
  rw [word?_append hword h, if_neg (hletter rfl), if_neg (hletter rfl), if_neg hzero,
    Number.digits?_eq_some_iff.2 hwrites, Option.map_some]

/-! ### Items between brackets -/

/-- Wherever the text stands, the reader finds the item in it and stops behind it. -/
structure ReadsAs {α : Type} (item? : List Char → Option (α × List Char)) (text : List Char)
    (a : α) : Prop where
  /-- The text begins with something else than a blank or a closing bracket. -/
  begins : ∃ c s, text = c :: s ∧ isSpace c = false ∧ c ≠ ']' ∧ c ≠ '\x7d'
  reads : ∀ lead rest, Blank lead → Ends rest → item? (lead ++ (text ++ rest)) = some (a, rest)

/-- Texts one behind the other, with commas and blanks between them. -/
def listed (gap : List Char) (texts : List (List Char)) : List Char :=
  (',' :: gap).intercalate texts

theorem Ends.nil : Ends [] := by
  intro c hc
  cases hc

theorem Ends.cons {c : Char} (hc : c.isAlphanum = false) (rest : List Char) : Ends (c :: rest) := by
  intro d hd
  obtain rfl := Option.some.inj hd
  exact hc

theorem Ends.of_blank {lead rest : List Char} (hlead : Blank lead) (h : Ends rest) :
    Ends (lead ++ rest) := by
  cases lead with
  | nil => exact h
  | cons c lead =>
    have hc := hlead c List.mem_cons_self
    simp only [isSpace, Bool.or_eq_true, beq_iff_eq] at hc
    rcases hc with ((rfl | rfl) | rfl) | rfl <;> exact .cons rfl _

section Lists

variable {α : Type} {item? : List Char → Option (α × List Char)} {closing : Char}
  {gap tail : List Char} {texts : List (List Char)} {as : List α}

theorem items?_listed (h : List.Forall₂ (ReadsAs item?) texts as) (hne : texts ≠ [])
    (hclosing : closing = ']' ∨ closing = '\x7d') (hgap : Blank gap) (htail : Blank tail)
    {lead : List Char} (hlead : Blank lead) (rest : List Char) {n : Nat}
    (hn : (listed gap texts).length ≤ n) :
    items? closing item? (n + 1) (lead ++ (listed gap texts ++ (tail ++ closing :: rest))) =
      some (as, rest) := by
  have hends : Ends (closing :: rest) := by rcases hclosing with rfl | rfl <;> exact .cons rfl rest
  have hspace : isSpace closing = false := by rcases hclosing with rfl | rfl <;> rfl
  have hcomma : ',' ≠ closing := by rcases hclosing with rfl | rfl <;> decide
  induction h generalizing lead n with
  | nil => exact absurd rfl hne
  | @cons text a texts as hitem hitems ih =>
    cases hitems with
    | nil =>
      rw [items?, listed, List.intercalate_singleton,
        hitem.reads lead _ hlead (.of_blank htail hends)]
      simp only [Option.bind_some, skip_append htail, skip_cons hspace, if_true]
    | @cons next b texts as hnext hitems =>
      have hlisted : listed gap (text :: next :: texts) =
          text ++ ',' :: (gap ++ listed gap (next :: texts)) := by
        rw [listed, List.intercalate_cons_cons, List.append_assoc]
        rfl
      have hlength := congrArg List.length hlisted
      rw [List.length_append, List.length_cons, List.length_append] at hlength
      obtain ⟨m, rfl⟩ : ∃ m, n = m + 1 := ⟨n - 1, by omega⟩
      have hrest := ih (List.cons_ne_nil next texts) hgap (n := m) (by omega)
      rw [items?, hlisted, List.append_assoc, List.cons_append, List.append_assoc,
        hitem.reads lead _ hlead (.cons rfl _)]
      simp only [Option.bind_some, skip_cons (show isSpace ',' = false from rfl), if_neg hcomma,
        if_true]
      rw [hrest, Option.map_some]

theorem exists_begins_listed (gap : List Char) (h : List.Forall₂ (ReadsAs item?) texts as)
    (hne : texts ≠ []) :
    ∃ c s, listed gap texts = c :: s ∧ isSpace c = false ∧ c ≠ ']' ∧ c ≠ '\x7d' := by
  cases h with
  | nil => exact absurd rfl hne
  | @cons text a texts as hitem hitems =>
    obtain ⟨c, s, rfl, hc⟩ := hitem.begins
    cases texts with
    | nil => exact ⟨c, s, List.intercalate_singleton, hc⟩
    | cons next texts =>
      rw [listed, List.intercalate_cons_cons]
      exact ⟨c, _, rfl, hc⟩

theorem list?_listed (h : List.Forall₂ (ReadsAs item?) texts as)
    (hclosing : closing = ']' ∨ closing = '\x7d') {lead : List Char} (hlead : Blank lead)
    (hgap : Blank gap) (htail : Blank tail) (rest : List Char) :
    list? closing item? (lead ++ (listed gap texts ++ (tail ++ closing :: rest))) =
      some (as, rest) := by
  have hspace : isSpace closing = false := by rcases hclosing with rfl | rfl <;> rfl
  by_cases hne : texts = []
  · subst hne
    cases h
    rw [list?, skip_append hlead, listed, List.intercalate_nil, List.nil_append,
      skip_append htail, skip_cons hspace]
    exact if_pos rfl
  · obtain ⟨c, s, hs, hc, hother⟩ := exists_begins_listed gap h hne
    have hbegins : skip (lead ++ (listed gap texts ++ (tail ++ closing :: rest))) =
        c :: (s ++ (tail ++ closing :: rest)) := by
      rw [skip_append hlead, hs, List.cons_append, skip_cons hc]
    have hcloses : c ≠ closing := by
      rcases hclosing with rfl | rfl
      · exact hother.1
      · exact hother.2
    obtain ⟨n, hn⟩ : ∃ n, (lead ++ (listed gap texts ++ (tail ++ closing :: rest))).length = n + 1 ∧
        (listed gap texts).length ≤ n := by
      refine ⟨lead.length + (listed gap texts).length + tail.length + rest.length, ?_, ?_⟩
      · simp only [List.length_append, List.length_cons]
        omega
      · omega
    rw [list?, hbegins]
    simp only [if_neg hcloses]
    rw [hn.1]
    exact items?_listed h hne hclosing hgap htail hlead rest hn.2

end Lists

/-! ### Values -/

variable {n : Nat}

theorem toList_writeString (s : String) :
    (writeString s).toList = '"' :: (s.toList.flatMap escapeChar ++ ['"']) :=
  String.toList_ofList

theorem readsAs_string (n : Nat) (s : String) :
    ReadsAs (value? (n + 1)) (writeString s).toList (.string s) where
  begins := ⟨'"', _, toList_writeString s, rfl, by decide, by decide⟩
  reads := by
    intro lead rest hlead hrest
    rw [value?, skip_append hlead, toList_writeString, List.cons_append, skip_cons rfl]
    simp only [List.append_assoc, List.singleton_append, chars?_flatMap_escapeChar,
      Option.map_some, String.ofList_toList]

theorem readsAs_word {c : Char} {word : List Char} {v : Json}
    (hword : ∀ d ∈ c :: word, d.isAlphanum = true)
    (hread : ∀ rest, Ends rest → word? (c :: word ++ rest) = some (v, rest)) :
    ReadsAs (value? (n + 1)) (c :: word) v := by
  have hc := hword c List.mem_cons_self
  have hne {d : Char} (hd : d.isAlphanum = false) : c ≠ d := by
    rintro rfl
    rw [hc] at hd
    cases hd
  have hspace : isSpace c = false := by
    simp only [isSpace, Bool.or_eq_false_iff, beq_eq_false_iff_ne]
    exact ⟨⟨⟨hne rfl, hne rfl⟩, hne rfl⟩, hne rfl⟩
  constructor
  · exact ⟨c, word, rfl, hspace, hne rfl, hne rfl⟩
  · intro lead rest hlead hrest
    rw [← hread rest hrest, value?, skip_append hlead, List.cons_append, skip_cons hspace]
    split
    · next heq => exact absurd (List.cons.inj heq).1 (hne rfl)
    · next heq => exact absurd (List.cons.inj heq).1 (hne rfl)
    · next heq => exact absurd (List.cons.inj heq).1 (hne rfl)
    · rfl

theorem readsAs_bool (n : Nat) (b : Bool) :
    ReadsAs (value? (n + 1)) (if b then "true" else "false" : String).toList (.bool b) := by
  cases b with
  | true =>
    have hword : ∀ c ∈ ['t', 'r', 'u', 'e'], c.isAlphanum = true := List.all_eq_true.1 rfl
    exact readsAs_word hword fun rest hrest => word?_append hword hrest
  | false =>
    have hword : ∀ c ∈ ['f', 'a', 'l', 's', 'e'], c.isAlphanum = true := List.all_eq_true.1 rfl
    exact readsAs_word hword fun rest hrest => word?_append hword hrest

theorem readsAs_number (n k : Nat) : ReadsAs (value? (n + 1)) (toString k).toList (.number k) := by
  rw [Nat.toString_eq_repr, Nat.toList_repr]
  have hword : ∀ c ∈ Nat.toDigits 10 k, c.isAlphanum = true := by
    intro c hc
    rw [Char.isAlphanum, (Number.writes_toDigits k).decimal c hc, Bool.or_true]
  have hread := fun rest (hrest : Ends rest) => word?_toDigits k hrest
  cases hdigits : Nat.toDigits 10 k with
  | nil => exact absurd hdigits Nat.toDigits_ne_nil
  | cons c word =>
    rw [hdigits] at hword hread
    exact readsAs_word hword hread

theorem readsAs_field {item? : List Char → Option (Json × List Char)} {text gap : List Char}
    {v : Json} (h : ReadsAs item? text v) (name : String) (hgap : Blank gap) :
    ReadsAs (field? item?) ((writeString name).toList ++ ':' :: (gap ++ text)) (name, v) where
  begins := by
    rw [toList_writeString]
    exact ⟨'"', _, rfl, rfl, by decide, by decide⟩
  reads := by
    intro lead rest hlead hrest
    have hvalue := h.reads gap rest hgap hrest
    rw [field?, skip_append hlead, toList_writeString, List.cons_append, List.cons_append,
      skip_cons rfl]
    simp only [List.append_assoc, List.cons_append, chars?_flatMap_escapeChar, Option.bind_some,
      List.nil_append, skip_cons (show isSpace ':' = false from rfl), hvalue, Option.map_some,
      String.ofList_toList]

/-! ### Brackets -/

/-- Texts with commas between them and brackets around them, and blanks wherever they may stand. -/
def Bracketed (opening closing : Char) (texts : List String) (whole : String) : Prop :=
  ∃ lead gap tail, Blank lead ∧ Blank gap ∧ Blank tail ∧
    whole.toList =
      opening :: (lead ++ (listed gap (texts.map String.toList) ++ (tail ++ [closing])))

theorem length_le_length_listed (gap : List Char) {text : List Char} {texts : List (List Char)}
    (h : text ∈ texts) : text.length ≤ (listed gap texts).length := by
  induction texts with
  | nil => cases h
  | cons first texts ih =>
    cases texts with
    | nil =>
      obtain rfl := List.mem_singleton.1 h
      rw [listed, List.intercalate_singleton]
    | cons next texts =>
      rw [listed, List.intercalate_cons_cons, List.length_append, List.length_append]
      rcases List.mem_cons.1 h with rfl | h
      · omega
      · have hrest := ih h
        rw [listed] at hrest
        omega

theorem Bracketed.length_le {opening closing : Char} {texts : List String} {whole : String}
    (h : Bracketed opening closing texts whole) :
    2 ≤ whole.length ∧ ∀ text ∈ texts, text.length + 2 ≤ whole.length := by
  obtain ⟨lead, gap, tail, -, -, -, hwhole⟩ := h
  have hlength := congrArg List.length hwhole
  simp only [String.length_toList, List.length_cons, List.length_append, List.length_nil] at hlength
  refine ⟨by omega, ?_⟩
  intro text htext
  have hle := length_le_length_listed gap (List.mem_map_of_mem (f := String.toList) htext)
  rw [String.length_toList] at hle
  omega

theorem bracketed_intercalate {opening closing : String} {x y : Char}
    (hopening : opening.toList = [x]) (hclosing : closing.toList = [y]) (texts : List String) :
    Bracketed x y texts (opening ++ ",".intercalate texts ++ closing) := by
  refine ⟨[], [], [], List.forall_mem_nil _, List.forall_mem_nil _, List.forall_mem_nil _, ?_⟩
  rw [String.toList_append, String.toList_append, String.toList_intercalate, hopening, hclosing]
  rfl

theorem blank_newline (depth : Nat) : Blank (newline depth).toList := by
  intro c hc
  rw [newline, String.toList_append] at hc
  rcases List.mem_append.1 hc with hc | hc
  · obtain rfl := List.mem_singleton.1 hc
    rfl
  · rw [String.toList_ofList] at hc
    obtain rfl := List.eq_of_mem_replicate hc
    rfl

theorem bracketed_block {opening closing : String} {x y : Char}
    (hopening : opening.toList = [x]) (hclosing : closing.toList = [y]) (depth : Nat)
    (texts : List String) : Bracketed x y texts (block depth opening closing texts) := by
  rw [block]
  split
  · next hempty =>
    obtain rfl := List.isEmpty_iff.1 hempty
    have hempty := bracketed_intercalate hopening hclosing []
    rwa [String.intercalate_nil, String.append_empty] at hempty
  · refine ⟨_, _, _, blank_newline (depth + 1), blank_newline (depth + 1), blank_newline depth, ?_⟩
    simp only [String.toList_append, String.toList_intercalate, hopening, hclosing, listed,
      List.append_assoc]
    rfl

/-- Items that are found where they stand make a list that is found between its brackets. -/
theorem list?_bracketed {α : Type} (item? : Nat → List Char → Option (α × List Char))
    {opening closing : Char} {texts : List String} {whole : String} {as : List α}
    (h : Bracketed opening closing texts whole) (hclosing : closing = ']' ∨ closing = '\x7d')
    (hlength : whole.length ≤ n)
    (hitems : ∀ m, (∀ text ∈ texts, text.length ≤ m) →
      List.Forall₂ (ReadsAs (item? (m + 1))) (texts.map String.toList) as) (rest : List Char) :
    ∃ inner, whole.toList ++ rest = opening :: inner ∧
      list? closing (item? n) inner = some (as, rest) := by
  obtain ⟨htwo, htexts⟩ := h.length_le
  obtain ⟨lead, gap, tail, hlead, hgap, htail, hwhole⟩ := h
  obtain ⟨m, rfl⟩ : ∃ m, n = m + 1 := ⟨n - 1, by omega⟩
  have hall := hitems m fun text htext => by
    have hle := htexts text htext
    omega
  refine ⟨_, ?_, list?_listed hall hclosing hlead hgap htail rest⟩
  rw [hwhole]
  simp only [List.cons_append, List.append_assoc, List.nil_append]

theorem readsAs_array {texts : List String} {whole : String} {items : List Json}
    (h : Bracketed '[' ']' texts whole) (hlength : whole.length ≤ n)
    (hitems : ∀ m, (∀ text ∈ texts, text.length ≤ m) →
      List.Forall₂ (ReadsAs (value? (m + 1))) (texts.map String.toList) items) :
    ReadsAs (value? (n + 1)) whole.toList (.array items) := by
  constructor
  · obtain ⟨lead, gap, tail, -, -, -, hwhole⟩ := h
    exact ⟨'[', _, hwhole, rfl, by decide, by decide⟩
  · intro lead rest hlead hrest
    obtain ⟨inner, hinner, hlist⟩ := list?_bracketed value? h (.inl rfl) hlength hitems rest
    rw [value?, skip_append hlead, hinner, skip_cons rfl]
    simp only [hlist, Option.map_some]

theorem readsAs_object {texts : List String} {whole : String} {fields : List (String × Json)}
    (h : Bracketed '\x7b' '\x7d' texts whole) (hlength : whole.length ≤ n)
    (hfields : ∀ m, (∀ text ∈ texts, text.length ≤ m) →
      List.Forall₂ (ReadsAs (field? (value? (m + 1)))) (texts.map String.toList) fields) :
    ReadsAs (value? (n + 1)) whole.toList (.object fields) := by
  constructor
  · obtain ⟨lead, gap, tail, -, -, -, hwhole⟩ := h
    exact ⟨'\x7b', _, hwhole, rfl, by decide, by decide⟩
  · intro lead rest hlead hrest
    obtain ⟨inner, hinner, hlist⟩ := list?_bracketed (fun n => field? (value? n)) h (.inr rfl)
      hlength hfields rest
    rw [value?, skip_append hlead, hinner, skip_cons rfl]
    simp only [hlist, Option.map_some]

/-! ### Both written forms -/

mutual

theorem readsAs_compact :
    ∀ (v : Json) (n : Nat), (compact v).length ≤ n → ReadsAs (value? (n + 1)) (compact v).toList v
  | .bool b => fun n _ => readsAs_bool n b
  | .number k => fun n _ => readsAs_number n k
  | .string s => fun n _ => readsAs_string n s
  | .array items => by
    intro n h
    apply readsAs_array (bracketed_intercalate rfl rfl _) h
    exact readsAs_compactItems items
  | .object fields => by
    intro n h
    apply readsAs_object (bracketed_intercalate rfl rfl _) h
    exact readsAs_compactFields fields

theorem readsAs_compactItems :
    ∀ (items : List Json) (n : Nat), (∀ text ∈ compactItems items, text.length ≤ n) →
      List.Forall₂ (ReadsAs (value? (n + 1))) ((compactItems items).map String.toList) items
  | [], _, _ => .nil
  | v :: rest, n, h => by
    obtain ⟨hv, hrest⟩ := List.forall_mem_cons.1 h
    exact .cons (readsAs_compact v n hv) (readsAs_compactItems rest n hrest)

theorem readsAs_compactFields :
    ∀ (fields : List (String × Json)) (n : Nat), (∀ text ∈ compactFields fields, text.length ≤ n) →
      List.Forall₂ (ReadsAs (field? (value? (n + 1)))) ((compactFields fields).map String.toList)
        fields
  | [], _, _ => .nil
  | (name, v) :: rest, n, h => by
    obtain ⟨hv, hrest⟩ := List.forall_mem_cons.1 h
    have hread := readsAs_compact v n (by
      rw [String.length_append] at hv
      omega)
    have hfield := readsAs_field hread name (List.forall_mem_nil _)
    refine .cons ?_ (readsAs_compactFields rest n hrest)
    rw [String.toList_append, String.toList_append, List.append_assoc]
    exact hfield

end

mutual

theorem readsAs_prettyAt :
    ∀ (v : Json) (depth n : Nat), (prettyAt depth v).length ≤ n →
      ReadsAs (value? (n + 1)) (prettyAt depth v).toList v
  | .bool b => fun _ n _ => readsAs_bool n b
  | .number k => fun _ n _ => readsAs_number n k
  | .string s => fun _ n _ => readsAs_string n s
  | .array items => by
    intro depth n h
    apply readsAs_array (bracketed_block rfl rfl depth _) h
    exact readsAs_prettyItems items (depth + 1)
  | .object fields => by
    intro depth n h
    apply readsAs_object (bracketed_block rfl rfl depth _) h
    exact readsAs_prettyFields fields (depth + 1)

theorem readsAs_prettyItems :
    ∀ (items : List Json) (depth n : Nat), (∀ text ∈ prettyItems depth items, text.length ≤ n) →
      List.Forall₂ (ReadsAs (value? (n + 1))) ((prettyItems depth items).map String.toList) items
  | [], _, _, _ => .nil
  | v :: rest, depth, n, h => by
    obtain ⟨hv, hrest⟩ := List.forall_mem_cons.1 h
    exact .cons (readsAs_prettyAt v depth n hv) (readsAs_prettyItems rest depth n hrest)

theorem readsAs_prettyFields :
    ∀ (fields : List (String × Json)) (depth n : Nat),
      (∀ text ∈ prettyFields depth fields, text.length ≤ n) →
      List.Forall₂ (ReadsAs (field? (value? (n + 1))))
        ((prettyFields depth fields).map String.toList) fields
  | [], _, _, _ => .nil
  | (name, v) :: rest, depth, n, h => by
    obtain ⟨hv, hrest⟩ := List.forall_mem_cons.1 h
    have hread := readsAs_prettyAt v depth n (by
      rw [String.length_append] at hv
      omega)
    have hgap : Blank [' '] := List.forall_mem_singleton.2 rfl
    have hfield := readsAs_field hread name hgap
    refine .cons ?_ (readsAs_prettyFields rest depth n hrest)
    rw [String.toList_append, String.toList_append, List.append_assoc]
    exact hfield

end

theorem read?_of_readsAs {text : String} {v : Json} (tail : String) (htail : Blank tail.toList)
    (h : ∀ n, text.length ≤ n → ReadsAs (value? (n + 1)) text.toList v) :
    read? (text ++ tail) = some v := by
  have hlength : text.length ≤ (text ++ tail).length := by
    rw [String.length_append]
    exact Nat.le_add_right _ _
  have hends : Ends tail.toList := by
    rw [← List.append_nil tail.toList]
    exact .of_blank htail .nil
  have hskip : skip tail.toList = [] := by
    rw [← List.append_nil tail.toList, skip_append htail]
    rfl
  have hread := (h _ hlength).reads [] tail.toList (List.forall_mem_nil _) hends
  rw [List.nil_append] at hread
  rw [read?, String.toList_append, hread]
  exact if_pos hskip

/-- **A text on one line is read as the value that it was written for.** -/
theorem read?_compact (v : Json) : read? v.compact = some v := by
  have hread := read?_of_readsAs "" (List.forall_mem_nil _) (readsAs_compact v)
  rwa [String.append_empty] at hread

/-- **A text over several lines is read as the value that it was written for**, and a line end
    behind it does no harm. -/
theorem read?_pretty (v : Json) : read? (v.pretty ++ "\n") = some v := by
  have htail : Blank "\n".toList := List.forall_mem_singleton.2 rfl
  exact read?_of_readsAs "\n" htail (readsAs_prettyAt v 0)

/-! ### What is found in a value -/

/-- The value of a field, wherever it stands. -/
def get? (v : Json) (name : String) : Option Json :=
  match v with
  | .object fields => fields.lookup name
  | _ => none

@[simp]
theorem get?_nil (name : String) : get? (.object []) name = none := rfl

@[simp]
theorem get?_cons (key : String) (v : Json) (fields : List (String × Json)) (name : String) :
    get? (.object ((key, v) :: fields)) name =
      if name = key then some v else get? (.object fields) name := by
  rw [get?, List.lookup_cons]
  by_cases h : name = key
  · simp [h]
  · rw [if_neg h, beq_eq_false_iff_ne.2 h]
    rfl

@[simp]
def truth? : Json → Option Bool
  | .bool b => some b
  | _ => none

@[simp]
def number? : Json → Option Nat
  | .number n => some n
  | _ => none

@[simp]
def text? : Json → Option String
  | .string s => some s
  | _ => none

/-- The items of an array, if each of them is of a kind. -/
def all? {α : Type} (item? : Json → Option α) : Json → Option (List α)
  | .array items => items.mapM item?
  | _ => none

theorem all?_array {α : Type} {item? : Json → Option α} (write : α → Json)
    (h : ∀ a, item? (write a) = some a) (as : List α) :
    all? item? (.array (as.map write)) = some as := by
  rw [all?]
  induction as with
  | nil => rfl
  | cons a as ih =>
    rw [List.map_cons, List.mapM_cons, h, ih]
    rfl

def texts? : Json → Option (List String) := all? text?

@[simp]
theorem texts?_array (texts : List String) : texts? (.array (texts.map .string)) = some texts :=
  all?_array .string (fun _ => rfl) texts

end Stencil.Text.Json
