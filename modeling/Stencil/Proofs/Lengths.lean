import Stencil.Proofs.Lookup
import Stencil.Proofs.Numerals

/-!
# Random letters up to a cap

How long a random text becomes is said by the template, which nobody has checked. The length counts
if it is a number of 64 bits in decimal, blanks around it aside; otherwise its default does
(`Call.Gives`). No length goes beyond the cap of the settings, and all that is drawn are letters of
the alphabet, whatever the random words are. None of the letters needs care inside quotes.
-/

namespace Stencil

open Text

theorem Words.pick_mem {α : Type} [Dice] (words : Words) (first : α) (others : List α) :
    (words.pick first others).1 ∈ first :: others := by
  change (first :: others).getD (Dice.index words (others.length + 1)).1 first ∈ first :: others
  generalize (Dice.index words (others.length + 1)).1 = i
  rw [List.getD_eq_getElem?_getD]
  cases hi : (first :: others)[i]? with
  | none => exact List.mem_cons_self
  | some c => exact List.mem_of_getElem? hi

namespace Letters

/-! ### Lengths that a call asks for -/

/-- A number of 64 bits in decimal, with a plus in front of it or without one. -/
def Spells (s : List Char) (n : Nat) : Prop :=
  ∃ digits, (s = digits ∨ s = '+' :: digits) ∧ Number.Writes digits n ∧
    n ≤ 18446744073709551615

theorem gives_length_iff (call : Call) (usual v : Nat) :
    Call.Gives Spells usual (call.lookup? "length" 0) v ↔
      v = (call.read Number.size? "length" 0 usual (toString usual)).value :=
  Call.gives_iff (fun _ _ => Number.natural?_eq_some_iff) call "length" 0 usual (toString usual) v

/-! ### Letters -/

/-- A character of ASCII that is no blank, no control character and nothing to be escaped in
    quotes. -/
structure Careless (c : Char) : Prop where
  ascii : c.toNat < 128
  quote : c ≠ '"'
  backslash : c ≠ '\\'
  blank : isBlank c = false
  control : 32 ≤ c.toNat ∧ c.toNat ≠ 127

theorem careless_iff {c : Char} : Careless c ↔
    c.toNat < 128 ∧ c ≠ '"' ∧ c ≠ '\\' ∧ isBlank c = false ∧ 32 ≤ c.toNat ∧ c.toNat ≠ 127 := by
  constructor
  · rintro ⟨hascii, hquote, hbackslash, hblank, hcontrol⟩
    exact ⟨hascii, hquote, hbackslash, hblank, hcontrol⟩
  · rintro ⟨hascii, hquote, hbackslash, hblank, hcontrol⟩
    exact ⟨hascii, hquote, hbackslash, hblank, hcontrol⟩

instance (c : Char) : Decidable (Careless c) := decidable_of_iff _ careless_iff.symm

theorem careless_of_all {s : List Char} (h : s.all (fun c => decide (Careless c)) = true) :
    ∀ c ∈ s, Careless c :=
  fun c hc => of_decide_eq_true (List.all_eq_true.1 h c hc)

/-! ### Drawing letters -/

section Drawn

variable [Dice]

theorem drawOnto_succ (a : Alphabet) (drawn : List Char) (words : Words) (n : Nat) :
    drawOnto a drawn words (n + 1) =
      drawOnto a ((words.pick a.first a.others).1 :: drawn) (words.pick a.first a.others).2 n := rfl

theorem length_drawOnto (a : Alphabet) (drawn : List Char) (words : Words) (n : Nat) :
    (drawOnto a drawn words n).1.length = drawn.length + n := by
  induction n generalizing drawn words with
  | zero => rfl
  | succ n ih =>
    rw [drawOnto_succ, ih, List.length_cons]
    omega

theorem mem_letters_of_mem_drawOnto {a : Alphabet} {drawn : List Char}
    (hdrawn : ∀ c ∈ drawn, c ∈ a.letters) (words : Words) (n : Nat) :
    ∀ c ∈ (drawOnto a drawn words n).1, c ∈ a.letters := by
  induction n generalizing drawn words with
  | zero => exact hdrawn
  | succ n ih =>
    rw [drawOnto_succ]
    apply ih
    intro c hc
    rcases List.mem_cons.1 hc with rfl | hc
    · exact words.pick_mem a.first a.others
    · exact hdrawn c hc

/-! ### The expressions -/

/-- The expressions that draw letters up to a cap, with their usual lengths and their letters. -/
def lettered (cap : Nat) : List (Expression × Nat × String) :=
  [(string cap, 10, "abcdefghijklmnopqrstuvwxyzABCDEFGHIJKLMNOPQRSTUVWXYZ0123456789"),
    (passphrase cap, 16,
      "abcdefghijklmnopqrstuvwxyzABCDEFGHIJKLMNOPQRSTUVWXYZ0123456789!#$%&*+-=?@^_")]

variable {x : Expression} {usual cap : Nat} {letters : String}

theorem generate_of_mem_lettered (h : (x, usual, letters) ∈ lettered cap) :
    (∃ a : Alphabet, x.generate = capped a usual cap ∧ a.letters = letters.toList) ∧
      ∀ c ∈ letters.toList, Careless c := by
  simp only [lettered, List.mem_cons, Prod.mk.injEq, List.not_mem_nil, or_false] at h
  rcases h with ⟨rfl, rfl, rfl⟩ | ⟨rfl, rfl, rfl⟩
  · exact ⟨⟨alphanumeric, rfl, by decide⟩, careless_of_all (by decide)⟩
  · exact ⟨⟨password, rfl, by decide⟩, careless_of_all (by decide)⟩

theorem mem_builtins_of_mem_lettered {s : Settings}
    (h : (x, usual, letters) ∈ lettered s.stringLength) : x ∈ Expression.builtins s := by
  apply Expression.mem_builtins_iff.2
  left
  simp only [lettered, List.mem_cons, Prod.mk.injEq, List.not_mem_nil, or_false] at h
  rcases h with ⟨rfl, -, -⟩ | ⟨rfl, -, -⟩ <;> simp [Expression.generators]

theorem toList_capped (a : Alphabet) (usual cap : Nat) (world : World) (call : Call)
    (words : Words) :
    (capped a usual cap world call words).value.toList =
      (drawOnto a [] words (min
        (call.read Number.size? "length" 0 usual (toString usual)).value cap)).1.reverse :=
  String.toList_ofList

/-- **Random strings and passwords never go beyond the cap.** For all settings, whatever a call asks
    for, there is one number that stands for the length: the one that the argument spells, or else
    the usual one. The text has exactly as many characters, or as many as the cap allows if these
    are fewer. Each of them is one of the letters of the expression, so that none is a quote, a
    backslash, a blank or a control character. -/
theorem letters_up_to_cap {s : Settings} (hx : (x, usual, letters) ∈ lettered s.stringLength) :
    x ∈ Expression.builtins s ∧
    ∀ call, ∃ r,
      (∀ v, Call.Gives Spells usual (call.lookup? "length" 0) v ↔ v = r) ∧
      ∀ world words,
        (x.generate world call words).value.length = min r s.stringLength ∧
        ∀ c ∈ (x.generate world call words).value.toList, c ∈ letters.toList ∧ Careless c := by
  obtain ⟨⟨a, hgenerate, hletters⟩, hcareless⟩ := generate_of_mem_lettered hx
  refine ⟨mem_builtins_of_mem_lettered hx, ?_⟩
  intro call
  refine ⟨_, gives_length_iff call usual, ?_⟩
  intro world words
  rw [hgenerate]
  constructor
  · rw [← String.length_toList, toList_capped, List.length_reverse, length_drawOnto,
      List.length_nil, Nat.zero_add]
  · intro c hc
    rw [toList_capped, List.mem_reverse] at hc
    have hmem := mem_letters_of_mem_drawOnto (List.forall_mem_nil _) words _ c hc
    rw [hletters] at hmem
    exact ⟨hmem, hcareless c hmem⟩

end Drawn

/-- A length with a sign and blanks, one that is just too large to be read, and the largest one. -/
theorem letters_up_to_cap_twenty :
    (passphrase 20, 16,
      "abcdefghijklmnopqrstuvwxyzABCDEFGHIJKLMNOPQRSTUVWXYZ0123456789!#$%&*+-=?@^_") ∈
        lettered (Settings.mk 20 false).stringLength ∧
      ∀ world words,
        ((passphrase 20).generate world ⟨"P", [.named "Length" " +007\t"]⟩ words).value.length = 7 ∧
        ((passphrase 20).generate world ⟨"P", [.positional "18446744073709551616"]⟩
          words).value.length = 16 ∧
        ((passphrase 20).generate world ⟨"P", [.positional "18446744073709551615"]⟩
          words).value.length = 20 := by
  have hmem : (passphrase 20, 16,
      "abcdefghijklmnopqrstuvwxyzABCDEFGHIJKLMNOPQRSTUVWXYZ0123456789!#$%&*+-=?@^_") ∈
        lettered (Settings.mk 20 false).stringLength := by
    simp [lettered]
  obtain ⟨-, hall⟩ := letters_up_to_cap hmem
  refine ⟨hmem, ?_⟩
  intro world words
  have hlength : ∀ call n, n = (call.read Number.size? "length" 0 16 "16").value →
      ((passphrase 20).generate world call words).value.length = min n 20 := by
    intro call n hn
    obtain ⟨r, hr, hgenerated⟩ := hall call
    rw [(hr n).1 ((gives_length_iff call 16 n).2 hn)]
    exact (hgenerated world words).1
  exact ⟨hlength _ 7 (by decide), hlength _ 16 (by decide),
    hlength _ 18446744073709551615 (by decide)⟩

end Letters

end Stencil
