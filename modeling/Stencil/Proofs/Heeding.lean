import Stencil.Config.Decode
import Stencil.Proofs.Loading

/-!
# Variables that are heeded

A variable that is set ought to decide its field: if a configuration is loaded, the value of the
variable is a numeral, and the field is its number (`Override.Heeded`). The overrides do not see the
bytes of a variable but only the text that they are. So a variable is heeded if and only if it is
set to a text; where its bytes are none, the configuration is loaded all the same, and the field is
what was read for it.
-/

namespace Stencil

open Text

namespace Override

/-- The overrides, each with the field that it replaces. -/
def fields : List (Override × (Config → Nat)) :=
  [(expansions, fun c => c.limits.expansions), (bodyLength, fun c => c.limits.bodyLength),
    (stringLength, fun c => c.settings.stringLength)]

/-- The bytes are those of a text that spells the number, blanks around it aside. -/
def Heeded (bytes : ByteArray) (n : Nat) : Prop :=
  ∃ text, String.fromUTF8? bytes = some text ∧ Spells text n

variable {overrides : Option (String → Option String)} {c c' : Config}
  {p : Override × (Config → Nat)} {bytes : ByteArray} {n : Nat}

/-- Every field of an overridden configuration is what its own variable makes of it. -/
theorem yields_of_mem_fields (h : c.OverriddenTo overrides c') (hp : p ∈ fields) :
    Yields (p.1.given overrides) (p.2 c) (p.2 c') := by
  simp only [fields, List.mem_cons, List.not_mem_nil, or_false] at hp
  rcases hp with rfl | rfl | rfl
  · exact h.expansions
  · exact h.bodyLength
  · exact h.stringLength

theorem given_environment {environment : Environment} {o : Override}
    (hset : environment.bytes? o.name = some bytes) :
    o.given (some environment.text?) = String.fromUTF8? bytes := by
  rw [given, Option.bind_some, Environment.text?, hset, Option.bind_some]

/-- A field whose variable is set to a text has the number that the text spells. -/
theorem heeded_of_yields {old : Nat} (htext : (String.fromUTF8? bytes).isSome = true)
    (h : Yields (String.fromUTF8? bytes) old n) : Heeded bytes n := by
  obtain ⟨text, hread⟩ := Option.isSome_iff_exists.1 htext
  rw [hread] at h
  exact ⟨text, hread, h⟩

theorem isSome_of_heeded (h : Heeded bytes n) : (String.fromUTF8? bytes).isSome = true := by
  obtain ⟨text, hread, -⟩ := h
  exact Option.isSome_of_eq_some hread

end Override

namespace Config

variable {format : Format} {overrides : Option (String → Option String)} {path text : String}
  {loaded : Loaded}

/-- What is loaded has been read and overridden. -/
theorem overriddenTo_of_loadText
    (h : (loadText format overrides path text).result = .ok loaded) :
    ∃ c, format text = .ok c ∧ c.OverriddenTo overrides loaded.config := by
  have hrule := loads_loadText format overrides path text
  rw [h] at hrule
  cases hrule with
  | loaded _ hread hoverridden _ => exact ⟨_, hread, hoverridden⟩

/-- **A variable is heeded if and only if it is set to a text.** Let a configuration be loaded in an
    environment in which the variable of an override is set. If its bytes are a text, that is a
    numeral, with blanks around it or a plus in front, and the field is its number. If they are
    none, the field is what was read for it. -/
theorem heeded_iff_isText (format : Format) (environment : Environment) (path text : String)
    {loaded : Loaded}
    (hload : (loadText format (some environment.text?) path text).result = .ok loaded)
    {p : Override × (Config → Nat)} (hp : p ∈ Override.fields) {bytes : ByteArray}
    (hset : environment.bytes? p.1.name = some bytes) :
    (Override.Heeded bytes (p.2 loaded.config) ↔ (String.fromUTF8? bytes).isSome = true) ∧
    (String.fromUTF8? bytes = none → ∃ c, format text = .ok c ∧ p.2 loaded.config = p.2 c) := by
  obtain ⟨c, hread, hoverridden⟩ := overriddenTo_of_loadText hload
  have hyields := Override.yields_of_mem_fields hoverridden hp
  rw [Override.given_environment hset] at hyields
  refine ⟨⟨Override.isSome_of_heeded, fun htext => Override.heeded_of_yields htext hyields⟩, ?_⟩
  intro hno
  rw [hno] at hyields
  exact ⟨c, hread, hyields⟩

/-- A configuration in which every field with an override is given. -/
def limitedText : String :=
  "limits: \x7bmax_expansions: 3, max_placeholder_length: 4\x7d\n" ++
    "expressions: \x7bmax_string_length: 5\x7d"

/-- A plus, a leading zero and a blank in front, and two bytes that are no text. -/
theorem heeded_iff_isText_seven :
    ∃ loaded, (loadText ofYaml
        (some (Environment.text? ⟨[("MOCKEXPR_MAX_STRING_LENGTH", ⟨#[0x20, 0x2b, 0x30, 0x37]⟩),
          ("MOCKEXPR_MAX_EXPANSIONS", ⟨#[0x37, 0xff]⟩)]⟩))
        "engine.yaml" limitedText).result = .ok loaded ∧
      Override.Heeded ⟨#[0x20, 0x2b, 0x30, 0x37]⟩ loaded.config.settings.stringLength ∧
      loaded.config.settings.stringLength = 7 ∧
      ¬ Override.Heeded ⟨#[0x37, 0xff]⟩ loaded.config.limits.expansions := by
  have hload : (loadText ofYaml
      (some (Environment.text? ⟨[("MOCKEXPR_MAX_STRING_LENGTH", ⟨#[0x20, 0x2b, 0x30, 0x37]⟩),
        ("MOCKEXPR_MAX_EXPANSIONS", ⟨#[0x37, 0xff]⟩)]⟩))
      "engine.yaml" limitedText).result = .ok ⟨⟨.standard, ⟨3, 4⟩, ⟨7, false⟩⟩, []⟩ := by
    decide +kernel
  have hheeded := heeded_iff_isText ofYaml _ _ _ hload
    (p := (Override.stringLength, fun c => c.settings.stringLength)) (by simp [Override.fields]) rfl
  have hignored := heeded_iff_isText ofYaml _ _ _ hload
    (p := (Override.expansions, fun c => c.limits.expansions)) (by simp [Override.fields]) rfl
  have htext : (String.fromUTF8? ⟨#[0x20, 0x2b, 0x30, 0x37]⟩).isSome = true := by decide +kernel
  have hno : ¬ (String.fromUTF8? ⟨#[0x37, 0xff]⟩).isSome = true := by decide +kernel
  exact ⟨_, hload, hheeded.1.2 htext, rfl, fun h => hno (hignored.1.1 h)⟩

/-- A byte that is no text is no numeral, and yet the configuration is loaded as if the variable
    were not set. -/
theorem not_heeded_ill_formed :
    ∃ loaded, (loadText ofYaml
        (some (Environment.text? ⟨[("MOCKEXPR_MAX_EXPANSIONS", ⟨#[0xff]⟩)]⟩))
        "engine.yaml" limitedText).result = .ok loaded ∧
      loaded.config.limits.expansions = 3 ∧ ∀ n, ¬ Override.Heeded ⟨#[0xff]⟩ n := by
  have hload : (loadText ofYaml
      (some (Environment.text? ⟨[("MOCKEXPR_MAX_EXPANSIONS", ⟨#[0xff]⟩)]⟩))
      "engine.yaml" limitedText).result = .ok ⟨⟨.standard, ⟨3, 4⟩, ⟨5, false⟩⟩, []⟩ := by
    decide +kernel
  have hno : ¬ (String.fromUTF8? ⟨#[0xff]⟩).isSome = true := by decide +kernel
  exact ⟨_, hload, rfl, fun n h => hno (Override.isSome_of_heeded h)⟩

end Config

end Stencil
