import Stencil.Command.Rendering
import Stencil.Config.Decode
import Stencil.Proofs.Builtins
import Stencil.Proofs.JsonReading
import Stencil.Proofs.Steering

/-!
# Renders on command, one after another

A template is rendered as often as is asked, each time with the random words that the time before
left (`Engine.Series`). Whatever is drawn, the report is the same (`Engine.report_eq`), so that as
many placeholders are left every time, and all times together leave a multiple of them.

What is written of the renders is said for each of them apart (`Command.WrittenAs`). A render in
JSON is one line, since no line end of a text is written as it is (`Json.oneLine_compact`), and the
line says what a reader of JSON finds in it (`Command.RenderLine.read?`).
-/

namespace Stencil

open Text

/-! ### JSON on one line -/

namespace Text

theorem mem_intercalate {α : Type} {separator : List α} {parts : List (List α)} {a : α}
    (h : a ∈ separator.intercalate parts) : a ∈ separator ∨ ∃ part ∈ parts, a ∈ part := by
  induction parts with
  | nil => cases h
  | cons part parts ih =>
    cases parts with
    | nil =>
      rw [List.intercalate_singleton] at h
      exact .inr ⟨part, List.mem_cons_self, h⟩
    | cons next parts =>
      rw [List.intercalate_cons_cons, List.mem_append, List.mem_append] at h
      rcases h with (hpart | hseparator) | hrest
      · exact .inr ⟨part, List.mem_cons_self, hpart⟩
      · exact .inl hseparator
      · refine (ih hrest).imp_right ?_
        rintro ⟨other, hother, ha⟩
        exact ⟨other, List.mem_cons_of_mem part hother, ha⟩

/-- There is no line end in a text. -/
def OneLine (text : String) : Prop := '\n' ∉ text.toList

instance (text : String) : Decidable (OneLine text) :=
  inferInstanceAs (Decidable ('\n' ∉ text.toList))

theorem OneLine.append {s t : String} (hs : OneLine s) (ht : OneLine t) : OneLine (s ++ t) := by
  rw [OneLine, String.toList_append, List.mem_append, not_or]
  exact ⟨hs, ht⟩

theorem oneLine_intercalate {separator : String} {parts : List String}
    (hseparator : OneLine separator) (hparts : ∀ part ∈ parts, OneLine part) :
    OneLine (separator.intercalate parts) := by
  intro h
  rw [String.toList_intercalate] at h
  rcases mem_intercalate h with h | ⟨_, hpart, h⟩
  · exact hseparator h
  · obtain ⟨part, hmem, rfl⟩ := List.mem_map.1 hpart
    exact hparts part hmem h

theorem oneLine_toString (n : Nat) : OneLine (toString n) := by
  intro h
  -- a numeral is made of digits only
  rw [Nat.toString_eq_repr, Nat.toList_repr] at h
  have hdigit := Nat.isDigit_of_mem_toDigits (by decide) (by decide) h
  cases hdigit

namespace Json

theorem newline_not_mem_escapeChar (c : Char) : '\n' ∉ escapeChar c := by
  by_cases hc : c = '\n'
  · subst hc
    decide
  · have hdigit (n : Nat) : '\n' ≠ Nat.digitChar n := (Nat.digitChar_ne '\n' (by decide)).symm
    unfold escapeChar
    split_ifs <;> simp [hexPair, hdigit, Ne.symm hc]

theorem oneLine_writeString (s : String) : OneLine (writeString s) := by
  intro h
  rw [writeString, String.toList_ofList, List.mem_cons, List.mem_append, List.mem_flatMap] at h
  rcases h with h | ⟨c, -, hc⟩ | h
  · cases h
  · exact newline_not_mem_escapeChar c hc
  · cases List.mem_singleton.1 h

mutual

theorem oneLine_compact : ∀ value : Json, OneLine (compact value)
  | .bool true => by decide
  | .bool false => by decide
  | .number n => oneLine_toString n
  | .string s => oneLine_writeString s
  | .array items =>
    .append (.append (by decide) (oneLine_intercalate (by decide) (oneLine_compactItems items)))
      (by decide)
  | .object fields =>
    .append (.append (by decide) (oneLine_intercalate (by decide) (oneLine_compactFields fields)))
      (by decide)

theorem oneLine_compactItems : ∀ items : List Json, ∀ text ∈ compactItems items, OneLine text
  | [] => List.forall_mem_nil _
  | value :: rest => List.forall_mem_cons.2 ⟨oneLine_compact value, oneLine_compactItems rest⟩

theorem oneLine_compactFields :
    ∀ fields : List (String × Json), ∀ text ∈ compactFields fields, OneLine text
  | [] => List.forall_mem_nil _
  | (key, value) :: rest =>
    List.forall_mem_cons.2
      ⟨.append (.append (oneLine_writeString key) (by decide)) (oneLine_compact value),
        oneLine_compactFields rest⟩

end

end Json

end Text

/-! ### Renders one after another -/

namespace Engine

variable {e : Engine} {world : World} {words : Words} {template : String}

/-- Renders of a template one after another, each with the random words that the one before left. -/
inductive Series (e : Engine) (world : World) (template : String) :
    Words → List Rendering → Prop
  | nil {words : Words} : Series e world template words []
  | cons {words : Words} {rest : List Rendering}
      (hrest : Series e world template (e.render world words template).words rest) :
      Series e world template words (e.render world words template :: rest)

theorem series_renderings (e : Engine) (world : World) (words : Words) (template : String)
    (n : Nat) :
    e.Series world template words (Command.renderings e world words template n) ∧
      (Command.renderings e world words template n).length = n := by
  induction n generalizing words with
  | zero => exact ⟨.nil, rfl⟩
  | succ n ih =>
    obtain ⟨hseries, hlength⟩ := ih (e.render world words template).words
    exact ⟨.cons hseries, congrArg Nat.succ hlength⟩

/-- Each of the renders leaves as many placeholders as any one does. -/
theorem Series.unresolved_eq {rs : List Rendering} (h : e.Series world template words rs)
    (world' : World) (words' : Words) :
    Command.unresolved rs =
      rs.length * (e.render world' words' template).report.unresolved := by
  induction h with
  | nil => exact (Nat.zero_mul _).symm
  | @cons words rest _ ih =>
    rw [Command.unresolved, ih, e.report_eq world world' words words' template, List.length_cons,
      Nat.succ_mul, Nat.add_comm]

end Engine

theorem Report.unresolved_eq_zero_iff (r : Report) : r.unresolved = 0 ↔ r.isClean = true := by
  rw [unresolved, isClean]
  cases r.unterminated <;> simp [List.isEmpty_iff, and_assoc]

/-! ### What a line says of a render -/

def Report.ofJson? (v : Json) : Option Report := do
  let substituted ← (v.get? "substituted").bind Json.number?
  let unknown ← (v.get? "unknown").bind Json.texts?
  let malformed ← (v.get? "malformed").bind Json.number?
  let unterminated ← (v.get? "unterminated").bind Json.truth?
  let skipped ← (v.get? "skipped").bind Json.number?
  let escaped ← (v.get? "escaped").bind Json.number?
  return ⟨substituted, unknown, malformed, unterminated, skipped, escaped⟩

theorem Report.ofJson?_reportJson (r : Report) : ofJson? (Command.reportJson r) = some r := by
  simp [ofJson?, Command.reportJson]

namespace Command

/-- What is told of a render: its place in the order, its output, and its report, if any. -/
structure RenderLine where
  index : Nat
  output : String
  report : Option Report
deriving DecidableEq, Repr

def RenderLine.ofJson? (v : Json) : Option RenderLine := do
  let index ← (v.get? "index").bind Json.number?
  let output ← (v.get? "output").bind Json.text?
  match v.get? "report" with
  | none => return ⟨index, output, none⟩
  | some report => return ⟨index, output, some (← Report.ofJson? report)⟩

def RenderLine.read? (line : String) : Option RenderLine := (Json.read? line).bind ofJson?

theorem RenderLine.read?_renderingJson (request : RenderRequest) (index : Nat) (r : Rendering) :
    read? (renderingJson request index r).compact =
      some ⟨index, r.output, if request.report then some r.report else none⟩ := by
  rw [read?, Json.read?_compact, Option.bind_some]
  cases hreport : request.report with
  | false => simp [ofJson?, renderingJson, hreport]
  | true => simp [ofJson?, renderingJson, hreport, Report.ofJson?_reportJson]

/-! ### What is written -/

/-- What is written of renders, one after another. In JSON each is a line that tells its place in
    the order, its output and, if that is asked for, its report. Otherwise it is the output, and
    where there are several, each of them is made to end a line. -/
inductive WrittenAs (request : RenderRequest) (rs : List Rendering) : String → Prop
  | human (hformat : request.format = .human) :
      WrittenAs request rs (String.join (rs.map fun r =>
        if 1 < rs.length ∧ r.output.endsWith "\n" = false then r.output ++ "\n" else r.output))
  | json {lines : List String} (hformat : request.format = .json)
      (hone : ∀ line ∈ lines, OneLine line)
      (htells : lines.map RenderLine.read? = rs.mapIdx fun i r =>
        some ⟨i, r.output, if request.report then some r.report else none⟩) :
      WrittenAs request rs (String.join (lines.map fun line => line ++ "\n"))

theorem writtenFrom_human {request : RenderRequest} (hformat : request.format = .human)
    (index : Nat) (rs : List Rendering) :
    writtenFrom request index rs = String.join (rs.map fun r =>
      if 1 < request.times ∧ r.output.endsWith "\n" = false then r.output ++ "\n"
      else r.output) := by
  induction rs generalizing index with
  | nil => rfl
  | cons r rs ih =>
    rw [writtenFrom, ih, List.map_cons, String.join_cons]
    congr 1
    rw [written, hformat]
    by_cases hmany : 1 < request.times
    · cases hend : r.output.endsWith "\n" <;> simp [hmany, terminated, hend]
    · simp [hmany]

theorem writtenFrom_json {request : RenderRequest} (hformat : request.format = .json)
    (index : Nat) (rs : List Rendering) :
    writtenFrom request index rs = String.join ((rs.mapIdx fun i r =>
      (renderingJson request (index + i) r).compact).map fun line => line ++ "\n") := by
  induction rs generalizing index with
  | nil => rfl
  | cons r rs ih =>
    rw [writtenFrom, ih, List.mapIdx_cons, List.map_cons, String.join_cons, written, hformat]
    simp only [Nat.add_zero, Nat.add_assoc, Nat.add_comm 1]

theorem writtenAs_writtenFrom (request : RenderRequest) (rs : List Rendering)
    (hlength : rs.length = request.times) : WrittenAs request rs (writtenFrom request 0 rs) := by
  cases hformat : request.format with
  | human =>
    rw [writtenFrom_human hformat, ← hlength]
    exact .human hformat
  | json =>
    rw [writtenFrom_json hformat]
    simp only [Nat.zero_add]
    refine .json hformat ?_ ?_
    · intro line hline
      obtain ⟨i, hi, rfl⟩ := List.mem_mapIdx.1 hline
      exact Json.oneLine_compact _
    · apply List.ext_getElem?
      intro i
      simp only [List.getElem?_map, List.getElem?_mapIdx, Option.map_map, Function.comp_def,
        RenderLine.read?_renderingJson]

theorem writtenFrom_strict (request : RenderRequest) (strict : Bool) (index : Nat)
    (rs : List Rendering) :
    writtenFrom { request with strict := strict } index rs = writtenFrom request index rs := by
  induction rs generalizing index with
  | nil => rfl
  | cons r rs ih =>
    rw [writtenFrom, writtenFrom, ih]
    rfl

/-! ### The command -/

section Render

variable [Dice] {decode : Config.Format} {s : Surroundings} {request : RenderRequest}
  {config : Config} {text : String}

theorem result_engine (hconfig : (configuration decode s request.config).result = .ok config) :
    ∃ e, Engine.ofConfig config = .ok e ∧ (engine decode s request.config).result = .ok e := by
  obtain ⟨r, he, -⟩ := Engine.exists_ofConfig config
  refine ⟨_, he, ?_⟩
  rw [engine, hconfig]
  simp only [he]

theorem render_eq {e : Engine} (hengine : (engine decode s request.config).result = .ok e)
    (htext : template s request.file = .ok text) :
    render decode s request = (renderTemplate e s.world s.words request text).after
      ((engine decode s request.config).records.map Remark.record) := by
  rw [render]
  simp only [hengine, htext]

/-- What is written does not depend on whether a placeholder may be left. -/
theorem output_render_strict (decode : Config.Format) (s : Surroundings) (request : RenderRequest)
    (strict : Bool) :
    (render decode s { request with strict := strict }).output =
      (render decode s request).output := by
  rw [render, render]
  cases (engine decode s request.config).result with
  | error f => rfl
  | ok e =>
    cases template s request.file with
    | error f => rfl
    | ok text => exact writtenFrom_strict request strict 0 _

end Render

/-- The run fails for the placeholders that are left, if none may be, and for nothing else. -/
theorem failure_renderTemplate (e : Engine) (world world' : World) (words words' : Words)
    (request : RenderRequest) (text : String) (htimes : 1 ≤ request.times) :
    (renderTemplate e world words request text).failure =
      if request.strict = true ∧ 0 < (e.render world' words' text).report.unresolved then
        some (.unresolved (request.times * (e.render world' words' text).report.unresolved))
      else none := by
  obtain ⟨hseries, hlength⟩ := e.series_renderings world words text request.times
  rw [renderTemplate]
  simp only [hseries.unresolved_eq world' words', hlength]
  generalize (e.render world' words' text).report.unresolved = u
  have hpos : request.times * u ≠ 0 ↔ 0 < u := by
    rw [Nat.mul_ne_zero_iff, Nat.pos_iff_ne_zero]
    exact and_iff_right (Nat.ne_of_gt htimes)
  by_cases hstrict : request.strict = true
  · by_cases hu : 0 < u
    · simp [hstrict, hu, hpos.2 hu]
    · simp [hstrict, Nat.eq_zero_of_not_pos hu]
  · simp [hstrict]

/-- **Rendering on command writes every render and fails for the placeholders that are left.** Let
    the configuration be loaded, in whatever format, and the template be read. Then the template is
    rendered as often as is asked, and what is written is what the renders are written as, whether
    or not a placeholder may be left. The run fails if and only if none may be and a render leaves
    one, whatever it draws, and the failure tells how many all renders leave together. -/
theorem render_repeats [Dice] (decode : Config.Format) (s : Surroundings) (request : RenderRequest)
    {config : Config} {text : String}
    (hconfig : (configuration decode s request.config).result = .ok config)
    (htext : template s request.file = .ok text) (htimes : 1 ≤ request.times) :
    ∃ e rs, Engine.ofConfig config = .ok e ∧
      e.Series s.world text s.words rs ∧ rs.length = request.times ∧
      WrittenAs request rs (render decode s request).output ∧
      (∀ strict, (render decode s { request with strict := strict }).output =
        (render decode s request).output) ∧
      ∀ world words,
        (render decode s request).failure =
          (if request.strict = true ∧ 0 < (e.render world words text).report.unresolved then
            some (.unresolved (request.times * (e.render world words text).report.unresolved))
          else none) ∧
        ((e.render world words text).report.unresolved = 0 ↔
          (e.render world words text).report.isClean = true) := by
  obtain ⟨e, he, hengine⟩ := result_engine hconfig
  obtain ⟨hseries, hlength⟩ := e.series_renderings s.world s.words text request.times
  refine ⟨e, _, he, hseries, hlength, ?_, output_render_strict decode s request, ?_⟩
  · rw [render_eq hengine htext]
    exact writtenAs_writtenFrom request _ hlength
  · intro world words
    refine ⟨?_, Report.unresolved_eq_zero_iff _⟩
    rw [render_eq hengine htext]
    exact failure_renderTemplate e s.world world s.words words request text htimes

/-- Two renders in JSON with their reports, neither of which may leave a placeholder. -/
def twice : RenderRequest where
  file := none
  config := some "engine.yaml"
  times := 2
  report := true
  metrics := false
  strict := true
  format := .json

/-- The template comes from the standard input. A random text stands in front of a placeholder that
    nothing answers to, and another one is not closed. -/
def leaky : Surroundings where
  world := ⟨0, ⟨[]⟩⟩
  words := .ofSeed 0
  files := FileTree.files ⟨[(["engine.yaml"], .file "limits: \x7bmax_expansions: 9\x7d".toUTF8)]⟩
  input := "$\x7bRANDOM_BOOLEAN\x7d\n$\x7bNOPE\x7d $\x7bRANDOM_INTEGER(1".toUTF8

theorem render_repeats_twice :
    (configuration Config.ofYaml leaky twice.config).result =
        .ok ⟨.standard, ⟨9, 1024⟩, .standard⟩ ∧
      1 ≤ twice.times ∧ (render Config.ofYaml leaky twice).failure = some (.unresolved 4) ∧
      (render Config.ofYaml leaky { twice with strict := false }).output =
        (render Config.ofYaml leaky twice).output ∧
      ∃ rs, rs.length = 2 ∧ WrittenAs twice rs (render Config.ofYaml leaky twice).output := by
  have hconfig : (configuration Config.ofYaml leaky twice.config).result =
      .ok ⟨.standard, ⟨9, 1024⟩, .standard⟩ := by decide +kernel
  have htext : template leaky twice.file =
      .ok "$\x7bRANDOM_BOOLEAN\x7d\n$\x7bNOPE\x7d $\x7bRANDOM_INTEGER(1" := by decide +kernel
  obtain ⟨e, rs, he, -, hlength, hwritten, hstrict, hany⟩ :=
    render_repeats Config.ofYaml leaky twice hconfig htext (by decide)
  obtain ⟨hfailure, -⟩ := hany ⟨0, ⟨[]⟩⟩ ⟨fun _ => 0, 0⟩
  have hleft : (e.render ⟨0, ⟨[]⟩⟩ ⟨fun _ => 0, 0⟩
      "$\x7bRANDOM_BOOLEAN\x7d\n$\x7bNOPE\x7d $\x7bRANDOM_INTEGER(1").report.unresolved = 2 := by
    obtain rfl := Except.ok.inj ((Engine.ofConfig_eq _).symm.trans he)
    decide +kernel
  rw [hleft] at hfailure
  exact ⟨hconfig, by decide, hfailure, hstrict false, rs, hlength, hwritten⟩

end Command

end Stencil
