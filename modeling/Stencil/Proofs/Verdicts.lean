import Stencil.Command.Checking
import Stencil.Config.Decode
import Stencil.Proofs.JsonReading
import Stencil.Proofs.Loading

/-!
# Verdicts on configurations

What the check of a file finds, as one rule for each way to end (`Command.Verdict`): the
configuration that the file describes has no error, and no warning either where that is asked; it
has warnings where none is wanted; it has errors, which are listed; or the file cannot be loaded at
all, for one reason. A report says that the file passes exactly if there is no failure, and all that
a run tells follows from the verdicts. Every file gets its report, also behind one that fails, and
the run fails with the failure of the first file that does not pass.

What is printed of the reports (`Command.ReportedAs`) is in JSON a text in which a reader finds them
again, and otherwise lines: the file with its status, and below it one line for each message.
-/

namespace Stencil.Command

open Text

variable {decode : Config.Format} {s : Surroundings} {strict : Bool} {file : String}

/-! ### What a file describes -/

/-- The configuration that a file describes, with the numbers of the environment put in. -/
def Describes (decode : Config.Format) (s : Surroundings) (file : String) (c : Config) : Prop :=
  ∃ text written, s.files.read file = .ok text ∧ decode text = .ok written ∧
    written.OverriddenTo (some s.world.environment.text?) c

def issuesOf (severity : Severity) (c : Config) : List Issue :=
  c.issues.filter fun i => i.severity = severity

theorem issuesOf_eq_nil_iff {severity : Severity} {c : Config} :
    issuesOf severity c = [] ↔ ∀ i ∈ c.issues, i.severity ≠ severity := by
  simp [issuesOf, List.filter_eq_nil_iff]

/-- The ways to end of loading a file. -/
inductive Outcome (decode : Config.Format) (s : Surroundings) (file : String) :
    Except ConfigError Loaded → Prop
  | loaded {c : Config} (hdescribes : Describes decode s file c)
      (herrors : issuesOf .error c = []) :
      Outcome decode s file (.ok ⟨c, issuesOf .warning c⟩)
  | notValid {c : Config} (hdescribes : Describes decode s file c)
      (herrors : issuesOf .error c ≠ []) :
      Outcome decode s file (.error (.notValid file (issuesOf .error c)))
  | notLoaded {e : ConfigError} (hother : ∀ path issues, e ≠ .notValid path issues) :
      Outcome decode s file (.error e)

theorem outcome_loadConfig (decode : Config.Format) (s : Surroundings) (file : String) :
    Outcome decode s file (loadConfig decode s file).result := by
  rw [loadConfig, Config.loadFile]
  cases hentry : s.files.entry file with
  | error fault => exact .notLoaded nofun
  | ok entry =>
    dsimp only
    split
    · exact .notLoaded nofun
    cases htext : entry.text with
    | error fault => exact .notLoaded nofun
    | ok text =>
      have hread : s.files.read file = .ok text := by
        rw [Files.read, hentry]
        exact htext
      have hloads := Config.loads_loadText decode (some s.world.environment.text?) file text
      dsimp only
      generalize (Config.loadText decode (some s.world.environment.text?) file text).result =
        result at hloads
      cases hloads with
      | blank hblank => exact .notLoaded nofun
      | notReadable hblank hformat => exact .notLoaded nofun
      | badValue hblank hformat hbad => exact .notLoaded nofun
      | notValid hblank hformat hoverridden herror =>
        refine .notValid ⟨text, _, hread, hformat, hoverridden⟩ ?_
        intro hnil
        obtain ⟨i, hi, hseverity⟩ := herror
        exact issuesOf_eq_nil_iff.1 hnil i hi hseverity
      | loaded hblank hformat hoverridden hvalid =>
        exact .loaded ⟨text, _, hread, hformat, hoverridden⟩ (issuesOf_eq_nil_iff.2 hvalid)

/-! ### The verdict on a file -/

/-- The ways to end of the check of a file: the report, and why the file does not pass. -/
inductive Verdict (decode : Config.Format) (s : Surroundings) (strict : Bool) (file : String) :
    CheckReport × Option Failure → Prop
  | passed {c : Config} (hdescribes : Describes decode s file c)
      (hload : (loadConfig decode s file).result = .ok ⟨c, issuesOf .warning c⟩)
      (herrors : issuesOf .error c = []) (hstrict : strict = true → issuesOf .warning c = []) :
      Verdict decode s strict file (⟨file, true, [], (issuesOf .warning c).map Issue.display⟩, none)
  | warned {c : Config} (hdescribes : Describes decode s file c)
      (hload : (loadConfig decode s file).result = .ok ⟨c, issuesOf .warning c⟩)
      (herrors : issuesOf .error c = []) (hstrict : strict = true)
      (hwarnings : issuesOf .warning c ≠ []) :
      Verdict decode s strict file (⟨file, false, [], (issuesOf .warning c).map Issue.display⟩,
        some (.config (.notValid file (issuesOf .warning c))))
  | notValid {c : Config} (hdescribes : Describes decode s file c)
      (hload : (loadConfig decode s file).result = .error (.notValid file (issuesOf .error c)))
      (herrors : issuesOf .error c ≠ []) :
      Verdict decode s strict file (⟨file, false, (issuesOf .error c).map Issue.display, []⟩,
        some (.config (.notValid file (issuesOf .error c))))
  | notLoaded {e : ConfigError} (hload : (loadConfig decode s file).result = .error e)
      (hother : ∀ path issues, e ≠ .notValid path issues) :
      Verdict decode s strict file (⟨file, false, [e.message], []⟩, some (.config e))

theorem errorTexts_of_ne {e : ConfigError} (h : ∀ path issues, e ≠ .notValid path issues) :
    errorTexts e = [e.message] := by
  cases e with
  | notValid path issues => exact absurd rfl (h path issues)
  | notReadable path fault => rfl
  | missingFile path => rfl
  | tooLarge path size limit => rfl
  | badValue field value expected => rfl

theorem verdict_check (decode : Config.Format) (s : Surroundings) (strict : Bool) (file : String) :
    Verdict decode s strict file (check decode s strict file) := by
  have houtcome := outcome_loadConfig decode s file
  rw [check]
  generalize hresult : (loadConfig decode s file).result = result at houtcome
  cases houtcome with
  | @loaded c hdescribes herrors =>
    by_cases hfails : strict = true ∧ issuesOf .warning c ≠ []
    · have hcondition : (strict && !(issuesOf .warning c).isEmpty) = true := by
        simpa using hfails
      simp only [CheckReport.ofResult, hcondition, if_true]
      exact .warned hdescribes hresult herrors hfails.1 hfails.2
    · have hcondition : (strict && !(issuesOf .warning c).isEmpty) = false := by
        simpa using hfails
      simp only [CheckReport.ofResult, hcondition, Bool.false_eq_true, if_false]
      exact .passed hdescribes hresult herrors (by simpa using hfails)
  | notValid hdescribes herrors => exact .notValid hdescribes hresult herrors
  | notLoaded hother =>
    simp only [CheckReport.ofResult, errorTexts_of_ne hother]
    exact .notLoaded hresult hother

namespace Verdict

variable {judged : CheckReport × Option Failure}

theorem valid_iff_failure (h : Verdict decode s strict file judged) :
    judged.1.valid = true ↔ judged.2 = none := by
  cases h <;> simp

/-- A file passes exactly if it can be loaded, without warnings where that is asked. -/
theorem valid_iff (h : Verdict decode s strict file judged) :
    judged.1.valid = true ↔
      ∃ loaded, (loadConfig decode s file).result = .ok loaded ∧
        (strict = true → loaded.warnings = []) := by
  cases h with
  | passed hdescribes hload herrors hstrict => simpa [hload] using hstrict
  | warned hdescribes hload herrors hstrict hwarnings => simp [hload, hstrict, hwarnings]
  | notValid hdescribes hload herrors => simp [hload]
  | notLoaded hload hother => simp [hload]

/-- What passes without warnings passes where warnings are allowed, and the reports are the same. -/
theorem lenient (h : Verdict decode s true file judged) (hvalid : judged.1.valid = true) :
    Verdict decode s false file judged := by
  cases h with
  | passed hdescribes hload herrors hstrict =>
    exact .passed hdescribes hload herrors nofun
  | warned hdescribes hload herrors hstrict hwarnings => cases hvalid
  | notValid hdescribes hload herrors => cases hvalid
  | notLoaded hload hother => cases hvalid

/-- No rule leads to anything else. -/
theorem check_eq (h : Verdict decode s strict file judged) :
    check decode s strict file = judged := by
  cases h with
  | passed hdescribes hload herrors hstrict =>
    rw [check, hload, CheckReport.ofResult, if_neg (by simpa using hstrict)]
    rfl
  | warned hdescribes hload herrors hstrict hwarnings =>
    rw [check, hload, CheckReport.ofResult, if_pos (by simp [hstrict, hwarnings])]
    rfl
  | notValid hdescribes hload herrors =>
    rw [check, hload]
    rfl
  | notLoaded hload hother =>
    rw [check, hload, CheckReport.ofResult, errorTexts_of_ne hother]

/-- The report is about the file. -/
theorem file_eq (h : Verdict decode s strict file judged) : judged.1.file = file := by
  cases h <;> rfl

end Verdict

/-! ### The verdicts on all files -/

/-- **One report for each file, and the first failure**, if there was none before. -/
theorem checkAll_eq (decode : Config.Format) (s : Surroundings) (strict : Bool)
    (earlier : Option Failure) (files : List String) :
    checkAll decode s strict earlier files =
      ((files.map (check decode s strict)).map Prod.fst,
        earlier.or ((files.map (check decode s strict)).findSome? Prod.snd)) := by
  induction files generalizing earlier with
  | nil => simp [checkAll]
  | cons file files ih =>
    cases hcheck : check decode s strict file with
    | mk report failure =>
      simp only [checkAll, hcheck, ih, List.map_cons, List.findSome?_cons, Option.or_assoc]
      cases failure <;> rfl

theorem forall₂_verdict_check (decode : Config.Format) (s : Surroundings) (strict : Bool)
    (files : List String) :
    List.Forall₂ (Verdict decode s strict) files (files.map (check decode s strict)) := by
  induction files with
  | nil => exact .nil
  | cons file files ih => exact .cons (verdict_check decode s strict file) ih

theorem validate_eq (decode : Config.Format) (s : Surroundings) (request : CheckRequest) :
    validate decode s request =
      { output := reportsText request.format
          ((request.files.map (check decode s request.strict)).map Prod.fst)
        remarks := request.files.flatMap (checkRemarks decode s)
        failure := (request.files.map (check decode s request.strict)).findSome? Prod.snd } := by
  rw [validate, checkAll_eq, Option.none_or]

theorem valid_iff_failure_of_mem (decode : Config.Format) (s : Surroundings) (strict : Bool)
    (files : List String) :
    ∀ j ∈ files.map (check decode s strict), j.1.valid = true ↔ j.2 = none := by
  intro j hj
  obtain ⟨file, -, rfl⟩ := List.mem_map.1 hj
  exact (verdict_check decode s strict file).valid_iff_failure

/-- A run without failure would have given the same verdicts if warnings had been allowed. -/
theorem check_lenient {files : List String}
    (h : ∀ j ∈ files.map (check decode s true), j.1.valid = true) :
    files.map (check decode s false) = files.map (check decode s true) := by
  refine List.map_congr_left fun file hfile => ?_
  have hvalid := h _ (List.mem_map_of_mem hfile)
  exact ((verdict_check decode s true file).lenient hvalid).check_eq

/-! ### What is printed -/

def CheckReport.ofJson? (v : Json) : Option CheckReport := do
  let file ← (v.get? "file").bind Json.text?
  let valid ← (v.get? "valid").bind Json.truth?
  let errors ← (v.get? "errors").bind Json.texts?
  let warnings ← (v.get? "warnings").bind Json.texts?
  return ⟨file, valid, errors, warnings⟩

def CheckReport.readAll? (text : String) : Option (List CheckReport) :=
  (Json.read? text).bind (Json.all? ofJson?)

theorem CheckReport.ofJson?_json (r : CheckReport) : ofJson? r.json = some r := by
  simp [ofJson?, json]

/-- What is printed of reports, in their order. In JSON all of them are found in the text. Otherwise
    each begins with a line that tells the file and whether it passes, and a line for each error and
    then for each warning comes below it. -/
inductive ReportedAs (request : CheckRequest) (reports : List CheckReport) : String → Prop
  | human (hformat : request.format = .human) :
      ReportedAs request reports (String.join (reports.map fun r =>
        r.file ++ (if r.valid then ": ok\n" else ": FAILED\n") ++
          String.join ((r.errors ++ r.warnings).map fun message => "  " ++ message ++ "\n")))
  | json {text : String} (hformat : request.format = .json)
      (htells : CheckReport.readAll? text = some reports) : ReportedAs request reports text

theorem unlines_append (lines lines' : List String) :
    unlines (lines ++ lines') = unlines lines ++ unlines lines' := by
  rw [unlines, List.map_append, String.join_append]
  rfl

theorem reportsText_human (reports : List CheckReport) :
    reportsText .human reports = String.join (reports.map fun r =>
      r.file ++ (if r.valid then ": ok\n" else ": FAILED\n") ++
        String.join ((r.errors ++ r.warnings).map fun message => "  " ++ message ++ "\n")) := by
  rw [reportsText]
  induction reports with
  | nil => rfl
  | cons r reports ih =>
    rw [List.flatMap_cons, unlines_append, ih, List.map_cons, String.join_cons]
    congr 1
    rw [unlines, CheckReport.lines, List.map_cons, String.join_cons, List.map_map]
    have hstatus : r.file ++ ": " ++ (if r.valid then "ok" else "FAILED") ++ "\n" =
        r.file ++ if r.valid then ": ok\n" else ": FAILED\n" := by
      rw [String.append_assoc, String.append_assoc]
      cases r.valid <;> rfl
    rw [hstatus]
    rfl

theorem reportedAs_reportsText (request : CheckRequest) (reports : List CheckReport) :
    ReportedAs request reports (reportsText request.format reports) := by
  cases hformat : request.format with
  | human =>
    rw [reportsText_human]
    exact .human hformat
  | json =>
    apply ReportedAs.json hformat
    rw [CheckReport.readAll?, reportsText, Json.read?_pretty, Option.bind_some]
    exact Json.all?_array CheckReport.json CheckReport.ofJson?_json reports

/-! ### The command -/

/-- **The run judges every file, and fails for the first one that does not pass.** There is one
    verdict for each file, in the order of the files, and it is what the rules say: a file passes if
    and only if it can be loaded, without warnings where that is asked; one that cannot be loaded
    has its errors listed, or the one reason there is. The reports of all verdicts are printed. The
    run fails if and only if some file does not pass, and then with the failure of the first such
    file. A strict run without failure leaves exactly the same behind if it is not strict. -/
theorem validate_judges (decode : Config.Format) (s : Surroundings) (request : CheckRequest) :
    ∃ judged : List (CheckReport × Option Failure),
      List.Forall₂ (Verdict decode s request.strict) request.files judged ∧
      List.Forall₂ (fun file j => j.1.file = file ∧
        (j.1.valid = true ↔ ∃ loaded, (loadConfig decode s file).result = .ok loaded ∧
          (request.strict = true → loaded.warnings = []))) request.files judged ∧
      ReportedAs request (judged.map Prod.fst) (validate decode s request).output ∧
      ((validate decode s request).failure = none ↔ ∀ j ∈ judged, j.1.valid = true) ∧
      (∀ before j after, judged = before ++ j :: after →
        (∀ j' ∈ before, j'.1.valid = true) → j.1.valid = false →
          j.2 ≠ none ∧ (validate decode s request).failure = j.2) ∧
      (request.strict = true → (validate decode s request).failure = none →
        List.Forall₂ (Verdict decode s false) request.files judged ∧
          validate decode s { request with strict := false } = validate decode s request) := by
  have hvalid := valid_iff_failure_of_mem decode s request.strict request.files
  have hfails : (validate decode s request).failure = none ↔
      ∀ j ∈ request.files.map (check decode s request.strict), j.1.valid = true := by
    rw [validate_eq, List.findSome?_eq_none_iff]
    exact forall₂_congr fun j hj => (hvalid j hj).symm
  refine ⟨request.files.map (check decode s request.strict), forall₂_verdict_check _ _ _ _, ?_, ?_,
    hfails, ?_, ?_⟩
  · exact (forall₂_verdict_check decode s request.strict request.files).imp
      fun file j h => ⟨h.file_eq, h.valid_iff⟩
  · rw [validate_eq]
    exact reportedAs_reportsText request _
  · intro before j after hjudged hbefore hj
    rw [hjudged] at hvalid
    have hnone : j.2 ≠ none := by
      intro h
      rw [(hvalid j (by simp)).2 h] at hj
      cases hj
    refine ⟨hnone, ?_⟩
    obtain ⟨failure, hfailure⟩ := Option.ne_none_iff_exists'.1 hnone
    have hpassed : before.findSome? Prod.snd = none := by
      rw [List.findSome?_eq_none_iff]
      intro j' hj'
      exact (hvalid j' (by simp [hj'])).1 (hbefore j' hj')
    rw [validate_eq, hjudged, List.findSome?_append, hpassed, Option.none_or,
      List.findSome?_cons, hfailure]
  · intro hstrict hnone
    have hall := hfails.1 hnone
    rw [hstrict] at hall ⊢
    have hsame := check_lenient hall
    constructor
    · rw [← hsame]
      exact forall₂_verdict_check _ _ _ _
    · rw [validate_eq, validate_eq, hstrict]
      simp only [hsame]

/-- Three files, the second of which cannot be read. -/
def trio : CheckRequest := ⟨["first.yaml", "locked.yaml", "last.yaml"], .human, false⟩

/-- The first file gives a warning. -/
def office : Surroundings where
  world := ⟨0, ⟨[]⟩⟩
  words := .ofSeed 0
  files := FileTree.files ⟨[
    (["first.yaml"], .file "expressions: \x7benable_environment: true\x7d".toUTF8),
    (["locked.yaml"], .locked 12 "Permission denied (os error 13)"),
    (["last.yaml"], .file "limits: \x7bmax_expansions: 9\x7d".toUTF8)]⟩
  input := ⟨#[]⟩

theorem validate_judges_trio :
    (validate Config.ofYaml office trio).failure = some (.config (.notReadable "locked.yaml"
      (.unreadable (.other "Permission denied (os error 13)")))) ∧
    (validate Config.ofYaml office trio).output =
      "first.yaml: ok\n" ++
      "  warning: templates can read any process environment variable " ++
      "at expressions.enable_environment\n" ++
      "locked.yaml: FAILED\n" ++
      "  parse error in locked.yaml: Permission denied (os error 13)\n" ++
      "last.yaml: ok\n" := by
  obtain ⟨judged, hverdicts, -, hprinted, -, hfails, -⟩ := validate_judges Config.ofYaml office trio
  rcases hverdicts with - | ⟨hfirst, - | ⟨hlocked, - | ⟨hlast, ⟨⟩⟩⟩⟩
  have hwarned : check Config.ofYaml office false "first.yaml" =
      (⟨"first.yaml", true, [], ["warning: templates can read any process environment variable " ++
        "at expressions.enable_environment"]⟩, none) := by
    decide +kernel
  have hfaulty : check Config.ofYaml office false "locked.yaml" =
      (⟨"locked.yaml", false, ["parse error in locked.yaml: Permission denied (os error 13)"], []⟩,
        some (.config (.notReadable "locked.yaml"
          (.unreadable (.other "Permission denied (os error 13)"))))) := by decide +kernel
  have hclean : check Config.ofYaml office false "last.yaml" =
      (⟨"last.yaml", true, [], []⟩, none) := by decide +kernel
  obtain rfl := hwarned.symm.trans hfirst.check_eq
  obtain rfl := hfaulty.symm.trans hlocked.check_eq
  obtain rfl := hclean.symm.trans hlast.check_eq
  constructor
  · exact (hfails [_] _ [_] rfl (by simp) rfl).2
  · generalize (validate Config.ofYaml office trio).output = output at hprinted
    cases hprinted with
    | human _ => decide +kernel
    | json hformat => cases hformat

end Stencil.Command
