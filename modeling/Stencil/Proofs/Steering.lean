import Stencil.Proofs.Registration
import Stencil.Proofs.Splice

/-!
# Answers do not steer a render

Expressions are alike if they have the same identifier and claim the same names, whatever they
answer. Let two renders of one template differ in their answers only. They come to the same
segments, replace the same placeholders, and give the same report. An answer is written in the place
of its placeholder and nowhere else, also where it reads like a delimiter, an escape or a
placeholder.

The two are compared visit by visit (`Engine.SideBySide`). What one visit hands on to the next is a
count and random words, and neither render can tell from the words what the other one does.
-/

namespace Stencil

open Text

/-! ### Expressions that differ in their answers -/

/-- The two have the same identifier and claim the same names. -/
structure Expression.Alike (x y : Expression) : Prop where
  identifier : x.identifier = y.identifier
  claims : ∀ name, x.claims name = y.claims name

theorem Expression.Alike.symm {x y : Expression} (h : x.Alike y) : y.Alike x :=
  ⟨h.identifier.symm, fun name => (h.claims name).symm⟩

namespace Registry

variable {r r' : Registry}

/-- The two hold expressions that are alike, in the same order. -/
def Alike (r r' : Registry) : Prop :=
  List.Forall₂ Expression.Alike r.expressions r'.expressions

theorem find?_alike {p q : Expression → Bool} {l l' : List Expression}
    (hpq : ∀ x y, x.Alike y → p x = q y) (h : List.Forall₂ Expression.Alike l l') :
    Option.Rel Expression.Alike (l.find? p) (l'.find? q) := by
  induction h with
  | nil => exact .none
  | @cons x y l l' hxy _ ih =>
    rw [List.find?_cons, List.find?_cons, ← hpq x y hxy]
    cases p x with
    | true => exact .some hxy
    | false => exact ih

theorem lookup_map_fold (key : List Char) (l : List Expression) :
    (l.map fun x => (fold x.identifier, x)).lookup key =
      l.find? fun x => key == fold x.identifier := by
  induction l with
  | nil => rfl
  | cons x l ih => rw [List.map_cons, List.lookup_cons, List.find?_cons, ih]

theorem Alike.resolve (hr : Keyed r) (hr' : Keyed r') (h : r.Alike r') (identifier : String) :
    Option.Rel Expression.Alike (r.resolve identifier) (r'.resolve identifier) := by
  have hindex : Option.Rel Expression.Alike (r.entries.lookup (fold identifier))
      (r'.entries.lookup (fold identifier)) := by
    rw [hr.entries_eq, hr'.entries_eq, lookup_map_fold, lookup_map_fold]
    apply find?_alike _ h
    intro x y hxy
    rw [hxy.identifier]
  rw [Registry.resolve, Registry.resolve]
  generalize r.entries.lookup (fold identifier) = o at hindex
  generalize r'.entries.lookup (fold identifier) = o' at hindex
  cases hindex with
  | some hxy => exact .some hxy
  | none => exact find?_alike (fun x y hxy => hxy.claims identifier) h

end Registry

namespace Engine

variable {e e' : Engine} {world world' : World}

/-- The two have the same punctuation and limits, and for every identifier expressions that are
    alike, or none. -/
structure Alike (e e' : Engine) : Prop where
  delimiters : e.delimiters = e'.delimiters
  limits : e.limits = e'.limits
  resolve : ∀ identifier, Option.Rel Expression.Alike (e.registry.resolve identifier)
    (e'.registry.resolve identifier)

theorem Alike.refl (e : Engine) : e.Alike e := by
  refine ⟨rfl, rfl, fun identifier => ?_⟩
  cases e.registry.resolve identifier with
  | none => exact .none
  | some x => exact .some ⟨rfl, fun _ => rfl⟩

theorem Alike.symm (h : e.Alike e') : e'.Alike e := by
  refine ⟨h.delimiters.symm, h.limits.symm, ?_⟩
  intro identifier
  have hresolve := h.resolve identifier
  generalize e.registry.resolve identifier = o at hresolve
  generalize e'.registry.resolve identifier = o' at hresolve
  cases hresolve with
  | some hxy => exact .some hxy.symm
  | none => exact .none

theorem Alike.resolve_eq_none_iff (h : e.Alike e') (identifier : String) :
    e.registry.resolve identifier = none ↔ e'.registry.resolve identifier = none := by
  have hresolve := h.resolve identifier
  generalize e.registry.resolve identifier = o at hresolve
  generalize e'.registry.resolve identifier = o' at hresolve
  cases hresolve with
  | some hxy => exact ⟨nofun, nofun⟩
  | none => exact Iff.rfl

theorem Alike.answers (h : e.Alike e') {count : Nat} {body : List Char} {call : Call}
    {x : Expression} (hx : e.Answers count body call x) :
    ∃ y, x.Alike y ∧ e'.Answers count body call y := by
  obtain ⟨hlimit, hread, hresolve⟩ := hx
  have hrel := h.resolve call.identifier
  rw [hresolve] at hrel
  cases hy : e'.registry.resolve call.identifier with
  | none =>
    rw [hy] at hrel
    cases hrel
  | some y =>
    rw [hy] at hrel
    cases hrel with
    | some hxy => exact ⟨y, hxy, h.limits ▸ hlimit, h.delimiters ▸ hread, hy⟩

theorem Answers.unique {count : Nat} {body : List Char} {call call' : Call} {x x' : Expression}
    (h : e.Answers count body call x) (h' : e.Answers count body call' x') :
    call' = call ∧ x' = x := by
  obtain ⟨-, hread, hresolve⟩ := h
  obtain ⟨-, hread', hresolve'⟩ := h'
  obtain rfl := Except.ok.inj (hread.symm.trans hread')
  exact ⟨rfl, Option.some.inj (hresolve'.symm.trans hresolve)⟩

/-! ### Two renders -/

/-- The visits of a render: their segments, the count and the words behind the last of them, what is
    written for them, and what they tell the report. -/
theorem render_visits (e : Engine) (world : World) (words : Words) (template : String) :
    ∃ visits : List Visit,
      visits.map Visit.segment =
        segments e.delimiters e.limits.bodyLength template.toList ∧
      e.Visits world 0 words visits (e.render world words template).report.substituted
        (e.render world words template).words ∧
      (e.render world words template).output = String.ofList (visits.flatMap Visit.written) ∧
      (e.render world words template).report.Fits e visits := by
  obtain ⟨visits, hsegments, hvisits, hshows⟩ := e.exists_visits world
    (cuts e.delimiters e.limits.bodyLength template.toList) 0 words
  rw [Nat.zero_add] at hvisits
  refine ⟨visits, hsegments, hvisits, ?_, fits_of_shows hshows⟩
  have hmap := map_eq_of_shows (fun _ _ hs => hs.text) hshows
  rw [List.flatMap_def, hmap, ← List.flatMap_def]
  rfl

/-- Two visits of one segment: either both write the segment as it is and no expression answers it,
    or both write what their own expression answers to the same call. -/
inductive SideBySide (e e' : Engine) (world world' : World) : Visit → Visit → Prop
  | copied {count : Nat} {words words' : Words} {segment : Segment}
      (hanswers : ∀ raw body, segment = .placeholder raw body →
        ∀ call x, ¬ e.Answers count body call x) :
      SideBySide e e' world world' ⟨count, words, segment, segment.text⟩
        ⟨count, words', segment, segment.text⟩
  | answered {count : Nat} {words words' : Words} {raw body : List Char} {call : Call}
      {x y : Expression} (halike : x.Alike y) (hx : e.Answers count body call x)
      (hy : e'.Answers count body call y) :
      SideBySide e e' world world'
        ⟨count, words, .placeholder raw body, (x.generate world call words).value.toList⟩
        ⟨count, words', .placeholder raw body, (y.generate world' call words').value.toList⟩

theorem Visits.sideBySide (he : e.Alike e') {count n n' : Nat} {words words' w w' : Words}
    {visits visits' : List Visit} (h : e.Visits world count words visits n w)
    (h' : e'.Visits world' count words' visits' n' w')
    (hsegments : visits.map Visit.segment = visits'.map Visit.segment) :
    List.Forall₂ (SideBySide e e' world world') visits visits' ∧ n = n' := by
  induction h generalizing words' visits' with
  | nil =>
    obtain rfl := List.map_eq_nil_iff.1 hsegments.symm
    cases h'
    exact ⟨.nil, rfl⟩
  | copied hplace _ ih =>
    cases h' with
    | nil => cases hsegments
    | copied _ hrest' =>
      obtain ⟨rfl, htail⟩ := List.cons.inj hsegments
      obtain ⟨hboth, hcount⟩ := ih hrest' htail
      refine ⟨.cons (.copied ?_) hboth, hcount⟩
      rintro raw body rfl
      cases hplace
    | replaced _ _ | left _ _ =>
      obtain ⟨rfl, -⟩ := List.cons.inj hsegments
      cases hplace
  | replaced hx _ ih =>
    obtain ⟨y, halike, hy⟩ := he.answers hx
    cases h' with
    | nil => cases hsegments
    | copied hplace _ =>
      obtain ⟨rfl, -⟩ := List.cons.inj hsegments
      cases hplace
    | replaced hy' hrest' =>
      obtain ⟨hsegment, htail⟩ := List.cons.inj hsegments
      cases hsegment
      obtain ⟨rfl, rfl⟩ := hy.unique hy'
      obtain ⟨hboth, hcount⟩ := ih hrest' htail
      exact ⟨.cons (.answered halike hx hy) hboth, hcount⟩
    | left hno _ =>
      obtain ⟨hsegment, -⟩ := List.cons.inj hsegments
      cases hsegment
      exact absurd hy (hno _ _)
  | left hno _ ih =>
    cases h' with
    | nil => cases hsegments
    | copied hplace _ =>
      obtain ⟨rfl, -⟩ := List.cons.inj hsegments
      cases hplace
    | replaced hy _ =>
      obtain ⟨hsegment, -⟩ := List.cons.inj hsegments
      cases hsegment
      obtain ⟨x, -, hx⟩ := he.symm.answers hy
      exact absurd hx (hno _ _)
    | left _ hrest' =>
      obtain ⟨hsegment, htail⟩ := List.cons.inj hsegments
      cases hsegment
      obtain ⟨hboth, hcount⟩ := ih hrest' htail
      refine ⟨.cons (.copied ?_) hboth, hcount⟩
      intro raw' body' hsegment
      cases hsegment
      exact hno

/-! ### Two reports -/

theorem SideBySide.segment {v v' : Visit} (h : SideBySide e e' world world' v v') :
    v.segment = v'.segment := by
  cases h <;> rfl

theorem SideBySide.count {v v' : Visit} (h : SideBySide e e' world world' v v') :
    v.count = v'.count := by
  cases h <;> rfl

theorem SideBySide.unknown? (he : e.Alike e') {v v' : Visit}
    (h : SideBySide e e' world world' v v') : v.unknown? e = v'.unknown? e' := by
  rw [Visit.unknown?, Visit.unknown?, h.segment, h.count, he.delimiters, he.limits]
  simp only [he.resolve_eq_none_iff]

theorem SideBySide.isMalformed (he : e.Alike e') {v v' : Visit}
    (h : SideBySide e e' world world' v v') : v.isMalformed e = v'.isMalformed e' := by
  rw [Visit.isMalformed, Visit.isMalformed, h.segment, h.count, he.delimiters, he.limits]

theorem SideBySide.isSkipped (he : e.Alike e') {v v' : Visit}
    (h : SideBySide e e' world world' v v') : v.isSkipped e = v'.isSkipped e' := by
  rw [Visit.isSkipped, Visit.isSkipped, h.segment, h.count, he.limits]

theorem map_eq_of_sideBySide {α : Type} {f g : Visit → α} {visits visits' : List Visit}
    (hfg : ∀ v v', SideBySide e e' world world' v v' → f v = g v')
    (h : List.Forall₂ (SideBySide e e' world world') visits visits') :
    visits.map f = visits'.map g := by
  induction h with
  | nil => rfl
  | cons hv _ ih => rw [List.map_cons, List.map_cons, hfg _ _ hv, ih]

theorem countP_eq_of_sideBySide {f g : Visit → Bool} {visits visits' : List Visit}
    (hfg : ∀ v v', SideBySide e e' world world' v v' → f v = g v')
    (h : List.Forall₂ (SideBySide e e' world world') visits visits') :
    visits.countP f = visits'.countP g := by
  have hmap := congrArg (List.countP id) (map_eq_of_sideBySide hfg h)
  simpa only [List.countP_map, Function.id_comp] using hmap

/-- Reports on visits that are side by side differ at most in the number of replacements. -/
theorem report_eq_of_sideBySide (he : e.Alike e') {visits visits' : List Visit} {r r' : Report}
    (h : List.Forall₂ (SideBySide e e' world world') visits visits') (hr : r.Fits e visits)
    (hr' : r'.Fits e' visits') (hsubstituted : r.substituted = r'.substituted) : r = r' := by
  have hunknown : r.unknown = r'.unknown := by
    have hmap :=
      congrArg (List.filterMap id) (map_eq_of_sideBySide (fun _ _ hv => hv.unknown? he) h)
    rw [List.filterMap_map, List.filterMap_map] at hmap
    rw [hr.unknown, hr'.unknown]
    exact hmap
  have hmalformed : r.malformed = r'.malformed := by
    rw [hr.malformed, hr'.malformed]
    exact countP_eq_of_sideBySide (fun _ _ hv => hv.isMalformed he) h
  have hskipped : r.skipped = r'.skipped := by
    rw [hr.skipped, hr'.skipped]
    exact countP_eq_of_sideBySide (fun _ _ hv => hv.isSkipped he) h
  have hescaped : r.escaped = r'.escaped := by
    rw [hr.escaped, hr'.escaped]
    exact countP_eq_of_sideBySide (fun _ _ hv => congrArg Segment.isEscaped hv.segment) h
  have hunterminated : r.unterminated = r'.unterminated := by
    have hsegments := map_eq_of_sideBySide (fun _ _ hv => hv.segment) h
    have hiff (l : List Visit) : (∃ v ∈ l, v.segment.isUnterminated = true) ↔
        (l.map Visit.segment).any Segment.isUnterminated = true := by
      simp
    rw [Bool.eq_iff_iff, hr.unterminated, hr'.unterminated, hiff, hiff, hsegments]
  cases r
  cases r'
  simp only [Report.mk.injEq]
  exact ⟨hsubstituted, hunknown, hmalformed, hunterminated, hskipped, hescaped⟩

/-- Whatever is drawn, and whatever the world is like, the report is the same. -/
theorem report_eq (e : Engine) (world world' : World) (words words' : Words) (template : String) :
    (e.render world words template).report = (e.render world' words' template).report := by
  obtain ⟨visits, hsegments, hvisits, -, hfits⟩ := e.render_visits world words template
  obtain ⟨visits', hsegments', hvisits', -, hfits'⟩ := e.render_visits world' words' template
  have he := Alike.refl e
  obtain ⟨hboth, hcount⟩ := hvisits.sideBySide he hvisits' (hsegments.trans hsegments'.symm)
  exact report_eq_of_sideBySide he hboth hfits hfits' hcount

end Engine

/-- **Answers do not steer a render.** Let two registries hold expressions that differ in their
    answers only. With the same punctuation and limits, their renders of a template give the same
    report, in whatever worlds and with whatever random words. The two outputs are written segment
    by segment, side by side: the text of the segment in both, or in each what its own expression
    answers, as it is. -/
theorem render_alike {r r' : Registry} (hr : r.Reachable) (hr' : r'.Reachable) (h : r.Alike r')
    (d : Delimiters) (l : Limits) (world world' : World) (words words' : Words)
    (template : String) :
    (Engine.render ⟨r, d, l⟩ world words template).report =
      (Engine.render ⟨r', d, l⟩ world' words' template).report ∧
    ∃ visits visits' : List Visit,
      visits.map Visit.segment = segments d l.bodyLength template.toList ∧
      Engine.Visits ⟨r, d, l⟩ world 0 words visits
        (Engine.render ⟨r, d, l⟩ world words template).report.substituted
        (Engine.render ⟨r, d, l⟩ world words template).words ∧
      Engine.Visits ⟨r', d, l⟩ world' 0 words' visits'
        (Engine.render ⟨r', d, l⟩ world' words' template).report.substituted
        (Engine.render ⟨r', d, l⟩ world' words' template).words ∧
      (Engine.render ⟨r, d, l⟩ world words template).output =
        String.ofList (visits.flatMap Visit.written) ∧
      (Engine.render ⟨r', d, l⟩ world' words' template).output =
        String.ofList (visits'.flatMap Visit.written) ∧
      List.Forall₂ (Engine.SideBySide ⟨r, d, l⟩ ⟨r', d, l⟩ world world') visits visits' := by
  have he : Engine.Alike ⟨r, d, l⟩ ⟨r', d, l⟩ := ⟨rfl, rfl, h.resolve hr.keyed hr'.keyed⟩
  obtain ⟨visits, hsegments, hvisits, houtput, hfits⟩ :=
    Engine.render_visits ⟨r, d, l⟩ world words template
  obtain ⟨visits', hsegments', hvisits', houtput', hfits'⟩ :=
    Engine.render_visits ⟨r', d, l⟩ world' words' template
  obtain ⟨hboth, hcount⟩ := hvisits.sideBySide he hvisits' (hsegments.trans hsegments'.symm)
  exact ⟨Engine.report_eq_of_sideBySide he hboth hfits hfits' hcount,
    visits, visits', hsegments, hvisits, hvisits', houtput, houtput', hboth⟩

def Expression.saying (value : String) : Expression :=
  .plain "PICK" "" fun _ _ words => Expression.fixed value words

theorem Expression.alike_saying (value value' : String) :
    (saying value).Alike (saying value') :=
  ⟨rfl, fun _ => rfl⟩

/-- An answer that reads like an escape and a placeholder. -/
theorem render_alike_deceptive :
    (Registry.ofHistory [.saying "x"]).Reachable ∧
      (Registry.ofHistory [.saying "$$\x7b$\x7bPICK\x7d"]).Reachable ∧
      (Registry.ofHistory [.saying "x"]).Alike
        (Registry.ofHistory [.saying "$$\x7b$\x7bPICK\x7d"]) ∧
      (Engine.render ⟨Registry.ofHistory [.saying "$$\x7b$\x7bPICK\x7d"], .standard, ⟨1, 1024⟩⟩
        ⟨7, ⟨[]⟩⟩ ⟨fun _ => 1, 0⟩ "$\x7bNONE\x7d$\x7bpick\x7d$\x7bPICK\x7d").report =
          ⟨1, ["NONE"], 0, false, 1, 0⟩ ∧
      (Engine.render ⟨Registry.ofHistory [.saying "$$\x7b$\x7bPICK\x7d"], .standard, ⟨1, 1024⟩⟩
        ⟨7, ⟨[]⟩⟩ ⟨fun _ => 1, 0⟩ "$\x7bNONE\x7d$\x7bpick\x7d$\x7bPICK\x7d").output =
          "$\x7bNONE\x7d$$\x7b$\x7bPICK\x7d$\x7bPICK\x7d" := by
  have hr := Registry.reachable_ofHistory [.saying "x"]
  have hr' := Registry.reachable_ofHistory [.saying "$$\x7b$\x7bPICK\x7d"]
  have halike : (Registry.ofHistory [.saying "x"]).Alike
      (Registry.ofHistory [.saying "$$\x7b$\x7bPICK\x7d"]) :=
    .cons (Expression.alike_saying _ _) .nil
  obtain ⟨hreport, -⟩ := render_alike hr hr' halike .standard ⟨1, 1024⟩ ⟨0, ⟨[]⟩⟩ ⟨7, ⟨[]⟩⟩
    ⟨fun _ => 0, 0⟩ ⟨fun _ => 1, 0⟩ "$\x7bNONE\x7d$\x7bpick\x7d$\x7bPICK\x7d"
  have hplain : (Engine.render ⟨Registry.ofHistory [.saying "x"], .standard, ⟨1, 1024⟩⟩
      ⟨0, ⟨[]⟩⟩ ⟨fun _ => 0, 0⟩ "$\x7bNONE\x7d$\x7bpick\x7d$\x7bPICK\x7d").report =
        ⟨1, ["NONE"], 0, false, 1, 0⟩ := by decide +kernel
  refine ⟨hr, hr', halike, hreport.symm.trans hplain, ?_⟩
  decide +kernel

end Stencil
