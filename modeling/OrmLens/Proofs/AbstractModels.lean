/-
  Abstract models.

  A class body makes a model abstract if `abstract = True` stands in it as a statement of its own:
  at its start, at the start of a line or behind a semicolon (`SaysAbstract`,
  `declaresAbstract_iff`). The body that counts should be that of the model's own `Meta`: a class of
  this name in the body of the model and in the body of no class in between (`OwnMeta`).

  The search takes every `Meta` in the body, however deep (`isAbstract_iff_any`; what stands in a
  body is indented deeper, so its indentation need not be asked for). Each of them is the own `Meta`
  of the innermost class around it (`exists_innermost`). So a model counts as abstract exactly if it
  or a class nested in it says so (`isAbstract_iff`), and it is told wrongly exactly if such a class
  says so and the model itself does not.
-/
import Mathlib.Data.List.MinMax
import OrmLens.Model.Inheritance
import OrmLens.Proofs.Source.Bodies

namespace OrmLens.Model

open CharClass Source

/-! ## The statement -/

/-- `abstract = True` stands in a class body as a statement. Blanks may stand around its parts, and
    no longer word may stand at its end. -/
def SaysAbstract (body : Text) : Prop :=
  ∃ before indent gap gap' after : Text,
    body = before ++ (indent ++ ("abstract" ++ (gap ++ '=' :: (gap' ++ ("True" ++ after))))) ∧
    (∀ c ∈ before.getLast?, c = '\n' ∨ c = ';') ∧
    Blank indent ∧ Blank gap ∧ Blank gap' ∧ Stops isWord after

/-- What follows `abstract = True` at the start of a text. -/
def afterAbstract? (t : Text) : Option Text :=
  (Text.after? "abstract" (t.dropWhile isBlank)).bind fun afterName =>
    (mark? '=' afterName).bind fun afterEquals =>
      Text.after? "True" (afterEquals.dropWhile isBlank)

theorem readsAbstract_eq_true_iff {t : Text} :
    readsAbstract t = true ↔ ∃ after, afterAbstract? t = some after ∧ Stops isWord after := by
  unfold readsAbstract
  dsimp only
  split
  · rename_i hfound
    have hnone : afterAbstract? t = none := hfound
    simp [hnone]
  · rename_i hfound
    have hsome : afterAbstract? t = some [] := hfound
    simp [hsome, Stops]
  · rename_i c more hfound
    have hsome : afterAbstract? t = some (c :: more) := hfound
    simp [hsome, Stops]

theorem afterAbstract?_eq_some_iff {t after : Text} :
    afterAbstract? t = some after ↔ ∃ indent gap gap' : Text,
      t = indent ++ ("abstract" ++ (gap ++ '=' :: (gap' ++ ("True" ++ after)))) ∧
      Blank indent ∧ Blank gap ∧ Blank gap' := by
  simp only [afterAbstract?, Option.bind_eq_some_iff, Text.after?_eq_some_iff]
  constructor
  · rintro ⟨afterName, hname, afterEquals, hmark, htrue⟩
    obtain ⟨gap, hgap, rfl⟩ := mark?_eq_some hmark
    refine ⟨t.takeWhile isBlank, gap, afterEquals.takeWhile isBlank, ?_,
      fun c hc => all_of_mem_takeWhile hc, hgap, fun c hc => all_of_mem_takeWhile hc⟩
    rw [← htrue, List.takeWhile_append_dropWhile, ← hname, List.takeWhile_append_dropWhile]
  · rintro ⟨indent, gap, gap', rfl, hindent, hgap, hgap'⟩
    have hname : Stops isBlank ("abstract" ++ (gap ++ '=' :: (gap' ++ ("True" ++ after)))) :=
      stops_cons (by decide) _
    have htrue : Stops isBlank ("True" ++ after) := stops_cons (by decide) _
    exact ⟨_, dropWhile_of_stops hindent hname, _, mark?_append (by decide) hgap _,
      dropWhile_of_stops hgap' htrue⟩

/-- A statement may start where the text starts, if `fresh` says so, or behind a newline or a
    semicolon. -/
theorem declaresAbstractFrom_iff (fresh : Bool) (t : Text) :
    declaresAbstractFrom fresh t = true ↔ ∃ before rest, t = before ++ rest ∧
      (before = [] → fresh = true) ∧ (∀ c ∈ before.getLast?, c = '\n' ∨ c = ';') ∧
      readsAbstract rest = true := by
  induction t generalizing fresh with
  | nil =>
    constructor
    · intro h
      cases h
    · rintro ⟨before, rest, hnil, -, -, hrest⟩
      rw [(List.append_eq_nil_iff.mp hnil.symm).2] at hrest
      cases hrest
  | cons c t ih =>
    rw [declaresAbstractFrom, Bool.or_eq_true, Bool.and_eq_true, ih]
    constructor
    · rintro (⟨hfresh, hread⟩ | ⟨before, rest, rfl, hstart, hend, hread⟩)
      · exact ⟨[], c :: t, rfl, fun _ => hfresh, by simp, hread⟩
      · refine ⟨c :: before, rest, rfl, by simp, ?_, hread⟩
        cases before with
        | nil => simpa using hstart rfl
        | cons d before => simpa using hend
    · rintro ⟨before, rest, htext, hstart, hend, hread⟩
      cases before with
      | nil =>
        rw [List.nil_append] at htext
        exact .inl ⟨hstart rfl, htext ▸ hread⟩
      | cons d before =>
        obtain ⟨rfl, rfl⟩ := List.cons.inj htext
        refine .inr ⟨before, rest, rfl, ?_, ?_, hread⟩
        · rintro rfl
          simpa using hend
        · cases before with
          | nil => simp
          | cons e before => simpa using hend

theorem declaresAbstract_iff (body : Text) : declaresAbstract body = true ↔ SaysAbstract body := by
  rw [declaresAbstract, declaresAbstractFrom_iff]
  constructor
  · rintro ⟨before, rest, rfl, -, hend, hread⟩
    obtain ⟨after, hafter, hstops⟩ := readsAbstract_eq_true_iff.mp hread
    obtain ⟨indent, gap, gap', rfl, hindent, hgap, hgap'⟩ := afterAbstract?_eq_some_iff.mp hafter
    exact ⟨before, indent, gap, gap', after, rfl, hend, hindent, hgap, hgap', hstops⟩
  · rintro ⟨before, indent, gap, gap', after, rfl, hend, hindent, hgap, hgap', hstops⟩
    refine ⟨before, _, rfl, fun _ => rfl, hend, readsAbstract_eq_true_iff.mpr ⟨after, ?_, hstops⟩⟩
    exact afterAbstract?_eq_some_iff.mpr ⟨indent, gap, gap', rfl, hindent, hgap, hgap'⟩

/-! ## Classes in the body of another -/

/-- The header of the second class starts in the body of the first. -/
def Nested (d e : Declaration) : Prop := d.body.start ≤ e.start ∧ e.start < d.body.stop

instance (d e : Declaration) : Decidable (Nested d e) := inferInstanceAs (Decidable (_ ∧ _))

theorem nested_iff_holds {d e : Declaration} : Nested d e ↔ d.body.holds e.start = true := by
  simp [Nested, Span.holds]

section

variable {u : SourceUnit} {d e : Declaration} (hd : d ∈ u.decls)
include hd

theorem start_lt_body_start : d.start < d.body.start := by
  rw [u.decls_eq] at hd
  obtain ⟨before, s, more, rest, -, -, -, hstart, -, hbody, -⟩ := exists_header hd
  have hcolon : (':').utf8Size = 1 := rfl
  rw [hstart, hbody]
  simp only [Text.bytes_append, Text.bytes_cons, Text.bytes_nil]
  omega

theorem Nested.start_lt (h : Nested d e) : d.start < e.start :=
  Nat.lt_of_lt_of_le (start_lt_body_start hd) h.1

/-- What stands in a body is indented deeper. -/
theorem Nested.indent_lt (h : Nested d e) (he : e ∈ u.decls) : d.indent < e.indent := by
  have hstart := h.start_lt hd
  rw [u.decls_eq] at hd he
  by_contra hindent
  have hstop := stop_le_start hd he hstart (Nat.le_of_not_lt hindent)
  exact absurd h.2 (Nat.not_lt.mpr hstop)

end

/-! ## The own `Meta` of a class -/

/-- A class `Meta` in the body of a class, and in the body of no other class in that body. -/
structure OwnMeta (u : SourceUnit) (d m : Declaration) : Prop where
  declared : m ∈ u.decls
  name : m.name = "Meta"
  nested : Nested d m
  innermost : ∀ e ∈ u.decls, Nested d e → ¬ Nested e m

/-- The class says itself that it is abstract. -/
def OwnAbstract (u : SourceUnit) (d : Declaration) : Prop :=
  ∃ m, OwnMeta u d m ∧ SaysAbstract (m.bodyText u.text)

theorem isAbstract_iff_any {u : SourceUnit} {d : Declaration} (hd : d ∈ u.decls) :
    isAbstract u d = true ↔ ∃ m ∈ u.decls, m.name = "Meta" ∧ Nested d m ∧
      SaysAbstract (m.bodyText u.text) := by
  simp only [isAbstract, List.any_eq_true, Bool.and_eq_true, decide_eq_true_eq,
    ← nested_iff_holds, declaresAbstract_iff]
  constructor
  · rintro ⟨m, hm, ⟨⟨hname, -⟩, hnested⟩, hsays⟩
    exact ⟨m, hm, hname, hnested, hsays⟩
  · rintro ⟨m, hm, hname, hnested, hsays⟩
    exact ⟨m, hm, ⟨⟨hname, hnested.indent_lt hd hm⟩, hnested⟩, hsays⟩

/-- **The innermost class** around a class in the body of `d`: it is `d` or stands in the body of
    `d`, and no class of its body has the class in its own. -/
theorem exists_innermost {u : SourceUnit} {d m : Declaration} (hd : d ∈ u.decls)
    (h : Nested d m) : ∃ e ∈ u.decls, (e = d ∨ Nested d e) ∧ Nested e m ∧
      ∀ f ∈ u.decls, Nested e f → ¬ Nested f m := by
  let around := u.decls.filter fun e => (e = d ∨ Nested d e) ∧ Nested e m
  have hmem : ∀ e, e ∈ around ↔ e ∈ u.decls ∧ (e = d ∨ Nested d e) ∧ Nested e m := by
    simp [around]
  have hself : d ∈ around := (hmem d).mpr ⟨hd, .inl rfl, h⟩
  -- Of the classes around it, the one that starts last.
  obtain ⟨e, hlast⟩ : ∃ e, around.argmax (·.start) = some e :=
    Option.ne_none_iff_exists'.mp fun hnone =>
      List.ne_nil_of_mem hself (List.argmax_eq_none.mp hnone)
  obtain ⟨he, hplace, hnested⟩ := (hmem e).mp (List.argmax_mem hlast)
  refine ⟨e, he, hplace, hnested, fun f hf hef hfm => ?_⟩
  have hfrom : d.body.start ≤ f.start := by
    rcases hplace with rfl | hde
    · exact hef.1
    · exact Nat.le_trans hde.1 (Nat.le_of_lt (hef.start_lt he))
  have hto : f.start < d.body.stop := Nat.lt_trans (hfm.start_lt hf) h.2
  have hle : f.start ≤ e.start :=
    List.le_of_mem_argmax ((hmem f).mpr ⟨hf, .inr ⟨hfrom, hto⟩, hfm⟩) hlast
  exact absurd (hef.start_lt he) (Nat.not_lt.mpr hle)

/-- A class nested in another says that it is abstract, in the body of the other. -/
def InnerAbstract (u : SourceUnit) (d : Declaration) : Prop :=
  ∃ e ∈ u.decls, Nested d e ∧ ∃ m, OwnMeta u e m ∧ Nested d m ∧ SaysAbstract (m.bodyText u.text)

/-- **Which models count as abstract.** A class of a unit counts as abstract exactly if it says so
    itself or a class nested in it does, at any depth. So its own `Meta` decides if and only if the
    class says so itself whenever a class nested in it does. -/
theorem isAbstract_iff (u : SourceUnit) (d : Declaration) (hd : d ∈ u.decls) :
    (isAbstract u d = true ↔ OwnAbstract u d ∨ InnerAbstract u d) ∧
      ((isAbstract u d = true ↔ OwnAbstract u d) ↔ (InnerAbstract u d → OwnAbstract u d)) := by
  have hany : isAbstract u d = true ↔ OwnAbstract u d ∨ InnerAbstract u d := by
    rw [isAbstract_iff_any hd]
    constructor
    · rintro ⟨m, hm, hname, hnested, hsays⟩
      obtain ⟨e, he, hplace, hem, hinner⟩ := exists_innermost hd hnested
      have hown : OwnMeta u e m := ⟨hm, hname, hem, hinner⟩
      rcases hplace with rfl | hde
      · exact .inl ⟨m, hown, hsays⟩
      · exact .inr ⟨e, he, hde, m, hown, hnested, hsays⟩
    · rintro (⟨m, hown, hsays⟩ | ⟨e, he, hde, m, hown, hnested, hsays⟩)
      · exact ⟨m, hown.declared, hown.name, hown.nested, hsays⟩
      · exact ⟨m, hown.declared, hown.name, hnested, hsays⟩
  refine ⟨hany, ?_⟩
  rw [hany]
  constructor
  · intro hown hinner
    exact hown.mp (.inr hinner)
  · intro himp
    exact ⟨fun h => h.elim id himp, .inl⟩

/-- A class two levels down says that it is abstract, behind a semicolon; the model's own `Meta`
    does not. -/
theorem isAbstract_iff_two_levels :
    let u : SourceUnit :=
      { path := "m.py"
        text := "class A(Model):\n  class B:\n    class C:\n" ++
          "      class Meta: x = 1; abstract\t=True\n  class Meta:\n    abstract = Truely\n" }
    let a : Declaration := ⟨"A", ["Model"], 0, 0, ⟨15, 116⟩⟩
    a ∈ u.decls ∧ InnerAbstract u a ∧ isAbstract u a = true := by
  intro u a
  let b : Declaration := ⟨"B", [], 2, 16, ⟨26, 80⟩⟩
  let c : Declaration := ⟨"C", [], 4, 27, ⟨39, 80⟩⟩
  let m : Declaration := ⟨"Meta", [], 6, 40, ⟨57, 80⟩⟩
  let own : Declaration := ⟨"Meta", [], 2, 80, ⟨93, 116⟩⟩
  have hread : u.decls = [a, b, c, m, own] := by decide +kernel
  have ha : a ∈ u.decls := by simp [hread]
  have hm : OwnMeta u c m :=
    { declared := by simp [hread]
      name := rfl
      nested := by decide
      innermost := by rw [hread]; decide }
  have hsays : SaysAbstract (m.bodyText u.text) :=
    (declaresAbstract_iff _).mp (by decide +kernel)
  have hinner : InnerAbstract u a :=
    ⟨c, by simp [hread], by decide, m, hm, by decide, hsays⟩
  exact ⟨ha, hinner, (isAbstract_iff u a ha).1.mpr (.inr hinner)⟩

/-- The `Meta` of a class nested in a model makes the model abstract. -/
theorem inner_meta_counts :
    let u : SourceUnit :=
      { path := "m.py"
        text := "class A(Model):\n    class B:\n" ++
          "        class Meta:\n            abstract = True\n" }
    let a : Declaration := ⟨"A", ["Model"], 0, 0, ⟨15, 77⟩⟩
    a ∈ u.decls ∧ isAbstract u a = true ∧ ¬ OwnAbstract u a := by
  intro u a
  let b : Declaration := ⟨"B", [], 4, 16, ⟨28, 77⟩⟩
  let m : Declaration := ⟨"Meta", [], 8, 29, ⟨48, 77⟩⟩
  have hread : u.decls = [a, b, m] := by decide +kernel
  refine ⟨by simp [hread], by decide +kernel, ?_⟩
  rintro ⟨n, hown, -⟩
  have hname : ∀ e ∈ [a, b, m], e.name = "Meta".toList → e = m := by decide
  obtain rfl : n = m := hname n (hread ▸ hown.declared) hown.name
  exact hown.innermost b (by simp [hread]) (by decide) (by decide)

end OrmLens.Model
