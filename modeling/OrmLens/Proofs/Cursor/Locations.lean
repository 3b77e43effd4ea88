/-
  Locations lead to the declarations.

  The places that extraction records are lines of the text that show the declared names
  (`shown_entityOf`). Of every entity in the graph the text in force is the one it was extracted
  from, so its places, and those of its members, are lines of texts in force (`placed`). A reverse
  field has no place of its own; it leads to the relational field that put it there, which the
  source entity still has.

  `locations_current` says this for every run of calls, of the places stored and of the places that
  words at the cursor lead to.
-/
import OrmLens.Proofs.Cursor.Grounded
import OrmLens.Proofs.Index.Members
import OrmLens.Proofs.Source.Places

namespace OrmLens

open Source

namespace Model

/-! ## Places that extraction records -/

theorem mem_of_mem_callsOf {u : SourceUnit} {d : Declaration} {call : CallAssignment}
    (h : call ∈ u.callsOf d) : .ok call ∈ callAssignments u.text d.body := by
  obtain ⟨result, hresult, hcall⟩ := List.mem_filterMap.mp h
  cases result with
  | error e => cases hcall
  | ok call' =>
    cases hcall
    exact hresult

theorem mem_of_mem_headersOf {u : SourceUnit} {d : Declaration} {h : MethodHeader}
    (hh : h ∈ u.headersOf d) : .ok h ∈ methodHeaders u.text d.body := by
  obtain ⟨result, hresult, hheader⟩ := List.mem_filterMap.mp hh
  cases result with
  | error e => cases hheader
  | ok header =>
    cases hheader
    exact hresult

/-- A place in the unit, on a line that is as asked. -/
def SourceUnit.Shows (u : SourceUnit) (l : Location) (form : Text → Prop) : Prop :=
  l.unit = u.path ∧ LineShows u.text l.line form

/-- **Extracted entities lead to their declarations.** Every field has a place; a method has one
    unless the framework supplies it. -/
theorem shown_entityOf {u : SourceUnit} {d : Declaration} (hd : d ∈ u.decls) :
    u.Shows (entityOf u d).location (ShowsClass (entityOf u d).name) ∧
      (entityOf u d).members.Every
        (fun f => ∃ l, f.location = some l ∧ u.Shows l (ShowsField f.name))
        (fun m => ∀ l, m.location = some l → u.Shows l (ShowsMethod m.name))
        (fun _ => True) := by
  have hdecl (b : Declaration) (hb : b ∈ d :: u.decls) : b ∈ declarations u.text := by
    rw [← u.decls_eq]
    rcases List.mem_cons.mp hb with rfl | hb
    · exact hd
    · exact hb
  refine ⟨⟨rfl, declaration_shown (hdecl d List.mem_cons_self)⟩, every_entityOf ?_ ?_ ?_ ?_ ?_ ?_⟩
  · intro b hb call hcall type args
    refine ⟨u.locate call.stmt.start, rfl, rfl, ?_⟩
    rw [name_fieldOf]
    exact call_shown (hdecl b hb) (mem_of_mem_callsOf hcall)
  · exact fun f base hf => hf
  · intro b hb h hh m hm l hl
    unfold methodOf? at hm
    split at hm
    · cases hm
    · obtain ⟨kind, -, rfl⟩ := Option.map_eq_some_iff.mp hm
      cases hl
      exact ⟨rfl, method_shown (hdecl b hb) (mem_of_mem_headersOf hh)⟩
  · intro m hm l hl
    obtain ⟨supplied, -, rfl⟩ := List.mem_map.mp hm
    cases hl
  · exact fun _ _ _ _ => trivial
  · trivial

end Model

namespace Index

open Cursor Model

/-! ## Places in the graph -/

/-- The unit of a place has a text in force, and the line of the place is as asked. -/
def Texts.Shows (texts : Texts) (l : Location) (form : Text → Prop) : Prop :=
  ∃ text, texts l.unit = some text ∧ LineShows text l.line form

/-- The relational field that put a reverse field on an entity. -/
structure Induces (g : Graph) (e : Entity) (f : Field) (source : Entity) (own : Field) :
    Prop where
  holds : g.Holds source
  source_eq : f.relatedEntity = some source.name
  mem : own ∈ source.fields
  not_reverse : own.isReverse = false
  relational : own.isRelational = true
  origin_eq : f.origin = .reverse own.name
  target_eq : own.relatedEntity = some e.name

/-- The places of an entity and its members lead to their declarations. -/
structure Placed (g : Graph) (texts : Texts) (e : Entity) : Prop where
  entity : texts.Shows e.location (ShowsClass e.name)
  own : ∀ f ∈ e.fields, f.isReverse = false →
    ∃ l, f.location = some l ∧ texts.Shows l (ShowsField f.name)
  reverse : ∀ f ∈ e.fields, f.isReverse = true → f.location = none ∧
    ∃ source own l, Induces g e f source own ∧ own.location = some l ∧
      fieldLocation? g f = some l ∧ texts.Shows l (ShowsField own.name)
  methods : ∀ m ∈ e.methods, ∀ l, m.location = some l → texts.Shows l (ShowsMethod m.name)

section

variable {g : Graph} {o : Ownership} {texts : Texts} (hg : g.Represents o) (h : o.Extracts texts)
include hg h

/-- What an entity has of its own is what extraction gave it, from the text in force. -/
theorem shown_own {n : Text} {e : Entity} (he : g.entity? n = some e) :
    texts.Shows e.location (ShowsClass e.name) ∧
      (∀ f ∈ e.fields, f.isReverse = false →
        ∃ l, f.location = some l ∧ texts.Shows l (ShowsField f.name)) ∧
      ∀ m ∈ e.methods, ∀ l, m.location = some l → texts.Shows l (ShowsMethod m.name) := by
  obtain ⟨text, htext, hmem⟩ := h.exists_text hg he
  obtain ⟨d, hd, heq⟩ := Schema.mem_entities_ofUnit hmem
  obtain ⟨hentity, hmembers⟩ := shown_entityOf hd
  rw [← heq] at hentity hmembers
  have hforce {l : Location} {form : Text → Prop}
      (hl : SourceUnit.Shows ⟨e.unit, text, declarations text, rfl⟩ l form) :
      texts.Shows l form := by
    obtain ⟨hunit, hline⟩ := hl
    exact ⟨text, hunit ▸ htext, hline⟩
  refine ⟨hforce hentity, ?_, ?_⟩
  · intro f hf hrev
    obtain ⟨l, hl, hshown⟩ := hmembers.fields f (List.mem_filter.mpr ⟨hf, by rw [hrev]; rfl⟩)
    exact ⟨l, hl, hforce hshown⟩
  · intro m hm l hl
    exact hforce (hmembers.methods m hm l hl)

/-- Every entity of the graph is placed. -/
theorem placed {n : Text} {e : Entity} (he : g.entity? n = some e) : Placed g texts e := by
  obtain ⟨hentity, hown, hmethods⟩ := shown_own hg h he
  refine ⟨hentity, hown, ?_, hmethods⟩
  intro f hf hrev
  obtain rfl := hg.keyed n e he
  -- The field was put there by a relation that is filed, whose source has the field.
  have hmem : f ∈ e.reverseFields f.name :=
    List.mem_filter.mpr ⟨hf, by simp [hrev]⟩
  obtain ⟨-, r, hr, heq⟩ := (hg.mem_reverseFields_iff he f.name f).mp hmem
  obtain ⟨source, hsource, own, hmine, hownrev, hrel, hname, htarget⟩ :=
    hg.exists_source (List.mem_of_find?_eq_some hr)
  obtain ⟨l, hl, hshown⟩ := (shown_own hg h hsource).2.1 own hmine hownrev
  have hgrants := List.find?_some hr
  simp only [Graph.grants, Bool.and_eq_true, decide_eq_true_eq] at hgrants
  have hdistinct := (distinct_members hg h hsource).1.fields
  have hfield : source.field? r.field = some own :=
    (Named.find?_eq_some_iff hdistinct r.field own).mpr ⟨hmine, hname⟩
  have hlocation : fieldLocation? g f = some l := by
    rw [heq]
    show ((g.entity? r.source).bind (·.field? r.field)).bind (·.location) = some l
    rw [hsource, Option.bind_some, hfield, Option.bind_some, hl]
  refine ⟨by rw [heq]; rfl, source, own, l, ⟨Graph.holds_of_entity? hsource, ?_, hmine, hownrev,
    hrel, ?_, htarget.trans hgrants.1.1⟩, hl, hlocation, hshown⟩
  · rw [heq, hg.keyed r.source source hsource]
    rfl
  · rw [heq, hname]
    rfl

end

/-! ## Places of symbols -/

/-- The name that the declaration of a field has: its own, or that of the relational field that put
    it there. -/
def declaredName (f : Field) : Text :=
  match f.origin with
  | .reverse field => field
  | _ => f.name

/-- Whether a line shows the declaration that a symbol leads to. -/
def ShowsSymbol (x : Symbol) (line : Text) : Prop :=
  match x with
  | .entity e => ShowsClass e.name line
  | .field _ f | .lookup f _ => ShowsField (declaredName f) line
  | .method _ m => ShowsMethod m.name line
  | .property .. | .manager .. | .managerMethod .. | .operation _ | .fieldType _ => False

section

variable {g : Graph} {texts : Texts}

theorem shown_fieldLocation? {e : Entity} (he : Placed g texts e) {f : Field} (hf : f ∈ e.fields)
    {l : Location} (hl : fieldLocation? g f = some l) :
    texts.Shows l (ShowsField (declaredName f)) := by
  cases hrev : f.isReverse with
  | true =>
    obtain ⟨-, source, own, l', hinduces, -, hlocation, hshown⟩ := he.reverse f hf hrev
    rw [hlocation] at hl
    cases hl
    have hname : declaredName f = own.name := by
      rw [declaredName, hinduces.origin_eq]
    rw [hname]
    exact hshown
  | false =>
    obtain ⟨l', hlocation, hshown⟩ := he.own f hf hrev
    have hplain : fieldLocation? g f = f.location ∧ declaredName f = f.name := by
      unfold Field.isReverse at hrev
      unfold fieldLocation? declaredName
      cases horigin : f.origin with
      | declared => exact ⟨rfl, rfl⟩
      | inherited base => exact ⟨rfl, rfl⟩
      | reverse field =>
        rw [horigin] at hrev
        cases hrev
    rw [hplain.1, hlocation] at hl
    cases hl
    rw [hplain.2]
    exact hshown

/-- The place of a symbol of the graph shows it. -/
theorem shown_location? (hplaced : ∀ e, g.Holds e → Placed g texts e) {x : Symbol}
    (hx : x.Grounded g) {l : Location} (hl : x.location? g = some l) :
    texts.Shows l (ShowsSymbol x) := by
  cases x with
  | entity e =>
    cases hl
    exact (hplaced e hx).entity
  | field e f => exact shown_fieldLocation? (hplaced e hx.1) hx.2 hl
  | method e m => exact (hplaced e hx.1).methods m hx.2 l hl
  | lookup f operator =>
    obtain ⟨e, he, hf⟩ := hx
    exact shown_fieldLocation? (hplaced e he) hf hl
  | property e name => cases hl
  | manager e m => cases hl
  | managerMethod m name => cases hl
  | operation op => cases hl
  | fieldType type => cases hl

end

/-! ## Every run -/

/-- **Locations are current.** After every run of calls, every place stored in the graph and every
    place that a word leads to, whatever precedes it, belongs to a unit with a text in force, is a
    line of that text, and the line shows the declaration: `class` and the name of an entity, the
    name of a field and an equals sign, `def` and the name of a method. A reverse field leads to the
    relational field that put it there. -/
theorem locations_current (settings : Settings) (calls : List Call) :
    let s := (State.new settings).run calls
    let texts := Texts.empty.run (State.new settings) calls
    (∀ e ∈ s.graph.entities.values, Placed s.graph texts e) ∧
      ∀ preceding word unit l, locate? s preceding word unit = some l →
        ∃ x, symbol? s preceding word unit = some x ∧ x.Grounded s.graph ∧
          texts.Shows l (ShowsSymbol x) := by
  intro s texts
  have hplaced (e : Entity) (he : s.graph.Holds e) : Placed s.graph texts e := by
    obtain ⟨n, he⟩ := (Table.mem_values_iff _ _).mp he
    exact placed (represents_run (represents_new settings) calls) (extracts_run settings calls) he
  refine ⟨hplaced, ?_⟩
  intro preceding word unit l hl
  obtain ⟨x, hx, hl⟩ := Option.bind_eq_some_iff.mp hl
  have hground := grounded_symbol? hx
  exact ⟨x, hx, hground, shown_location? hplaced hground hl⟩

/-- A unit is committed again with its class moved down, and a query reaches that class through the
    relation that it declares. -/
theorem locations_current_moved :
    let book : Text := "class Book(Model):\n    by = ForeignKey('A')\n"
    let calls := [.analyze "b.py" book, .edit (.commit "a.py" "class A(Model):\n" "a"),
      .edit (.commit "b.py" ("import models\n" ++ book) "b")]
    let s := (State.new {}).run calls
    let texts := Texts.empty.run (State.new {}) calls
    (∃ e ∈ s.graph.entities.values, e.location = ⟨"a.py", 0⟩ ∧
        Named.names e.fields = (["book_set"] : List Text) ∧ Placed s.graph texts e) ∧
      locate? s "A.objects.filter(" "book" "c.py" = some ⟨"b.py", 2⟩ ∧
      texts.Shows ⟨"b.py", 2⟩ (ShowsField "by") := by
  intro book calls s texts
  have hentity : (s.graph.entity? "A").any fun e => e.location = ⟨"a.py", 0⟩ ∧
      Named.names e.fields = (["book_set"] : List Text) := by decide +kernel
  have hlocate : locate? s "A.objects.filter(" "book" "c.py" = some ⟨"b.py", 2⟩ := by
    decide +kernel
  have hfield : (symbol? s "A.objects.filter(" "book" "c.py").any fun x =>
      match x with
      | .field _ f => declaredName f = "by"
      | _ => false := by decide +kernel
  obtain ⟨e, he, hshape⟩ := (Option.any_eq_true ..).mp hentity
  obtain ⟨hplace, hfields⟩ := of_decide_eq_true hshape
  have hmem : e ∈ s.graph.entities.values := (Table.mem_values_iff _ _).mpr ⟨"A", he⟩
  obtain ⟨hstored, hreached⟩ := locations_current {} calls
  obtain ⟨x, hx, -, hshown⟩ := hreached _ _ _ _ hlocate
  refine ⟨⟨e, hmem, hplace, hfields, hstored e hmem⟩, hlocate, ?_⟩
  rw [hx] at hfield
  cases x with
  | field e f =>
    have hname : declaredName f = "by" := of_decide_eq_true hfield
    rw [← hname]
    exact hshown
  | entity e => cases hfield
  | method e m => cases hfield
  | lookup f operator => cases hfield
  | property e name => cases hfield
  | manager e m => cases hfield
  | managerMethod m name => cases hfield
  | operation op => cases hfield
  | fieldType type => cases hfield

end Index

end OrmLens
