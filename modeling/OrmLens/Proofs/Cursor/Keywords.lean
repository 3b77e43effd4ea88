/-
  The keywords that a query offers, read back.

  Completion writes a keyword by joining parts with two underscores: the query name of a field, the
  name of a field of the related model, an operator. Description and place take the keyword apart
  again and walk from relation to relation, and where a part could be a field of the related model
  or an operator, they take it as a field. `keywords_understood`: if the query names of a graph are
  distinct, are whole as parts of a keyword, and are none of the operators of relations, then every
  keyword leads back to the field, or the field and the operator, that it was offered for.

  A field that leads to another model is a relation, or was put there by one, so its operators are
  those of relations (`operators_of_related`): no field of the related model hides them.
-/
import OrmLens.Cursor.Symbol
import OrmLens.Proofs.Index.Members

namespace OrmLens

/-! ## Taking a keyword apart -/

namespace Text

/-- A part of a keyword that its separator cannot be mistaken in: two underscores are neither in it
    nor come about where the separator follows. -/
def IsPart (t : Text) : Prop := hasPart "__" t = false ∧ t.getLast? ≠ some '_'

instance (t : Text) : Decidable (IsPart t) := inferInstanceAs (Decidable (_ ∧ _))

theorem isPart_of_cons {c d : Char} {t : Text} (h : IsPart (c :: d :: t)) : IsPart (d :: t) := by
  obtain ⟨hpair, hlast⟩ := h
  rw [hasPart, Bool.or_eq_false_iff] at hpair
  exact ⟨hpair.2, by rwa [List.getLast?_cons_cons] at hlast⟩

theorem not_pair_of_isPart {c d : Char} {t : Text} (h : IsPart (c :: d :: t)) :
    ¬(c = '_' ∧ d = '_') := by
  rintro ⟨rfl, rfl⟩
  have hstart : startsWith ('_' :: '_' :: t) "__" = true :=
    (startsWith_iff _ _).mpr (List.prefix_append ['_', '_'] t)
  have hpair := h.1
  rw [hasPart, hstart, Bool.true_or] at hpair
  cases hpair

theorem splitOnPair_of_isPart {t : Text} (h : IsPart t) : splitOnPair '_' t = [t] := by
  induction t using splitOnPair.induct '_' with
  | case1 => rfl
  | case2 c => rfl
  | case3 c d t hpair ih => exact absurd hpair (not_pair_of_isPart h)
  | case4 c d t hpair ih => rw [splitOnPair, if_neg hpair, ih (isPart_of_cons h), glue]

theorem splitOnPair_append {t : Text} (h : IsPart t) (rest : Text) :
    splitOnPair '_' (t ++ "__" ++ rest) = t :: splitOnPair '_' rest := by
  induction t using splitOnPair.induct '_' with
  | case1 => rfl
  | case2 c =>
    have hc : ¬(c = '_' ∧ '_' = '_') := fun hc => h.2 (congrArg some hc.1)
    show splitOnPair '_' (c :: '_' :: ('_' :: rest)) = _
    rw [splitOnPair, if_neg hc]
    rfl
  | case3 c d t hpair ih => exact absurd hpair (not_pair_of_isPart h)
  | case4 c d t hpair ih =>
    have hrest := ih (isPart_of_cons h)
    simp only [List.cons_append] at hrest ⊢
    rw [splitOnPair, if_neg hpair, hrest, glue]

/-- **Parts joined are parts again.** -/
theorem splitOnPair_join {parts : List Text} (hne : parts ≠ [])
    (h : ∀ part ∈ parts, IsPart part) : splitOnPair '_' (join "__" parts) = parts := by
  induction parts with
  | nil => exact absurd rfl hne
  | cons part parts ih =>
    have hpart := h part List.mem_cons_self
    cases parts with
    | nil => exact splitOnPair_of_isPart hpart
    | cons next parts =>
      have hrest := ih (List.cons_ne_nil _ _) fun p hp => h p (List.mem_cons_of_mem _ hp)
      rw [join_cons_of_ne_nil _ _ (List.cons_ne_nil _ _), splitOnPair_append hpart, hrest]

end Text

/-! ## Operators -/

namespace Framework

/-- The operators of relations. -/
def relationLookups : List Text := ["exact", "in", "isnull"]

theorem mem_of_isRelational {type : Text} (h : isRelational type = true) :
    type ∈ (["ForeignKey", "OneToOneField", "ManyToManyField"] : List Text) := by
  unfold isRelational RelationKind.of? at h
  split at h
  · simp [*]
  · split at h
    · simp [*]
    · split at h
      · simp [*]
      · cases h

theorem mem_relationLookups {type op : Text}
    (htype : isRelational type = true ∨ type = reverseCollection)
    (hop : op ∈ lookupOperators type) : op ∈ relationLookups := by
  have hlookups : ∀ type ∈ reverseCollection ::
      (["ForeignKey", "OneToOneField", "ManyToManyField"] : List Text),
      ∀ op ∈ lookupOperators type, op ∈ relationLookups := by decide +kernel
  refine hlookups type ?_ op hop
  rcases htype with h | h
  · exact List.mem_cons_of_mem _ (mem_of_isRelational h)
  · exact h ▸ List.mem_cons_self

theorem isPart_of_mem_lookupOperators {type op : Text} (h : op ∈ lookupOperators type) :
    Text.IsPart op := by
  have hfamily (family : LookupFamily) : ∀ op ∈ family.lookups, Text.IsPart op := by
    cases family <;> decide
  exact hfamily _ op h

end Framework

/-! ## Fields that lead to another model -/

namespace Index

open Framework Model

/-- A field leads to another model only as a relation, or as the other side of one. -/
def LeadsByRelation (f : Field) : Prop :=
  f.relatedEntity.isSome = true → f.isRelational = true ∨ f.declaredType = reverseCollection

theorem leadsByRelation_fieldOf (u : SourceUnit) (owner : Text) (call : Source.CallAssignment)
    (type : Text) (args : List Source.Argument) :
    LeadsByRelation (fieldOf u owner call type args) := by
  intro hsome
  refine .inl ?_
  rw [Field.isRelational, declaredType_fieldOf]
  cases hrelational : isRelational type with
  | true => rfl
  | false =>
    simp only [fieldOf, hrelational] at hsome
    cases hsome

theorem leadsByRelation_of_mem {g : Graph} {o : Ownership} {texts : Texts} (hg : g.Represents o)
    (h : o.Extracts texts) {n : Text} {e : Entity} (he : g.entity? n = some e) {f : Field}
    (hf : f ∈ e.fields) : LeadsByRelation f := by
  cases hrev : f.isReverse with
  | true =>
    have hmem : f ∈ e.reverseFields f.name := List.mem_filter.mpr ⟨hf, by simp [hrev]⟩
    obtain ⟨-, r, -, heq⟩ := (hg.mem_reverseFields_iff he f.name f).mp hmem
    rw [heq]
    exact fun _ => .inr rfl
  | false =>
    obtain ⟨text, -, hmem⟩ := h.exists_text hg he
    obtain ⟨d, -, hd⟩ := Schema.mem_entities_ofUnit hmem
    have hown : f ∈ e.withoutReverse.members.fields := List.mem_filter.mpr ⟨hf, by simp [hrev]⟩
    rw [hd] at hown
    have hevery : (entityOf ⟨e.unit, text, _, rfl⟩ d).members.Every LeadsByRelation
        (fun _ => True) (fun _ => True) := by
      refine every_entityOf ?_ ?_ ?_ ?_ ?_ trivial
      · exact fun b _ call _ type args => leadsByRelation_fieldOf _ d.name call type args
      · exact fun f base hfield => hfield
      · exact fun b _ header _ x _ => trivial
      · exact fun x _ => trivial
      · exact fun call args m _ => trivial
    exact hevery.fields f hown

/-- A field that leads to another model has only operators of relations. -/
theorem operators_of_related {f : Field} (h : LeadsByRelation f) {related : Text}
    (hrelated : f.relatedEntity = some related) {op : Text}
    (hop : op ∈ lookupOperators f.declaredType) : op ∈ relationLookups :=
  mem_relationLookups (h (by rw [hrelated]; rfl)) hop

/-! ## Query names -/

namespace Graph

/-- The query names of an entity's fields are distinct, and each is a part of a keyword and no
    operator of relations. An empty one does no harm. -/
def KeywordsFit (g : Graph) (e : Entity) : Prop :=
  (e.fields.map g.queryName).Nodup ∧
    ∀ f ∈ e.fields, Text.IsPart (g.queryName f) ∧ g.queryName f ∉ relationLookups

instance (g : Graph) (e : Entity) : Decidable (g.KeywordsFit e) :=
  inferInstanceAs (Decidable (_ ∧ _))

theorem queryName_of_not_reverse (g : Graph) {f : Field} (h : f.isReverse = false) :
    g.queryName f = f.name := by
  unfold Field.isReverse at h
  unfold Graph.queryName Field.queryName
  cases horigin : f.origin with
  | declared => rfl
  | inherited base => rfl
  | reverse field =>
    rw [horigin] at h
    cases h

variable {g : Graph} {e : Entity} (h : g.KeywordsFit e)
include h

theorem KeywordsFit.filterField?_queryName {f : Field} (hf : f ∈ e.fields) :
    g.filterField? e (g.queryName f) = some f := by
  -- A lookup by name, with query names for names.
  let byQuery : Named Field := ⟨g.queryName⟩
  exact (@Named.find?_eq_some_iff _ byQuery _ h.1 _ f).mpr ⟨hf, rfl⟩

theorem KeywordsFit.filterField?_operator {op : Text} (hop : op ∈ relationLookups) :
    g.filterField? e op = none := by
  refine List.find?_eq_none.mpr fun f hf => ?_
  rw [decide_eq_true_eq]
  rintro rfl
  exact (h.2 f hf).2 hop

end Graph

end Index

/-! ## What a keyword is offered for -/

namespace Cursor

open Framework Index Model Text

/-- The parts of a path that queries on an entity may take, and where it leads: to a field of the
    entity, or over a relation, from either side, to a field that the related model has of its
    own. -/
inductive Reaches (g : Graph) (e : Entity) : List Text → Entity → Field → Prop where
  | own {f : Field} (hf : f ∈ e.fields) : Reaches g e [g.queryName f] e f
  | through {f : Field} (hf : f ∈ e.fields) (hrelation : f.isRelational = true ∨ f.isReverse = true)
      {related : Entity} (hrelated : f.relatedEntity.bind g.entity? = some related) {inner : Field}
      (hinner : inner ∈ related.fields) (hown : inner.isReverse = false) :
      Reaches g e [g.queryName f, inner.name] related inner

/-- The candidate for an operator of a field that the path leads to. -/
def lookupCandidate (path : Text) (f : Field) (op : Text) : Candidate where
  name := path ++ "__" ++ op
  kind := .lookup
  detail := f.declaredType ++ " lookup"
  insertion := .keyword

/-- A candidate, and what it is offered for: a candidate of the kind `field` for the field that its
    path leads to, one of the kind `lookup` for that field and one of its operators. -/
inductive Offers (g : Graph) (e : Entity) : Candidate → Symbol → Prop where
  | field {parts : List Text} {owner : Entity} {f : Field} (h : Reaches g e parts owner f) :
      Offers g e (fieldCandidate (join "__" parts) f .keyword) (.field owner f)
  | lookup {parts : List Text} {owner : Entity} {f : Field} (h : Reaches g e parts owner f)
      {op : Text} (hop : op ∈ lookupOperators f.declaredType) :
      Offers g e (lookupCandidate (join "__" parts) f op) (.lookup f op)

theorem mem_queryCandidates_iff (path : Text) (f : Field) (c : Candidate) :
    c ∈ queryCandidates path f ↔ c = fieldCandidate path f .keyword ∨
      ∃ op ∈ lookupOperators f.declaredType, lookupCandidate path f op = c := by
  rw [queryCandidates, List.mem_cons, lookupCandidates, List.mem_map]
  rfl

section

variable {g : Graph} {e : Entity}

theorem related_of_mem_throughCandidates {f : Field} {path : Text} {c : Candidate}
    (h : c ∈ throughCandidates g path f) (hc : c.insertion ≠ .traverse) :
    (f.isRelational = true ∨ f.isReverse = true) ∧
      ∃ related, f.relatedEntity.bind g.entity? = some related ∧
        ∃ inner ∈ related.fields, inner.isReverse = false ∧
          c ∈ queryCandidates (path ++ "__" ++ inner.name) inner := by
  unfold throughCandidates at h
  split at h
  · cases h
  · rename_i hrelation
    split at h
    · -- The hint to go on.
      rw [List.mem_singleton.mp h] at hc
      exact absurd rfl hc
    · rename_i related hrelated
      obtain ⟨inner, hinner, hmem⟩ := List.mem_flatMap.mp h
      obtain ⟨hfield, hown⟩ := List.mem_filter.mp hinner
      refine ⟨?_, related, hrelated, inner, hfield, by simpa using hown, hmem⟩
      cases hrel : f.isRelational with
      | true => exact .inl rfl
      | false =>
        rw [hrel] at hrelation
        exact .inr (by simpa using hrelation)

/-- What is offered, hints to go on aside, is offered for something. -/
theorem exists_offers {c : Candidate} (h : c ∈ filterCandidates g e)
    (hc : c.insertion ≠ .traverse) : ∃ x, Offers g e c x := by
  have hreached {parts : List Text} {owner : Entity} {f : Field} (hpath : Reaches g e parts owner f)
      (hmem : c ∈ queryCandidates (join "__" parts) f) : ∃ x, Offers g e c x := by
    rcases (mem_queryCandidates_iff _ _ _).mp hmem with rfl | ⟨op, hop, rfl⟩
    · exact ⟨_, .field hpath⟩
    · exact ⟨_, .lookup hpath hop⟩
  obtain ⟨f, hf, hmem⟩ := List.mem_flatMap.mp h
  rcases List.mem_append.mp hmem with hmem | hmem
  · exact hreached (.own hf) hmem
  · obtain ⟨hrelation, related, hrelated, inner, hinner, hown, hmem⟩ :=
      related_of_mem_throughCandidates hmem hc
    exact hreached (.through hf hrelation hrelated hinner hown) hmem

theorem mem_filterCandidates {parts : List Text} {owner : Entity} {f : Field}
    (h : Reaches g e parts owner f) {c : Candidate} (hc : c ∈ queryCandidates (join "__" parts) f) :
    c ∈ filterCandidates g e := by
  cases h with
  | own hf => exact List.mem_flatMap.mpr ⟨_, hf, List.mem_append_left _ hc⟩
  | @through f hf hrelation related hrelated inner hinner hown =>
    refine List.mem_flatMap.mpr ⟨f, hf, List.mem_append_right _ ?_⟩
    have hleads : ¬((!f.isRelational && !f.isReverse) = true) := by
      rcases hrelation with h | h <;> simp [h]
    rw [throughCandidates, if_neg hleads, hrelated]
    exact List.mem_flatMap.mpr ⟨_, List.mem_filter.mpr ⟨hinner, by simp [hown]⟩, hc⟩

theorem Offers.mem {c : Candidate} {x : Symbol} (h : Offers g e c x) :
    c ∈ filterCandidates g e := by
  cases h with
  | field h => exact mem_filterCandidates h ((mem_queryCandidates_iff _ _ _).mpr (.inl rfl))
  | lookup h hop =>
    exact mem_filterCandidates h ((mem_queryCandidates_iff _ _ _).mpr (.inr ⟨_, hop, rfl⟩))

end

/-! ## Walking the parts -/

theorem mem_values_of_related {g : Graph} {f : Field} {related : Entity}
    (h : f.relatedEntity.bind g.entity? = some related) : related ∈ g.entities.values := by
  obtain ⟨n, -, hn⟩ := Option.bind_eq_some_iff.mp h
  exact (Table.mem_values_iff _ _).mpr ⟨n, hn⟩

section

variable {g : Graph} (hfit : ∀ e ∈ g.entities.values, g.KeywordsFit e)
  (hleads : ∀ e ∈ g.entities.values, ∀ f ∈ e.fields, LeadsByRelation f)
  {e : Entity} (he : e ∈ g.entities.values)
include hfit he

theorem lookupPath?_queryName {f : Field} (hf : f ∈ e.fields) :
    lookupPath? g e [g.queryName f] = some (.field e f) := by
  rw [lookupPath?, (hfit e he).filterField?_queryName hf]
  rfl

/-- A field of the related model is followed. -/
theorem lookupPath?_through {f : Field} (hf : f ∈ e.fields) {related : Entity}
    (hrelated : f.relatedEntity.bind g.entity? = some related) {inner : Field}
    (hinner : inner ∈ related.fields) (more : List Text) :
    lookupPath? g e (g.queryName f :: g.queryName inner :: more) =
      lookupPath? g related (g.queryName inner :: more) := by
  have hnext := (hfit related (mem_values_of_related hrelated)).filterField?_queryName hinner
  rw [lookupPath?, (hfit e he).filterField?_queryName hf, Option.bind_some, hrelated]
  dsimp only
  rw [hnext]
  rfl

include hleads

/-- An operator is none of the fields of the related model. -/
theorem lookupPath?_operator {f : Field} (hf : f ∈ e.fields) {op : Text}
    (hop : op ∈ lookupOperators f.declaredType) :
    lookupPath? g e [g.queryName f, op] = some (.lookup f op) := by
  have hoperator : operator? f op [] = some (.lookup f op) := by simp [operator?, hop]
  rw [lookupPath?, (hfit e he).filterField?_queryName hf, Option.bind_some]
  cases hrelated : f.relatedEntity.bind g.entity? with
  | none => exact hoperator
  | some related =>
    obtain ⟨n, hn, -⟩ := Option.bind_eq_some_iff.mp hrelated
    have hmem := operators_of_related (hleads e he f hf) hn hop
    have hnone := (hfit related (mem_values_of_related hrelated)).filterField?_operator hmem
    dsimp only
    rw [hnone]
    exact hoperator

variable {parts : List Text} {owner : Entity} {f : Field} (h : Reaches g e parts owner f)
include h

omit hleads in
theorem lookupPath?_of_reaches : lookupPath? g e parts = some (.field owner f) := by
  cases h with
  | own hf => exact lookupPath?_queryName hfit he hf
  | through hf _ hrelated hinner hown =>
    rw [← g.queryName_of_not_reverse hown, lookupPath?_through hfit he hf hrelated hinner]
    exact lookupPath?_queryName hfit (mem_values_of_related hrelated) hinner

theorem lookupPath?_operator_of_reaches {op : Text} (hop : op ∈ lookupOperators f.declaredType) :
    lookupPath? g e (parts ++ [op]) = some (.lookup f op) := by
  cases h with
  | own hf => exact lookupPath?_operator hfit hleads he hf hop
  | @through outer hf _ related hrelated _ hinner hown =>
    rw [← g.queryName_of_not_reverse hown]
    show lookupPath? g e (g.queryName outer :: g.queryName f :: [op]) = _
    rw [lookupPath?_through hfit he hf hrelated hinner]
    exact lookupPath?_operator hfit hleads (mem_values_of_related hrelated) hinner hop

omit hleads in
theorem Reaches.parts_ne_nil_and_isPart : parts ≠ [] ∧ ∀ part ∈ parts, IsPart part := by
  cases h with
  | own hf => exact ⟨List.cons_ne_nil _ _, by simp [((hfit e he).2 _ hf).1]⟩
  | through hf _ hrelated hinner hown =>
    have hpart := ((hfit _ (mem_values_of_related hrelated)).2 _ hinner).1
    rw [g.queryName_of_not_reverse hown] at hpart
    exact ⟨List.cons_ne_nil _ _, by simp [((hfit e he).2 _ hf).1, hpart]⟩

end

/-- **A keyword is read as what it is offered for.** -/
theorem lookupPath?_of_offers {g : Graph} (hfit : ∀ e ∈ g.entities.values, g.KeywordsFit e)
    (hleads : ∀ e ∈ g.entities.values, ∀ f ∈ e.fields, LeadsByRelation f) {e : Entity}
    (he : e ∈ g.entities.values) {c : Candidate} {x : Symbol} (h : Offers g e c x) :
    lookupPath? g e (splitOnPair '_' c.name) = some x := by
  cases h with
  | field hpath =>
    obtain ⟨hne, hparts⟩ := hpath.parts_ne_nil_and_isPart hfit he
    show lookupPath? g e (splitOnPair '_' (join "__" _)) = _
    rw [splitOnPair_join hne hparts]
    exact lookupPath?_of_reaches hfit he hpath
  | @lookup parts _ f hpath op hop =>
    obtain ⟨hne, hparts⟩ := hpath.parts_ne_nil_and_isPart hfit he
    have hall : ∀ part ∈ parts ++ [op], IsPart part := by
      intro part hpart
      rcases List.mem_append.mp hpart with hpart | hpart
      · exact hparts part hpart
      · rw [List.mem_singleton.mp hpart]
        exact isPart_of_mem_lookupOperators hop
    show lookupPath? g e (splitOnPair '_' (join "__" parts ++ "__" ++ op)) = _
    rw [← join_concat _ _ hne, splitOnPair_join (by simp) hall]
    exact lookupPath?_operator_of_reaches hfit hleads he hpath hop

/-! ## Every run -/

/-- **Every keyword offered is understood.** After every run of calls, if the query names of the
    graph fit, then each candidate for a query on an entity, hints to go on aside, is offered for
    something: a field that a path over at most one relation leads to, or such a field and one of
    its operators. The keyword alone leads back to it, and so does the keyword typed into a query on
    the entity. -/
theorem keywords_understood (settings : Settings) (calls : List Call) :
    let s := (State.new settings).run calls
    (∀ e ∈ s.graph.entities.values, s.graph.KeywordsFit e) →
      ∀ e ∈ s.graph.entities.values,
        (∀ c ∈ filterCandidates s.graph e, c.insertion ≠ .traverse → ∃ x, Offers s.graph e c x) ∧
        ∀ c x, Offers s.graph e c x →
          c ∈ filterCandidates s.graph e ∧
          lookupPath? s.graph e (splitOnPair '_' c.name) = some x ∧
          ∀ preceding unit, context? s preceding unit = some (.filterKeyword (some e)) →
            symbol? s preceding c.name unit = some x := by
  intro s hfit e he
  have hleads : ∀ e ∈ s.graph.entities.values, ∀ f ∈ e.fields, LeadsByRelation f := by
    intro e he f hf
    obtain ⟨n, hn⟩ := (Table.mem_values_iff _ _).mp he
    exact leadsByRelation_of_mem (represents_run (represents_new settings) calls)
      (extracts_run settings calls) hn hf
  refine ⟨fun c hc hinsertion => exists_offers hc hinsertion, fun c x hoffers => ?_⟩
  have hpath := lookupPath?_of_offers hfit hleads he hoffers
  refine ⟨hoffers.mem, hpath, fun preceding unit hcontext => ?_⟩
  unfold symbol?
  rw [hcontext]
  exact hpath

/-- Over a relation from its other side, by the name that the relation gives there: the keyword for
    an operator of the field `title`. -/
theorem keywords_understood_reverse :
    let text : Text := "class Author(Model):\n    name = CharField()\nclass Book(Model):\n" ++
      "    title = CharField()\n    by = ForeignKey('Author', related_name='books')\n"
    let g := ((State.new {}).run [.analyze "models.py" text]).graph
    (∀ e ∈ g.entities.values, g.KeywordsFit e) ∧
      ∃ e ∈ g.entities.values, ∃ c ∈ filterCandidates g e,
        e.name = "Author" ∧ c.name = "books__title__icontains" ∧
          ∃ x, Offers g e c x ∧ lookupPath? g e (splitOnPair '_' c.name) = some x := by
  intro text g
  have hgraph : (∀ e ∈ g.entities.values, g.KeywordsFit e) ∧
      ∃ e ∈ g.entities.values, ∃ c ∈ filterCandidates g e,
        e.name = "Author" ∧ c.name = "books__title__icontains" ∧ c.insertion ≠ .traverse := by
    decide +kernel
  obtain ⟨hfit, e, he, c, hc, hname, hkeyword, hinsertion⟩ := hgraph
  obtain ⟨hoffers, hread⟩ := keywords_understood {} [.analyze "models.py" text] hfit e he
  obtain ⟨x, hx⟩ := hoffers c hc hinsertion
  exact ⟨hfit, e, he, c, hc, hname, hkeyword, x, hx, (hread c x hx).2.1⟩

end Cursor

end OrmLens
