/-
  What typing more of a name does to the candidates.

  An editor that was given all the candidates narrows the list by itself while the name at the
  cursor grows. `narrowing_exact`: it ends up with what completion gives for the longer text. Three
  things make this so. The context is judged by the text without the name at the cursor, and no
  character of a name counts as indentation (`context?_append`). The candidates of a context do not
  depend on the name, except in a search for entities, which finds fewer for a longer name
  (`entitiesStarting_append`). And keeping the first candidate of each name goes before or after
  choosing by name (`fitting_append`).

  The entities come in order of arrival while nothing is typed and in search order afterwards, so
  there the two lists have the same members and their order may differ.
-/
import OrmLens.Proofs.Cursor.LookBack
import OrmLens.Proofs.Cursor.Selection
import OrmLens.Proofs.Index.NameSearch
import OrmLens.Proofs.Source.Heads

namespace OrmLens

/-! ## Longer ends -/

namespace Text

section

variable {p : Char → Bool} {more : Text} (hmore : ∀ c ∈ more, p c = true) (t : Text)
include hmore

theorem dropEndWhile_append : dropEndWhile p (t ++ more) = dropEndWhile p t := by
  have hreverse : ∀ c ∈ more.reverse, p c = true := fun c hc => hmore c (List.mem_reverse.mp hc)
  rw [dropEndWhile, List.reverse_append, List.dropWhile_append_of_pos hreverse, dropEndWhile]

theorem takeEndWhile_append : takeEndWhile p (t ++ more) = takeEndWhile p t ++ more := by
  have hreverse : ∀ c ∈ more.reverse, p c = true := fun c hc => hmore c (List.mem_reverse.mp hc)
  rw [takeEndWhile, List.reverse_append, List.takeWhile_append_of_pos hreverse,
    List.reverse_append, List.reverse_reverse, takeEndWhile]

end

theorem indentOf_append {more : Text} (hmore : ∀ c ∈ more, CharClass.isSpace c = false)
    (line : Text) : indentOf (line ++ more) = indentOf line := by
  have hstops : Source.Stops CharClass.isSpace more := fun c hc =>
    hmore c (List.mem_of_mem_head? hc)
  rw [indentOf, Source.takeWhile_append_of_stops line hstops, indentOf]

theorem startsWith_of_append {t lead more : Text} (h : startsWith t (lead ++ more) = true) :
    startsWith t lead = true := by
  rw [startsWith_iff] at h ⊢
  exact (List.prefix_append lead more).trans h

/-- Two questions about the beginning of a text are one about the longer beginning. -/
theorem startsWith_append_and (t lead more : Text) :
    (startsWith t (lead ++ more) && startsWith t lead) = startsWith t (lead ++ more) := by
  cases h : startsWith t (lead ++ more) with
  | false => rfl
  | true => exact startsWith_of_append h

end Text

/-! ## Searching with more letters -/

namespace Index.Graph.Listed

variable {g : Graph} (h : g.Listed)
include h

/-- Names can be chosen before or after the entities are looked up. -/
theorem filterMap_filter_name (p : Text → Bool) (names : List Text) :
    (names.filter p).filterMap g.entity? = (names.filterMap g.entity?).filter (p ·.name) := by
  rw [List.filterMap_filter, List.filter_filterMap]
  apply List.filterMap_congr
  intro n _
  cases he : g.entity? n with
  | none => simp
  | some e => simp [h.keyed n e he, Option.filter]

theorem entitiesStarting_append {start : Text} (hstart : start ≠ []) (more : Text) :
    g.entitiesStarting (start ++ more) =
      (g.entitiesStarting start).filter fun e => Text.startsWith e.name (start ++ more) := by
  have hlonger : start ++ more ≠ [] := List.append_ne_nil_of_left_ne_nil hstart more
  rw [g.entitiesStarting_of_ne_nil hlonger, g.entitiesStarting_of_ne_nil hstart,
    h.filterMap_filter_name, h.filterMap_filter_name, List.filter_filter]
  simp only [Text.startsWith_append_and]

theorem perm_entitiesStarting_append (start more : Text) :
    (g.entitiesStarting (start ++ more)).Perm
      ((g.entitiesStarting start).filter fun e => Text.startsWith e.name (start ++ more)) := by
  by_cases hstart : start = []
  · subst hstart
    by_cases hmore : more = []
    · subst hmore
      have hall : (g.entitiesStarting []).filter (fun e => Text.startsWith e.name []) =
          g.entitiesStarting [] := List.filter_eq_self.mpr fun _ _ => rfl
      exact .of_eq hall.symm
    · exact h.perm_entitiesStarting hmore
  · exact .of_eq (h.entitiesStarting_append hstart more)

end Index.Graph.Listed

namespace Cursor

open CharClass Index Model Text

/-! ## Context and typed name -/

section

variable {more : Text} (hmore : ∀ c ∈ more, isIdent c = true)
include hmore

theorem newline_not_mem_append {last : Text} (hlast : '\n' ∉ last) : '\n' ∉ last ++ more := by
  intro hmem
  rcases List.mem_append.mp hmem with hmem | hmem
  · exact hlast hmem
  · exact absurd (hmore _ hmem) (by decide)

theorem typedName_append (preceding : Text) :
    typedName (preceding ++ more) = typedName preceding ++ more := by
  obtain ⟨older, last, rfl, -, hlast⟩ := exists_lines preceding
  unfold typedName
  rw [List.append_assoc, cursorLine_newlines_append (newline_not_mem_append hmore hlast),
    cursorLine_newlines_append hlast, takeEndWhile_append hmore]

theorem context?_append (s : State) (preceding unit : Text) :
    context? s (preceding ++ more) unit = context? s preceding unit := by
  obtain ⟨older, last, rfl, holder, hlast⟩ := exists_lines preceding
  have hlonger := newline_not_mem_append hmore hlast
  have hspace : ∀ c ∈ more, isSpace c = false := fun c hc => isSpace_of_isIdent (hmore c hc)
  have hscope : Scope.ofPreceding s (newlines older ++ (last ++ more)) unit =
      Scope.ofPreceding s (newlines older ++ last) unit := by
    rw [scope_newlines_append holder hlonger, scope_newlines_append holder hlast,
      indentOf_append hspace]
  unfold context?
  rw [List.append_assoc, cursorLine_newlines_append hlonger, cursorLine_newlines_append hlast,
    hscope]
  dsimp only
  rw [take_newlines_append, take_newlines_append, dropEndWhile_append hmore]

end

/-! ## Candidates that go on with a longer name -/

theorem fitting_append (typed more : Text) (ranked : List Candidate) :
    fitting (typed ++ more) ranked =
      (fitting typed ranked).filter fun c => startsWith c.name (typed ++ more) := by
  have hfilter := Named.filter_mergeAll (startsWith · (typed ++ more)) ([] : List Candidate)
    (ranked.filter fun c => startsWith c.name typed)
  rw [List.filter_filter] at hfilter
  simp only [Named.nameOf, startsWith_append_and] at hfilter
  exact hfilter.symm

theorem fitting_of_nodup {typed : Text} {ranked : List Candidate}
    (h : (Named.names ranked).Nodup) :
    fitting typed ranked = ranked.filter fun c => startsWith c.name typed := by
  have hchosen : (Named.names (ranked.filter fun c => startsWith c.name typed)).Nodup :=
    h.sublist (List.filter_sublist.map _)
  exact Named.mergeAll_of_nodup hchosen

theorem rankedCandidates_of_ne {context : Context} (h : context ≠ .entityName) (g : Graph)
    (typed typed' : Text) :
    rankedCandidates g typed context = rankedCandidates g typed' context := by
  cases context with
  | entityName => exact absurd rfl h
  | fieldType => rfl
  | filterKeyword e => cases e <;> rfl
  | managerChain e manager => cases e <;> rfl
  | relatedField e field => rfl
  | record e => cases e <;> rfl

theorem filter_map_entityCandidate (p : Text → Bool) (es : List Entity) :
    (es.map entityCandidate).filter (p ·.name) = (es.filter (p ·.name)).map entityCandidate :=
  List.filter_map

section

variable {g : Graph} (h : g.Listed)
include h

/-- A search for the longer name offers what a search for the shorter one offers of it. -/
theorem perm_fitting_entities (typed more : Text) :
    (fitting (typed ++ more) (rankedCandidates g (typed ++ more) .entityName)).Perm
      (fitting (typed ++ more) (rankedCandidates g typed .entityName)) := by
  have hnames (start : Text) : (Named.names (rankedCandidates g start .entityName)).Nodup := by
    show (((g.entitiesStarting start).map entityCandidate).map _).Nodup
    rw [List.map_map]
    exact h.nodup_entitiesStarting start
  rw [fitting_of_nodup (hnames _), fitting_of_nodup (hnames _)]
  have hfound := ((h.perm_entitiesStarting_append typed more).map entityCandidate).filter
    (startsWith ·.name (typed ++ more))
  rw [← filter_map_entityCandidate (startsWith · (typed ++ more)), List.filter_filter] at hfound
  simp only [Bool.and_self] at hfound
  exact hfound

/-- The candidates for the longer name are among those for the shorter one, in the same order. -/
theorem fitting_longer {context : Context} {typed : Text}
    (hcase : context = .entityName → typed ≠ []) (more : Text) :
    fitting (typed ++ more) (rankedCandidates g (typed ++ more) context) =
      fitting (typed ++ more) (rankedCandidates g typed context) := by
  by_cases hcontext : context = .entityName
  · subst hcontext
    show fitting _ ((g.entitiesStarting _).map entityCandidate) = _
    rw [h.entitiesStarting_append (hcase rfl),
      ← filter_map_entityCandidate (startsWith · (typed ++ more)), fitting, List.filter_filter]
    simp only [Bool.and_self]
    rfl
  · rw [rankedCandidates_of_ne hcontext g (typed ++ more) typed]

end

/-! ## Completion of the longer text -/

section

variable {s : State} (hs : s.Reached) (preceding unit : Text) {more : Text}
  (hmore : ∀ c ∈ more, isIdent c = true)
include hs hmore

theorem completeAll_append
    (hcase : context? s preceding unit = some .entityName → typedName preceding ≠ []) :
    completeAll s (preceding ++ more) unit =
      (completeAll s preceding unit).filter
        fun c => startsWith c.name (typedName preceding ++ more) := by
  unfold completeAll
  rw [context?_append hmore, typedName_append hmore]
  cases hcontext : context? s preceding unit with
  | none => rfl
  | some context =>
    have hcase' : context = .entityName → typedName preceding ≠ [] := fun h => hcase (h ▸ hcontext)
    dsimp only
    rw [fitting_longer hs.listed hcase', fitting_append]

theorem perm_completeAll_append :
    (completeAll s (preceding ++ more) unit).Perm
      ((completeAll s preceding unit).filter
        fun c => startsWith c.name (typedName preceding ++ more)) := by
  by_cases hcontext : context? s preceding unit = some .entityName
  · unfold completeAll
    rw [context?_append hmore, typedName_append hmore, hcontext]
    dsimp only
    rw [← fitting_append]
    exact perm_fitting_entities hs.listed _ _
  · exact .of_eq (completeAll_append hs preceding unit hmore fun h => absurd h hcontext)

end

theorem complete_of_length_lt {s : State} {preceding unit : Text}
    (h : (completeAll s preceding unit).length < s.settings.completionLimit) :
    complete s preceding unit = completeAll s preceding unit := by
  rw [complete_eq, List.take_of_length_le (Nat.le_of_lt h)]

/-- A list shorter than the limit has not been cut off. -/
theorem length_completeAll_lt {s : State} {preceding unit : Text}
    (h : (complete s preceding unit).length < s.settings.completionLimit) :
    (completeAll s preceding unit).length < s.settings.completionLimit := by
  rw [complete_eq, List.length_take] at h
  omega

/-- **Narrowing by hand is exact.** If there are fewer candidates than the limit, then after typing
    any more characters of a name the candidates are those of the old list whose names start with
    what is typed now: the same ones in the same order, unless entities are searched for and nothing
    was typed before, where the order may be another. -/
theorem narrowing_exact {s : State} (hs : s.Reached) (preceding unit : Text) {more : Text}
    (hmore : ∀ c ∈ more, isIdent c = true)
    (hroom : (complete s preceding unit).length < s.settings.completionLimit) :
    let kept := (complete s preceding unit).filter
      fun c => startsWith c.name (typedName preceding ++ more)
    (complete s (preceding ++ more) unit).Perm kept ∧
      ((context? s preceding unit = some .entityName → typedName preceding ≠ []) →
        complete s (preceding ++ more) unit = kept) := by
  intro kept
  have hall := length_completeAll_lt hroom
  have hkept : kept = (completeAll s preceding unit).filter
      fun c => startsWith c.name (typedName preceding ++ more) := by
    rw [← complete_of_length_lt hall]
  have hperm := perm_completeAll_append hs preceding unit hmore
  -- The longer text has no more candidates, so its list is not cut off either.
  have hlonger : (completeAll s (preceding ++ more) unit).length < s.settings.completionLimit := by
    have hle := List.length_filter_le
      (fun c => startsWith c.name (typedName preceding ++ more)) (completeAll s preceding unit)
    have heq := hperm.length_eq
    omega
  rw [complete_of_length_lt hlonger, hkept]
  exact ⟨hperm, completeAll_append hs preceding unit hmore⟩

/-- A keyword is narrowed in order; and two models in an import list, first in order of arrival,
    come in search order once a letter is typed. -/
theorem narrowing_exact_keyword_and_import :
    let calls := [.analyze "models.py"
      "class Zoo(Model):\n    title = CharField()\nclass Zebra(Model):\n"]
    let s := (State.new {}).run calls
    let offered (t : Text) : List Candidate := complete s t "views.py"
    let kept (t more : Text) : List Candidate :=
      (offered t).filter fun c => startsWith c.name (typedName t ++ more)
    let query : Text := "Zoo.objects.filter(ti"
    let names : Text := "from models import "
    offered (query ++ "tle__isn") = kept query "tle__isn" ∧
      Named.names (offered (query ++ "tle__isn")) = (["title__isnull"] : List Text) ∧
      (offered (names ++ "Z")).Perm (kept names "Z") ∧
      Named.names (offered names) = (["Zoo", "Zebra"] : List Text) ∧
      Named.names (offered (names ++ "Z")) = (["Zebra", "Zoo"] : List Text) := by
  intro calls s offered kept query names
  have hs : s.Reached := (State.Reached.new {}).run calls
  have hrun : ((offered query).length < s.settings.completionLimit ∧
        Named.names (offered (query ++ "tle__isn")) = (["title__isnull"] : List Text)) ∧
      (offered names).length < s.settings.completionLimit ∧
        Named.names (offered names) = (["Zoo", "Zebra"] : List Text) ∧
        Named.names (offered (names ++ "Z")) = (["Zebra", "Zoo"] : List Text) := by
    decide +kernel
  obtain ⟨⟨hroom, hnarrowed⟩, hroom', harrival, hsearch⟩ := hrun
  have hrest : ("tle__isn" : Text).all isIdent = true := by decide
  have hletter : ("Z" : Text).all isIdent = true := by decide
  have hquery := narrowing_exact hs query "views.py" (List.all_eq_true.mp hrest) hroom
  have hnames := narrowing_exact hs names "views.py" (List.all_eq_true.mp hletter) hroom'
  have htyped : typedName query ≠ [] := by decide +kernel
  exact ⟨hquery.2 fun _ => htyped, hnarrowed, hnames.1, harrival, hsearch⟩

end Cursor

end OrmLens
