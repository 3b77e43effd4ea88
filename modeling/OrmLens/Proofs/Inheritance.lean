/-
  Inheritance within a unit.

  `Visits` says which classes are visited along the bases, depth first in the order written: a
  framework base, a base that the unit does not declare and a base visited before are passed over.
  On every graph of bases, also one with cycles, the walk ends with one outcome (`visits_iff`): a
  visit takes the class out of those that remain. `first_occurrence_wins`: the members of a model
  are those of its class and of the classes visited, one after another, every name at its first
  occurrence; what the framework supplies only fills names that are free.
-/
import OrmLens.Proofs.ClassBody

namespace OrmLens.Model

open Framework Source

/-! ## One visit after another -/

section

variable {basesOf : Declaration → List Text} {left : List Declaration}

theorem length_filter_of_nextDeclared? {pending rest : List Text} {d : Declaration}
    (h : nextDeclared? left pending = some (d, rest)) :
    (left.filter (·.name ≠ d.name)).length < left.length := by
  rw [List.length_filter_lt_length_iff_exists]
  exact ⟨d, mem_of_nextDeclared? h, by simp⟩

theorem nextDeclared?_nil (pending : List Text) : nextDeclared? [] pending = none := by
  induction pending with
  | nil => rfl
  | cons name pending ih => exact ih

/-- There are no more visits than classes, so a larger count changes nothing. -/
theorem walkFrom_succ {count : Nat} (h : left.length ≤ count) (pending : List Text) :
    walkFrom basesOf (count + 1) left pending = walkFrom basesOf count left pending := by
  induction count generalizing left pending with
  | zero =>
    have hleft : left = [] := List.length_eq_zero_iff.mp (Nat.le_zero.mp h)
    simp [hleft, walkFrom, nextDeclared?_nil]
  | succ count ih =>
    rw [walkFrom, walkFrom]
    cases hnext : nextDeclared? left pending with
    | none => rfl
    | some found =>
      have hshorter := length_filter_of_nextDeclared? hnext
      exact congrArg (found.1 :: ·) (ih (by omega) _)

theorem walkFrom_eq_walk {count : Nat} (h : left.length ≤ count) (pending : List Text) :
    walkFrom basesOf count left pending = walk basesOf left pending := by
  induction h with
  | refl => rfl
  | step hcount ih => rw [walkFrom_succ hcount, ih]

theorem walk_nil : walk basesOf left [] = [] := by
  unfold walk
  cases left.length <;> rfl

/-- A name without a class that is left is passed over; another is visited, its bases first. -/
theorem walk_cons (name : Text) (pending : List Text) :
    walk basesOf left (name :: pending) =
      match findDeclaration? name left with
      | none => walk basesOf left pending
      | some d => d :: walk basesOf (left.filter (·.name ≠ d.name)) (basesOf d ++ pending) := by
  rw [← walkFrom_eq_walk (Nat.le_succ left.length), walkFrom, nextDeclared?]
  cases hfind : findDeclaration? name left with
  | none =>
    rw [← walkFrom_eq_walk (Nat.le_succ left.length), walkFrom]
  | some d =>
    have hnext : nextDeclared? left (name :: pending) = some (d, pending) := by
      rw [nextDeclared?, hfind]
    have hshorter := length_filter_of_nextDeclared? hnext
    exact congrArg (d :: ·) (walkFrom_eq_walk (by omega) _)

end

/-! ## The walk along the bases -/

/-- The classes visited along the bases, depth first in the order written, when the names in `seen`
    have been visited. -/
inductive Visits (u : SourceUnit) : (seen bases : List Text) → List Declaration → Prop
  | done {seen : List Text} : Visits u seen [] []
  /-- A framework base, a base visited before and a base that the unit does not declare are passed
      over. -/
  | pass {seen rest : List Text} {base : Text} {ds : List Declaration}
      (hpass : base ∈ frameworkBases ∨ base ∈ seen ∨ u.find? base = none)
      (hrest : Visits u seen rest ds) : Visits u seen (base :: rest) ds
  /-- A class comes before its own bases, and these before the bases written after it. -/
  | visit {seen rest : List Text} {base : Text} {b : Declaration} {inner ds : List Declaration}
      (hbase : base ∉ frameworkBases) (hseen : base ∉ seen) (hfind : u.find? base = some b)
      (hinner : Visits u (base :: seen) b.bases inner)
      (hrest : Visits u (inner.map (·.name) ++ base :: seen) rest ds) :
      Visits u seen (base :: rest) (b :: (inner ++ ds))

/-- The classes that can still be visited. -/
def remaining (u : SourceUnit) (seen : List Text) : List Declaration :=
  u.decls.filter fun b => !seen.contains b.name && !frameworkBases.contains b.name

theorem remaining_append (u : SourceUnit) (more seen : List Text) :
    remaining u (more ++ seen) = (remaining u seen).filter (·.name ∉ more) := by
  unfold remaining
  rw [List.filter_filter]
  apply List.filter_congr
  intro b _
  simp [Bool.and_assoc]

theorem remaining_cons (u : SourceUnit) (base : Text) (seen : List Text) :
    remaining u (base :: seen) = (remaining u seen).filter (·.name ≠ base) := by
  have h := remaining_append u [base] seen
  simpa using h

theorem remaining_congr (u : SourceUnit) {seen seen' : List Text}
    (h : ∀ n, n ∈ seen ↔ n ∈ seen') : remaining u seen = remaining u seen' := by
  unfold remaining
  apply List.filter_congr
  intro b _
  simp [h]

theorem findDeclaration?_remaining (u : SourceUnit) (seen : List Text) (base : Text) :
    findDeclaration? base (remaining u seen) =
      if base ∈ frameworkBases ∨ base ∈ seen then none else u.find? base := by
  unfold SourceUnit.find? findDeclaration? remaining
  rw [List.find?_filter]
  split
  · rename_i hpass
    rw [List.find?_eq_none]
    intro b _ hb
    obtain ⟨hfree, rfl⟩ : (b.name ∉ seen ∧ b.name ∉ frameworkBases) ∧ b.name = base := by
      simpa using hb
    exact hpass.elim hfree.2 hfree.1
  · rename_i hpass
    rw [not_or] at hpass
    congr 1
    funext b
    by_cases hb : b.name = base
    · simp [hb, hpass]
    · simp [hb]

/-- **The walk follows the visits**, whatever is pending after the bases. -/
theorem Visits.walk_append {u : SourceUnit} {seen bases : List Text} {ds : List Declaration}
    (h : Visits u seen bases ds) (rest : List Text) :
    walk (·.bases) (remaining u seen) (bases ++ rest) =
      ds ++ walk (·.bases) (remaining u (ds.map (·.name) ++ seen)) rest := by
  induction h generalizing rest with
  | done => rfl
  | @pass seen more base ds hpass _ ih =>
    have hnone : findDeclaration? base (remaining u seen) = none := by
      rw [findDeclaration?_remaining]
      split
      · rfl
      · rename_i hfree
        exact ((or_assoc.mpr hpass).resolve_left hfree)
    rw [List.cons_append, walk_cons, hnone]
    exact ih rest
  | @visit seen more base b inner ds hbase hseen hfind _ _ ihinner ihrest =>
    -- The bases of the class come before what is pending, so its own walk is followed first.
    have hname : b.name = base := by simpa using List.find?_some hfind
    have hfound : findDeclaration? base (remaining u seen) = some b := by
      rw [findDeclaration?_remaining, if_neg (by simp [hbase, hseen]), hfind]
    have hseen' : remaining u (ds.map (·.name) ++ (inner.map (·.name) ++ base :: seen)) =
        remaining u ((b :: (inner ++ ds)).map (·.name) ++ seen) := by
      apply remaining_congr
      intro n
      simp only [List.map_cons, List.map_append, List.mem_append, List.mem_cons, hname]
      grind
    rw [List.cons_append, walk_cons, hfound]
    dsimp only
    rw [hname, ← remaining_cons, ihinner, ihrest, hseen', List.cons_append, List.append_assoc]

/-- Every walk ends: each visit leaves fewer classes, and between visits the list of bases
    shortens. -/
theorem exists_visits (u : SourceUnit) (seen bases : List Text) : ∃ ds, Visits u seen bases ds := by
  match bases with
  | [] => exact ⟨[], .done⟩
  | base :: rest =>
    by_cases hpass : base ∈ frameworkBases ∨ base ∈ seen ∨ u.find? base = none
    · obtain ⟨ds, hds⟩ := exists_visits u seen rest
      exact ⟨ds, .pass hpass hds⟩
    · rw [not_or, not_or] at hpass
      obtain ⟨hbase, hseen, hfind⟩ := hpass
      obtain ⟨b, hb⟩ := Option.ne_none_iff_exists'.mp hfind
      have hfewer : (remaining u (base :: seen)).length < (remaining u seen).length := by
        have hname : b.name = base := by simpa using List.find?_some hb
        rw [remaining_cons, List.length_filter_lt_length_iff_exists]
        refine ⟨b, List.mem_filter.mpr ⟨List.mem_of_find?_eq_some hb, ?_⟩, by simp [hname]⟩
        simp [hname, hbase, hseen]
      obtain ⟨inner, hinner⟩ := exists_visits u (base :: seen) b.bases
      have hfewer' : (remaining u (inner.map (·.name) ++ base :: seen)).length <
          (remaining u seen).length := by
        refine Nat.lt_of_le_of_lt ?_ hfewer
        rw [remaining_append]
        exact List.length_filter_le _ _
      obtain ⟨ds, hds⟩ := exists_visits u (inner.map (·.name) ++ base :: seen) rest
      exact ⟨b :: (inner ++ ds), .visit hbase hseen hb hinner hds⟩
termination_by ((remaining u seen).length, bases.length)

theorem ancestors_eq_walk (u : SourceUnit) (d : Declaration) :
    ancestors u d = walk (·.bases) (remaining u [d.name]) d.bases := by
  have hothers : remaining u [d.name] =
      u.decls.filter fun b => b.name ≠ d.name && !frameworkBases.contains b.name := by
    unfold remaining
    apply List.filter_congr
    intro b _
    simp
  rw [hothers]
  rfl

/-- **The ancestors are the classes visited**: the walk ends, and with nothing else. -/
theorem visits_iff (u : SourceUnit) (d : Declaration) (ds : List Declaration) :
    Visits u [d.name] d.bases ds ↔ ds = ancestors u d := by
  have hunique {ds : List Declaration} (h : Visits u [d.name] d.bases ds) :
      ds = ancestors u d := by
    have hwalk := h.walk_append []
    rw [walk_nil, List.append_nil, List.append_nil] at hwalk
    rw [ancestors_eq_walk, hwalk]
  constructor
  · exact hunique
  · rintro rfl
    obtain ⟨ds, hds⟩ := exists_visits u [d.name] d.bases
    exact hunique hds ▸ hds

/-- Two ways to `D`, and `D` inherits from the class again. -/
example :
    let u : SourceUnit :=
      { path := "m.py"
        text := "class A(B, C, Model): x\nclass B(D): x\nclass C(D, B): x\nclass D(A): x\n" }
    u.decls.head?.map (fun d => (ancestors u d).map (·.name)) =
      some (["B", "D", "C"] : List Text) := by
  decide +kernel

/-! ## Members of the classes visited -/

/-- Merging bases one after another merges all that they have, in each list on its own. -/
theorem part_foldl_mergeAll {α : Type} [Named α] {part : Members → List α}
    (hpart : ∀ m base, part (m.mergeAll base) = Named.mergeAll (part m) (part base))
    (m : Members) (bases : List Members) :
    part (bases.foldl Members.mergeAll m) = Named.mergeAll (part m) (bases.flatMap part) := by
  induction bases generalizing m with
  | nil => rfl
  | cons base bases ih =>
    rw [List.foldl_cons, ih, hpart, List.flatMap_cons, Named.mergeAll_append]

/-- What the classes visited have in a list of members, one class after another. -/
def inheritedPart {α : Type} (part : Members → List α) (u : SourceUnit) (d : Declaration) :
    List α :=
  (ancestors u d).flatMap fun c => part ((membersOf u c d.name).inheritedFrom c.name)

theorem part_inheritedMembers {α : Type} [Named α] {part : Members → List α}
    (hpart : ∀ m base, part (m.mergeAll base) = Named.mergeAll (part m) (part base))
    (u : SourceUnit) (d : Declaration)
    (hown : (Named.names (part (membersOf u d d.name))).Nodup) :
    part (inheritedMembers u d) =
      Named.firstOfEach (part (membersOf u d d.name) ++ inheritedPart part u d) := by
  have hfold : inheritedMembers u d =
      ((ancestors u d).map fun c => (membersOf u c d.name).inheritedFrom c.name).foldl
        Members.mergeAll (membersOf u d d.name) := by
    rw [List.foldl_map]
    rfl
  rw [hfold, part_foldl_mergeAll hpart, Named.mergeAll_eq_firstOfEach hown, List.flatMap_map]
  rfl

/-! ## Relations to the class itself -/

/-- The expression that names the target of a relation. -/
def targetExpression? (args : List Argument) : Option Text :=
  (args.findSome? (·.valueOf? "to")).or (args.findSome? Argument.positional?)

/-- Whether a call declares a relation to `'self'`. -/
def relatesToSelf (u : SourceUnit) (call : CallAssignment) : Bool :=
  (fieldTypeOf? call.callee).any isRelational
    && (targetExpression? (Argument.parseAll (call.args.slice u.text))).bind stringLiteral?
      == some ("self" : Text)

theorem resolveTarget?_eq (args : List Argument) (owner : Text) :
    resolveTarget? args owner = (targetExpression? args).bind (targetOf? owner) := by
  unfold resolveTarget? targetExpression?
  cases args.findSome? (·.valueOf? "to") with
  | some expr => rfl
  | none => cases args.findSome? Argument.positional? <;> rfl

theorem targetOf?_self {owner expr : Text} (h : stringLiteral? expr = some ("self" : Text)) :
    targetOf? owner expr = some owner := by
  have hname : Text.afterLast '.' "self" = ("self" : Text) := by decide
  rw [targetOf?, h]
  show targetOfString? owner "self" = some owner
  rw [targetOfString?, hname, if_pos rfl]

section

variable {u : SourceUnit} {owner : Text}

/-- A field that a call declares is made by `fieldOf`. -/
theorem exists_type_of_attributeOf? {call : CallAssignment} {f : Field}
    (h : attributeOf? u owner call = some (.field f)) :
    ∃ type, fieldTypeOf? call.callee = some type ∧
      f = fieldOf u owner call type (Argument.parseAll (call.args.slice u.text)) := by
  unfold attributeOf? at h
  dsimp only at h
  split at h
  · rename_i type htype
    cases h
    exact ⟨type, htype, rfl⟩
  · obtain ⟨g, -, hg⟩ := Option.map_eq_some_iff.mp h
    cases hg

theorem relatedEntity_of_relatesToSelf {call : CallAssignment} {f : Field}
    (h : attributeOf? u owner call = some (.field f)) (hself : relatesToSelf u call = true) :
    f.relatedEntity = some owner := by
  obtain ⟨type, htype, rfl⟩ := exists_type_of_attributeOf? h
  rw [relatesToSelf, htype, Bool.and_eq_true, beq_iff_eq, Option.bind_eq_some_iff] at hself
  obtain ⟨hrelational, expr, hexpr, hliteral⟩ := hself
  rw [Option.any_some] at hrelational
  show (if isRelational type = true then _ else none) = _
  rw [if_pos hrelational, resolveTarget?_eq, hexpr]
  exact targetOf?_self hliteral

/-- Every field of a class body is what one of its assignments declares. -/
theorem exists_call_of_mem_fields {c : Declaration} {f : Field}
    (hf : f ∈ (membersOf u c owner).fields) :
    ∃ call ∈ u.callsOf c, attributeOf? u owner call = some (.field f) := by
  cases hindent : c.memberIndent? u.text with
  | none =>
    rw [membersOf, hindent] at hf
    cases hf
  | some indent =>
    have hlast := (mem_fields_membersOf_iff hindent owner f.name f).mp ⟨hf, rfl⟩
    obtain ⟨call, hcall, hattribute⟩ := Option.bind_eq_some_iff.mp hlast
    have hmem := List.mem_reverse.mp (List.mem_of_find?_eq_some hcall)
    have hlevel := (List.mem_filter.mp hmem).1
    exact ⟨call, (List.mem_filter.mp hlevel).1, hattribute⟩

end

/-! ## What the framework supplies -/

namespace Members

variable (m : Members)

theorem methods_withDefaults :
    m.withDefaults.methods =
      m.methods ++ suppliedMethods.filter (·.name ∉ Named.names m.methods) := by
  have hdistinct : Named.firstOfEach suppliedMethods = suppliedMethods := by decide
  have h := Named.mergeAll_eq m.methods suppliedMethods
  rwa [hdistinct] at h

theorem properties_withDefaults :
    m.withDefaults.properties = m.properties ++ defaultProperties.filter (· ∉ m.properties) := by
  have hdistinct : Named.firstOfEach defaultProperties = defaultProperties := by decide
  have h := Named.mergeAll_eq m.properties defaultProperties
  rwa [hdistinct, Named.names_texts] at h

theorem managers_withDefaults :
    m.withDefaults.managers = if defaultManager ∈ Named.names m.managers then m.managers
      else Manager.default :: m.managers := by
  show (if Named.taken m.managers defaultManager = true then m.managers else _) = _
  simp only [Named.taken_iff]

end Members

/-! ## Entities -/

/-- **The first occurrence of a name wins.** Whatever the text and the graph of its bases, the walk
    from a class ends, with one list of classes. Each list of members is, before the framework's
    come in, what the class and then these classes declare, one after another, every name at its
    first occurrence. A field of a class visited is marked with the class, and a relation to
    `'self'` points to the class that the walk started from. What the framework supplies is added
    where the name is free. -/
theorem first_occurrence_wins (u : SourceUnit) (d : Declaration) :
    let classes := ancestors u d
    let members (c : Declaration) := membersOf u c d.name
    let m := inheritedMembers u d
    let e := entityOf u d
    (∀ ds, Visits u [d.name] d.bases ds ↔ ds = classes) ∧
      (m.fields = Named.firstOfEach ((members d).fields ++ classes.flatMap fun c =>
          (members c).fields.map fun f => { f with origin := .inherited c.name }) ∧
        m.methods = Named.firstOfEach ((d :: classes).flatMap fun c => (members c).methods) ∧
        m.properties =
          Named.firstOfEach ((d :: classes).flatMap fun c => (members c).properties) ∧
        m.managers = Named.firstOfEach ((d :: classes).flatMap fun c => (members c).managers)) ∧
      (∀ c ∈ d :: classes, ∀ f ∈ (members c).fields, f.origin = .declared ∧
        ∃ call ∈ u.callsOf c, attributeOf? u d.name call = some (.field f) ∧
          (relatesToSelf u call = true → f.relatedEntity = some d.name)) ∧
      e.fields = m.fields ∧
      e.methods = m.methods ++ suppliedMethods.filter (·.name ∉ Named.names m.methods) ∧
      e.properties = m.properties ++ defaultProperties.filter (· ∉ m.properties) ∧
      e.managers = (if defaultManager ∈ Named.names m.managers then m.managers
        else Manager.default :: m.managers) := by
  intro classes members m e
  have hown := distinct_membersOf u d d.name
  refine ⟨visits_iff u d, ⟨?_, ?_, ?_, ?_⟩, ?_, rfl, m.methods_withDefaults,
    m.properties_withDefaults, m.managers_withDefaults⟩
  · exact part_inheritedMembers (fun _ _ => rfl) u d hown.fields
  · exact part_inheritedMembers (fun _ _ => rfl) u d hown.methods
  · have hproperties := hown.properties
    rw [← Named.names_texts (membersOf u d d.name).properties] at hproperties
    exact part_inheritedMembers (fun _ _ => rfl) u d hproperties
  · exact part_inheritedMembers (fun _ _ => rfl) u d hown.managers
  · intro c _ f hf
    obtain ⟨call, hcall, hattribute⟩ := exists_call_of_mem_fields hf
    refine ⟨?_, call, hcall, hattribute, relatedEntity_of_relatesToSelf hattribute⟩
    obtain ⟨type, -, rfl⟩ := exists_type_of_attributeOf? hattribute
    exact origin_fieldOf u d.name call type _

end OrmLens.Model
