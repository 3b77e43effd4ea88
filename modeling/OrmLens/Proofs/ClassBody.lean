/-
  Fields and managers of a class body.

  They come from the class-level assignments that declare a member. `last_assignment_counts`: a
  field or a manager of a name is there exactly if there is such an assignment to the name, never
  both, and it is what the last of them declares. Adding one attribute is said once for both lists
  (`find?_fields_withAttribute`, `find?_managers_withAttribute`); what a whole body leaves follows
  by induction (`find?_foldl_withAttribute`).

  Whether an assignment declares a member is not for its callee alone to say: a manager made with
  `from_queryset` takes its class from a positional argument, and without one there is no manager
  (`constructor_needs_argument`).
-/
import OrmLens.Proofs.Schema
import OrmLens.Proofs.Source.Blocks

namespace OrmLens.Model

open Framework Source

/-! ## Assignments that declare a member -/

/-- Whether a callee constructs a manager. -/
def isManagerConstructor (callee : Text) : Bool :=
  Text.endsWith callee ".as_manager" || Text.endsWith callee ".from_queryset"
    || Text.hasPart "Manager" (Text.afterLast '.' callee)

/-- Whether an assignment declares a member: its callee constructs a field or a manager, and
    `from_queryset` is given a class. -/
def declaresMember (u : SourceUnit) (call : CallAssignment) : Bool :=
  (fieldTypeOf? call.callee).isSome
    || isManagerConstructor call.callee
      && (!Text.endsWith call.callee ".from_queryset"
        || (Argument.parseAll (call.args.slice u.text)).any (·.positional?.isSome))

/-- The class-level assignments that declare a member, in source order. -/
def memberCalls (u : SourceUnit) (d : Declaration) (indent : Nat) : List CallAssignment :=
  (classLevelCalls u d indent).filter (declaresMember u)

theorem not_endsWith_of_before? {callee querySet : Text}
    (h : Text.before? ".as_manager" callee = some querySet) :
    Text.endsWith callee ".from_queryset" = false := by
  rw [Text.endsWith, Option.isSome_eq_false_iff, Option.isNone_iff_eq_none,
    Option.eq_none_iff_forall_ne_some]
  intro other hother
  rw [Text.before?_eq_some_iff] at h hother
  -- The two endings differ in their last letter.
  have hlast := congrArg List.getLast? (h.symm.trans hother)
  simp at hlast

theorem isSome_managerOf? (u : SourceUnit) (call : CallAssignment) (args : List Argument) :
    (managerOf? u call args).isSome = (isManagerConstructor call.callee
      && (!Text.endsWith call.callee ".from_queryset" || args.any (·.positional?.isSome))) := by
  unfold managerOf? isManagerConstructor
  cases has : Text.before? ".as_manager" call.callee with
  | some querySet =>
    rw [not_endsWith_of_before? has, Text.endsWith, has]
    rfl
  | none =>
    have hends : Text.endsWith call.callee ".as_manager" = false := by
      rw [Text.endsWith, has]
      rfl
    rw [hends, Bool.false_or]
    dsimp only
    cases Text.endsWith call.callee ".from_queryset" with
    | true =>
      rw [if_pos rfl, Option.isSome_map, List.isSome_findSome?]
      rfl
    | false =>
      cases Text.hasPart "Manager" (Text.afterLast '.' call.callee) with
      | false => rfl
      | true =>
        rw [Bool.not_true, if_neg Bool.false_ne_true, if_neg Bool.false_ne_true]
        split <;> rfl

theorem isSome_attributeOf? (u : SourceUnit) (owner : Text) (call : CallAssignment) :
    (attributeOf? u owner call).isSome = declaresMember u call := by
  unfold attributeOf? declaresMember
  dsimp only
  cases fieldTypeOf? call.callee with
  | some type => rfl
  | none =>
    rw [Option.isSome_map, isSome_managerOf?]
    rfl

/-- A manager has the name it is assigned to. -/
theorem name_managerOf? {u : SourceUnit} {call : CallAssignment} {args : List Argument}
    {g : Manager} (h : managerOf? u call args = some g) : g.name = call.target := by
  unfold managerOf? at h
  split at h
  · cases h
    rfl
  · split at h
    · obtain ⟨querySet, -, rfl⟩ := Option.map_eq_some_iff.mp h
      rfl
    · dsimp only at h
      split at h
      · cases h
      · split at h
        · cases h
          rfl
        · cases h
          rfl

/-! ## Attributes under their names -/

instance : Named Attribute where
  nameOf
    | .field f => f.name
    | .manager g => g.name

namespace Attribute

/-- The field, if it is one. -/
def field? : Attribute → Option Field
  | .field f => some f
  | .manager _ => none

/-- The manager, if it is one. -/
def manager? : Attribute → Option Manager
  | .field _ => none
  | .manager g => some g

theorem field?_eq_some_iff (a : Attribute) (f : Field) : a.field? = some f ↔ a = .field f := by
  cases a <;> simp [field?]

theorem manager?_eq_some_iff (a : Attribute) (g : Manager) :
    a.manager? = some g ↔ a = .manager g := by
  cases a <;> simp [manager?]

end Attribute

theorem nameOf_attributeOf? {u : SourceUnit} {owner : Text} {call : CallAssignment}
    {a : Attribute} (h : attributeOf? u owner call = some a) : Named.nameOf a = call.target := by
  unfold attributeOf? at h
  dsimp only at h
  split at h
  · cases h
    exact name_fieldOf u owner call _ _
  · obtain ⟨g, hg, rfl⟩ := Option.map_eq_some_iff.mp h
    exact name_managerOf? hg

/-! ## One attribute after another -/

theorem find?_fields_withAttribute (m : Members) (a : Attribute) (n : Text) :
    Named.find? (m.withAttribute a).fields n =
      if Named.nameOf a = n then a.field? else Named.find? m.fields n := by
  cases a with
  | field f => exact Named.find?_upsert m.fields f n
  | manager g => exact Named.find?_without m.fields g.name n

theorem find?_managers_withAttribute (m : Members) (a : Attribute) (n : Text) :
    Named.find? (m.withAttribute a).managers n =
      if Named.nameOf a = n then a.manager? else Named.find? m.managers n := by
  cases a with
  | field f => exact Named.find?_without m.managers f.name n
  | manager g => exact Named.find?_upsert m.managers g n

/-- In a list in which each attribute decides what its name stands for, the last one of a name
    decides. `part` is the list, `part?` what an attribute leaves in it. -/
theorem find?_foldl_withAttribute {α : Type} [Named α] {part : Members → List α}
    {part? : Attribute → Option α}
    (hstep : ∀ m a n, Named.find? (part (m.withAttribute a)) n =
      if Named.nameOf a = n then part? a else Named.find? (part m) n)
    (m : Members) (as : List Attribute) (n : Text) :
    Named.find? (part (as.foldl Members.withAttribute m)) n =
      (Named.find? as.reverse n).elim (Named.find? (part m) n) part? := by
  induction as generalizing m with
  | nil => rfl
  | cons a as ih =>
    rw [List.foldl_cons, ih, hstep, List.reverse_cons, Named.find?_append]
    cases Named.find? as.reverse n with
    | some last => rfl
    | none =>
      rw [Option.none_or, Option.elim_none]
      by_cases ha : Named.nameOf a = n
      · simp [Named.find?, ha]
      · simp [Named.find?, ha]

/-- Methods leave fields and managers alone. -/
theorem foldl_withMethod_frame (m : Members) (methods : List Method) :
    (methods.foldl Members.withMethod m).fields = m.fields ∧
      (methods.foldl Members.withMethod m).managers = m.managers := by
  induction methods generalizing m with
  | nil => exact ⟨rfl, rfl⟩
  | cons x methods ih => exact ih (m.withMethod x)

/-! ## A class body -/

section

variable {u : SourceUnit} {d : Declaration} {indent : Nat}

/-- What the last assignment to a name declares. -/
def lastAttribute? (u : SourceUnit) (d : Declaration) (indent : Nat) (owner n : Text) :
    Option Attribute :=
  ((memberCalls u d indent).reverse.find? (·.target = n)).bind (attributeOf? u owner)

/-- The last of the attributes of a name comes from the last assignment to it. -/
theorem find?_attributes (owner n : Text) :
    Named.find? ((classLevelCalls u d indent).filterMap (attributeOf? u owner)).reverse n =
      lastAttribute? u d indent owner n := by
  have htarget : (fun call => (attributeOf? u owner call).any (Named.nameOf · = n)) =
      fun call => decide (declaresMember u call = true ∧ decide (call.target = n) = true) := by
    funext call
    rw [← isSome_attributeOf? u owner call]
    cases ha : attributeOf? u owner call with
    | none => simp
    | some a => simp [nameOf_attributeOf? ha]
  unfold Named.find? lastAttribute? memberCalls
  rw [← List.filterMap_reverse, List.find?_filterMap, htarget, ← List.filter_reverse,
    List.find?_filter]

variable (hindent : d.memberIndent? u.text = some indent)
include hindent

/-- The fields and managers are those of the attributes. -/
theorem membersOf_frame (owner : Text) :
    let declared := ((classLevelCalls u d indent).filterMap (attributeOf? u owner)).foldl
      Members.withAttribute {}
    (membersOf u d owner).fields = declared.fields ∧
      (membersOf u d owner).managers = declared.managers := by
  unfold membersOf
  rw [hindent]
  exact foldl_withMethod_frame _ _

theorem find?_fields_membersOf (owner n : Text) :
    Named.find? (membersOf u d owner).fields n =
      (lastAttribute? u d indent owner n).bind Attribute.field? := by
  rw [(membersOf_frame hindent owner).1, find?_foldl_withAttribute find?_fields_withAttribute,
    find?_attributes]
  cases lastAttribute? u d indent owner n <;> rfl

theorem find?_managers_membersOf (owner n : Text) :
    Named.find? (membersOf u d owner).managers n =
      (lastAttribute? u d indent owner n).bind Attribute.manager? := by
  rw [(membersOf_frame hindent owner).2, find?_foldl_withAttribute find?_managers_withAttribute,
    find?_attributes]
  cases lastAttribute? u d indent owner n <;> rfl

/-- A field of the name is there exactly if the last assignment to it declares this field. -/
theorem mem_fields_membersOf_iff (owner n : Text) (f : Field) :
    f ∈ (membersOf u d owner).fields ∧ f.name = n ↔
      lastAttribute? u d indent owner n = some (.field f) := by
  have hfind := Named.find?_eq_some_iff (distinct_membersOf u d owner).fields n f
  rw [find?_fields_membersOf hindent, Option.bind_eq_some_iff] at hfind
  simp only [Attribute.field?_eq_some_iff, exists_eq_right] at hfind
  exact hfind.symm

theorem mem_managers_membersOf_iff (owner n : Text) (g : Manager) :
    g ∈ (membersOf u d owner).managers ∧ g.name = n ↔
      lastAttribute? u d indent owner n = some (.manager g) := by
  have hfind := Named.find?_eq_some_iff (distinct_membersOf u d owner).managers n g
  rw [find?_managers_membersOf hindent, Option.bind_eq_some_iff] at hfind
  simp only [Attribute.manager?_eq_some_iff, exists_eq_right] at hfind
  exact hfind.symm

end

/-- Some assignment to the name gives what the last one declares. -/
theorem isSome_lastAttribute?_iff (u : SourceUnit) (d : Declaration) (indent : Nat)
    (owner n : Text) :
    (lastAttribute? u d indent owner n).isSome ↔
      ∃ call ∈ memberCalls u d indent, call.target = n := by
  have hdeclares : ∀ call ∈ memberCalls u d indent, (attributeOf? u owner call).isSome = true := by
    intro call hcall
    rw [isSome_attributeOf?]
    exact (List.mem_filter.mp hcall).2
  unfold lastAttribute?
  cases hlast : (memberCalls u d indent).reverse.find? (·.target = n) with
  | none =>
    rw [List.find?_eq_none] at hlast
    simpa using hlast
  | some call =>
    have hcall := List.mem_reverse.mp (List.mem_of_find?_eq_some hlast)
    have htarget : call.target = n := by simpa using List.find?_some hlast
    exact ⟨fun _ => ⟨call, hcall, htarget⟩, fun _ => hdeclares call hcall⟩

theorem lastAttribute?_of_last {u : SourceUnit} {d : Declaration} {indent : Nat}
    {before after : List CallAssignment} {call : CallAssignment}
    (hcalls : memberCalls u d indent = before ++ call :: after)
    (hafter : ∀ later ∈ after, later.target ≠ call.target) (owner : Text) :
    lastAttribute? u d indent owner call.target = attributeOf? u owner call := by
  have hnone : after.reverse.find? (·.target = call.target) = none := by
    rw [List.find?_eq_none]
    simpa using hafter
  unfold lastAttribute?
  rw [hcalls, List.reverse_append, List.reverse_cons, List.append_assoc, List.find?_append, hnone]
  simp

/-- No assignment that counts stands in a method. -/
theorem not_inMethod_of_mem {u : SourceUnit} {d : Declaration} (hd : d ∈ u.decls) {indent : Nat}
    {call : CallAssignment} (hcall : call ∈ memberCalls u d indent) {head : Found MethodHead}
    (hhead : head ∈ foundAt readMethodHead d.body.start (d.body.slice u.text)) :
    ¬ InMethod u.text head call.stmt.start := by
  intro hinside
  obtain ⟨hmem, hlevel⟩ := List.mem_filter.mp (List.mem_filter.mp hcall).1
  rw [SourceUnit.callsOf, List.mem_filterMap] at hmem
  obtain ⟨found, hfound, hok⟩ := hmem
  have hcall' : .ok call ∈ callAssignments u.text d.body := by
    cases found with
    | error e => cases hok
    | ok c =>
      cases hok
      exact hfound
  obtain ⟨header, hheader, hspan⟩ :=
    holds_span_of_inMethod hhead hinside (start_lt_stop (u.decls_eq ▸ hd) hcall')
  have hspans : Span.anyHolds call.stmt.start ((u.headersOf d).map (·.span)) = true := by
    refine List.any_eq_true.mpr ⟨header.span, List.mem_map_of_mem ?_, hspan⟩
    exact List.mem_filterMap.mpr ⟨.ok header, hheader, rfl⟩
  rw [hspans] at hlevel
  simp at hlevel

/-- **The last assignment to a name counts.** Of a class whose body has statements below its header,
    whatever the text, take the assignments of calls at the indentation of the first statement that
    stand in no method and declare a member. A field or a manager of a name is there exactly if one
    of them is to the name, never both, and kind and attributes are those of the last; a field's
    place is its line. None of these assignments is in the block of a method. -/
theorem last_assignment_counts {u : SourceUnit} {d : Declaration} (hd : d ∈ u.decls)
    {indent : Nat} (hindent : d.memberIndent? u.text = some indent) (owner n : Text) :
    let m := membersOf u d owner
    let calls := memberCalls u d indent
    ((∃ f ∈ m.fields, f.name = n) ∨ (∃ g ∈ m.managers, g.name = n) ↔
        ∃ call ∈ calls, call.target = n) ∧
      ¬ ((∃ f ∈ m.fields, f.name = n) ∧ ∃ g ∈ m.managers, g.name = n) ∧
      (∀ before call after, calls = before ++ call :: after → call.target = n →
        (∀ later ∈ after, later.target ≠ n) →
        (∀ f, f ∈ m.fields ∧ f.name = n ↔ attributeOf? u owner call = some (.field f)) ∧
        (∀ g, g ∈ m.managers ∧ g.name = n ↔ attributeOf? u owner call = some (.manager g)) ∧
        ∀ f ∈ m.fields, f.name = n → f.location = some (u.locate call.stmt.start)) ∧
      ∀ call ∈ calls, ∀ head ∈ foundAt readMethodHead d.body.start (d.body.slice u.text),
        ¬ InMethod u.text head call.stmt.start := by
  intro m calls
  have hfields := mem_fields_membersOf_iff hindent owner n
  have hmanagers := mem_managers_membersOf_iff hindent owner n
  refine ⟨?_, ?_, ?_, fun call hcall head hhead => not_inMethod_of_mem hd hcall hhead⟩
  · rw [← isSome_lastAttribute?_iff u d indent owner n, Option.isSome_iff_exists]
    constructor
    · rintro (⟨f, hf⟩ | ⟨g, hg⟩)
      · exact ⟨_, (hfields f).mp hf⟩
      · exact ⟨_, (hmanagers g).mp hg⟩
    · rintro ⟨a, ha⟩
      cases a with
      | field f => exact Or.inl ⟨f, (hfields f).mpr ha⟩
      | manager g => exact Or.inr ⟨g, (hmanagers g).mpr ha⟩
  · rintro ⟨⟨f, hf⟩, g, hg⟩
    have hboth := ((hfields f).mp hf).symm.trans ((hmanagers g).mp hg)
    cases hboth
  · rintro before call after hcalls rfl hafter
    have hlast := lastAttribute?_of_last hcalls hafter owner
    rw [hlast] at hfields hmanagers
    refine ⟨hfields, hmanagers, fun f hf hname => ?_⟩
    have hdeclared := (hfields f).mp ⟨hf, hname⟩
    unfold attributeOf? at hdeclared
    dsimp only at hdeclared
    split at hdeclared
    · cases hdeclared
      rfl
    · obtain ⟨g, -, hg⟩ := Option.map_eq_some_iff.mp hdeclared
      cases hg

/-- A name is a field, then a manager, then a field again; a method whose parameters end at its own
    indentation has an assignment in its block. -/
theorem last_assignment_counts_reassigned :
    let text : Text := "class A(Model):\n    x = CharField()\n    x = Manager()\n" ++
      "    def f(\n        self,\n    ):\n        y = CharField()\n" ++
      "    z = Manager.from_queryset(Q)\n    x = TextField(null=True)\n"
    let u : SourceUnit := { path := "m.py", text }
    ∃ d ∈ u.decls, d.memberIndent? u.text = some 4 ∧
      (membersOf u d "A").fields.map (fun f => (f.name, f.declaredType, f.location)) =
        ([("x", "TextField", some ⟨"m.py", 8⟩)] : List (Text × Text × Option Location)) ∧
      Named.names (membersOf u d "A").managers = (["z"] : List Text) ∧
      (memberCalls u d 4).map (·.target) = (["x", "x", "z", "x"] : List Text) ∧
      ¬ ((∃ f ∈ (membersOf u d "A").fields, f.name = "x") ∧
        ∃ g ∈ (membersOf u d "A").managers, g.name = "x") ∧
      ∀ call ∈ memberCalls u d 4,
        ∀ head ∈ foundAt readMethodHead d.body.start (d.body.slice u.text),
          ¬ InMethod u.text head call.stmt.start := by
  intro text u
  have hrun : u.decls.head?.any fun d => d.memberIndent? u.text = some 4 ∧
      (membersOf u d "A").fields.map (fun f => (f.name, f.declaredType, f.location)) =
        ([("x", "TextField", some ⟨"m.py", 8⟩)] : List (Text × Text × Option Location)) ∧
      Named.names (membersOf u d "A").managers = (["z"] : List Text) ∧
      (memberCalls u d 4).map (·.target) = (["x", "x", "z", "x"] : List Text) := by
    decide +kernel
  obtain ⟨d, hd, hfacts⟩ := (Option.any_eq_true ..).mp hrun
  obtain ⟨hindent, hfields, hmanagers, hcalls⟩ := of_decide_eq_true hfacts
  have hmem : d ∈ u.decls := List.mem_of_head? hd
  obtain ⟨-, hnever, -, hblocks⟩ := last_assignment_counts hmem hindent "A" "x"
  exact ⟨d, hmem, hindent, hfields, hmanagers, hcalls, hnever, hblocks⟩

/-- No test of the callee tells which assignments declare a member: `Manager.from_queryset` declares
    one with a class between its parentheses, and none without. -/
theorem constructor_needs_argument :
    ¬ ∃ isConstructor : Text → Bool, ∀ (u : SourceUnit) (d : Declaration) (indent : Nat),
      d ∈ u.decls → d.memberIndent? u.text = some indent → ∀ owner n : Text,
        ((∃ f ∈ (membersOf u d owner).fields, f.name = n) ∨
            (∃ g ∈ (membersOf u d owner).managers, g.name = n) ↔
          ∃ call ∈ classLevelCalls u d indent,
            isConstructor call.callee = true ∧ call.target = n) := by
  rintro ⟨isConstructor, h⟩
  let unit (args : Text) : SourceUnit :=
    { path := "m.py", text := "class A(Model):\n    x = Manager.from_queryset(" ++ args ++ ")\n" }
  -- The one assignment has the same callee, whatever its arguments.
  have tested (args : Text) (managers : List Text)
      (hrun : (unit args).decls.head?.any fun d => d.memberIndent? (unit args).text = some 4 ∧
        Named.names (membersOf (unit args) d "A").fields = [] ∧
        Named.names (membersOf (unit args) d "A").managers = managers ∧
        (classLevelCalls (unit args) d 4).map (fun call => (call.callee, call.target)) =
          ([("Manager.from_queryset", "x")] : List (Text × Text))) :
      (("x" : Text) ∈ managers ↔ isConstructor "Manager.from_queryset" = true) := by
    obtain ⟨d, hd, hfacts⟩ := (Option.any_eq_true ..).mp hrun
    obtain ⟨hindent, hfields, hmanagers, hcalls⟩ := of_decide_eq_true hfacts
    have hclaim := h (unit args) d 4 (List.mem_of_head? hd) hindent "A" "x"
    obtain ⟨call, hcall⟩ : ∃ call, classLevelCalls (unit args) d 4 = [call] :=
      List.length_eq_one_iff.mp (by simpa using congrArg List.length hcalls)
    rw [hcall, List.map_singleton, List.singleton_inj, Prod.mk.injEq] at hcalls
    rw [List.map_eq_nil_iff.mp hfields, hcall] at hclaim
    have hleft : ("x" : Text) ∈ managers ↔
        ∃ g ∈ (membersOf (unit args) d "A").managers, g.name = "x" := by
      rw [← hmanagers, Named.names, List.mem_map]
      rfl
    rw [hleft]
    simpa [hcalls.1, hcalls.2] using hclaim
  have hgiven := tested "Q" ["x"] (by decide +kernel)
  have hmissing := tested [] [] (by decide +kernel)
  exact List.not_mem_nil (hmissing.mpr (hgiven.mp List.mem_cons_self))

end OrmLens.Model
