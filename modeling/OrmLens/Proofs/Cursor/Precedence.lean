/-
  A name that a class declares, looked up on its entity.

  Names are kept apart by kind: fields, methods and managers are merged each in a list of its own,
  and a lookup goes through the lists in this order. So a declaration of the class wins over what is
  inherited in its own list and in the later ones, and loses to an earlier list.
  `own_declaration_found_iff` says for every name of the class which of the two happens;
  `own_method_shadowed` is a class whose method is hidden by a field of its base.
-/
import OrmLens.Cursor.Symbol
import OrmLens.Proofs.Inheritance

namespace OrmLens.Cursor

open Framework Model Source

/-- Whether a symbol is a member declared in a class body. -/
def Symbol.DeclaredIn (m : Members) : Symbol → Prop
  | .field _ f => f ∈ m.fields
  | .method _ x => x ∈ m.methods
  | .manager _ g => g ∈ m.managers
  | .property _ p => p ∈ m.properties
  | _ => False

instance (m : Members) : DecidablePred (Symbol.DeclaredIn m)
  | .field _ f => inferInstanceAs (Decidable (f ∈ m.fields))
  | .method _ x => inferInstanceAs (Decidable (x ∈ m.methods))
  | .manager _ g => inferInstanceAs (Decidable (g ∈ m.managers))
  | .property _ p => inferInstanceAs (Decidable (p ∈ m.properties))
  | .entity _ | .managerMethod _ _ | .operation _ | .lookup _ _ | .fieldType _ =>
    inferInstanceAs (Decidable False)

/-- Whether a class that is inherited from declares the name, in the list given. -/
def Inherits {α : Type} [Named α] (part : Members → List α) (u : SourceUnit) (d : Declaration)
    (n : Text) : Prop :=
  ∃ b ∈ ancestors u d, n ∈ Named.names (part (membersOf u b d.name))

instance {α : Type} [Named α] (part : Members → List α) (u : SourceUnit) (d : Declaration)
    (n : Text) : Decidable (Inherits part u d n) :=
  inferInstanceAs (Decidable (∃ b ∈ ancestors u d, _))

section

variable (u : SourceUnit) (d : Declaration) (n : Text)

theorem mem_names_inheritedPart {α : Type} [Named α] {part : Members → List α}
    (hnames : ∀ m base, Named.names (part (Members.inheritedFrom m base)) = Named.names (part m)) :
    n ∈ Named.names (inheritedPart part u d) ↔ Inherits part u d n := by
  have hclass (b : Declaration) := hnames (membersOf u b d.name) b.name
  simp only [Named.names] at hclass
  simp only [Named.names, inheritedPart, List.map_flatMap, List.mem_flatMap, Inherits, hclass]

theorem field?_entityOf : (entityOf u d).field? n =
    Named.find? ((membersOf u d d.name).fields ++ inheritedPart Members.fields u d) n := by
  have hfields := part_inheritedMembers (fun _ _ => rfl) u d (distinct_membersOf u d d.name).fields
  rw [← Named.find?_firstOfEach, ← hfields]
  rfl

theorem method?_entityOf : (entityOf u d).method? n =
    Named.find? ((membersOf u d d.name).methods ++
      (inheritedPart Members.methods u d ++ suppliedMethods)) n := by
  have hmethods :=
    part_inheritedMembers (fun _ _ => rfl) u d (distinct_membersOf u d d.name).methods
  show Named.find? (Named.mergeAll (inheritedMembers u d).methods suppliedMethods) n = _
  rw [Named.find?_mergeAll, hmethods, Named.find?_firstOfEach, ← Named.find?_append,
    List.append_assoc]

/-- The default manager only takes its name if no other has it. -/
theorem find?_managers_withDefaults (m : Members) (hn : n ∈ Named.names m.managers) :
    Named.find? m.withDefaults.managers n = Named.find? m.managers n := by
  rw [m.managers_withDefaults]
  split
  · rfl
  · rename_i hfree
    have hother : defaultManager ≠ n := by
      rintro rfl
      exact hfree hn
    exact List.find?_cons_of_neg fun htaken => hother (of_decide_eq_true htaken)

theorem manager?_entityOf (hn : n ∈ Named.names (membersOf u d d.name).managers) :
    ∃ g ∈ (membersOf u d d.name).managers, (entityOf u d).manager? n = some g := by
  have hmanagers :=
    part_inheritedMembers (fun _ _ => rfl) u d (distinct_membersOf u d d.name).managers
  obtain ⟨g, hg⟩ := Option.isSome_iff_exists.mp ((Named.find?_isSome_iff _ n).mpr hn)
  have hfind : Named.find? (inheritedMembers u d).managers n = some g := by
    rw [hmanagers, Named.find?_firstOfEach, Named.find?_append, hg, Option.some_or]
  refine ⟨g, List.mem_of_find?_eq_some hg, ?_⟩
  show Named.find? (inheritedMembers u d).withDefaults.managers n = _
  rw [find?_managers_withDefaults n _ ((Named.find?_isSome_iff _ n).mp (hfind ▸ rfl)), hfind]

end

/-- **When a declaration of the class is found.** A name that the class declares as a field, a
    method or a manager is always found. What is found is declared in the class exactly if the name
    is a field there; or no inherited field has it, and it is a method there; or no inherited and no
    supplied method has it either. -/
theorem own_declaration_found_iff {u : SourceUnit} {d : Declaration} {n : Text}
    (hn : n ∈ Named.names (membersOf u d d.name).fields ∨
      n ∈ Named.names (membersOf u d d.name).methods ∨
      n ∈ Named.names (membersOf u d d.name).managers) :
    let own := membersOf u d d.name
    ∃ s, member? (entityOf u d) n = some s ∧
      (s.DeclaredIn own ↔
        n ∈ Named.names own.fields ∨ ¬ Inherits Members.fields u d n ∧
          (n ∈ Named.names own.methods ∨
            ¬ Inherits Members.methods u d n ∧ n ∉ Named.names suppliedMethods)) := by
  intro own
  have hfields : n ∈ Named.names (inheritedPart Members.fields u d) ↔
      Inherits Members.fields u d n :=
    mem_names_inheritedPart u d n fun m base => List.map_map
  have hmethods : n ∈ Named.names (inheritedPart Members.methods u d) ↔
      Inherits Members.methods u d n :=
    mem_names_inheritedPart u d n fun m base => rfl
  have hlater : n ∉ Named.names (inheritedPart Members.methods u d ++ suppliedMethods) ↔
      ¬ Inherits Members.methods u d n ∧ n ∉ Named.names suppliedMethods := by
    rw [← hmethods, Named.names, List.map_append, List.mem_append, not_or]
    rfl
  unfold member?
  rw [field?_entityOf, method?_entityOf, ← hfields, ← hlater]
  rcases Named.find?_append_cases own.fields (inheritedPart Members.fields u d) n with
    ⟨hown, f, hf, hfind⟩ | ⟨hown, hinherited, f, hf, hfind⟩ | ⟨hown, hfree, hnone⟩
  · exact ⟨.field (entityOf u d) f, by rw [hfind]; rfl, iff_of_true hf (Or.inl hown)⟩
  · refine ⟨.field (entityOf u d) f, by rw [hfind]; rfl, iff_of_false hf ?_⟩
    simp [own, hown, hinherited]
  rw [hnone, Option.map_none, Option.none_or]
  rcases Named.find?_append_cases own.methods
      (inheritedPart Members.methods u d ++ suppliedMethods) n with
    ⟨hown', x, hx, hfind⟩ | ⟨hown', hother, x, hx, hfind⟩ | ⟨hown', hfree', hnone'⟩
  · exact ⟨.method (entityOf u d) x, by rw [hfind]; rfl,
      iff_of_true hx (Or.inr ⟨hfree, Or.inl hown'⟩)⟩
  · refine ⟨.method (entityOf u d) x, by rw [hfind]; rfl, iff_of_false hx ?_⟩
    simp [own, hown, hown', hother]
  · obtain ⟨g, hg, hfind⟩ := manager?_entityOf u d n ((hn.resolve_left hown).resolve_left hown')
    exact ⟨.manager (entityOf u d) g, by rw [hnone', hfind]; rfl,
      iff_of_true hg (Or.inr ⟨hfree, Or.inr hfree'⟩)⟩

/-- A method of the class wins over the manager of that name in its base, and a manager of the class
    is hidden by the method of that name in its base. -/
theorem own_declaration_found_iff_two_kinds :
    let u : SourceUnit :=
      { path := "m.py"
        text := "class A(Model):\n    recent = Manager()\n    def ranked(self):\n        pass\n" ++
          "class B(A):\n    ranked = Manager()\n    def recent(self):\n        pass\n" }
    ∃ d ∈ modelDeclarations u,
      (("recent" : Text) ∈ Named.names (membersOf u d d.name).methods ∧
        ∃ s, member? (entityOf u d) "recent" = some s ∧ s.DeclaredIn (membersOf u d d.name)) ∧
      (("ranked" : Text) ∈ Named.names (membersOf u d d.name).managers ∧
        ∃ s, member? (entityOf u d) "ranked" = some s ∧
          ¬ s.DeclaredIn (membersOf u d d.name)) := by
  intro u
  have hrun : (modelDeclarations u)[1]?.any fun d =>
      (("recent" : Text) ∈ Named.names (membersOf u d d.name).methods ∧
        ¬ Inherits Members.fields u d "recent") ∧
      ("ranked" : Text) ∈ Named.names (membersOf u d d.name).managers ∧
        ("ranked" : Text) ∉ Named.names (membersOf u d d.name).fields ∧
        ("ranked" : Text) ∉ Named.names (membersOf u d d.name).methods ∧
        Inherits Members.methods u d "ranked" := by
    decide +kernel
  obtain ⟨d, hd, hfacts⟩ := (Option.any_eq_true ..).mp hrun
  obtain ⟨⟨hrecent, hfree⟩, hranked, hfield, hmethod, hinherits⟩ := of_decide_eq_true hfacts
  obtain ⟨s, hs, hown⟩ := own_declaration_found_iff (Or.inr (Or.inl hrecent))
  obtain ⟨t, ht, hother⟩ := own_declaration_found_iff (Or.inr (Or.inr hranked))
  refine ⟨d, List.mem_of_getElem? hd, ⟨hrecent, s, hs, ?_⟩, hranked, t, ht, ?_⟩
  · exact hown.mpr (Or.inr ⟨hfree, Or.inl hrecent⟩)
  · intro hdeclared
    rcases hother.mp hdeclared with h | ⟨-, h | h⟩
    · exact hfield h
    · exact hmethod h
    · exact h.1 hinherits

/-- A field of the base hides the method of that name in the class. -/
theorem own_method_shadowed :
    ¬ ∀ (u : SourceUnit) (d : Declaration) (n : Text), d ∈ modelDeclarations u →
      n ∈ Named.names (membersOf u d d.name).fields ∨
        n ∈ Named.names (membersOf u d d.name).methods ∨
        n ∈ Named.names (membersOf u d d.name).managers →
      ∃ s, member? (entityOf u d) n = some s ∧ s.DeclaredIn (membersOf u d d.name) := by
  intro h
  let u : SourceUnit :=
    { path := "m.py"
      text := "class A(Model):\n    title = CharField()\n" ++
        "class B(A):\n    def title(self):\n        return 1\n" }
  have hrun : (modelDeclarations u)[1]?.any fun d =>
      ("title" : Text) ∈ Named.names (membersOf u d d.name).methods ∧
      (member? (entityOf u d) "title").any fun s => ¬ s.DeclaredIn (membersOf u d d.name) := by
    decide +kernel
  obtain ⟨d, hd, hfacts⟩ := (Option.any_eq_true ..).mp hrun
  obtain ⟨hmethod, hsymbol⟩ := of_decide_eq_true hfacts
  obtain ⟨s, hs, hdeclared⟩ := h u d "title" (List.mem_of_getElem? hd) (Or.inr (Or.inl hmethod))
  rw [hs, Option.any_some, decide_eq_true_eq] at hsymbol
  exact hsymbol hdeclared

end OrmLens.Cursor
