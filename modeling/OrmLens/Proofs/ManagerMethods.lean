/-
  The methods of a manager class, and of the classes it is built on.

  A walk along bases visits the least set of classes that holds those of the names it starts from
  and is closed under bases (`walk_closed`, `of_mem_walk`): the visit of a class takes it out of
  those that are left, so a cycle ends the walk and cuts nothing off.

  `inherited_methods_iff` says which methods are found from the name of a class: those of every
  class that the name `Leads` to, as long as the classes on the way have a statement below their
  header. The bases of a class that stands on one line are not followed, so what is declared behind
  it is lost unless it is declared elsewhere too (`methods_behind_one_line_lost`).
-/
import OrmLens.Proofs.Inheritance

namespace OrmLens.Model

open Framework Source

/-! ## What a walk visits -/

section

variable {basesOf : Declaration → List Text} {left : List Declaration}

theorem findDeclaration?_filter_ne (left : List Declaration) (m n : Text) :
    findDeclaration? n (left.filter (·.name ≠ m)) =
      if n = m then none else findDeclaration? n left := by
  unfold findDeclaration?
  rw [List.find?_filter]
  split
  · rename_i h
    subst h
    rw [List.find?_eq_none]
    intro d _ hd
    simp at hd
  · rename_i h
    congr 1
    funext d
    by_cases hd : d.name = n
    · simp [hd, h]
    · simp [hd]

/-- Induction along a walk: a name is passed over, or its class is visited and leaves the rest. -/
theorem walk_induction (basesOf : Declaration → List Text)
    {motive : List Declaration → List Text → List Declaration → Prop}
    (done : ∀ left, motive left [] [])
    (pass : ∀ left name rest ds, findDeclaration? name left = none → motive left rest ds →
      motive left (name :: rest) ds)
    (visit : ∀ left name rest d ds, findDeclaration? name left = some d →
      motive (left.filter (·.name ≠ d.name)) (basesOf d ++ rest) ds →
      motive left (name :: rest) (d :: ds))
    (left : List Declaration) (pending : List Text) :
    motive left pending (walk basesOf left pending) := by
  match pending with
  | [] =>
    rw [walk_nil]
    exact done left
  | name :: rest =>
    rw [walk_cons]
    cases hfind : findDeclaration? name left with
    | none => exact pass left name rest _ hfind (walk_induction basesOf done pass visit left rest)
    | some d =>
      have hfewer : (left.filter (·.name ≠ d.name)).length < left.length := by
        rw [List.length_filter_lt_length_iff_exists]
        exact ⟨d, List.mem_of_find?_eq_some hfind, by simp⟩
      exact visit left name rest d _ hfind
        (walk_induction basesOf done pass visit (left.filter (·.name ≠ d.name)) (basesOf d ++ rest))
termination_by (left.length, pending.length)
decreasing_by
  · exact Prod.Lex.right _ (Nat.lt_succ_self _)
  · exact Prod.Lex.left _ _ hfewer

/-- A walk visits the classes of its names and of the bases of the classes visited. -/
theorem walk_closed (basesOf : Declaration → List Text) (left : List Declaration)
    (pending : List Text) :
    (∀ n ∈ pending, ∀ d, findDeclaration? n left = some d → d ∈ walk basesOf left pending) ∧
      ∀ c ∈ walk basesOf left pending, ∀ b ∈ basesOf c, ∀ d, findDeclaration? b left = some d →
        d ∈ walk basesOf left pending := by
  induction left, pending using walk_induction basesOf with
  | done left => simp
  | pass left name rest ds hfind ih =>
    refine ⟨fun n hn d hd => ?_, ih.2⟩
    rcases List.mem_cons.mp hn with rfl | hn
    · rw [hfind] at hd
      cases hd
    · exact ih.1 n hn d hd
  | visit left name rest d ds hfind ih =>
    have hname : d.name = name := by simpa using List.find?_some hfind
    -- A class of another name is still left after the visit.
    have hvisited {n : Text} {e : Declaration} (he : findDeclaration? n left = some e)
        (hlater : findDeclaration? n (left.filter (·.name ≠ d.name)) = some e → e ∈ ds) :
        e ∈ d :: ds := by
      by_cases hn : n = d.name
      · rw [hn, hname, hfind] at he
        exact Option.some.inj he ▸ List.mem_cons_self
      · refine List.mem_cons_of_mem d (hlater ?_)
        rw [findDeclaration?_filter_ne, if_neg hn, he]
    refine ⟨fun n hn e he => ?_, fun c hc b hb e he => hvisited he ?_⟩
    · rcases List.mem_cons.mp hn with rfl | hn
      · rw [hfind] at he
        exact Option.some.inj he ▸ List.mem_cons_self
      · exact hvisited he (ih.1 n (List.mem_append_right _ hn) e)
    · rcases List.mem_cons.mp hc with rfl | hc
      · exact ih.1 b (List.mem_append_left _ hb) e
      · exact ih.2 c hc b hb e

/-- A walk visits nothing else. -/
theorem of_mem_walk {P : Declaration → Prop} (left : List Declaration) (pending : List Text)
    (hnames : ∀ n ∈ pending, ∀ d, findDeclaration? n left = some d → P d)
    (hbases : ∀ c, P c → ∀ b ∈ basesOf c, ∀ d, findDeclaration? b left = some d → P d) :
    ∀ d ∈ walk basesOf left pending, P d := by
  induction left, pending using walk_induction basesOf with
  | done left => simp
  | pass left name rest ds hfind ih =>
    exact ih (fun n hn => hnames n (List.mem_cons_of_mem _ hn)) hbases
  | visit left name rest d ds hfind ih =>
    have hd : P d := hnames name List.mem_cons_self d hfind
    have hleft {n : Text} {e : Declaration}
        (he : findDeclaration? n (left.filter (·.name ≠ d.name)) = some e) :
        findDeclaration? n left = some e := by
      rw [findDeclaration?_filter_ne] at he
      split at he
      · cases he
      · exact he
    have hrest : ∀ e ∈ ds, P e := by
      refine ih (fun n hn e he => ?_) fun c hc b hb e he => hbases c hc b hb e (hleft he)
      rcases List.mem_append.mp hn with hn | hn
      · exact hbases d hd n hn e (hleft he)
      · exact hnames n (List.mem_cons_of_mem _ hn) e (hleft he)
    intro e he
    rcases List.mem_cons.mp he with rfl | he
    · exact hd
    · exact hrest e he

end

/-! ## Classes that a name leads to -/

/-- The classes that the name of a class leads to along bases of the unit, as long as the classes on
    the way let it pass. A base counts by its last part, and the framework's manager classes lead
    nowhere. -/
inductive Leads (u : SourceUnit) (passes : Declaration → Prop) (className : Text) :
    Declaration → Prop
  | named {d : Declaration} (hfind : u.find? className = some d) : Leads u passes className d
  | base {c d : Declaration} {base : Text} (hc : Leads u passes className c) (hpasses : passes c)
      (hbase : base ∈ c.bases) (hown : Text.afterLast '.' base ∉ managerBases)
      (hfind : u.find? (Text.afterLast '.' base) = some d) : Leads u passes className d

/-- Whether the class has a statement below the line of its header. -/
def SpansLines (u : SourceUnit) (d : Declaration) : Prop := (d.memberIndent? u.text).isSome

/-- The class declares the method, as a member and by a public name other than `get_queryset`. -/
def Publishes (u : SourceUnit) (d : Declaration) (n : Text) : Prop :=
  ∃ h ∈ u.headersOf d, d.memberIndent? u.text = some h.indent ∧ h.name = n ∧
    ¬ ['_'] <+: n ∧ n ≠ "get_queryset"

theorem mem_managerBasesOf_iff (u : SourceUnit) (c : Declaration) (n : Text) :
    n ∈ managerBasesOf u c ↔
      SpansLines u c ∧ ∃ base ∈ c.bases, Text.afterLast '.' base = n ∧ n ∉ managerBases := by
  have hown : (!managerBases.contains n) = true ↔ n ∉ managerBases := by simp
  unfold managerBasesOf SpansLines
  cases c.memberIndent? u.text with
  | none => simp
  | some indent =>
    simp only [Option.isSome_some, true_and, List.mem_filter, List.mem_map, hown]
    constructor
    · rintro ⟨⟨base, hbase, hn⟩, hown⟩
      exact ⟨base, hbase, hn, hown⟩
    · rintro ⟨base, hbase, hn, hown⟩
      exact ⟨⟨base, hbase, hn⟩, hown⟩

/-- The walk of the search visits the classes that the name leads to. -/
theorem mem_walk_iff_leads (u : SourceUnit) (className : Text) (d : Declaration) :
    d ∈ walk (managerBasesOf u) u.decls [className] ↔ Leads u (SpansLines u) className d := by
  obtain ⟨hnames, hbases⟩ := walk_closed (managerBasesOf u) u.decls [className]
  constructor
  · revert d
    refine of_mem_walk u.decls [className] (fun n hn d hd => ?_) fun c hc b hb d hd => ?_
    · exact .named (List.mem_singleton.mp hn ▸ hd)
    · obtain ⟨hspans, base, hbase, rfl, hown⟩ := (mem_managerBasesOf_iff u c b).mp hb
      exact .base hc hspans hbase hown hd
  · intro h
    induction h with
    | named hfind => exact hnames className List.mem_cons_self _ hfind
    | @base c d base _ hpasses hbase hown hfind ih =>
      exact hbases c ih _ ((mem_managerBasesOf_iff u c _).mpr ⟨hpasses, base, hbase, rfl, hown⟩) d
        hfind

theorem publishes_iff (u : SourceUnit) (d : Declaration) (n : Text) :
    Publishes u d n ↔ n ∈ ownMethodNames u d ∧ isOffered n = true := by
  have hoffered : isOffered n = true ↔ ¬ ['_'] <+: n ∧ n ≠ "get_queryset" := by
    rw [isOffered, Bool.and_eq_true, Bool.not_eq_true', decide_eq_true_eq, ← Text.startsWith_iff,
      Bool.not_eq_true]
  unfold Publishes ownMethodNames
  rw [hoffered]
  cases hindent : d.memberIndent? u.text with
  | none => simp
  | some indent =>
    simp only [List.mem_map, List.mem_filter, decide_eq_true_eq, Option.some.injEq]
    constructor
    · rintro ⟨h, hh, hlevel, rfl, hpublic⟩
      exact ⟨⟨h, ⟨hh, hlevel.symm⟩, rfl⟩, hpublic⟩
    · rintro ⟨⟨h, ⟨hh, hlevel⟩, rfl⟩, hpublic⟩
      exact ⟨h, hh, hlevel.symm, rfl, hpublic⟩

theorem mem_managerMethods_iff (u : SourceUnit) (className n : Text) :
    n ∈ managerMethods u className ↔
      ∃ d, Leads u (SpansLines u) className d ∧ Publishes u d n := by
  unfold managerMethods
  dsimp only
  rw [Named.mem_mergeAll_texts, List.mem_filter, List.mem_flatMap]
  simp only [mem_walk_iff_leads, publishes_iff]
  constructor
  · rintro ⟨⟨d, hd, hn⟩, hpublic⟩
    exact ⟨d, hd, hn, hpublic⟩
  · rintro ⟨d, hd, hn, hpublic⟩
    exact ⟨⟨d, hd, hn⟩, hpublic⟩

theorem Leads.imp {u : SourceUnit} {p q : Declaration → Prop} (hpq : ∀ d, p d → q d)
    {className : Text} {d : Declaration} (h : Leads u p className d) : Leads u q className d := by
  induction h with
  | named hfind => exact .named hfind
  | base _ hpasses hbase hown hfind ih => exact .base ih (hpq _ hpasses) hbase hown hfind

/-- **Which methods are found from the name of a class.** Whatever the unit and its classes, also if
    their bases form a cycle, the list has no repetition and holds the public methods of every class
    that the name leads to, as long as the classes on the way have a statement below their header.
    It holds the methods of all classes that the name leads to if and only if each method that only
    a class without such a statement leads to is declared on another way too. -/
theorem inherited_methods_iff (u : SourceUnit) (className : Text) :
    (managerMethods u className).Nodup ∧
      (∀ n, n ∈ managerMethods u className ↔
        ∃ d, Leads u (SpansLines u) className d ∧ Publishes u d n) ∧
      ((∀ n, n ∈ managerMethods u className ↔
          ∃ d, Leads u (fun _ => True) className d ∧ Publishes u d n) ↔
        ∀ d n, Leads u (fun _ => True) className d → Publishes u d n →
          ∃ d', Leads u (SpansLines u) className d' ∧ Publishes u d' n) := by
  have hmem := mem_managerMethods_iff u className
  refine ⟨Named.nodup_mergeAll_texts List.nodup_nil _, hmem, ?_⟩
  constructor
  · intro hall d n hd hn
    exact (hmem n).mp ((hall n).mpr ⟨d, hd, hn⟩)
  · intro hother n
    rw [hmem]
    constructor
    · rintro ⟨d, hd, hn⟩
      exact ⟨d, hd.imp fun _ _ => trivial, hn⟩
    · rintro ⟨d, hd, hn⟩
      exact hother d n hd hn

/-! ## Two units -/

/-- Two classes that inherit from each other have each other's methods. -/
theorem inherited_methods_of_cycle :
    let u : SourceUnit :=
      { path := "m.py"
        text := "class A(B):\n    def a(self): x\nclass B(m.A, Manager):\n    def b(self): x\n" }
    managerMethods u "A" = ["a".toList, "b".toList] ∧
      ∃ d, Leads u (SpansLines u) "A" d ∧ Publishes u d "b" := by
  intro u
  have hmethods : managerMethods u "A" = ["a".toList, "b".toList] := by decide +kernel
  exact ⟨hmethods, ((inherited_methods_iff u "A").2.1 "b").mp (hmethods ▸ by decide)⟩

/-- A class without a statement below its header has lost the method that it inherits. -/
theorem methods_behind_one_line_lost :
    let u : SourceUnit :=
      { path := "m.py"
        text := "class A(Manager):\n    def published(self): x\nclass B(A): pass\n" }
    managerMethods u "B" = [] ∧
      ∃ d, Leads u (fun _ => True) "B" d ∧ Publishes u d "published" := by
  intro u
  have hlost : managerMethods u "B" = [] ∧
      (u.find? "B").any (fun b => b.bases.contains "A") = true ∧
      (u.find? "A").any (fun a => (u.headersOf a).any fun h =>
        a.memberIndent? u.text = some h.indent && h.name = "published".toList) = true := by
    decide +kernel
  obtain ⟨hnone, hb, ha⟩ := hlost
  obtain ⟨b, hfind, hbase⟩ := (Option.any_eq_true ..).mp hb
  obtain ⟨a, hfind', hmethod⟩ := (Option.any_eq_true ..).mp ha
  obtain ⟨h, hh, hmember⟩ := List.any_eq_true.mp hmethod
  rw [Bool.and_eq_true, decide_eq_true_eq, decide_eq_true_eq] at hmember
  refine ⟨hnone, a, ?_, h, hh, hmember.1, hmember.2, by decide, by decide⟩
  exact .base (.named hfind) trivial (List.contains_iff_mem.mp hbase) (by decide) hfind'

end OrmLens.Model
