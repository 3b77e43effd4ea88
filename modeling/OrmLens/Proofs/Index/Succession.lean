/-
  Who holds a name after whom, and who is told when nobody does.

  The succession of a name lists the units that have held it since it last had no holder, the
  present holder first. The index keeps two of them: the holder, and in its record of losses the
  one before (`tracks_edited`). So an edit that leaves the name without holder reports the second
  of the succession and forgets the others (`mem_reported_iff`).

  A definition in force is therefore not always kept: with three units in the succession the third
  is never told. `kept_iff_succession` says exactly when a name stays in the graph or with a unit
  that waits for its analysis, and that it does so as long as no three units define it at a time.

  The edits are all made by hand; nothing here is about analyses that the cache answers.
-/
import Mathlib.Data.List.Induction
import OrmLens.Proofs.Index.Ownership

namespace OrmLens.Index

open Model

/-! ## Edits -/

namespace Edit

/-- The unit that an edit is about. -/
def path : Edit → Text
  | .commit path _ _ => path
  | .remove path => path

/-- The names that the unit defines after an edit. -/
def names : Edit → List Text
  | .commit path text _ => (Schema.extract path text).names
  | .remove _ => []

/-- Whether an edit commits a unit. -/
def Commits (u : Text) : Edit → Prop
  | .commit path _ _ => path = u
  | .remove _ => False

instance (u : Text) : DecidablePred (Commits u)
  | .commit path _ _ => inferInstanceAs (Decidable (path = u))
  | .remove _ => inferInstanceAs (Decidable False)

theorem Commits.path_eq {u : Text} {e : Edit} (h : e.Commits u) : e.path = u := by
  cases e with
  | commit path text content => exact h
  | remove path => exact h.elim

/-- Only commits define names. -/
theorem commits_of_mem_names {e : Edit} {n : Text} (h : n ∈ e.names) : e.Commits e.path := by
  cases e with
  | commit path text content => rfl
  | remove path => cases h

theorem shadowed_write {s : State} (hk : s.graph.Keyed) (e : Edit) (n : Text) :
    (e.write s).shadowed.get? n =
      if n ∈ e.names then (s.graph.loser? e.path n).or (s.shadowed.get? n)
      else s.shadowed.get? n := by
  cases e with
  | commit path text content =>
    have h := State.shadowed_install hk (Schema.wellFormed_extract path text) content n
    rw [Schema.path_extract] at h
    exact h
  | remove path => rfl

end Edit

theorem Ownership.owner_apply (o : Ownership) (e : Edit) (n : Text) :
    (o.apply e).owner n =
      if n ∈ e.names then some e.path else (o.owner n).filter (· ≠ e.path) := by
  cases e with
  | commit path text content =>
    show (o.commit _).owner n = _
    unfold Ownership.commit
    dsimp only
    rw [Schema.path_extract]
    rfl
  | remove path => rfl

/-- The index after edits of an empty one. -/
def edited (settings : Settings) (edits : List Edit) : State :=
  edits.foldl Edit.apply (State.new settings)

/-- Ownership after edits from nothing. -/
def owned (edits : List Edit) : Ownership := edits.foldl Ownership.apply Ownership.empty

theorem edited_concat (settings : Settings) (edits : List Edit) (e : Edit) :
    edited settings (edits ++ [e]) = e.apply (edited settings edits) := by
  rw [edited, List.foldl_append]
  rfl

theorem owned_concat (edits : List Edit) (e : Edit) :
    owned (edits ++ [e]) = (owned edits).apply e := by
  rw [owned, List.foldl_append]
  rfl

theorem represents_edited (settings : Settings) (edits : List Edit) :
    (edited settings edits).graph.Represents (owned edits) := by
  induction edits using List.reverseRecOn with
  | nil => exact represents_new settings
  | append_singleton edits e ih =>
    rw [edited_concat, owned_concat]
    exact represents_apply ih e

/-! ## Succession -/

/-- What an edit does to the succession of a name. The holder stays in front, or leaves nobody if it
    no longer defines the name; a new holder goes in front. -/
def Edit.succeed (n : Text) (units : List Text) (e : Edit) : List Text :=
  match units with
  | [] => if e.names.contains n then [e.path] else []
  | u :: rest =>
    if u = e.path then
      if e.names.contains n then u :: rest else []
    else if e.names.contains n then e.path :: u :: rest
    else u :: rest

/-- The units that have held a name since it last had no holder, the present one first. -/
def holders (edits : List Edit) (n : Text) : List Text := edits.foldl (Edit.succeed n) []

theorem holders_concat (edits : List Edit) (e : Edit) (n : Text) :
    holders (edits ++ [e]) n = e.succeed n (holders edits n) := by
  rw [holders, List.foldl_append]
  rfl

/-- The four ways of an edit with a succession: the holder renews its definition or gives it up, or
    another unit takes the name or is not concerned. -/
theorem succeed_cases (n : Text) (units : List Text) (e : Edit) :
    (units.head? = some e.path ∧ n ∈ e.names ∧ e.succeed n units = units) ∨
    (units.head? = some e.path ∧ n ∉ e.names ∧ e.succeed n units = []) ∨
    (units.head? ≠ some e.path ∧ n ∈ e.names ∧ e.succeed n units = e.path :: units) ∨
    (units.head? ≠ some e.path ∧ n ∉ e.names ∧ e.succeed n units = units) := by
  unfold Edit.succeed
  cases units with
  | nil => by_cases hn : n ∈ e.names <;> simp [hn]
  | cons u rest =>
    by_cases hu : u = e.path
    · by_cases hn : n ∈ e.names <;> simp [hu, hn]
    · by_cases hn : n ∈ e.names <;> simp [hu, hn]

/-- Neighbours in the succession of a name are distinct at its head: a unit does not lose a name to
    itself. -/
theorem holders_head_ne {edits : List Edit} {n u v : Text} {rest : List Text}
    (h : holders edits n = u :: v :: rest) : u ≠ v := by
  induction edits using List.reverseRecOn with
  | nil => cases h
  | append_singleton edits e ih =>
    rw [holders_concat] at h
    obtain ⟨-, -, hs⟩ | ⟨-, -, hs⟩ | ⟨hh, -, hs⟩ | ⟨-, -, hs⟩ := succeed_cases n (holders edits n) e
    · exact ih (hs ▸ h)
    · rw [hs] at h
      cases h
    · rw [hs] at h
      injection h with hu hv
      rw [hv] at hh
      rintro rfl
      exact hh (congrArg some hu.symm)
    · exact ih (hs ▸ h)

/-! ## What the index knows of a succession -/

/-- The index knows the first two units of a succession: the holder, and the one in the record of
    the loss. -/
structure Tracks (s : State) (edits : List Edit) (n : Text) : Prop where
  holder : s.graph.holder? n = (holders edits n).head?
  loser : s.shadowed.get? n = (holders edits n)[1]?

/-- Before it settles, an edit has recorded the loss of the next holder, and still has the record of
    the loss to a holder who gives the name up. -/
theorem tracks_write {s : State} {o : Ownership} (h : s.graph.Represents o) {edits : List Edit}
    {n : Text} (ht : Tracks s edits n) (e : Edit) :
    (e.write s).graph.holder? n = (holders (edits ++ [e]) n).head? ∧
      (e.write s).shadowed.get? n =
        if holders (edits ++ [e]) n = [] then (holders edits n)[1]?
        else (holders (edits ++ [e]) n)[1]? := by
  rw [(represents_write h e).holder?_eq, Ownership.owner_apply, ← h.holder?_eq,
    e.shadowed_write h.keyed, Graph.loser?, ht.holder, ht.loser, holders_concat]
  obtain ⟨hh, hn, hs⟩ | ⟨hh, hn, hs⟩ | ⟨hh, hn, hs⟩ | ⟨hh, hn, hs⟩ :=
    succeed_cases n (holders edits n) e
  · simp [hs, hh, hn, Option.filter_some]
  · simp [hs, hh, hn, Option.filter_some]
  · rw [hs, Ownership.filter_ne_of_ne_some hh]
    cases holders edits n <;> simp [hn]
  · rw [hs, Ownership.filter_ne_of_ne_some hh]
    cases holders edits n <;> simp [hn]

theorem tracks_apply {s : State} {o : Ownership} (h : s.graph.Represents o) {edits : List Edit}
    {n : Text} (ht : Tracks s edits n) (e : Edit) : Tracks (e.apply s) (edits ++ [e]) n := by
  obtain ⟨hh, hl⟩ := tracks_write h ht e
  constructor
  · rw [Edit.graph_apply, hh]
  · rw [Edit.shadowed_apply, hh, hl]
    -- The record is kept iff somebody else holds the name.
    rcases hu : holders (edits ++ [e]) n with _ | ⟨u, _ | ⟨v, rest⟩⟩
    · simp
    · simp
    · have hne := holders_head_ne hu
      simp [hne, Option.filter_some]

theorem tracks_edited (settings : Settings) (edits : List Edit) (n : Text) :
    Tracks (edited settings edits) edits n := by
  induction edits using List.reverseRecOn with
  | nil => exact ⟨rfl, rfl⟩
  | append_singleton edits e ih =>
    rw [edited_concat]
    exact tracks_apply (represents_edited settings edits) ih e

/-- The units that an edit reports after earlier ones. -/
def reported (settings : Settings) (edits : List Edit) (e : Edit) : List Text :=
  (e.perform (edited settings edits)).2

/-- A unit is next in line if an edit leaves a name without holder and the unit is the second of its
    succession. -/
def NextInLine (edits : List Edit) (e : Edit) (u : Text) : Prop :=
  ∃ n, (holders edits n)[1]? = some u ∧ holders (edits ++ [e]) n = []

/-- An edit reports exactly the units that are next in line. -/
theorem mem_reported_iff (settings : Settings) (edits : List Edit) (e : Edit) (u : Text) :
    u ∈ reported settings edits e ↔ NextInLine edits e u := by
  rw [reported, Edit.perform_eq, State.mem_orphans_iff]
  apply exists_congr
  intro n
  obtain ⟨hh, hl⟩ := tracks_write (represents_edited settings edits)
    (tracks_edited settings edits n) e
  rw [hh, hl, List.head?_eq_none_iff]
  constructor
  · intro h'
    obtain ⟨hu, he⟩ := h'
    rw [if_pos he] at hu
    exact ⟨hu, he⟩
  · intro h'
    obtain ⟨hu, he⟩ := h'
    rw [if_pos he]
    exact ⟨hu, he⟩

/-! ## Since -/

/-- Some edit had the property after those before it, and none since was a `stop`. -/
def Since (stop : Edit → Prop) (p : List Edit → Edit → Prop) (edits : List Edit) : Prop :=
  ∃ before e later, edits = before ++ e :: later ∧ p before e ∧ ∀ e' ∈ later, ¬ stop e'

theorem not_since_nil (stop : Edit → Prop) (p : List Edit → Edit → Prop) : ¬ Since stop p [] := by
  intro h'
  obtain ⟨before, e, later, h, -⟩ := h'
  simp at h

theorem since_concat {stop : Edit → Prop} {p : List Edit → Edit → Prop} {edits : List Edit}
    {e : Edit} : Since stop p (edits ++ [e]) ↔ p edits e ∨ ¬ stop e ∧ Since stop p edits := by
  constructor
  · intro h'
    obtain ⟨before, x, later, h, hx, hl⟩ := h'
    rcases List.eq_nil_or_concat later with rfl | ⟨later, y, rfl⟩
    · obtain ⟨rfl, he⟩ := List.append_inj' h rfl
      obtain rfl := List.singleton_inj.mp he
      exact Or.inl hx
    · have h' : edits ++ [e] = (before ++ x :: later) ++ [y] := by simpa using h
      obtain ⟨rfl, hy⟩ := List.append_inj' h' rfl
      obtain rfl := List.singleton_inj.mp hy
      exact Or.inr ⟨hl e (by simp), before, x, later, rfl, hx,
        fun e' he' => hl e' (by simp [he'])⟩
  · intro h'
    obtain hp | ⟨hs, before, x, later, rfl, hx, hl⟩ := h'
    · exact ⟨edits, e, [], rfl, hp, by simp⟩
    · refine ⟨before, x, later ++ [e], by simp, hx, fun e' he' => ?_⟩
      rcases List.mem_append.mp he' with he' | he'
      · exact hl e' he'
      · rw [List.mem_singleton.mp he']
        exact hs

theorem Since.imp {stop stop' : Edit → Prop} {p p' : List Edit → Edit → Prop} {edits : List Edit}
    (h : Since stop p edits) (hs : ∀ e, stop' e → stop e)
    (hp : ∀ before e, p before e → p' before e) : Since stop' p' edits := by
  obtain ⟨before, e, later, he, hpe, hl⟩ := h
  exact ⟨before, e, later, he, hp before e hpe, fun e' he' hs' => hl e' he' (hs e' hs')⟩

/-! ## Definitions kept and definitions lost -/

/-- The last edit of the unit made it define the name. -/
def InForce (edits : List Edit) (u n : Text) : Prop :=
  Since (·.path = u) (fun _ e => e.path = u ∧ n ∈ e.names) edits

/-- The last commit of the unit made it define the name; it may be removed since. -/
def LastDefines (edits : List Edit) (u n : Text) : Prop :=
  Since (·.Commits u) (fun _ e => e.path = u ∧ n ∈ e.names) edits

/-- The unit was reported and not committed since. -/
def Pending (settings : Settings) (edits : List Edit) (u : Text) : Prop :=
  Since (·.Commits u) (fun before e => u ∈ reported settings before e) edits

/-- The unit was next in line and not committed since. -/
def Recalled (edits : List Edit) (u : Text) : Prop :=
  Since (·.Commits u) (fun before e => NextInLine before e u) edits

/-- The graph holds the name, or a unit that defines it waits for its analysis. -/
def Kept (settings : Settings) (edits : List Edit) (n : Text) : Prop :=
  ((edited settings edits).graph.entity? n).isSome ∨
    ∃ u, LastDefines edits u n ∧ Pending settings edits u

/-- At no time did three units define the name. -/
def AtMostTwo (edits : List Edit) (n : Text) : Prop :=
  ∀ before, before <+: edits → ∀ u v w, InForce before u n → InForce before v n →
    InForce before w n → u = v ∨ u = w ∨ v = w

theorem pending_iff_recalled (settings : Settings) (edits : List Edit) (u : Text) :
    Pending settings edits u ↔ Recalled edits u := by
  unfold Pending Recalled
  simp only [mem_reported_iff]

theorem InForce.lastDefines {edits : List Edit} {u n : Text} (h : InForce edits u n) :
    LastDefines edits u n :=
  h.imp (fun _ => Edit.Commits.path_eq) fun _ _ => id

theorem inForce_concat {edits : List Edit} {e : Edit} {u n : Text} :
    InForce (edits ++ [e]) u n ↔ if e.path = u then n ∈ e.names else InForce edits u n := by
  rw [InForce, since_concat]
  split
  · rename_i h
    simp [h]
  · rename_i h
    simp [h, InForce]

/-- A holder defines what it holds. -/
theorem inForce_of_head {edits : List Edit} {u n : Text} (h : (holders edits n).head? = some u) :
    InForce edits u n := by
  induction edits using List.reverseRecOn generalizing u with
  | nil => cases h
  | append_singleton edits e ih =>
    rw [holders_concat] at h
    rw [inForce_concat]
    obtain ⟨hh, hn, hs⟩ | ⟨hh, hn, hs⟩ | ⟨hh, hn, hs⟩ | ⟨hh, hn, hs⟩ :=
      succeed_cases n (holders edits n) e
    · rw [hs, hh] at h
      rw [if_pos (Option.some.inj h)]
      exact hn
    · rw [hs] at h
      cases h
    · rw [hs] at h
      rw [if_pos (Option.some.inj h)]
      exact hn
    · rw [hs] at h
      have hne : e.path ≠ u := fun he => hh (h.trans (congrArg some he.symm))
      rw [if_neg hne]
      exact ih h

theorem kept_iff (settings : Settings) (edits : List Edit) (n : Text) :
    Kept settings edits n ↔
      holders edits n ≠ [] ∨ ∃ u, LastDefines edits u n ∧ Recalled edits u := by
  have hheld : ((edited settings edits).graph.entity? n).isSome ↔ holders edits n ≠ [] := by
    have h := (tracks_edited settings edits n).holder
    rw [Graph.holder?] at h
    rw [← Option.isSome_map, h, List.isSome_head?]
  simp only [Kept, hheld, pending_iff_recalled]

theorem AtMostTwo.of_concat {edits : List Edit} {e : Edit} {n : Text}
    (h : AtMostTwo (edits ++ [e]) n) : AtMostTwo edits n :=
  fun before hb => h before (hb.trans (List.prefix_append edits [e]))

/-- With three units, one of them taking the name from another, some time three define it. -/
theorem not_atMostTwo_of_taken {edits : List Edit} {e : Edit} {n u : Text} (hn : n ∈ e.names)
    (hh : (holders edits n).head? ≠ some e.path) (hs : (holders edits n)[1]? = some u)
    (hne : u ≠ e.path) (hu : InForce edits u n) : ¬ AtMostTwo (edits ++ [e]) n := by
  intro htwo
  rcases hunits : holders edits n with _ | ⟨v, _ | ⟨w, rest⟩⟩
  · simp [hunits] at hs
  · simp [hunits] at hs
  · obtain rfl : w = u := by simpa [hunits] using hs
    have hvw : v ≠ w := holders_head_ne hunits
    have hv : v ≠ e.path := fun h => hh (by rw [hunits, h]; rfl)
    have hvin : InForce edits v n := inForce_of_head (by rw [hunits]; rfl)
    rcases htwo _ (List.prefix_refl _) e.path v w
        (inForce_concat.mpr (by rwa [if_pos rfl]))
        (inForce_concat.mpr (by rwa [if_neg (Ne.symm hv)]))
        (inForce_concat.mpr (by rwa [if_neg (Ne.symm hne)])) with h | h | h
    · exact hv h.symm
    · exact hne h.symm
    · exact hvw h

/-- Where no three units define a name at a time, each that does holds it, is next in line for it,
    or was so and has not been committed since. -/
theorem inForce_accounted {edits : List Edit} {n : Text} (htwo : AtMostTwo edits n) {u : Text}
    (hu : InForce edits u n) :
    (holders edits n).head? = some u ∨ (holders edits n)[1]? = some u ∨ Recalled edits u := by
  induction edits using List.reverseRecOn generalizing u with
  | nil => exact absurd hu (not_since_nil _ _)
  | append_singleton edits e ih =>
    rw [inForce_concat] at hu
    have hcases := succeed_cases n (holders edits n) e
    rw [← holders_concat] at hcases
    by_cases hp : e.path = u
    · -- The unit has just defined the name, so it holds it.
      rw [if_pos hp] at hu
      left
      obtain ⟨hh, -, hs⟩ | ⟨-, hn, -⟩ | ⟨-, -, hs⟩ | ⟨-, hn, -⟩ := hcases
      · rw [hs, hh, hp]
      · exact absurd hu hn
      · rw [hs, hp]
        rfl
      · exact absurd hu hn
    · rw [if_neg hp] at hu
      obtain hhead | hsecond | hrecalled := ih htwo.of_concat hu
      · -- The holder stays, or is next in line behind the unit that takes the name.
        have hother : (holders edits n).head? ≠ some e.path := fun h =>
          hp (Option.some.inj (h.symm.trans hhead))
        obtain ⟨hh, -, -⟩ | ⟨hh, -, -⟩ | ⟨-, -, hs⟩ | ⟨-, -, hs⟩ := hcases
        · exact absurd hh hother
        · exact absurd hh hother
        · right; left
          rw [hs, List.getElem?_cons_succ, ← List.head?_eq_getElem?]
          exact hhead
        · left
          rw [hs]
          exact hhead
      · -- The next in line stays so, or is recalled; a third unit would push it out.
        obtain ⟨-, -, hs⟩ | ⟨-, -, hs⟩ | ⟨hh, hn, -⟩ | ⟨-, -, hs⟩ := hcases
        · right; left
          rw [hs]
          exact hsecond
        · right; right
          exact since_concat.mpr (Or.inl ⟨n, hsecond, hs⟩)
        · exact absurd htwo (not_atMostTwo_of_taken hn hh hsecond (Ne.symm hp) hu)
        · right; left
          rw [hs]
          exact hsecond
      · right; right
        exact since_concat.mpr (Or.inr ⟨fun hc => hp hc.path_eq, hrecalled⟩)

theorem kept_of_atMostTwo (settings : Settings) {edits : List Edit} {n : Text}
    (htwo : AtMostTwo edits n) {u : Text} (hu : InForce edits u n) : Kept settings edits n := by
  rw [kept_iff]
  obtain hhead | hsecond | hrecalled := inForce_accounted htwo hu
  · left
    intro h
    simp [h] at hhead
  · left
    intro h
    simp [h] at hsecond
  · exact Or.inr ⟨u, hu.lastDefines, hrecalled⟩

/-- **When a definition is kept.** After every sequence of edits, a name is in the graph or with a
    pending unit that defines it iff its succession is not empty or a unit that last defined it was
    next in line, for this or another name, and not committed since. Where no three units define the
    name at a time, this is so for every definition in force. -/
theorem kept_iff_succession (settings : Settings) (edits : List Edit) (n : Text) :
    (Kept settings edits n ↔
      holders edits n ≠ [] ∨ ∃ u, LastDefines edits u n ∧ Recalled edits u) ∧
      (AtMostTwo edits n → ∀ u, InForce edits u n → Kept settings edits n) :=
  ⟨kept_iff settings edits n, fun htwo _ hu => kept_of_atMostTwo settings htwo hu⟩

/-- A name that only two units ever define is never defined by three. -/
theorem atMostTwo_of_paths {edits : List Edit} {n a b : Text}
    (h : ∀ e ∈ edits, n ∈ e.names → e.path = a ∨ e.path = b) : AtMostTwo edits n := by
  intro before hb
  have hab : ∀ u, InForce before u n → u = a ∨ u = b := by
    rintro u ⟨earlier, e, later, rfl, ⟨rfl, hn⟩, -⟩
    exact h e (hb.subset (by simp)) hn
  intro u v w hu hv hw
  rcases hab u hu with rfl | rfl <;> rcases hab v hv with rfl | rfl <;>
    rcases hab w hw with rfl | rfl <;> simp

/-- Two units define a name and the second goes: the first is in force and its name is kept. -/
theorem kept_after_second_removed :
    let edits := [.commit "a.py" "class N(Model):\n" "a", .commit "b.py" "class N(Model):\n" "b",
      .remove "b.py"]
    AtMostTwo edits "N" ∧ InForce edits "a.py" "N" ∧ holders edits "N" = [] ∧
      Kept {} edits "N" := by
  intro edits
  have htwo : AtMostTwo edits "N" := atMostTwo_of_paths (a := "a.py") (b := "b.py") (by decide)
  have hin : InForce edits "a.py" "N" := ⟨[], _, _, rfl, by decide, by decide⟩
  exact ⟨htwo, hin, by decide, (kept_iff_succession {} edits "N").2 htwo "a.py" hin⟩

/-- Nobody is pending once every report is followed by a commit of the unit reported. -/
theorem not_pending_of_answered {settings : Settings} {edits : List Edit}
    (h : ∀ k : Fin edits.length, ∀ u ∈ reported settings (edits.take k) edits[k],
      ∃ e ∈ edits.drop (k + 1), e.Commits u) (u : Text) : ¬ Pending settings edits u := by
  intro h'
  obtain ⟨before, e, later, rfl, hu, hl⟩ := h'
  have hk : before.length < (before ++ e :: later).length := by simp
  have hanswer := h ⟨before.length, hk⟩ u
  simp only [Fin.getElem_fin, List.take_left, List.getElem_append_right (Nat.le_refl _),
    Nat.sub_self, List.getElem_cons_zero] at hanswer
  obtain ⟨e', he', hc⟩ := hanswer hu
  rw [← List.drop_drop, List.drop_left] at he'
  exact hl e' he' hc

/-- Three units define a name, and the third and then the second go, the second after a commit of
    what it had before. The first is in force, but the name is not kept. -/
theorem not_kept_after_third_and_second_removed :
    let n : Text := "class N(Model):\n"
    let edits := [.commit "a.py" n "a", .commit "b.py" n "b", .commit "c.py" n "c",
      .remove "c.py", .commit "b.py" n "b", .remove "b.py"]
    InForce edits "a.py" "N" ∧ ¬ Kept {} edits "N" := by
  intro n edits
  refine ⟨⟨[], _, _, rfl, by decide, by decide⟩, ?_⟩
  intro h'
  obtain h | ⟨u, -, h⟩ := h'
  · exact absurd h (by decide)
  · -- The only report is of the second unit, and the commit that follows answers it.
    exact not_pending_of_answered (by decide) u h

end OrmLens.Index
