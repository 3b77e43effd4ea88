/-
  Which of the units that an edit reports are live.

  A unit is live if it was committed and not removed since. A report comes from the record of a
  loss, and a removal of the loser leaves that record in place: the record goes only with the holder
  of the name. So a unit that is removed while a record names it is still reported when the holder
  goes (`reported_after_removal`).

  This is the one way to report a unit that is not live: `reported_live_iff` says that every unit
  reported was committed before, and that it is live unless it was removed while a record named it
  and not committed since.
-/
import OrmLens.Proofs.Index.Succession

namespace OrmLens.Index

open Model

/-- The unit was committed and not removed since. -/
def Live (edits : List Edit) (u : Text) : Prop :=
  Since (· = .remove u) (fun _ e => e.Commits u) edits

/-- The unit was removed while a record said that it had lost a name, and not committed since. -/
def RemovedInShadow (settings : Settings) (edits : List Edit) (u : Text) : Prop :=
  Since (·.Commits u)
    (fun before e => e = .remove u ∧ ∃ n, (edited settings before).shadowed.get? n = some u) edits

theorem live_concat {edits : List Edit} {e : Edit} {u : Text} :
    Live (edits ++ [e]) u ↔ e.Commits u ∨ e ≠ .remove u ∧ Live edits u :=
  since_concat

theorem removedInShadow_concat {settings : Settings} {edits : List Edit} {e : Edit} {u : Text} :
    RemovedInShadow settings (edits ++ [e]) u ↔
      (e = .remove u ∧ ∃ n, (edited settings edits).shadowed.get? n = some u) ∨
        ¬ e.Commits u ∧ RemovedInShadow settings edits u :=
  since_concat

theorem not_live_of_removedInShadow {settings : Settings} {edits : List Edit} {u : Text}
    (h : RemovedInShadow settings edits u) : ¬ Live edits u := by
  induction edits using List.reverseRecOn with
  | nil => exact absurd h (not_since_nil _ _)
  | append_singleton edits e ih =>
    intro hlive
    rcases removedInShadow_concat.mp h with ⟨rfl, -⟩ | ⟨hcommits, hremoved⟩
    · rcases live_concat.mp hlive with hc | ⟨hne, -⟩
      · exact hc
      · exact hne rfl
    · rcases live_concat.mp hlive with hc | ⟨-, hlive⟩
      · exact hcommits hc
      · exact ih hremoved hlive

/-! ## Holders and next in line -/

/-- A holder is live: removing it would take the name from it. -/
theorem live_of_head {edits : List Edit} {n u : Text}
    (h : (holders edits n).head? = some u) : Live edits u := by
  refine (inForce_of_head h).imp ?_ ?_
  · rintro e rfl
    rfl
  · rintro - e ⟨rfl, hn⟩
    exact e.commits_of_mem_names hn

theorem exists_commit_of_mem_holders {edits : List Edit} {n u : Text}
    (h : u ∈ holders edits n) : ∃ c ∈ edits, c.Commits u := by
  induction edits using List.reverseRecOn with
  | nil => cases h
  | append_singleton edits e ih =>
    have earlier : u ∈ holders edits n → ∃ c ∈ edits ++ [e], c.Commits u := by
      intro hu
      obtain ⟨c, hc, hcu⟩ := ih hu
      exact ⟨c, List.mem_append_left _ hc, hcu⟩
    rw [holders_concat] at h
    obtain ⟨-, -, hs⟩ | ⟨-, -, hs⟩ | ⟨-, hn, hs⟩ | ⟨-, -, hs⟩ := succeed_cases n (holders edits n) e
    · exact earlier (hs ▸ h)
    · rw [hs] at h
      cases h
    · rw [hs] at h
      rcases List.mem_cons.mp h with rfl | h
      · exact ⟨e, by simp, e.commits_of_mem_names hn⟩
      · exact earlier h
    · exact earlier (hs ▸ h)

/-- Who is next in line for a name is live, or was removed while the record named it. -/
theorem live_or_removedInShadow (settings : Settings) {edits : List Edit} {n u : Text}
    (h : (holders edits n)[1]? = some u) : Live edits u ∨ RemovedInShadow settings edits u := by
  induction edits using List.reverseRecOn with
  | nil => cases h
  | append_singleton edits e ih =>
    -- Next in line before and after: then only an edit of the unit itself matters.
    have stays (hsecond : (holders edits n)[1]? = some u) :
        Live (edits ++ [e]) u ∨ RemovedInShadow settings (edits ++ [e]) u := by
      by_cases hremove : e = .remove u
      · right
        rw [removedInShadow_concat]
        exact Or.inl ⟨hremove, n, ((tracks_edited settings edits n).loser).trans hsecond⟩
      · by_cases hcommits : e.Commits u
        · exact Or.inl (live_concat.mpr (Or.inl hcommits))
        · rcases ih hsecond with hlive | hremoved
          · exact Or.inl (live_concat.mpr (Or.inr ⟨hremove, hlive⟩))
          · exact Or.inr (removedInShadow_concat.mpr (Or.inr ⟨hcommits, hremoved⟩))
    rw [holders_concat] at h
    obtain ⟨-, -, hs⟩ | ⟨-, -, hs⟩ | ⟨hh, -, hs⟩ | ⟨-, -, hs⟩ := succeed_cases n (holders edits n) e
    · exact stays (hs ▸ h)
    · rw [hs] at h
      cases h
    · -- The holder has just lost the name to another unit.
      rw [hs, List.getElem?_cons_succ, ← List.head?_eq_getElem?] at h
      left
      rw [live_concat]
      right
      refine ⟨?_, live_of_head h⟩
      rintro rfl
      exact hh h
    · exact stays (hs ▸ h)

/-! ## Reports -/

/-- **When a reported unit is live.** After every sequence of edits, a unit that the next edit
    reports was committed before. It has not been removed since, unless it was removed while a
    record said that it had lost a name, and not committed after that. -/
theorem reported_live_iff (settings : Settings) (edits : List Edit) (e : Edit) :
    ∀ u ∈ reported settings edits e, (∃ c ∈ edits, c.Commits u) ∧
      (Live edits u ↔ ¬ RemovedInShadow settings edits u) := by
  intro u hu
  obtain ⟨n, hsecond, -⟩ := (mem_reported_iff settings edits e u).mp hu
  refine ⟨exists_commit_of_mem_holders (List.mem_of_getElem? hsecond), ?_, ?_⟩
  · exact fun hlive hremoved => not_live_of_removedInShadow hremoved hlive
  · intro hremoved
    exact (live_or_removedInShadow settings hsecond).resolve_right hremoved

/-- A unit loses its name to another, is removed, and is committed again. It loses the name once
    more, and is reported when the other unit goes: live, because of the commit after its
    removal. -/
theorem reported_live_iff_recommitted :
    let a : Text := "a.py"
    let b : Text := "b.py"
    let n : Text := "class N(Model):\n"
    let edits := [.commit a n "a", .commit b n "b", .remove a, .commit a n "a", .commit b n "b"]
    a ∈ reported {} edits (.remove b) ∧ Live edits a ∧ ¬ RemovedInShadow {} edits a := by
  intro a b n edits
  have hreported : a ∈ reported {} edits (.remove b) := by decide
  have hlive : Live edits a := ⟨edits.take 3, _, edits.drop 4, rfl, by decide, by decide⟩
  exact ⟨hreported, hlive, (reported_live_iff {} edits (.remove b) a hreported).2.mp hlive⟩

/-- A unit loses its name to another and is removed. When the other unit goes, the first is reported
    although it is not live. -/
theorem reported_after_removal :
    let a : Text := "a.py"
    let b : Text := "b.py"
    let n : Text := "class N(Model):\n"
    let edits := [.commit a n "a", .commit b n "b", .remove a]
    a ∈ reported {} edits (.remove b) ∧ ¬ Live edits a := by
  intro a b n edits
  have hremoved : RemovedInShadow {} edits a :=
    ⟨edits.take 2, _, [], rfl, ⟨rfl, "N", by decide⟩, by decide⟩
  exact ⟨by decide, not_live_of_removedInShadow hremoved⟩

end OrmLens.Index
