/-
  Lists of named things: what adding keeps and brings, and lookups by name.

  Both ways to add take their members from the list and from the news (`mem_of_mem_foldl_upsert`,
  `mem_of_mem_mergeAll`), and both keep names distinct. In a list with distinct names a lookup
  finds exactly the members (`find?_eq_some_iff`). Merging adds the first occurrences of the names
  that are not there (`mergeAll_eq`). Upserting one thing after another leaves of every name the
  last definition, at the place of the first (`foldl_upsert_eq`).
-/
import OrmLens.Model.Named

namespace OrmLens.Model.Named

variable {α : Type} [Named α]

/-! ## Members -/

theorem mem_of_mem_upsert {items : List α} {x y : α} (h : y ∈ upsert items x) :
    y = x ∨ y ∈ items := by
  induction items with
  | nil => exact Or.inl (List.mem_singleton.mp h)
  | cons z items ih =>
    rw [upsert] at h
    split at h
    · rcases List.mem_cons.mp h with h | h
      · exact Or.inl h
      · exact Or.inr (List.mem_cons_of_mem _ h)
    · rcases List.mem_cons.mp h with h | h
      · exact Or.inr (h ▸ List.mem_cons_self)
      · exact (ih h).imp_right (List.mem_cons_of_mem _)

theorem mem_of_mem_foldl_upsert {items news : List α} {y : α}
    (h : y ∈ news.foldl upsert items) : y ∈ items ∨ y ∈ news := by
  induction news generalizing items with
  | nil => exact Or.inl h
  | cons x news ih =>
    rcases ih h with h | h
    · rcases mem_of_mem_upsert h with h | h
      · exact Or.inr (h ▸ List.mem_cons_self)
      · exact Or.inl h
    · exact Or.inr (List.mem_cons_of_mem _ h)

theorem mem_of_mem_merge {items : List α} {x y : α} (h : y ∈ merge items x) :
    y ∈ items ∨ y = x := by
  unfold merge at h
  split at h
  · exact Or.inl h
  · simpa using h

theorem mem_of_mem_mergeAll {items news : List α} {y : α} (h : y ∈ mergeAll items news) :
    y ∈ items ∨ y ∈ news := by
  induction news generalizing items with
  | nil => exact Or.inl h
  | cons x news ih =>
    rcases ih h with h | h
    · rcases mem_of_mem_merge h with h | h
      · exact Or.inl h
      · exact Or.inr (h ▸ List.mem_cons_self)
    · exact Or.inr (List.mem_cons_of_mem _ h)

theorem mem_of_mem_without {items : List α} {name : Text} {y : α} (h : y ∈ without items name) :
    y ∈ items :=
  (List.mem_filter.mp h).1

/-! ## Names -/

theorem mem_names_merge (items : List α) (x : α) (n : Text) :
    n ∈ names (merge items x) ↔ n ∈ names items ∨ n = nameOf x := by
  unfold merge
  split
  · rename_i h
    have hx := (taken_iff items (nameOf x)).mp h
    constructor
    · exact Or.inl
    · intro h'
      obtain h | rfl := h'
      · exact h
      · exact hx
  · simp [names, eq_comm]

theorem mem_names_mergeAll (items news : List α) (n : Text) :
    n ∈ names (mergeAll items news) ↔ n ∈ names items ∨ n ∈ names news := by
  induction news generalizing items with
  | nil => simp [mergeAll, names]
  | cons x news ih =>
    have h : names (x :: news) = nameOf x :: names news := rfl
    rw [mergeAll, List.foldl_cons, ← mergeAll, ih, mem_names_merge, h, List.mem_cons, or_assoc]

/-- A text is its own name. -/
theorem names_texts (texts : List Text) : names texts = texts := List.map_id texts

/-- Merging texts only drops those that are there already. -/
theorem mem_mergeAll_texts (texts : List Text) (t : Text) : t ∈ mergeAll [] texts ↔ t ∈ texts := by
  have h := mem_names_mergeAll [] texts t
  rw [names_texts, names_texts, names_texts] at h
  simpa using h

theorem nodup_merge_texts {texts : List Text} (h : texts.Nodup) (t : Text) :
    (merge texts t).Nodup := by
  have hmerge := nodup_merge ((names_texts texts).symm ▸ h) t
  rwa [names_texts] at hmerge

theorem nodup_mergeAll_texts {texts : List Text} (h : texts.Nodup) (news : List Text) :
    (mergeAll texts news).Nodup := by
  induction news generalizing texts with
  | nil => exact h
  | cons t news ih => exact ih (nodup_merge_texts h t)

theorem nodup_upsert {items : List α} (h : (names items).Nodup) (x : α) :
    (names (upsert items x)).Nodup := by
  rw [names_upsert]
  split
  · exact h
  · rename_i hx
    refine List.nodup_append.mpr ⟨h, by simp, ?_⟩
    intro a ha b hb hab
    exact hx (List.mem_singleton.mp hb ▸ hab ▸ ha)

theorem nodup_foldl_upsert {items : List α} (h : (names items).Nodup) (news : List α) :
    (names (news.foldl upsert items)).Nodup := by
  induction news generalizing items with
  | nil => exact h
  | cons x news ih => exact ih (nodup_upsert h x)

/-! ## Merging some of the news -/

theorem merge_of_not_mem {items : List α} {x : α} (h : nameOf x ∉ names items) :
    merge items x = items ++ [x] :=
  if_neg fun htaken => h ((taken_iff items (nameOf x)).mp htaken)

theorem merge_of_mem {items : List α} {x : α} (h : nameOf x ∈ names items) :
    merge items x = items :=
  if_pos ((taken_iff items (nameOf x)).mpr h)

theorem mergeAll_of_nodup {items news : List α} (h : (names (items ++ news)).Nodup) :
    mergeAll items news = items ++ news := by
  induction news generalizing items with
  | nil => exact (List.append_nil items).symm
  | cons x news ih =>
    have hx : nameOf x ∉ names items := by
      intro hx
      rw [names, List.map_append, List.map_cons] at h
      exact (List.nodup_append.mp h).2.2 _ hx _ List.mem_cons_self rfl
    rw [mergeAll, List.foldl_cons, merge_of_not_mem hx, ← mergeAll, ih (by simpa using h)]
    simp

theorem mem_names_filter (p : Text → Bool) (items : List α) (n : Text) :
    n ∈ names (items.filter fun y => p (nameOf y)) ↔ n ∈ names items ∧ p n = true := by
  simp only [names, List.mem_map, List.mem_filter]
  constructor
  · rintro ⟨y, ⟨hy, hp⟩, rfl⟩
    exact ⟨⟨y, hy, rfl⟩, hp⟩
  · rintro ⟨⟨y, hy, rfl⟩, hp⟩
    exact ⟨y, ⟨hy, hp⟩, rfl⟩

/-- Choosing by name among what was merged is merging what was chosen: whether a name is taken does
    not depend on the names left out. -/
theorem filter_mergeAll (p : Text → Bool) (items news : List α) :
    (mergeAll items news).filter (fun y => p (nameOf y)) =
      mergeAll (items.filter fun y => p (nameOf y)) (news.filter fun y => p (nameOf y)) := by
  have hkeep {x : α} (l : List α) (hp : p (nameOf x) = true) :
      (x :: l).filter (fun y => p (nameOf y)) = x :: l.filter fun y => p (nameOf y) :=
    List.filter_cons_of_pos hp
  have hdrop {x : α} (l : List α) (hp : ¬ p (nameOf x) = true) :
      (x :: l).filter (fun y => p (nameOf y)) = l.filter fun y => p (nameOf y) :=
    List.filter_cons_of_neg hp
  induction news generalizing items with
  | nil => rfl
  | cons x news ih =>
    rw [mergeAll, List.foldl_cons, ← mergeAll, ih]
    by_cases hp : p (nameOf x) = true
    · rw [hkeep news hp, mergeAll, mergeAll, List.foldl_cons]
      congr 1
      have hmem := mem_names_filter p items (nameOf x)
      by_cases hx : nameOf x ∈ names items
      · rw [merge_of_mem hx, merge_of_mem (hmem.mpr ⟨hx, hp⟩)]
      · rw [merge_of_not_mem hx, merge_of_not_mem fun h => hx (hmem.mp h).1, List.filter_append,
          hkeep [] hp, List.filter_nil]
    · rw [hdrop news hp]
      congr 1
      by_cases hx : nameOf x ∈ names items
      · rw [merge_of_mem hx]
      · rw [merge_of_not_mem hx, List.filter_append, hdrop [] hp, List.filter_nil, List.append_nil]

/-! ## First occurrences -/

/-- Every name once, at its first occurrence. -/
def firstOfEach : List α → List α
  | [] => []
  | x :: items => x :: without (firstOfEach items) (nameOf x)

/-- Of the news, those are added whose names are not there, each name once. -/
theorem mergeAll_eq (items news : List α) :
    mergeAll items news = items ++ (firstOfEach news).filter (nameOf · ∉ names items) := by
  induction news generalizing items with
  | nil => simp [mergeAll, firstOfEach]
  | cons x news ih =>
    rw [mergeAll, List.foldl_cons, ← mergeAll, ih, firstOfEach, without]
    by_cases hx : nameOf x ∈ names items
    · -- The name is taken, so it does not matter whether later ones of it are left out before.
      rw [merge_of_mem hx, List.filter_cons_of_neg (by simpa using hx), List.filter_filter]
      congr 1
      apply List.filter_congr
      intro y _
      by_cases hy : nameOf y = nameOf x
      · simp [hy, hx]
      · simp [hy]
    · rw [merge_of_not_mem hx, List.filter_cons_of_pos (by simpa using hx), List.filter_filter,
        List.append_assoc, List.singleton_append]
      congr 2
      apply List.filter_congr
      intro y _
      simp [names]

theorem mergeAll_nil_eq (news : List α) : mergeAll [] news = firstOfEach news := by
  rw [mergeAll_eq, List.nil_append, List.filter_eq_self]
  simp [names]

theorem mergeAll_append (items news more : List α) :
    mergeAll items (news ++ more) = mergeAll (mergeAll items news) more :=
  List.foldl_append

theorem mergeAll_eq_firstOfEach {items : List α} (h : (names items).Nodup) (news : List α) :
    mergeAll items news = firstOfEach (items ++ news) := by
  have hnames : (names ([] ++ items)).Nodup := h
  rw [← mergeAll_nil_eq, mergeAll_append, mergeAll_of_nodup hnames, List.nil_append]

/-! ## Lookups -/

theorem name_of_find? {items : List α} {n : Text} {x : α} (h : find? items n = some x) :
    nameOf x = n := by
  simpa using List.find?_some h

theorem find?_isSome_iff (items : List α) (n : Text) :
    (find? items n).isSome ↔ n ∈ names items := by
  simp [find?, names]

theorem find?_eq_none_iff (items : List α) (n : Text) : find? items n = none ↔ n ∉ names items := by
  rw [← find?_isSome_iff, Option.not_isSome_iff_eq_none]

/-- With distinct names, a lookup finds exactly the members. -/
theorem find?_eq_some_iff {items : List α} (h : (names items).Nodup) (n : Text) (x : α) :
    find? items n = some x ↔ x ∈ items ∧ nameOf x = n := by
  constructor
  · intro hx
    exact ⟨List.mem_of_find?_eq_some hx, name_of_find? hx⟩
  · intro h'
    obtain ⟨hx, rfl⟩ := h'
    induction items with
    | nil => simp at hx
    | cons y items ih =>
      rw [names, List.map_cons, List.nodup_cons] at h
      rcases List.mem_cons.mp hx with rfl | hx
      · simp [find?]
      · have hy : nameOf y ≠ nameOf x := by
          intro hy
          exact h.1 (hy ▸ List.mem_map_of_mem hx)
        simpa [find?, hy] using ih h.2 hx

theorem find?_append (items news : List α) (n : Text) :
    find? (items ++ news) n = (find? items n).or (find? news n) :=
  List.find?_append

/-- A name that is there is found there, another among the news. -/
theorem find?_mergeAll (items news : List α) (n : Text) :
    find? (mergeAll items news) n = (find? items n).or (find? news n) := by
  induction news generalizing items with
  | nil => exact Option.or_none.symm
  | cons x news ih =>
    have hmerge : find? (merge items x) n = (find? items n).or (find? [x] n) := by
      by_cases hx : nameOf x ∈ names items
      · rw [merge_of_mem hx]
        by_cases hn : nameOf x = n
        · obtain ⟨y, hy⟩ := Option.isSome_iff_exists.mp ((find?_isSome_iff items n).mpr (hn ▸ hx))
          rw [hy, Option.some_or]
        · simp [find?, hn]
      · rw [merge_of_not_mem hx, find?_append]
    rw [mergeAll, List.foldl_cons, ← mergeAll, ih, hmerge, Option.or_assoc, ← find?_append,
      List.singleton_append]

theorem find?_firstOfEach (items : List α) (n : Text) :
    find? (firstOfEach items) n = find? items n := by
  rw [← mergeAll_nil_eq, find?_mergeAll]
  rfl

/-- A lookup in one list after another stops at the first that has the name. -/
theorem find?_append_cases (items news : List α) (n : Text) :
    (n ∈ names items ∧ ∃ x ∈ items, find? (items ++ news) n = some x) ∨
      (n ∉ names items ∧ n ∈ names news ∧ ∃ x, x ∉ items ∧ find? (items ++ news) n = some x) ∨
      (n ∉ names items ∧ n ∉ names news ∧ find? (items ++ news) n = none) := by
  rw [find?_append]
  cases hx : find? items n with
  | some x =>
    have hitems := (find?_isSome_iff items n).mp (hx ▸ rfl)
    exact Or.inl ⟨hitems, x, List.mem_of_find?_eq_some hx, rfl⟩
  | none =>
    have hitems := (find?_eq_none_iff items n).mp hx
    right
    cases hy : find? news n with
    | some y =>
      refine Or.inl ⟨hitems, (find?_isSome_iff news n).mp (hy ▸ rfl), y, fun hmem => ?_, rfl⟩
      exact hitems (name_of_find? hy ▸ List.mem_map_of_mem hmem)
    | none => exact Or.inr ⟨hitems, (find?_eq_none_iff news n).mp hy, rfl⟩

/-- A lookup among things chosen by name finds what it would find among all, or nothing. -/
theorem find?_filter (p : Text → Bool) (items : List α) (n : Text) :
    find? (items.filter fun y => p (nameOf y)) n = if p n then find? items n else none := by
  unfold find?
  rw [List.find?_filter]
  by_cases hn : p n = true
  · rw [if_pos hn]
    congr 1
    funext y
    by_cases hy : nameOf y = n
    · simp [hy, hn]
    · simp [hy]
  · rw [if_neg hn, List.find?_eq_none]
    intro y _ hy
    obtain ⟨hp, rfl⟩ : p (nameOf y) = true ∧ nameOf y = n := by simpa using hy
    exact hn hp

theorem find?_without (items : List α) (m n : Text) :
    find? (without items m) n = if m = n then none else find? items n := by
  rw [without, find?_filter (fun name => decide (name ≠ m))]
  by_cases hm : m = n
  · simp [hm]
  · simp [hm, Ne.symm hm]

/-! ## Repeated names -/

/-- The last definition of every name, at the place of the first. -/
def lastOfEach (items : List α) : List α :=
  (mergeAll [] (names items)).filterMap (find? items.reverse)

theorem find?_upsert (items : List α) (x : α) (n : Text) :
    find? (upsert items x) n = if nameOf x = n then some x else find? items n := by
  induction items with
  | nil => simp [upsert, find?, List.find?_singleton]
  | cons y items ih =>
    unfold find? at ih ⊢
    rw [upsert]
    split
    · rename_i hy
      rw [List.find?_cons, List.find?_cons, hy]
      by_cases hx : nameOf x = n
      · simp [hx]
      · simp [hx]
    · rename_i hy
      rw [List.find?_cons, List.find?_cons, ih]
      by_cases hn : nameOf y = n
      · have hx : nameOf x ≠ n := fun hx => hy (hn.trans hx.symm)
        simp [hn, hx]
      · simp [hn]

theorem find?_foldl_upsert (items news : List α) (n : Text) :
    find? (news.foldl upsert items) n = (find? news.reverse n).or (find? items n) := by
  induction news generalizing items with
  | nil => rfl
  | cons x news ih =>
    have hsplit : find? (x :: news).reverse n = (find? news.reverse n).or (find? [x] n) := by
      rw [List.reverse_cons]
      exact List.find?_append
    rw [List.foldl_cons, ih, find?_upsert, hsplit, Option.or_assoc]
    congr 1
    by_cases hx : nameOf x = n
    · simp [find?, hx]
    · simp [find?, hx]

/-- A new name comes last; a name that is there keeps its place. -/
theorem names_foldl_upsert (items news : List α) :
    names (news.foldl upsert items) = mergeAll (names items) (names news) := by
  induction news generalizing items with
  | nil => rfl
  | cons x news ih =>
    have hmerge : names (upsert items x) = merge (names items) (nameOf x) := by
      -- A name, as a text, is its own name.
      have htaken : taken (names items) (nameOf (nameOf x)) = true ↔ nameOf x ∈ names items := by
        rw [taken_iff, names_texts]
        rfl
      rw [names_upsert, merge]
      by_cases hx : nameOf x ∈ names items
      · rw [if_pos hx, if_pos (htaken.mpr hx)]
      · rw [if_neg hx, if_neg fun h => hx (htaken.mp h)]
    rw [List.foldl_cons, ih, hmerge]
    rfl

/-- With distinct names, the names and the lookups make up the list. -/
theorem eq_filterMap_find? {items : List α} (h : (names items).Nodup) :
    items = (names items).filterMap (find? items) := by
  have hmap : (names items).map (find? items) = items.map some := by
    rw [names, List.map_map]
    exact List.map_congr_left fun x hx => (find?_eq_some_iff h (nameOf x) x).mpr ⟨hx, rfl⟩
  calc items = (items.map some).filterMap id := by simp
    _ = ((names items).map (find? items)).filterMap id := by rw [hmap]
    _ = (names items).filterMap (find? items) := by
      rw [List.filterMap_map]
      rfl

/-- **Upserting one after another keeps first places and last definitions.** -/
theorem foldl_upsert_eq (news : List α) : news.foldl upsert [] = lastOfEach news := by
  have hempty : (names ([] : List α)).Nodup := List.nodup_nil
  have hfind : find? (news.foldl upsert ([] : List α)) = find? news.reverse := by
    funext n
    rw [find?_foldl_upsert]
    exact Option.or_none
  rw [eq_filterMap_find? (nodup_foldl_upsert hempty news), hfind, names_foldl_upsert]
  rfl

theorem upsert_of_not_mem {items : List α} {x : α} (h : nameOf x ∉ names items) :
    upsert items x = items ++ [x] := by
  induction items with
  | nil => rfl
  | cons y items ih =>
    rw [names, List.map_cons, List.mem_cons, not_or] at h
    rw [upsert, if_neg (Ne.symm h.1), ih h.2]
    rfl

theorem foldl_upsert_of_nodup {items news : List α} (h : (names (items ++ news)).Nodup) :
    news.foldl upsert items = items ++ news := by
  induction news generalizing items with
  | nil => exact (List.append_nil items).symm
  | cons x news ih =>
    have hx : nameOf x ∉ names items := by
      intro hx
      rw [names, List.map_append, List.map_cons] at h
      exact (List.nodup_append.mp h).2.2 _ hx _ List.mem_cons_self rfl
    rw [List.foldl_cons, upsert_of_not_mem hx, ih (by simpa using h)]
    simp

end OrmLens.Model.Named
