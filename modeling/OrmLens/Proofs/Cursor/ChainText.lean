/-
  Chains as texts.

  `renderChain` writes the links of a chain with dots between them: the name, the call and the
  subscript. Such a text is read back link by link (`readSegment_text`), and white space around the
  dots and at the ends makes no difference (`exists_core`). What the reader finds in any text is
  itself a chain that can be written (`isChain_of_parseChain?`): names are cut at the first
  character of no identifier, and the inside of a group is balanced. `parseChain?_renderChain` says
  both.

  Several calls of one link are not kept: only the last one is, so a text is not always what its
  chain is written as.
-/
import Mathlib.Data.List.Forall2
import OrmLens.Cursor.Chain
import OrmLens.Proofs.Source.Groups
import OrmLens.Proofs.Source.Spacing

namespace OrmLens.Cursor

open CharClass Source

/-! ## Links and chains -/

/-- A group in its brackets, or nothing. -/
def grouped (opening closing : Char) : Option Text → Text
  | none => []
  | some inside => opening :: (inside ++ [closing])

namespace Segment

/-- A link as written. -/
def text (s : Segment) : Text := s.name ++ (grouped '(' ')' s.call ++ grouped '[' ']' s.subscript)

/-- A link that can be written: its name is an identifier, and its groups are balanced. -/
structure IsLink (s : Segment) : Prop where
  name_start : ∃ c more, s.name = c :: more ∧ isIdentStart c = true
  name : ∀ c ∈ s.name, isIdent c = true
  call : ∀ args ∈ s.call, Balanced args
  subscript : ∀ args ∈ s.subscript, Balanced args

instance (s : Segment) : Decidable s.IsLink :=
  decidable_of_iff (s.name.head?.any isIdentStart = true ∧ s.name.all isIdent = true ∧
      (∀ args ∈ s.call, Balanced args) ∧ ∀ args ∈ s.subscript, Balanced args) <| by
    have hstart : s.name.head?.any isIdentStart = true ↔
        ∃ c more, s.name = c :: more ∧ isIdentStart c = true := by
      cases s.name <;> simp
    rw [hstart, List.all_eq_true]
    exact ⟨fun ⟨hstart, hname, hcall, hsubscript⟩ => ⟨hstart, hname, hcall, hsubscript⟩,
      fun h => ⟨h.name_start, h.name, h.call, h.subscript⟩⟩

end Segment

/-- At least one link, each of which can be written. -/
structure IsChain (chain : List Segment) : Prop where
  ne_nil : chain ≠ []
  links : ∀ s ∈ chain, s.IsLink

instance (chain : List Segment) : Decidable (IsChain chain) :=
  decidable_of_iff (chain ≠ [] ∧ ∀ s ∈ chain, s.IsLink)
    ⟨fun h => ⟨h.1, h.2⟩, fun h => ⟨h.ne_nil, h.links⟩⟩

/-- A chain as written. -/
def renderChain (chain : List Segment) : Text := Text.join ['.'] (chain.map Segment.text)

/-- Characters that go on a link: those of its name, and brackets that open a group. -/
def isLinkChar (c : Char) : Bool := isIdent c || c == '(' || c == '['

theorem stops_isIdent {t : Text} (h : Stops isLinkChar t) : Stops isIdent t := by
  intro c hc
  have hlink := h c hc
  rw [isLinkChar, Bool.or_eq_false_iff, Bool.or_eq_false_iff] at hlink
  exact hlink.1.1

/-! ## Groups of a link -/

theorem readGroups_stops {s : Segment} {t : Text} (h : Stops isLinkChar t) (count : Nat) :
    readGroups count s t = some (s, t) := by
  cases count with
  | zero => rfl
  | succ count =>
    unfold readGroups
    split
    · exact absurd (h '(' rfl) (by decide)
    · exact absurd (h '[' rfl) (by decide)
    · rfl

theorem readGroups_call {args : Text} (h : Balanced args) (count : Nat) (s : Segment) (t : Text) :
    readGroups (count + 1) s (grouped '(' ')' (some args) ++ t) =
      readGroups count { s with call := some args } t := by
  rw [grouped, List.cons_append, List.append_assoc, List.singleton_append, readGroups,
    h.group? rfl]
  rfl

theorem readGroups_subscript {args : Text} (h : Balanced args) (count : Nat) (s : Segment)
    (t : Text) : readGroups (count + 1) s (grouped '[' ']' (some args) ++ t) =
      readGroups count { s with subscript := some args } t := by
  rw [grouped, List.cons_append, List.append_assoc, List.singleton_append, readGroups,
    h.group? rfl]
  rfl

theorem length_grouped_some (opening closing : Char) (inside : Text) :
    (grouped opening closing (some inside)).length = inside.length + 2 := by
  simp [grouped]

/-- The groups of a link are read in the order in which they are written. -/
theorem readGroups_grouped {s : Segment} (hs : s.IsLink) {rest : Text}
    (hrest : Stops isLinkChar rest) {count : Nat}
    (hcount : (grouped '(' ')' s.call ++ grouped '[' ']' s.subscript).length ≤ count) :
    readGroups count { name := s.name }
      (grouped '(' ')' s.call ++ (grouped '[' ']' s.subscript ++ rest)) = some (s, rest) := by
  obtain ⟨name, call, subscript⟩ := s
  rw [List.length_append] at hcount
  cases call with
  | none =>
    cases subscript with
    | none => exact readGroups_stops hrest count
    | some index =>
      rw [length_grouped_some] at hcount
      obtain ⟨count, rfl⟩ : ∃ n, count = n + 1 := ⟨count - 1, by omega⟩
      exact (readGroups_subscript (hs.subscript index rfl) count _ rest).trans
        (readGroups_stops hrest count)
  | some args =>
    rw [length_grouped_some] at hcount
    obtain ⟨count, rfl⟩ : ∃ n, count = n + 1 := ⟨count - 1, by omega⟩
    rw [readGroups_call (hs.call args rfl)]
    cases subscript with
    | none => exact readGroups_stops hrest count
    | some index =>
      obtain ⟨count, rfl⟩ : ∃ n, count = n + 1 := ⟨count - 1, by omega⟩
      exact (readGroups_subscript (hs.subscript index rfl) count _ rest).trans
        (readGroups_stops hrest count)

theorem stops_grouped {opening : Char} (hopening : isIdent opening = false) (closing : Char)
    (group : Option Text) {rest : Text} (hrest : Stops isIdent rest) :
    Stops isIdent (grouped opening closing group ++ rest) := by
  cases group with
  | none => exact hrest
  | some inside => exact stops_cons hopening _

/-- **A link is read back**, and the rest is left. -/
theorem readSegment_text {s : Segment} (hs : s.IsLink) {rest : Text}
    (hrest : Stops isLinkChar rest) : readSegment (s.text ++ rest) = some (s, rest) := by
  have hgroups : Stops isIdent
      (grouped '(' ')' s.call ++ (grouped '[' ']' s.subscript ++ rest)) :=
    stops_grouped (by decide) ')' _ (stops_grouped (by decide) ']' _ (stops_isIdent hrest))
  obtain ⟨c, more, hname, hstart⟩ := hs.name_start
  have hcount : (grouped '(' ')' s.call ++ grouped '[' ']' s.subscript).length ≤
      (grouped '(' ')' s.call ++ (grouped '[' ']' s.subscript ++ rest)).length := by
    simp only [List.length_append]
    omega
  unfold readSegment
  rw [Segment.text, List.append_assoc, List.append_assoc, takeWhile_of_stops hs.name hgroups,
    dropWhile_of_stops hs.name hgroups, hname]
  dsimp only
  rw [if_pos hstart, ← hname, readGroups_grouped hs hrest hcount]

/-! ## Chains with white space -/

theorem stops_isLinkChar {t : Text} (h : ∀ c ∈ t.head?, isSpace c = true ∨ c = '.') :
    Stops isLinkChar t := by
  intro c hc
  rcases h c hc with hspace | rfl
  · exact eq_false_of_isSpace (by decide +kernel) hspace
  · decide

theorem trimmed_grouped {opening closing : Char} (hopening : isSpace opening = false)
    (hclosing : isSpace closing = false) (inside : Text) :
    Trimmed (grouped opening closing (some inside)) where
  ne_nil := List.cons_ne_nil _ _
  start := stops_cons hopening _
  stop := by
    have hreverse : (grouped opening closing (some inside)).reverse =
        closing :: (inside.reverse ++ [opening]) := by simp [grouped]
    rw [hreverse]
    exact stops_cons hclosing _

theorem Segment.IsLink.trimmed_name {s : Segment} (hs : s.IsLink) : Trimmed s.name where
  ne_nil := by
    obtain ⟨c, more, hname, -⟩ := hs.name_start
    rw [hname]
    exact List.cons_ne_nil c more
  start := fun c hc => isSpace_of_isIdent (hs.name c (List.mem_of_mem_head? hc))
  stop := fun c hc =>
    isSpace_of_isIdent (hs.name c (List.mem_reverse.mp (List.mem_of_mem_head? hc)))

theorem Segment.IsLink.trimmed {s : Segment} (hs : s.IsLink) : Trimmed s.text := by
  have hname := hs.trimmed_name
  obtain ⟨name, call, subscript⟩ := s
  unfold Segment.text
  cases call with
  | none =>
    cases subscript with
    | none => simpa [grouped] using hname
    | some index => exact Trimmed.append hname [] (trimmed_grouped (by decide) (by decide) index)
  | some args =>
    have hargs : Trimmed (grouped '(' ')' (some args)) :=
      trimmed_grouped (by decide) (by decide) args
    cases subscript with
    | none =>
      have hcall := Trimmed.append hname [] hargs
      simpa [grouped] using hcall
    | some index =>
      exact Trimmed.append hname _ (trimmed_grouped (by decide) (by decide) index)

/-- Behind a link comes the end of the text, or a dot with white space around it. -/
theorem chainFrom_last {s : Segment} (hs : s.IsLink) (count : Nat) :
    chainFrom (count + 1) s.text = some [s] := by
  have hend : Stops isLinkChar [] := fun c hc => absurd hc (by simp)
  have hread := readSegment_text hs hend
  rw [List.append_nil] at hread
  rw [chainFrom, hread]
  rfl

theorem chainFrom_cons {s : Segment} (hs : s.IsLink) {before after core : Text}
    (hbefore : White before) (hafter : White after) (hcore : Trimmed core) (count : Nat) :
    chainFrom (count + 1) (s.text ++ (after ++ '.' :: (before ++ core))) =
      (chainFrom count core).map (s :: ·) := by
  have hdot : Stops isSpace ('.' :: (before ++ core)) := stops_cons (by decide) _
  have hrest : Stops isLinkChar (after ++ '.' :: (before ++ core)) := by
    refine stops_isLinkChar fun c hc => ?_
    cases after with
    | nil => exact .inr (by simpa using hc.symm)
    | cons d after =>
      obtain rfl : d = c := by simpa using hc
      exact .inl (hafter d List.mem_cons_self)
  have hnext : Text.trimStart (before ++ core) = core := by
    have h := hbefore.trimStart_append hcore []
    rwa [List.append_nil] at h
  rw [chainFrom, readSegment_text hs hrest, Option.bind_some, Text.trimStart,
    dropWhile_of_stops hafter hdot]
  show (chainFrom count (Text.trimStart (before ++ core))).map (s :: ·) = _
  rw [hnext]

/-- **The core of a spaced chain**, between the white space at its ends, is read link by link. -/
theorem exists_core {chain : List Segment} (h : IsChain chain) {cells : List Text}
    (hcells : List.Forall₂ Spaced (chain.map Segment.text) cells) :
    ∃ core, Spaced core (Text.join ['.'] cells) ∧ Trimmed core ∧ chain.length ≤ core.length ∧
      ∀ count, chain.length ≤ count → chainFrom count core = some chain := by
  obtain ⟨hne, hlinks⟩ := h
  induction chain generalizing cells with
  | nil => exact absurd rfl hne
  | cons s chain ih =>
    obtain ⟨hs, hmore⟩ := List.forall_mem_cons.mp hlinks
    obtain ⟨cell, rest, hcell, hrest, rfl⟩ := List.forall₂_cons_left_iff.mp hcells
    have hlength : 1 ≤ s.text.length := List.length_pos_iff.mpr hs.trimmed.ne_nil
    cases chain with
    | nil =>
      obtain rfl := List.forall₂_nil_left_iff.mp hrest
      refine ⟨s.text, hcell, hs.trimmed, hlength, fun count hcount => ?_⟩
      obtain ⟨count, rfl⟩ : ∃ n, count = n + 1 := ⟨count - 1, by simp at hcount; omega⟩
      exact chainFrom_last hs count
    | cons next chain =>
      obtain ⟨core, hspaced, hcore, hle, hread⟩ := ih hrest (List.cons_ne_nil _ _) hmore
      obtain ⟨before, after, hbefore, hafter, rfl⟩ := hcell
      obtain ⟨lead, trail, hlead, htrail, hjoin⟩ := hspaced
      have hrestne : rest ≠ [] := by
        rintro rfl
        cases hrest
      refine ⟨s.text ++ (after ++ '.' :: (lead ++ core)), ?_, ?_, ?_, fun count hcount => ?_⟩
      · refine ⟨before, trail, hbefore, htrail, ?_⟩
        rw [Text.join_cons_of_ne_nil _ _ hrestne, hjoin]
        simp only [List.append_assoc, List.cons_append, List.nil_append]
      · have h := Trimmed.append hs.trimmed (after ++ '.' :: lead) hcore
        simpa using h
      · simp only [List.length_append, List.length_cons] at hle ⊢
        omega
      · obtain ⟨count, rfl⟩ : ∃ n, count = n + 1 := ⟨count - 1, by simp at hcount; omega⟩
        rw [chainFrom_cons hs hlead hafter hcore, hread count (by simpa using hcount)]
        rfl

/-- A chain is read back however it is spaced. -/
theorem parseChain?_spaced {chain : List Segment} (h : IsChain chain) {cells : List Text}
    (hcells : List.Forall₂ Spaced (chain.map Segment.text) cells) :
    parseChain? (Text.join ['.'] cells) = some chain := by
  obtain ⟨core, hspaced, hcore, hlength, hread⟩ := exists_core h hcells
  unfold parseChain?
  rw [hspaced.trim_eq hcore]
  exact hread core.length hlength

/-! ## What is read -/

theorem Segment.IsLink.readGroups {s s' : Segment} (hs : s.IsLink) {count : Nat} {t rest : Text}
    (h : readGroups count s t = some (s', rest)) : s'.IsLink := by
  induction count generalizing s t with
  | zero =>
    obtain ⟨rfl, rfl⟩ := Prod.mk.inj (Option.some.inj h)
    exact hs
  | succ count ih =>
    unfold Cursor.readGroups at h
    split at h
    · obtain ⟨g, hgroup, hrest⟩ := Option.bind_eq_some_iff.mp h
      have hcalled : IsLink { s with call := some g.1 } :=
        { hs with call := fun args hargs => Option.some.inj hargs ▸ balanced_of_group? hgroup }
      exact ih hcalled hrest
    · obtain ⟨g, hgroup, hrest⟩ := Option.bind_eq_some_iff.mp h
      have hindexed : IsLink { s with subscript := some g.1 } :=
        { hs with subscript := fun args hargs => Option.some.inj hargs ▸ balanced_of_group? hgroup }
      exact ih hindexed hrest
    · obtain ⟨rfl, rfl⟩ := Prod.mk.inj (Option.some.inj h)
      exact hs

theorem isLink_of_readSegment {s : Segment} {t rest : Text} (h : readSegment t = some (s, rest)) :
    s.IsLink := by
  unfold readSegment at h
  split at h
  · cases h
  · rename_i c name htake
    dsimp only at h
    split at h
    · rename_i hstart
      have hname : ∀ d ∈ c :: name, isIdent d = true := fun d hd =>
        all_of_mem_takeWhile (htake ▸ hd)
      have hbare : Segment.IsLink { name := c :: name } :=
        ⟨⟨c, name, rfl, hstart⟩, hname, fun _ hargs => (nomatch hargs),
          fun _ hargs => (nomatch hargs)⟩
      exact hbare.readGroups h
    · cases h

theorem isChain_of_chainFrom {count : Nat} {t : Text} {chain : List Segment}
    (h : chainFrom count t = some chain) : IsChain chain := by
  induction count generalizing t chain with
  | zero => cases h
  | succ count ih =>
    obtain ⟨⟨s, rest⟩, hread, hrest⟩ := Option.bind_eq_some_iff.mp h
    have hs := isLink_of_readSegment hread
    split at hrest
    · obtain rfl := Option.some.inj hrest
      exact ⟨List.cons_ne_nil _ _, fun link hlink => List.mem_singleton.mp hlink ▸ hs⟩
    · obtain ⟨more, hmore, rfl⟩ := Option.map_eq_some_iff.mp hrest
      exact ⟨List.cons_ne_nil _ _, List.forall_mem_cons.mpr ⟨hs, (ih hmore).links⟩⟩
    · cases hrest

/-- **What is read can be written.** -/
theorem isChain_of_parseChain? {t : Text} {chain : List Segment} (h : parseChain? t = some chain) :
    IsChain chain := isChain_of_chainFrom h

/-! ## Writing and reading -/

theorem parseChain?_render {chain : List Segment} (h : IsChain chain) :
    parseChain? (renderChain chain) = some chain :=
  parseChain?_spaced h (List.forall₂_same.mpr fun t _ => Spaced.refl t)

/-- **Reading inverts writing.** A chain of identifiers with balanced groups is read back as it was
    written, also with white space around the dots and at both ends. And every chain that is read in
    some text is one of these, so writing it and reading it again gives the same chain. -/
theorem parseChain?_renderChain (chain : List Segment) :
    (IsChain chain → parseChain? (renderChain chain) = some chain ∧
      ∀ cells, List.Forall₂ Spaced (chain.map Segment.text) cells →
        parseChain? (Text.join ['.'] cells) = some chain) ∧
    ∀ t, parseChain? t = some chain →
      IsChain chain ∧ parseChain? (renderChain chain) = some chain := by
  refine ⟨fun h => ⟨parseChain?_render h, fun cells => parseChain?_spaced h⟩, fun t ht => ?_⟩
  have h := isChain_of_parseChain? ht
  exact ⟨h, parseChain?_render h⟩

/-- Nested brackets of all kinds, a string with a bracket, a comment over a line break, and white
    space around the dots. A second call of the same link takes the place of the first. -/
theorem parseChain?_renderChain_nested :
    let chain : List Segment :=
      [⟨"Book", none, none⟩, ⟨"objects", none, none⟩,
        ⟨"filter", some "a=(1, [2]), b=\")\"  # :)\n", some "0"⟩, ⟨"title", none, none⟩]
    let cells : List Text :=
      [" Book", "objects ", "\n  filter(a=(1, [2]), b=\")\"  # :)\n)[0]\n", "\ttitle\n"]
    IsChain chain ∧ List.Forall₂ Spaced (chain.map Segment.text) cells ∧
      parseChain? (Text.join ['.'] cells) = some chain ∧
      parseChain? "f[0](1)(2)" = some [⟨"f", some "2", some "0"⟩] ∧
      parseChain? (renderChain [⟨"f", some "2", some "0"⟩]) = some [⟨"f", some "2", some "0"⟩] := by
  intro chain cells
  have hchain : IsChain chain := by decide +kernel
  have hcells : List.Forall₂ Spaced (chain.map Segment.text) cells :=
    .cons ⟨" ", [], by decide, by decide, by decide +kernel⟩ <|
    .cons ⟨[], " ", by decide, by decide, by decide +kernel⟩ <|
    .cons ⟨"\n  ", "\n", by decide, by decide, by decide +kernel⟩ <|
    .cons ⟨"\t", "\n", by decide, by decide, by decide +kernel⟩ .nil
  have hcalls : parseChain? "f[0](1)(2)" = some [⟨"f", some "2", some "0"⟩] := by decide +kernel
  exact ⟨hchain, hcells, ((parseChain?_renderChain chain).1 hchain).2 cells hcells, hcalls,
    ((parseChain?_renderChain _).2 _ hcalls).2⟩

end OrmLens.Cursor
