/-
  Declarations below a broken one.

  The declarations of a text that stand below a place are those of the text from there on, moved,
  unless a header from above reaches over the place (`filter_declarations_append`). At the start of
  a line the headers that do so are known by their texts: above, `class Name (` is written and its
  parenthesis is not closed, and below, the first closing parenthesis is followed by a colon
  (`reaches_iff`). So a class below malformed text is declared as if it stood alone in all cases but
  that one (`declarations_below_iff`), and in that one it is lost: its own header is read as bases
  of the class above.
-/
import OrmLens.Proofs.Source.Search
import OrmLens.Proofs.Source.Heads

namespace OrmLens.Source

open CharClass

/-! ## Moved declarations -/

/-- A declaration moved by a number of bytes. -/
def Declaration.shift (k : Nat) (d : Declaration) : Declaration :=
  { d with start := d.start + k, body := ⟨d.body.start + k, d.body.stop + k⟩ }

theorem blockEndFrom_shift (indent total offset k : Nat) (lines : List Text) :
    blockEndFrom indent (total + k) (offset + k) lines =
      blockEndFrom indent total offset lines + k := by
  induction lines generalizing offset with
  | nil => rfl
  | cons line lines ih =>
    have hnext : offset + k + Text.bytes line + 1 = offset + Text.bytes line + 1 + k := by omega
    rw [blockEndFrom, blockEndFrom]
    split
    · rfl
    · rw [hnext, ih]

theorem blockEnd_shift (indent offset k : Nat) (rest : Text) :
    blockEnd indent (offset + k) rest = blockEnd indent offset rest + k := by
  unfold blockEnd
  split
  · rfl
  · rename_i first below _
    have htotal : offset + k + Text.bytes rest = offset + Text.bytes rest + k := by omega
    have hfirst : offset + k + Text.bytes first + 1 = offset + Text.bytes first + 1 + k := by omega
    rw [htotal, hfirst, blockEndFrom_shift]

theorem Declaration.ofHeader_shift (k : Nat) (f : Found ClassHeader) :
    ofHeader (f.shift k) = (ofHeader f).shift k := by
  unfold ofHeader Found.shift Declaration.shift
  rw [blockEnd_shift]

/-! ## Headers that reach over a place -/

/-- A header starts in the first part and stops in the second. -/
def Reaches (pre post : Text) : Prop :=
  ∃ f ∈ foundAt readClassHeader 0 (pre ++ post), f.start < Text.bytes pre ∧ Text.bytes pre < f.stop

/-- Below a place that no header reaches over, the declarations are those of the text there. -/
theorem filter_declarations_append {pre post : Text} (hpre : freshAfter true pre = true)
    (h : ¬ Reaches pre post) :
    (declarations (pre ++ post)).filter (Text.bytes pre ≤ ·.start) =
      (declarations post).map (·.shift (Text.bytes pre)) := by
  obtain ⟨resume, hfilter, hresume⟩ := filter_foundFrom_append readClassHeader 0 0 true pre post
  rw [Nat.zero_add] at hfilter hresume
  have hle : resume ≤ Text.bytes pre := by
    rcases hresume with rfl | ⟨f, hf, hstart, rfl⟩
    · exact Nat.zero_le _
    · exact Nat.le_of_not_lt fun hstop => h ⟨f, hf, hstart, hstop⟩
  have hmoved : (foundAt readClassHeader 0 (pre ++ post)).filter (Text.bytes pre ≤ ·.start) =
      (foundAt readClassHeader 0 post).map (Found.shift (Text.bytes pre)) := by
    rw [foundAt, hfilter, hpre, foundFrom_eq_shift hle]
  unfold declarations
  rw [List.filter_map, List.map_map]
  show List.map _ ((foundAt readClassHeader 0 (pre ++ post)).filter (Text.bytes pre ≤ ·.start)) = _
  rw [hmoved, List.map_map]
  exact List.map_congr_left fun f _ => Declaration.ofHeader_shift _ f

/-- A header at a place that another reaches over is not declared. -/
theorem declarations_ne_of_reaches {pre post rest : Text} {header : ClassHeader}
    (hpost : readClassHeader post = some (header, rest)) (h : Reaches pre post) :
    (declarations (pre ++ post)).filter (Text.bytes pre ≤ ·.start) ≠
      (declarations post).map (·.shift (Text.bytes pre)) := by
  intro heq
  obtain ⟨f, hf, hstart, hstop⟩ := h
  have hne : post ≠ [] := by
    rintro rfl
    cases hpost
  -- The header is found in its own text, at the start.
  obtain ⟨g, hg, ⟨hgstart, -⟩ | ⟨hlt, -⟩⟩ :=
    found_or_covered (show freshAfter true [] = true from rfl) hne hpost (Nat.zero_le (0 + 0))
  · have hmem : (Declaration.ofHeader g).shift (Text.bytes pre) ∈
        (declarations post).map (·.shift (Text.bytes pre)) :=
      List.mem_map_of_mem (List.mem_map_of_mem hg)
    rw [← heq] at hmem
    obtain ⟨g', hg', hsame⟩ := List.mem_map.mp (List.mem_filter.mp hmem).1
    have hplace : g'.start = g.start + Text.bytes pre := congrArg Declaration.start hsame
    rw [hgstart, Text.bytes_nil, Nat.zero_add] at hplace
    have := stop_le_of_mem hf hg' (by omega)
    omega
  · rw [Text.bytes_nil] at hlt
    omega

/-! ## Headers that are not closed -/

/-- The text ends inside the parentheses of a class header that starts a line. -/
def LeavesOpen (pre : Text) : Prop :=
  ∃ (before : Text) (s : HeaderStart) (after inside : Text),
    pre = before ++ (s.text ++ (after ++ '(' :: inside)) ∧ freshAfter true before = true ∧
      Blank after ∧ ')' ∉ inside

/-- The first closing parenthesis of the text is followed by a colon. -/
def Closes (post : Text) : Prop :=
  ∃ inside gap rest, post = inside ++ ')' :: (gap ++ ':' :: rest) ∧ ')' ∉ inside ∧ Blank gap

/-- A character of a text that is not in the front of it comes after the front. -/
theorem after_of_not_mem {c : Char} {x y front t : Text} (h : x ++ c :: y = front ++ t)
    (hfront : c ∉ front) : ∃ u, x = front ++ u ∧ t = u ++ c :: y := by
  rcases List.append_eq_append_iff.mp h with ⟨u, rfl, hu⟩ | ⟨u, rfl, hu⟩
  · cases u with
    | nil => exact ⟨[], by simp, hu.symm⟩
    | cons d u =>
      obtain ⟨rfl, -⟩ := List.cons.inj hu
      exact absurd (by simp) hfront
  · exact ⟨u, rfl, hu⟩

/-- A character of a text that is not in the back of it comes before the back. -/
theorem before_of_not_mem {c : Char} {x y t back : Text} (h : x ++ c :: y = t ++ back)
    (hback : c ∉ back) : ∃ v, t = x ++ c :: v ∧ y = v ++ back := by
  rcases List.append_eq_append_iff.mp h with ⟨v, rfl, hv⟩ | ⟨v, rfl, rfl⟩
  · cases v with
    | nil =>
      rw [List.nil_append] at hv
      exact absurd (hv ▸ List.mem_cons_self) hback
    | cons d v =>
      obtain ⟨rfl, rfl⟩ := List.cons.inj hv
      exact ⟨v, rfl, rfl⟩
  · exact absurd (by simp) hback

/-- **A header goes on to another line between its parentheses only.** What follows the end of the
    line is the rest of the bases, the closing parenthesis and the colon. -/
theorem header_over_newline {t rest x y : Text} {h : ClassHeader}
    (hread : readClassHeader t = some (h, rest)) (ht : t = x ++ '\n' :: (y ++ rest)) :
    ∃ (s : HeaderStart) (after inside inside' gap : Text),
      x ++ ['\n'] = s.text ++ (after ++ '(' :: inside) ∧ Blank after ∧ ')' ∉ inside ∧
      y = inside' ++ ')' :: (gap ++ [':']) ∧ ')' ∉ inside' ∧ Blank gap := by
  obtain ⟨s, after, bases, gap, htext, -, -, hafter, hgap, hbases⟩ := readClassHeader_eq_some hread
  have hstart : '\n' ∉ s.text ++ after := by
    rw [List.mem_append, not_or]
    exact ⟨s.not_mem (by decide) (by decide), hafter.not_mem (by decide)⟩
  have hend : '\n' ∉ gap ++ [':'] := by
    rw [List.mem_append, not_or]
    exact ⟨hgap.not_mem (by decide), by decide⟩
  have heq : x ++ '\n' :: y = (s.text ++ after) ++ (bases ++ (gap ++ [':'])) := by
    have hall : (x ++ '\n' :: y) ++ rest =
        ((s.text ++ after) ++ (bases ++ (gap ++ [':']))) ++ rest := by
      rw [ht] at htext
      simpa using htext
    exact List.append_cancel_right hall
  obtain ⟨u, rfl, hu⟩ := after_of_not_mem heq hstart
  obtain ⟨v, rfl, rfl⟩ := before_of_not_mem hu.symm hend
  rcases hbases with hnil | ⟨inside, hinside, hparens⟩
  · cases u <;> cases hnil
  · -- The newline is not the opening parenthesis, nor the closing one.
    have hopen : '\n' ∉ ['('] := by decide
    obtain ⟨i, rfl, hi⟩ := after_of_not_mem hparens hopen
    obtain ⟨j, rfl, rfl⟩ := before_of_not_mem hi.symm (by decide)
    rw [List.mem_append, List.mem_cons, not_or, not_or] at hinside
    refine ⟨s, after, i ++ ['\n'], j, gap, by simp, hafter, ?_, by simp, hinside.2.2, hgap⟩
    rw [List.mem_append, not_or]
    exact ⟨hinside.1, by decide⟩

/-- What is found in a text, with the part of the text it was read from. -/
theorem consumed_of_mem {t : Text} {f : Found ClassHeader} (hf : f ∈ foundAt readClassHeader 0 t) :
    ∃ before header, t = before ++ (header ++ f.rest) ∧ freshAfter true before = true ∧
      f.start = Text.bytes before ∧ f.stop = Text.bytes before + Text.bytes header ∧
      readClassHeader (header ++ f.rest) = some (f.value, f.rest) := by
  obtain ⟨before, rest, rfl, hfresh, hstart, hread, hstop⟩ := reading_of_mem hf
  obtain ⟨s, after, bases, gap, htext, -⟩ := readClassHeader_eq_some hread
  have hrest : rest = (s.text ++ (after ++ (bases ++ (gap ++ [':'])))) ++ f.rest := by
    rw [htext]
    simp
  rw [Nat.zero_add] at hstart
  refine ⟨before, _, congrArg _ hrest, hfresh, hstart, ?_, hrest ▸ hread⟩
  rw [hstop, hstart, hrest, Text.bytes_append _ f.rest, Nat.add_sub_cancel]

theorem append_of_bytes_lt {a b c d : Text} (h : a ++ b = c ++ d)
    (hlt : Text.bytes c < Text.bytes a) : ∃ m, m ≠ [] ∧ a = c ++ m ∧ d = m ++ b := by
  rcases List.append_eq_append_iff.mp h with ⟨m, rfl, -⟩ | ⟨m, rfl, hd⟩
  · rw [Text.bytes_append] at hlt
    omega
  · refine ⟨m, ?_, rfl, hd⟩
    rintro rfl
    rw [List.append_nil] at hlt
    exact Nat.lt_irrefl _ hlt

/-- A header that reaches over the start of a line, with its parts on both sides. -/
theorem parts_of_reaching {pre post : Text} (hpre : freshAfter true pre = true)
    {f : Found ClassHeader} (hf : f ∈ foundAt readClassHeader 0 (pre ++ post))
    (hstart : f.start < Text.bytes pre) (hstop : Text.bytes pre < f.stop) :
    LeavesOpen pre ∧ ∃ inside gap, post = inside ++ ')' :: (gap ++ ':' :: f.rest) ∧
      ')' ∉ inside ∧ Blank gap ∧
      f.stop = Text.bytes pre + Text.bytes (inside ++ ')' :: (gap ++ [':'])) := by
  obtain ⟨before, header, htext, hfresh, hfstart, hfstop, hread⟩ := consumed_of_mem hf
  obtain ⟨above, hne, rfl, hheader⟩ := append_of_bytes_lt htext (hfstart ▸ hstart)
  rw [hfstop, Text.bytes_append] at hstop
  obtain ⟨below, -, rfl, rfl⟩ := append_of_bytes_lt hheader (Nat.lt_of_add_lt_add_left hstop)
  rw [freshAfter_append] at hpre
  rcases eq_nil_or_newline hpre with ⟨hnil, -⟩ | ⟨line, rfl⟩
  · exact absurd hnil hne
  · obtain ⟨s, after, inside, inside', gap, habove, hafter, hinside, rfl, hinside', hgap⟩ :=
      header_over_newline (x := line) (y := below) hread (by simp)
    refine ⟨⟨before, s, after, inside, congrArg _ habove, hfresh, hafter, hinside⟩,
      inside', gap, by simp, hinside', hgap, ?_⟩
    rw [hfstop, Text.bytes_append before, Text.bytes_append (line ++ ['\n']), Nat.add_assoc]

/-- **The headers that reach over the start of a line** are those that are left open above it and
    closed below. -/
theorem reaches_iff {pre post : Text} (hpre : freshAfter true pre = true) :
    Reaches pre post ↔ LeavesOpen pre ∧ Closes post := by
  constructor
  · rintro ⟨f, hf, hstart, hstop⟩
    obtain ⟨hopen, inside, gap, hpost, hinside, hgap, -⟩ := parts_of_reaching hpre hf hstart hstop
    exact ⟨hopen, inside, gap, f.rest, hpost, hinside, hgap⟩
  · rintro ⟨⟨before, s, after, inside, rfl, hfresh, hafter, hinside⟩,
      ⟨inside', gap, rest, rfl, hinside', hgap⟩⟩
    have hboth : ')' ∉ inside ++ inside' := by
      rw [List.mem_append, not_or]
      exact ⟨hinside, hinside'⟩
    have hread := readClassHeader_append s hafter hboth hgap rest
    have htext : s.text ++ (after ++ '(' :: (inside ++ inside' ++ ')' :: (gap ++ ':' :: rest))) =
        s.text ++ (after ++ '(' :: inside) ++ (inside' ++ ')' :: (gap ++ ':' :: rest)) := by simp
    have hclose : ')' ∉ s.text ++ (after ++ '(' :: inside) := by
      have hstart := s.not_mem (c := ')') (by decide) (by decide)
      have hblank := hafter.not_mem (c := ')') (by decide)
      simp [hstart, hblank, hinside]
    rw [htext] at hread
    have hopen : ('(').utf8Size = 1 := rfl
    have hparen : (')').utf8Size = 1 := rfl
    obtain ⟨f, hf, ⟨hstart, hstop⟩ | ⟨hstart, hstop⟩⟩ :=
      found_or_covered hfresh (by simp) hread (Nat.zero_le (0 + Text.bytes before))
    · -- The header left open is found, and ends below.
      rw [← List.append_assoc] at hf
      refine ⟨f, hf, ?_, ?_⟩
      · simp only [Text.bytes_append, Text.bytes_cons] at hstart ⊢
        omega
      · simp only [Text.bytes_append, Text.bytes_cons] at hstart hstop ⊢
        omega
    · -- Another header reaches over the start of this one. It is not closed before this one ends.
      rw [Nat.zero_add] at hstart hstop
      obtain ⟨-, inside'', gap', hbelow, -, -, hfstop⟩ := parts_of_reaching hfresh hf hstart hstop
      obtain ⟨u, rfl, -⟩ := after_of_not_mem hbelow.symm hclose
      rw [← List.append_assoc] at hf
      refine ⟨f, hf, ?_, ?_⟩
      · simp only [Text.bytes_append, Text.bytes_cons] at hstart ⊢
        omega
      · simp only [Text.bytes_append, Text.bytes_cons] at hfstop ⊢
        omega

/-! ## Classes below malformed text -/

/-- **Malformed text does not hide the class below it, with one exception.** Below a text that is
    empty or ends with a newline, and from a class header on, the declarations are those of the text
    below, moved, if and only if the text above does not leave the parentheses of a class header
    open for the text below to close. -/
theorem declarations_below_iff {pre post rest : Text} {header : ClassHeader}
    (hpre : freshAfter true pre = true) (hpost : readClassHeader post = some (header, rest)) :
    (declarations (pre ++ post)).filter (Text.bytes pre ≤ ·.start) =
        (declarations post).map (·.shift (Text.bytes pre)) ↔
      ¬ (LeavesOpen pre ∧ Closes post) := by
  rw [← reaches_iff hpre]
  constructor
  · intro heq hreach
    exact declarations_ne_of_reaches hpost hreach heq
  · exact filter_declarations_append hpre

/-- An unfinished base list that nothing below closes hides nothing. -/
theorem declarations_below_unfinished :
    (declarations (("class A(\n" : Text) ++ "class B:\n    x = 1\n")).filter (9 ≤ ·.start) =
      (declarations "class B:\n    x = 1\n").map (·.shift 9) := by
  refine (declarations_below_iff (show freshAfter true "class A(\n" = true from rfl)
    (show readClassHeader "class B:\n    x = 1\n" = some (⟨0, "B", none⟩, _) from rfl)).mpr ?_
  rintro ⟨-, inside, gap, rest, hpost, -⟩
  have hmem : ')' ∈ ("class B:\n    x = 1\n" : Text) := by
    rw [hpost]
    simp
  exact absurd hmem (by decide)

/-- The class below is lost when its bases close the unfinished ones above. -/
theorem declarations_below_swallowed :
    (declarations (("class A(\n" : Text) ++ "class B(Model):\n    x = 1\n")).filter (9 ≤ ·.start) ≠
      (declarations "class B(Model):\n    x = 1\n").map (·.shift 9) := by
  decide

end OrmLens.Source
