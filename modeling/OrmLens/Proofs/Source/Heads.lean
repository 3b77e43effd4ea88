/-
  The heads of declarations as texts.

  Each reader of a head is said to succeed on certain texts: class headers
  (`readClassHeader_eq_some`, `readClassHeader_append`), heads of call assignments
  (`readCallHead_eq_some`, `readCallHead_append`) and method heads (`readMethodHead_eq_some`). The
  forms are written with the blanks that may stand between the parts, so later proofs need not open
  the readers.

  Only class headers reach over the end of a line, and only between their parentheses.
-/
import Mathlib.Data.List.TakeWhile
import OrmLens.Proofs.Lines
import OrmLens.Source.Assignment
import OrmLens.Source.Method

namespace OrmLens.Source

open CharClass

/-! ## Runs of one class of characters -/

/-- No character of the class stands at the start of the text. -/
def Stops (p : Char → Bool) (t : Text) : Prop := ∀ c ∈ t.head?, p c = false

instance (p : Char → Bool) (t : Text) : Decidable (Stops p t) :=
  decidable_of_iff (t.head?.all (!p ·) = true) (by cases t <;> simp [Stops])

theorem stops_dropWhile (p : Char → Bool) (t : Text) : Stops p (t.dropWhile p) := by
  intro c hc
  have h := List.head?_dropWhile_not p t
  rw [Option.mem_def.mp hc] at h
  exact h

theorem stops_cons {p : Char → Bool} {c : Char} (h : p c = false) (t : Text) :
    Stops p (c :: t) := by
  intro d hd
  obtain rfl : c = d := by simpa using hd
  exact h

/-- A run ends where the class does. -/
theorem takeWhile_append_of_stops {p : Char → Bool} (s : Text) {t : Text} (ht : Stops p t) :
    (s ++ t).takeWhile p = s.takeWhile p := by
  have hnone : t.takeWhile p = [] := by
    cases t with
    | nil => rfl
    | cons c t => exact List.takeWhile_cons_of_neg (by simp [ht c rfl])
  rw [List.takeWhile_append]
  split
  · rename_i hlength
    rw [hnone, List.append_nil, (List.takeWhile_prefix _).eq_of_length hlength]
  · rfl

theorem takeWhile_of_stops {p : Char → Bool} {s t : Text} (hs : ∀ c ∈ s, p c = true)
    (ht : Stops p t) : (s ++ t).takeWhile p = s := by
  rw [takeWhile_append_of_stops s ht, List.takeWhile_eq_self_iff.mpr hs]

theorem dropWhile_of_stops {p : Char → Bool} {s t : Text} (hs : ∀ c ∈ s, p c = true)
    (ht : Stops p t) : (s ++ t).dropWhile p = t := by
  rw [List.dropWhile_append_of_pos hs]
  cases t with
  | nil => rfl
  | cons c t => rw [List.dropWhile_cons_of_neg (by simp [ht c rfl])]

theorem all_of_mem_takeWhile {p : Char → Bool} {t : Text} {c : Char} (h : c ∈ t.takeWhile p) :
    p c = true :=
  List.all_eq_true.mp List.all_takeWhile c h

/-! ## Blanks and names -/

/-- Nothing but spaces and tabs. -/
def Blank (t : Text) : Prop := ∀ c ∈ t, isBlank c = true

instance (t : Text) : Decidable (Blank t) := List.decidableBAll (isBlank · = true) t

/-- At least one character, and nothing but characters of a word. -/
structure IsName (t : Text) : Prop where
  ne_nil : t ≠ []
  word : ∀ c ∈ t, isWord c = true

instance (t : Text) : Decidable (IsName t) :=
  decidable_of_iff (t ≠ [] ∧ t.all isWord = true)
    ⟨fun h => ⟨h.1, List.all_eq_true.mp h.2⟩, fun h => ⟨h.ne_nil, List.all_eq_true.mpr h.word⟩⟩

theorem eq_of_isBlank {c : Char} (h : isBlank c = true) : c = ' ' ∨ c = '\t' := by
  simpa [isBlank] using h

theorem isWord_of_isBlank {c : Char} (h : isBlank c = true) : isWord c = false := by
  rcases eq_of_isBlank h with rfl | rfl <;> decide

theorem isBlank_of_isWord {c : Char} (h : isWord c = true) : isBlank c = false := by
  cases hb : isBlank c with
  | false => rfl
  | true => rw [isWord_of_isBlank hb] at h; cases h

theorem Blank.not_mem {t : Text} (h : Blank t) {c : Char} (hc : isBlank c = false) : c ∉ t := by
  intro hmem
  rw [h c hmem] at hc
  cases hc

theorem Blank.getLast? {t : Text} (h : Blank t) : ∀ c ∈ t.getLast?, isBlank c = true :=
  fun c hc => h c (List.mem_of_getLast? hc)

theorem IsName.not_mem {t : Text} (h : IsName t) {c : Char} (hc : isWord c = false) : c ∉ t := by
  intro hmem
  rw [h.word c hmem] at hc
  cases hc

/-- A name does not start with a blank. -/
theorem IsName.stops_append {name : Text} (h : IsName name) (t : Text) :
    Stops isBlank (name ++ t) := by
  obtain ⟨c, name, rfl⟩ := List.exists_cons_of_ne_nil h.ne_nil
  exact stops_cons (isBlank_of_isWord (h.word c List.mem_cons_self)) _

/-- What blanks, or a character that is in no word, stand in front of does not go on a name. -/
theorem Blank.stops_append {gap : Text} (h : Blank gap) {c : Char} (hc : isWord c = false)
    (t : Text) : Stops isWord (gap ++ c :: t) := by
  cases gap with
  | nil => exact stops_cons hc t
  | cons b gap => exact stops_cons (isWord_of_isBlank (h b List.mem_cons_self)) _

/-! ## Readers of parts -/

theorem blanks?_eq_some {t rest : Text} (h : blanks? t = some rest) :
    ∃ gap, gap ≠ [] ∧ Blank gap ∧ t = gap ++ rest := by
  cases t with
  | nil => cases h
  | cons c t =>
    rw [blanks?] at h
    split at h
    · rename_i hc
      obtain rfl := Option.some.inj h
      refine ⟨c :: t.takeWhile isBlank, by simp, ?_, ?_⟩
      · intro b hb
        rcases List.mem_cons.mp hb with rfl | hb
        · exact hc
        · exact all_of_mem_takeWhile hb
      · rw [List.cons_append, List.takeWhile_append_dropWhile]
    · cases h

theorem blanks?_append {gap rest : Text} (hne : gap ≠ []) (hgap : Blank gap)
    (hrest : Stops isBlank rest) : blanks? (gap ++ rest) = some rest := by
  obtain ⟨c, gap, rfl⟩ := List.exists_cons_of_ne_nil hne
  have htail : Blank gap := fun b hb => hgap b (List.mem_cons_of_mem _ hb)
  rw [List.cons_append, blanks?, if_pos (hgap c List.mem_cons_self),
    dropWhile_of_stops htail hrest]

theorem keyword?_eq_some {word t rest : Text} (h : keyword? word t = some rest) :
    ∃ gap, gap ≠ [] ∧ Blank gap ∧ t = word ++ (gap ++ rest) := by
  obtain ⟨after, hafter, hblanks⟩ := Option.bind_eq_some_iff.mp h
  obtain ⟨gap, hne, hgap, rfl⟩ := blanks?_eq_some hblanks
  exact ⟨gap, hne, hgap, (Text.after?_eq_some_iff _ _ _).mp hafter⟩

theorem keyword?_append (word : Text) {gap rest : Text} (hne : gap ≠ []) (hgap : Blank gap)
    (hrest : Stops isBlank rest) : keyword? word (word ++ (gap ++ rest)) = some rest := by
  rw [keyword?, (Text.after?_eq_some_iff _ _ _).mpr rfl, Option.bind_some,
    blanks?_append hne hgap hrest]

theorem word?_eq_some {t name rest : Text} (h : word? t = some (name, rest)) :
    IsName name ∧ t = name ++ rest ∧ Stops isWord rest := by
  unfold word? at h
  split at h
  · cases h
  · rename_i hne
    obtain ⟨rfl, rfl⟩ := Prod.mk.inj (Option.some.inj h)
    exact ⟨⟨fun hnil => hne hnil, fun c hc => all_of_mem_takeWhile hc⟩,
      List.takeWhile_append_dropWhile.symm, stops_dropWhile isWord t⟩

theorem word?_append {name rest : Text} (hname : IsName name) (hrest : Stops isWord rest) :
    word? (name ++ rest) = some (name, rest) := by
  obtain ⟨c, more, rfl⟩ := List.exists_cons_of_ne_nil hname.ne_nil
  unfold word?
  rw [takeWhile_of_stops hname.word hrest, dropWhile_of_stops hname.word hrest]

theorem mark?_eq_some {c : Char} {t rest : Text} (h : mark? c t = some rest) :
    ∃ gap, Blank gap ∧ t = gap ++ c :: rest := by
  have hdrop : t.dropWhile isBlank = c :: rest := (Text.after?_eq_some_iff _ _ _).mp h
  refine ⟨t.takeWhile isBlank, fun b hb => all_of_mem_takeWhile hb, ?_⟩
  rw [← hdrop, List.takeWhile_append_dropWhile]

theorem mark?_append {c : Char} (hc : isBlank c = false) {gap : Text} (hgap : Blank gap)
    (rest : Text) : mark? c (gap ++ c :: rest) = some rest := by
  rw [mark?, dropWhile_of_stops hgap (stops_cons hc rest)]
  exact (Text.after?_eq_some_iff _ _ _).mpr rfl

/-! ## Class headers -/

/-- `class Name`, with the blanks before and between. -/
structure HeaderStart where
  indent : Text
  gap : Text
  name : Text
  blank_indent : Blank indent
  gap_ne_nil : gap ≠ []
  blank_gap : Blank gap
  isName : IsName name

namespace HeaderStart

/-- The start of the header as written. -/
def text (s : HeaderStart) : Text := s.indent ++ ("class" ++ (s.gap ++ s.name))

/-- It stands on one line and holds none of the other marks of a header. -/
theorem not_mem (s : HeaderStart) {c : Char} (hb : isBlank c = false) (hw : isWord c = false) :
    c ∉ s.text := by
  have hclass : IsName "class" := by decide
  simp only [text, List.mem_append, not_or]
  exact ⟨s.blank_indent.not_mem hb, hclass.not_mem hw, s.blank_gap.not_mem hb, s.isName.not_mem hw⟩

end HeaderStart

theorem readBases_eq_some {t rest : Text} {bases : Option Text}
    (h : readBases t = some (bases, rest)) :
    (bases = none ∧ t = rest) ∨
      ∃ inside, bases = some inside ∧ ')' ∉ inside ∧ t = '(' :: (inside ++ ')' :: rest) := by
  unfold readBases at h
  split at h
  · rename_i inside
    split at h
    · rename_i c after hdrop
      obtain ⟨rfl, rfl⟩ := Prod.mk.inj (Option.some.inj h)
      have hstop := stops_dropWhile (· != ')') inside
      rw [hdrop] at hstop
      obtain rfl : c = ')' := by simpa using hstop c rfl
      refine Or.inr ⟨_, rfl, ?_, ?_⟩
      · intro hmem
        have := all_of_mem_takeWhile hmem
        simp at this
      · rw [← hdrop, List.takeWhile_append_dropWhile]
    · cases h
  · obtain ⟨rfl, rfl⟩ := Prod.mk.inj (Option.some.inj h)
    exact Or.inl ⟨rfl, rfl⟩

theorem readBases_append {inside : Text} (h : ')' ∉ inside) (rest : Text) :
    readBases ('(' :: (inside ++ ')' :: rest)) = some (some inside, rest) := by
  have hinside : ∀ c ∈ inside, (c != ')') = true := Text.bne_of_not_mem h
  have hstop : Stops (· != ')') (')' :: rest) := stops_cons (by decide) rest
  rw [readBases, dropWhile_of_stops hinside hstop, takeWhile_of_stops hinside hstop]

/-- A header is its start, perhaps bases in parentheses, and a colon. -/
theorem readClassHeader_eq_some {t rest : Text} {h : ClassHeader}
    (hread : readClassHeader t = some (h, rest)) :
    ∃ (s : HeaderStart) (after bases gap : Text),
      t = s.text ++ (after ++ (bases ++ (gap ++ ':' :: rest))) ∧ s.name = h.name ∧
      Text.bytes s.indent = h.indent ∧ Blank after ∧ Blank gap ∧
      (bases = [] ∨ ∃ inside, ')' ∉ inside ∧ bases = '(' :: (inside ++ [')'])) := by
  simp only [readClassHeader, bind, Option.bind_eq_some_iff, pure, Option.some.injEq,
    Prod.mk.injEq] at hread
  obtain ⟨afterKeyword, hkeyword, ⟨name, afterName⟩, hword, ⟨bases, afterBases⟩, hbases, last,
    hmark, rfl, rfl⟩ := hread
  obtain ⟨gap, hne, hgap, hclass⟩ := keyword?_eq_some hkeyword
  obtain ⟨hname, rfl, -⟩ := word?_eq_some hword
  obtain ⟨before, hbefore, rfl⟩ := mark?_eq_some hmark
  have hindent : Blank (t.takeWhile isBlank) := fun c hc => all_of_mem_takeWhile hc
  have hafter : Blank (afterName.takeWhile isBlank) := fun c hc => all_of_mem_takeWhile hc
  let s : HeaderStart := ⟨t.takeWhile isBlank, gap, name, hindent, hne, hgap, hname⟩
  have ht : t = s.text ++ (afterName.takeWhile isBlank ++ afterName.dropWhile isBlank) := by
    rw [List.takeWhile_append_dropWhile]
    show t = (t.takeWhile isBlank ++ ("class" ++ (gap ++ name))) ++ afterName
    rw [List.append_assoc, List.append_assoc, List.append_assoc, ← hclass,
      List.takeWhile_append_dropWhile]
  rcases readBases_eq_some hbases with ⟨-, hrest⟩ | ⟨inside, -, hinside, hrest⟩
  · rw [hrest] at ht
    exact ⟨s, _, [], before, ht, rfl, rfl, hafter, hbefore, Or.inl rfl⟩
  · rw [hrest] at ht
    refine ⟨s, _, '(' :: (inside ++ [')']), before, ?_, rfl, rfl, hafter, hbefore,
      Or.inr ⟨inside, hinside, rfl⟩⟩
    simpa using ht

/-- A header with bases is read as it is written. -/
theorem readClassHeader_append (s : HeaderStart) {after inside gap : Text} (hafter : Blank after)
    (hinside : ')' ∉ inside) (hgap : Blank gap) (rest : Text) :
    readClassHeader (s.text ++ (after ++ '(' :: (inside ++ ')' :: (gap ++ ':' :: rest)))) =
      some (⟨Text.bytes s.indent, s.name, some inside⟩, rest) := by
  have hstart : Stops isBlank (("class" : Text) ++ (s.gap ++ (s.name ++
      (after ++ '(' :: (inside ++ ')' :: (gap ++ ':' :: rest)))))) := stops_cons (by decide) _
  have hname : Stops isWord (after ++ '(' :: (inside ++ ')' :: (gap ++ ':' :: rest))) :=
    hafter.stops_append (by decide) _
  have hopen : Stops isBlank ('(' :: (inside ++ ')' :: (gap ++ ':' :: rest))) :=
    stops_cons (by decide) _
  have hcolon : mark? ':' (gap ++ ':' :: rest) = some rest := mark?_append (by decide) hgap rest
  rw [HeaderStart.text, List.append_assoc, List.append_assoc, List.append_assoc]
  unfold readClassHeader
  rw [dropWhile_of_stops s.blank_indent hstart, takeWhile_of_stops s.blank_indent hstart,
    keyword?_append _ s.gap_ne_nil s.blank_gap (s.isName.stops_append _)]
  simp only [bind, Option.bind_some, word?_append s.isName hname,
    dropWhile_of_stops hafter hopen, readBases_append hinside, hcolon]
  rfl

/-! ## Heads of call assignments -/

/-- From the target to the equals sign there is no other equals sign, and the line does not end. -/
theorem readEquals_eq_some {t rest : Text} (h : readEquals t = some rest) :
    ∃ between, t = between ++ '=' :: rest ∧ '=' ∉ between ∧ '\n' ∉ between := by
  have hblank : Blank (t.takeWhile isBlank) := fun c hc => all_of_mem_takeWhile hc
  have ht : t = t.takeWhile isBlank ++ t.dropWhile isBlank :=
    List.takeWhile_append_dropWhile.symm
  unfold readEquals at h
  split at h
  · rename_i after hdrop
    obtain rfl := Option.some.inj h
    rw [hdrop] at ht
    exact ⟨_, ht, hblank.not_mem (by decide), hblank.not_mem (by decide)⟩
  · rename_i noted hdrop
    rw [hdrop] at ht
    dsimp only at h
    split at h
    · rename_i c note after htake hrest
      obtain rfl := Option.some.inj h
      have hnote : ∀ d ∈ c :: note, (d != '=' && d != '\n') = true := by
        intro d hd
        rw [← htake] at hd
        exact all_of_mem_takeWhile hd
      have hnoted : noted = (c :: note) ++ '=' :: after := by
        rw [← htake, ← hrest, List.takeWhile_append_dropWhile]
      refine ⟨t.takeWhile isBlank ++ ':' :: c :: note, ?_, ?_, ?_⟩
      · rw [hnoted] at ht
        simpa using ht
      · intro hmem
        rcases List.mem_append.mp hmem with hmem | hmem
        · exact hblank.not_mem (by decide) hmem
        · rcases List.mem_cons.mp hmem with heq | hmem
          · cases heq
          · have := hnote _ hmem
            simp at this
      · intro hmem
        rcases List.mem_append.mp hmem with hmem | hmem
        · exact hblank.not_mem (by decide) hmem
        · rcases List.mem_cons.mp hmem with heq | hmem
          · cases heq
          · have := hnote _ hmem
            simp at this
    · cases h
  · cases h

/-- The head of an assignment starts with blanks, its target and, later on the line, an equals
    sign. -/
theorem readCallHead_eq_some {t rest : Text} {h : CallHead}
    (hread : readCallHead t = some (h, rest)) :
    ∃ indent between after, t = indent ++ (h.target ++ (between ++ '=' :: after)) ∧
      Blank indent ∧ Text.bytes indent = h.indent ∧ IsName h.target ∧ '=' ∉ between ∧
      '\n' ∉ between ∧ Stops isWord (between ++ '=' :: after) := by
  simp only [readCallHead, bind, Option.bind_eq_some_iff, pure, Option.some.injEq,
    Prod.mk.injEq] at hread
  obtain ⟨⟨target, afterTarget⟩, hword, afterEquals, hequals, ⟨callee, afterCallee⟩, -, last, -,
    rfl, rfl⟩ := hread
  obtain ⟨htarget, htext, hstops⟩ := word?_eq_some hword
  obtain ⟨between, rfl, hno, hline⟩ := readEquals_eq_some hequals
  refine ⟨t.takeWhile isBlank, between, afterEquals, ?_, fun c hc => all_of_mem_takeWhile hc, rfl,
    htarget, hno, hline, hstops⟩
  rw [← htext, List.takeWhile_append_dropWhile]

/-- An assignment without annotation is read as it is written. -/
theorem readCallHead_append {indent target callee : Text} (hindent : Blank indent)
    (htarget : IsName target) (hstart : ∃ c more, callee = c :: more ∧ isNameStart c = true)
    (hcallee : ∀ c ∈ callee, (isWord c || c == '.') = true) (rest : Text) :
    readCallHead (indent ++ (target ++ (" = " ++ (callee ++ '(' :: rest)))) =
      some (⟨Text.bytes indent, target, callee⟩, rest) := by
  obtain ⟨c, more, rfl, hc⟩ := hstart
  have hblank : Stops isBlank (target ++ ((" = " : Text) ++ (c :: more ++ '(' :: rest))) :=
    htarget.stops_append _
  have hword : Stops isWord ((" = " : Text) ++ (c :: more ++ '(' :: rest)) :=
    stops_cons (by decide) _
  have hequals : readEquals ((" = " : Text) ++ (c :: more ++ '(' :: rest)) =
      some (' ' :: (c :: more ++ '(' :: rest)) := rfl
  have hnext : Stops isBlank (c :: more ++ '(' :: rest) := by
    refine stops_cons ?_ _
    cases hb : isBlank c with
    | false => rfl
    | true => rcases eq_of_isBlank hb with rfl | rfl <;> revert hc <;> decide
  have hdrop : (' ' :: (c :: more ++ '(' :: rest)).dropWhile isBlank = c :: more ++ '(' :: rest :=
    dropWhile_of_stops (s := [' ']) (by simp [isBlank]) hnext
  have hparen : Stops (fun d => isWord d || d == '.') ('(' :: rest) := stops_cons (by decide) rest
  have hread : readCallee (c :: more ++ '(' :: rest) = some (c :: more, '(' :: rest) := by
    rw [List.cons_append, readCallee, if_pos hc, ← List.cons_append,
      takeWhile_of_stops hcallee hparen, dropWhile_of_stops hcallee hparen]
  unfold readCallHead
  rw [dropWhile_of_stops hindent hblank, takeWhile_of_stops hindent hblank]
  simp only [bind, Option.bind_some, word?_append htarget hword, hequals, hdrop, hread]
  rfl

/-! ## Method heads -/

/-- The head of a method is `def`, blanks, its name and an opening parenthesis. What comes before on
    the line is empty or ends with a blank: blanks only, or blanks, `async` and blanks. -/
theorem readMethodHead_eq_some {t rest : Text} {h : MethodHead}
    (hread : readMethodHead t = some (h, rest)) :
    ∃ before gap after, t = before ++ ("def" ++ (gap ++ (h.name ++ (after ++ '(' :: rest)))) ∧
      (∀ c ∈ before.getLast?, isBlank c = true) ∧ '\n' ∉ before ∧
      gap ≠ [] ∧ Blank gap ∧ IsName h.name ∧ Blank after := by
  simp only [readMethodHead, bind, Option.bind_eq_some_iff, pure, Option.some.injEq,
    Prod.mk.injEq] at hread
  obtain ⟨afterDef, hdef, ⟨name, afterName⟩, hword, last, hmark, rfl, rfl⟩ := hread
  obtain ⟨gap, hne, hgap, hdef⟩ := keyword?_eq_some hdef
  obtain ⟨hname, rfl, -⟩ := word?_eq_some hword
  obtain ⟨after, hafter, rfl⟩ := mark?_eq_some hmark
  have hindent : Blank (t.takeWhile isBlank) := fun c hc => all_of_mem_takeWhile hc
  have ht : t = t.takeWhile isBlank ++ t.dropWhile isBlank :=
    List.takeWhile_append_dropWhile.symm
  unfold optionalKeyword at hdef
  cases hasync : keyword? "async" (t.dropWhile isBlank) with
  | none =>
    rw [hasync, Option.getD_none] at hdef
    rw [hdef] at ht
    exact ⟨_, gap, after, ht, hindent.getLast?, hindent.not_mem (by decide), hne, hgap, hname,
      hafter⟩
  | some method =>
    obtain ⟨between, hbne, hbetween, hmethod⟩ := keyword?_eq_some hasync
    rw [hasync, Option.getD_some] at hdef
    rw [hmethod, hdef] at ht
    refine ⟨t.takeWhile isBlank ++ ("async" ++ between), gap, after, ?_, ?_, ?_, hne, hgap,
      hname, hafter⟩
    · simpa using ht
    · intro c hc
      rw [List.getLast?_append, List.getLast?_append, List.getLast?_eq_some_getLast hbne] at hc
      obtain rfl : between.getLast hbne = c := by simpa using hc
      exact hbetween _ (List.getLast_mem hbne)
    · simp only [List.mem_append, not_or]
      exact ⟨hindent.not_mem (by decide), by decide, hbetween.not_mem (by decide)⟩

end OrmLens.Source
