/-
  Relation targets, however they are written.

  The target of a relation is a string or a bare name, with a dotted path before it or without, and
  `'self'` stands for the owner (`Spells`). It is the only positional argument or the value of
  `to=`, and further arguments `key=value` stand before and after it.
  `resolveTarget?_of_spelling`: the model that is meant is the one that the argument list resolves
  to.

  A spelling is one argument of the list and is not taken for `key=value`
  (`Spells.isItem_argument`, `Spells.parse_argument`), no other argument names a target
  (`NamesNoTarget`), and what it says is its model (`Spells.targetOf?_eq`): a string is found by its
  quotes, and without quotes nothing is taken for one, though `r`, `u` and `b` start names as well.
-/
import OrmLens.Proofs.Inheritance
import OrmLens.Proofs.Source.Joining
import OrmLens.Proofs.StringLiterals

namespace OrmLens

/-! ## Dotted texts -/

namespace Text

variable {sep : Char}

theorem splitOn_join {parts : List Text} (hne : parts ≠ []) (h : ∀ part ∈ parts, sep ∉ part) :
    splitOn sep (join [sep] parts) = parts := by
  induction parts with
  | nil => exact absurd rfl hne
  | cons part parts ih =>
    obtain ⟨hpart, hrest⟩ := List.forall_mem_cons.mp h
    cases parts with
    | nil => exact splitOn_of_not_mem hpart
    | cons next parts =>
      rw [join_cons_of_ne_nil _ _ (List.cons_ne_nil _ _), List.append_assoc, List.singleton_append,
        splitOn_append_cons hpart, ih (List.cons_ne_nil _ _) hrest]

theorem mem_join {c : Char} {parts : List Text} (h : c ∈ join [sep] parts) :
    c = sep ∨ ∃ part ∈ parts, c ∈ part := by
  induction parts with
  | nil => cases h
  | cons part parts ih =>
    by_cases hne : parts = []
    · subst hne
      exact .inr ⟨part, List.mem_cons_self, h⟩
    · rw [join_cons_of_ne_nil _ _ hne, List.append_assoc, List.mem_append] at h
      rcases h with hpart | hrest
      · exact .inr ⟨part, List.mem_cons_self, hpart⟩
      · rcases List.mem_cons.mp hrest with hsep | hrest
        · exact .inl hsep
        · rcases ih hrest with hsep | ⟨other, hother, hmem⟩
          · exact .inl hsep
          · exact .inr ⟨other, List.mem_cons_of_mem _ hother, hmem⟩

end Text

namespace Model

open CharClass Source

/-! ## Names -/

/-- ASCII letters, digits and the underscore. -/
def isAsciiIdent (c : Char) : Bool := c.toNat < 128 && (c.isAlphanum || c == '_')

theorem lt_of_isAsciiIdent {c : Char} (h : isAsciiIdent c = true) : c.toNat < 128 := by
  rw [isAsciiIdent, Bool.and_eq_true, decide_eq_true_eq] at h
  exact h.1

/-- What holds of these few characters, by the list of them. -/
theorem of_isAsciiIdent {p : Char → Bool}
    (hp : ∀ n < 128, isAsciiIdent (Char.ofNat n) = true → p (Char.ofNat n) = true) {c : Char}
    (h : isAsciiIdent c = true) : p c = true := by
  have hc := hp c.toNat (lt_of_isAsciiIdent h)
  rw [Char.ofNat_toNat] at hc
  exact hc h

/-- An identifier of ASCII characters. -/
structure AsciiName (t : Text) : Prop where
  start : t.head?.any isNameStart = true
  ascii : ∀ c ∈ t, isAsciiIdent c = true

instance (t : Text) : Decidable (AsciiName t) :=
  decidable_of_iff (t.head?.any isNameStart = true ∧ t.all isAsciiIdent = true)
    ⟨fun h => ⟨h.1, List.all_eq_true.mp h.2⟩, fun h => ⟨h.start, List.all_eq_true.mpr h.ascii⟩⟩

/-- A name as models have it: it starts with a capital letter and has a small one. -/
structure ModelName (t : Text) : Prop extends AsciiName t where
  capital : t.head?.any Char.isUpper = true
  small : t.any Char.isLower = true

namespace AsciiName

variable {t : Text} (h : AsciiName t)
include h

theorem exists_cons : ∃ c more, t = c :: more ∧ isNameStart c = true := by
  have hstart := h.start
  cases t with
  | nil => cases hstart
  | cons c more => exact ⟨c, more, rfl, hstart⟩

theorem isName : IsName t := by
  obtain ⟨c, more, rfl, -⟩ := h.exists_cons
  exact ⟨List.cons_ne_nil _ _, fun d hd => of_isAsciiIdent (by decide +kernel) (h.ascii d hd)⟩

theorem not_mem {c : Char} (hc : isAsciiIdent c = false) : c ∉ t := by
  intro hmem
  rw [h.ascii c hmem] at hc
  cases hc

theorem isIdentifier : Model.isIdentifier t = true := by
  obtain ⟨c, more, rfl, hstart⟩ := h.exists_cons
  obtain ⟨hc, hmore⟩ := List.forall_mem_cons.mp h.ascii
  have hfirst : (!isNameStart c || isIdentStart c) = true :=
    of_isAsciiIdent (p := fun c => !isNameStart c || isIdentStart c) (by decide +kernel) hc
  rw [hstart, Bool.not_true, Bool.false_or] at hfirst
  have hrest : more.all isIdent = true :=
    List.all_eq_true.mpr fun d hd => of_isAsciiIdent (by decide +kernel) (hmore d hd)
  rw [Model.isIdentifier, hfirst, hrest]
  rfl

end AsciiName

namespace ModelName

variable {t : Text} (h : ModelName t)
include h

theorem isCapitalized : Text.isCapitalized t = true := by
  have hcapital := h.capital
  obtain ⟨c, more, rfl, -⟩ := h.exists_cons
  have hclass : (!c.isUpper || isUpper c) = true :=
    of_isAsciiIdent (p := fun c => !c.isUpper || isUpper c) (by decide +kernel)
      (h.ascii c List.mem_cons_self)
  rwa [show c.isUpper = true from hcapital, Bool.not_true, Bool.false_or] at hclass

theorem any_isLower : t.any isLower = true := by
  obtain ⟨c, hc, hlower⟩ := List.any_eq_true.mp h.small
  have hclass : (!c.isLower || isLower c) = true :=
    of_isAsciiIdent (p := fun c => !c.isLower || isLower c) (by decide +kernel) (h.ascii c hc)
  rw [hlower, Bool.not_true, Bool.false_or] at hclass
  exact List.any_eq_true.mpr ⟨c, hc, hclass⟩

theorem ne_self : t ≠ "self" := by
  rintro rfl
  exact absurd h.capital (by decide)

end ModelName

/-! ## Dotted names -/

/-- A name behind a path, with a dot after each part of the path. -/
def dotted (path : List Text) (name : Text) : Text := Text.join ['.'] (path ++ [name])

/-- Characters of dotted names. -/
def isDottedChar (c : Char) : Bool := isAsciiIdent c || c == '.'

theorem of_isDottedChar {p : Char → Bool} (hdot : p '.' = true)
    (hp : ∀ n < 128, isAsciiIdent (Char.ofNat n) = true → p (Char.ofNat n) = true) {c : Char}
    (h : isDottedChar c = true) : p c = true := by
  simp only [isDottedChar, Bool.or_eq_true, beq_iff_eq] at h
  rcases h with hascii | rfl
  · exact of_isAsciiIdent hp hascii
  · exact hdot

/-- At least one character, and nothing but characters of dotted names. -/
structure DottedText (t : Text) : Prop where
  ne_nil : t ≠ []
  chars : ∀ c ∈ t, isDottedChar c = true

namespace DottedText

variable {t : Text} (h : DottedText t)
include h

theorem not_mem {c : Char} (hc : isDottedChar c = false) : c ∉ t := by
  intro hmem
  rw [h.chars c hmem] at hc
  cases hc

theorem trimmed : Trimmed t :=
  trimmed_of_no_space h.ne_nil fun c hc => by
    simpa using of_isDottedChar (p := fun c => !isSpace c) (by decide) (by decide +kernel)
      (h.chars c hc)

theorem whole : Whole t :=
  whole_of_inert fun c hc => of_isDottedChar (by decide) (by decide +kernel) (h.chars c hc)

theorem isQuote_eq_false : ∀ c ∈ t, isQuote c = false := fun c hc => by
  simpa using of_isDottedChar (p := fun c => !isQuote c) (by decide) (by decide +kernel)
    (h.chars c hc)

/-- In a string it has neither the quote nor a backslash. -/
theorem inside {quote : Char} (hquote : isQuote quote = true) :
    ∀ c ∈ t, c ≠ quote ∧ c ≠ '\\' := by
  intro c hc
  constructor
  · rintro rfl
    rw [h.isQuote_eq_false c hc] at hquote
    cases hquote
  · rintro rfl
    exact h.not_mem (by decide) hc

end DottedText

section

variable {path : List Text} {name : Text} (hpath : ∀ part ∈ path, AsciiName part)
  (hname : AsciiName name)
include hpath hname

theorem asciiName_of_mem : ∀ part ∈ path ++ [name], AsciiName part := by
  simpa [or_imp, forall_and] using And.intro hpath hname

theorem splitOn_dotted : Text.splitOn '.' (dotted path name) = path ++ [name] :=
  Text.splitOn_join (by simp) fun part hpart =>
    (asciiName_of_mem hpath hname part hpart).not_mem (by decide)

theorem dottedText_dotted : DottedText (dotted path name) := by
  constructor
  · intro hnil
    have hmem : name ∈ Text.splitOn '.' (dotted path name) := by
      simp [splitOn_dotted hpath hname]
    rw [hnil, Text.splitOn, List.mem_singleton] at hmem
    exact hname.isName.ne_nil hmem
  · intro c hc
    simp only [isDottedChar, Bool.or_eq_true, beq_iff_eq]
    rcases Text.mem_join hc with rfl | ⟨part, hpart, hmem⟩
    · exact .inr rfl
    · exact .inl ((asciiName_of_mem hpath hname part hpart).ascii c hmem)

end

theorem afterLast_dotted (path : List Text) {name : Text} (hname : AsciiName name) :
    Text.afterLast '.' (dotted path name) = name := by
  have hdot : '.' ∉ name := hname.not_mem (by decide)
  by_cases hpath : path = []
  · subst hpath
    exact Text.afterLast_of_not_mem hdot
  · rw [dotted, Text.join_concat _ _ hpath, List.append_assoc, List.singleton_append,
      Text.afterLast_append hdot]

/-! ## Spellings -/

/-- The first text is a way to write the target of a relation, the second the model that is meant:
    `owner` is the model with the relation. -/
inductive Spells (owner : Text) : Text → Text → Prop where
  | string {quote : Char} {path : List Text} {name : Text} (hquote : isQuote quote = true)
      (hpath : ∀ part ∈ path, AsciiName part) (hname : ModelName name) :
      Spells owner (quote :: (dotted path name ++ [quote])) name
  | name {path : List Text} {name : Text} (hpath : ∀ part ∈ path, AsciiName part)
      (hname : ModelName name) : Spells owner (dotted path name) name
  | self {quote : Char} (hquote : isQuote quote = true) :
      Spells owner (quote :: ("self" ++ [quote])) owner

theorem dottedText_self : DottedText "self" :=
  @dottedText_dotted [] "self" (fun _ hpart => absurd hpart List.not_mem_nil) (by decide)

/-- What is written is a dotted text, in quotes or without. -/
theorem Spells.exists_dottedText {owner written meant : Text} (h : Spells owner written meant) :
    ∃ t, DottedText t ∧
      (written = t ∨ ∃ quote, isQuote quote = true ∧ written = quote :: (t ++ [quote])) := by
  cases h with
  | string hquote hpath hname =>
    exact ⟨_, dottedText_dotted hpath hname.toAsciiName, .inr ⟨_, hquote, rfl⟩⟩
  | name hpath hname => exact ⟨_, dottedText_dotted hpath hname.toAsciiName, .inl rfl⟩
  | self hquote => exact ⟨_, dottedText_self, .inr ⟨_, hquote, rfl⟩⟩

theorem not_mem_quoted {quote c : Char} (hquote : isQuote quote = true) {t : Text}
    (ht : DottedText t) (hc : isQuote c = false) (hd : isDottedChar c = false) :
    c ∉ quote :: (t ++ [quote]) := by
  have hne : c ≠ quote := by
    rintro rfl
    rw [hc] at hquote
    cases hquote
  simp [hne, ht.not_mem hd]

theorem trimmed_quoted {quote : Char} (hquote : isQuote quote = true) (t : Text) :
    Trimmed (quote :: (t ++ [quote])) := by
  have hone : Trimmed [quote] := by rcases eq_of_isQuote hquote with rfl | rfl <;> decide
  exact hone.append t hone

/-- A spelling is one argument of a list. -/
theorem Spells.isItem {owner written meant : Text} (h : Spells owner written meant) :
    IsItem written := by
  obtain ⟨t, ht, rfl | ⟨quote, hquote, rfl⟩⟩ := h.exists_dottedText
  · exact ⟨ht.trimmed, ht.not_mem (by decide), ht.whole⟩
  · exact ⟨trimmed_quoted hquote t, not_mem_quoted hquote ht (by decide) (by decide),
      whole_quoted hquote (ht.inside hquote)⟩

theorem Spells.no_equals {owner written meant : Text} (h : Spells owner written meant) :
    '=' ∉ written := by
  obtain ⟨t, ht, rfl | ⟨quote, hquote, rfl⟩⟩ := h.exists_dottedText
  · exact ht.not_mem (by decide)
  · exact not_mem_quoted hquote ht (by decide) (by decide)

/-! ## What a spelling says -/

/-- A text in quotes without quotes and backslashes is one string. -/
theorem stringLiteral?_quoted {quote : Char} (hquote : isQuote quote = true) {t : Text}
    (ht : DottedText t) : stringLiteral? (quote :: (t ++ [quote])) = some t := by
  have hliteral : literalText (quote :: (t ++ [quote])) = quote :: (t ++ [quote]) := by
    rw [literalText, (trimmed_quoted hquote t).trim_eq]
    rcases eq_of_isQuote hquote with rfl | rfl <;> rfl
  apply stringLiteral?_of_oneString
  rw [hliteral]
  exact oneString_quoted hquote (ht.inside hquote)

theorem targetOfString?_dotted (owner : Text) (path : List Text) {name : Text}
    (hname : ModelName name) : targetOfString? owner (dotted path name) = some name := by
  rw [targetOfString?, afterLast_dotted path hname.toAsciiName, if_neg hname.ne_self,
    if_pos hname.isIdentifier]

theorem targetOfName?_dotted {path : List Text} (hpath : ∀ part ∈ path, AsciiName part)
    {name : Text} (hname : ModelName name) : targetOfName? (dotted path name) = some name := by
  have htrim := (dottedText_dotted hpath hname.toAsciiName).trimmed.trim_eq
  have hparts : (Text.splitOn '.' (dotted path name)).all isIdentifier = true := by
    rw [splitOn_dotted hpath hname.toAsciiName, List.all_eq_true]
    exact fun part hpart => (asciiName_of_mem hpath hname.toAsciiName part hpart).isIdentifier
  rw [targetOfName?, htrim, afterLast_dotted path hname.toAsciiName]
  simp only [hparts, hname.any_isLower, hname.isCapitalized]
  simp

/-- **A spelling means its model.** -/
theorem Spells.targetOf?_eq {owner written meant : Text} (h : Spells owner written meant) :
    targetOf? owner written = some meant := by
  cases h with
  | string hquote hpath hname =>
    rw [targetOf?, stringLiteral?_quoted hquote (dottedText_dotted hpath hname.toAsciiName)]
    exact targetOfString?_dotted owner _ hname
  | @name path _ hpath hname =>
    have hdotted := dottedText_dotted hpath hname.toAsciiName
    have hnone : stringLiteral? (dotted path meant) = none := by
      refine stringLiteral?_eq_none fun c hc => ?_
      exact hdotted.isQuote_eq_false c ((spaced_trim _).mem hc)
    rw [targetOf?, hnone]
    exact targetOfName?_dotted hpath hname
  | self hquote => exact targetOf?_self (stringLiteral?_quoted hquote dottedText_self)

/-! ## Arguments -/

/-- Without an equals sign an argument is positional. -/
theorem parse_of_no_equals {t : Text} (h : '=' ∉ t) : Argument.parse t = .positional t := by
  have hnot {key rest value : Text} (hword : word? t = some (key, rest))
      (hdrop : rest.dropWhile isBlank = '=' :: value) : False := by
    obtain ⟨-, rfl, -⟩ := word?_eq_some hword
    have hmem : '=' ∈ rest := (List.dropWhile_suffix isBlank).mem (hdrop ▸ List.mem_cons_self)
    exact h (List.mem_append_right _ hmem)
  unfold Argument.parse
  split
  · rfl
  · split
    · rfl
    · exact absurd ‹_› (hnot ‹_›)
    · rfl

/-- A name and an equals sign that no other follows make a keyword argument. -/
theorem parse_keyword {key value : Text} (hkey : IsName key) (hvalue : Stops (· == '=') value) :
    Argument.parse (key ++ '=' :: value) = .keyword key (Text.trim value) := by
  unfold Argument.parse
  rw [word?_append hkey (stops_cons (by decide) value)]
  dsimp only
  rw [List.dropWhile_cons_of_neg (by decide)]
  cases value with
  | nil => rfl
  | cons c value =>
    have hc : c ≠ '=' := by simpa using hvalue c rfl
    split
    · rename_i heq
      simp [hc] at heq
    · rename_i heq
      cases heq
      rfl
    · rename_i hnone
      exact absurd rfl (hnone _)

/-- What gives the target, a spelling or `to=` before it, is one argument of a list. -/
theorem Spells.isItem_argument {owner written meant target : Text} (h : Spells owner written meant)
    (htarget : target = written ∨ target = "to=" ++ written) : IsItem target := by
  rcases htarget with rfl | rfl
  · exact h.isItem
  · refine ⟨(show Trimmed ("to=" : Text) by decide).append [] h.isItem.trimmed, ?_, ?_⟩
    · exact List.not_mem_append (by decide) h.isItem.no_hash
    · exact (show Whole ("to=" : Text) by decide).append h.isItem.whole

theorem Spells.parse_argument {owner written meant target : Text} (h : Spells owner written meant)
    (htarget : target = written ∨ target = "to=" ++ written) :
    Argument.parse target = .positional written ∨
      Argument.parse target = .keyword "to" written := by
  rcases htarget with rfl | rfl
  · exact .inl (parse_of_no_equals h.no_equals)
  · have hname : IsName "to" := by decide
    have hvalue : Stops (· == '=') written := by
      intro c hc
      have hne : c ≠ '=' := fun heq => h.no_equals (heq ▸ List.mem_of_mem_head? hc)
      simpa using hne
    have hkeyword := parse_keyword hname hvalue
    rw [h.isItem.trimmed.trim_eq] at hkeyword
    exact .inr hkeyword

/-- An argument `key=value` other than `to=`. The scanner is where it was after the value. -/
structure KeywordText where
  key : Text
  value : Text
  isName : AsciiName key
  ne_to : key ≠ "to"
  no_equals : Stops (· == '=') value
  no_hash : '#' ∉ value
  whole : Whole value

namespace KeywordText

/-- The argument as written. -/
def text (k : KeywordText) : Text := k.key ++ '=' :: k.value

section

variable {k : KeywordText} {cell : Text} (h : Spaced k.text cell)
include h

theorem trim_eq :
    ∃ value, Stops (· == '=') value ∧ Text.trim cell = k.key ++ '=' :: value := by
  obtain ⟨before, after, hbefore, hafter, rfl⟩ := h
  have hfront : Trimmed (k.key ++ ['=']) := by
    refine trimmed_of_no_space (by simp) (List.forall_mem_append.mpr ⟨fun c hc => ?_, ?_⟩)
    · exact isSpace_of_isWord (k.isName.isName.word c hc)
    · exact List.forall_mem_singleton.mpr (by decide)
  have hvalue : Stops (· == '=') (k.value ++ after) := by
    cases hcases : k.value with
    | nil =>
      intro c hc
      exact eq_false_of_isSpace (p := (· == '=')) (by decide +kernel)
        (hafter c (List.mem_of_mem_head? hc))
    | cons c value =>
      have hc : (c == '=') = false := k.no_equals c (by simp [hcases])
      exact stops_cons (p := (· == '=')) hc _
  refine ⟨_, stops_trimEnd hvalue, ?_⟩
  have htext : k.text ++ after = (k.key ++ ['=']) ++ (k.value ++ after) := by simp [text]
  rw [Text.trim, htext, hbefore.trimStart_append hfront, hfront.trimEnd_append, List.append_assoc]
  rfl

theorem isCell : IsCell cell := by
  have hfront : Whole (k.key ++ ['=']) := by
    refine whole_of_inert (List.forall_mem_append.mpr ⟨fun c hc => ?_, ?_⟩)
    · exact of_isAsciiIdent (by decide +kernel) (k.isName.ascii c hc)
    · exact List.forall_mem_singleton.mpr (by decide)
  have hwhole : Whole k.text := by
    have hboth := hfront.append k.whole
    rwa [List.append_assoc] at hboth
  have hhash : '#' ∉ k.text := by
    simp [text, k.isName.not_mem (show isAsciiIdent '#' = false by decide), k.no_hash]
  obtain ⟨value, -, htrim⟩ := trim_eq h
  exact h.isCell hwhole hhash (by simp [htrim])

theorem exists_parse_eq :
    ∃ value, Argument.parse (Text.trim cell) = .keyword k.key value := by
  obtain ⟨value, hvalue, htrim⟩ := trim_eq h
  exact ⟨_, htrim ▸ parse_keyword k.isName.isName hvalue⟩

end

end KeywordText

/-! ## Argument lists -/

/-- Nothing but keyword arguments other than `to=`. -/
def NamesNoTarget (args : List Argument) : Prop :=
  ∀ arg ∈ args, ∃ key value, arg = .keyword key value ∧ key ≠ "to"

namespace NamesNoTarget

variable {args : List Argument} (h : NamesNoTarget args)
include h

theorem findSome?_valueOf? : args.findSome? (·.valueOf? "to") = none := by
  rw [List.findSome?_eq_none_iff]
  intro arg harg
  obtain ⟨key, value, rfl, hkey⟩ := h arg harg
  exact if_neg hkey

theorem findSome?_positional? : args.findSome? Argument.positional? = none := by
  rw [List.findSome?_eq_none_iff]
  intro arg harg
  obtain ⟨key, value, rfl, -⟩ := h arg harg
  rfl

end NamesNoTarget

/-- The expression of the target is found wherever it stands among other arguments. -/
theorem targetExpression?_append {before after : List Argument} (hbefore : NamesNoTarget before)
    (hafter : NamesNoTarget after) {arg : Argument} {written : Text}
    (harg : arg = .positional written ∨ arg = .keyword "to" written) :
    targetExpression? (before ++ arg :: after) = some written := by
  rw [targetExpression?, List.findSome?_append, List.findSome?_append,
    hbefore.findSome?_valueOf?, hbefore.findSome?_positional?]
  rcases harg with rfl | rfl
  · rw [List.findSome?_cons, hafter.findSome?_valueOf?]
    rfl
  · rfl

/-- A further argument of a list, with white space around it. -/
def IsOption (cell : Text) : Prop := ∃ k : KeywordText, Spaced k.text cell

theorem IsOption.isCell {cell : Text} (h : IsOption cell) : IsCell cell := by
  obtain ⟨k, hk⟩ := h
  exact KeywordText.isCell hk

theorem namesNoTarget_of_isOption {cells : List Text} (h : ∀ cell ∈ cells, IsOption cell) :
    NamesNoTarget (cells.map fun cell => Argument.parse (Text.trim cell)) := by
  intro arg harg
  obtain ⟨cell, hcell, rfl⟩ := List.mem_map.mp harg
  obtain ⟨k, hk⟩ := h cell hcell
  obtain ⟨value, hvalue⟩ := KeywordText.exists_parse_eq hk
  exact ⟨k.key, value, hvalue, k.ne_to⟩

/-- **All spellings of a target agree.** Written as a string or as a name, with a path or without,
    as a positional argument or with `to=`, among any further arguments, it resolves to the model
    that is meant. -/
theorem resolveTarget?_of_spelling {owner written meant : Text} (h : Spells owner written meant)
    {target cell : Text} (htarget : target = written ∨ target = "to=" ++ written)
    (hcell : Spaced target cell) {before after : List Text}
    (hbefore : ∀ option ∈ before, IsOption option) (hafter : ∀ option ∈ after, IsOption option)
    {ending : Text} (hending : IsEnding ending) :
    resolveTarget? (Argument.parseAll (Text.join [','] (before ++ cell :: after) ++ ending)) owner =
      some meant := by
  have hitem := h.isItem_argument htarget
  have hcells : ∀ c ∈ before ++ cell :: after, IsCell c := by
    simp only [List.mem_append, List.mem_cons]
    rintro c (hc | rfl | hc)
    · exact (hbefore c hc).isCell
    · exact hitem.isCell hcell
    · exact (hafter c hc).isCell
  have hargs : Argument.parseAll (Text.join [','] (before ++ cell :: after) ++ ending) =
      before.map (fun c => Argument.parse (Text.trim c)) ++
        Argument.parse target :: after.map (fun c => Argument.parse (Text.trim c)) := by
    rw [Argument.parseAll, splitArguments_cells hcells hending, List.map_map, List.map_append,
      List.map_cons, Function.comp_apply, hcell.trim_eq hitem.trimmed]
    rfl
  rw [resolveTarget?_eq, hargs, targetExpression?_append (namesNoTarget_of_isOption hbefore)
    (namesNoTarget_of_isOption hafter) (h.parse_argument htarget)]
  exact h.targetOf?_eq

/-- A string with a path behind `to=`, between a bare and a quoted value with a comma and a bracket
    in it, over several lines. -/
theorem resolveTarget?_of_spelling_lines :
    let before : List Text := ["on_delete=models.CASCADE"]
    let after : List Text := ["\n    related_name='a, (b' "]
    let cell : Text := " to='shop.Author'"
    let text : Text := Text.join [','] (before ++ cell :: after) ++ ",\n"
    Spells "Book" "'shop.Author'" "Author" ∧ Spaced "to='shop.Author'" cell ∧
      (∀ option ∈ before, IsOption option) ∧ (∀ option ∈ after, IsOption option) ∧
      IsEnding ",\n" ∧ resolveTarget? (Argument.parseAll text) "Book" = some "Author" := by
  intro before after cell text
  have hshop : ∀ part ∈ (["shop"] : List Text), AsciiName part :=
    List.forall_mem_singleton.mpr (by decide)
  have hauthor : ModelName "Author" := ⟨by decide, by decide, by decide⟩
  have hspells : Spells "Book" "'shop.Author'" "Author" :=
    .string (by decide : isQuote '\'' = true) hshop hauthor
  have hcell : Spaced "to='shop.Author'" cell :=
    ⟨" ", [], by decide, by decide, by decide⟩
  have hbefore : ∀ option ∈ before, IsOption option :=
    List.forall_mem_singleton.mpr ⟨⟨"on_delete", "models.CASCADE", by decide,
      by decide, by decide, by decide, by decide⟩, Spaced.refl _⟩
  have hafter : ∀ option ∈ after, IsOption option :=
    List.forall_mem_singleton.mpr ⟨⟨"related_name", "'a, (b'", by decide,
      by decide, by decide, by decide, by decide⟩, "\n    ", " ", by decide, by decide, by decide⟩
  have hending : IsEnding ",\n" := .inr ⟨[], "\n", by decide, by decide, by decide⟩
  exact ⟨hspells, hcell, hbefore, hafter, hending,
    resolveTarget?_of_spelling hspells (.inr rfl) hcell hbefore hafter hending⟩

end Model

end OrmLens
