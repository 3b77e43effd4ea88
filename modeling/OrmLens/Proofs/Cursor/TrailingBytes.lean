/-
  The chain at the end of a text, found byte by byte.

  The search goes backwards, and it may do so on the bytes of the text: a byte of ASCII is a
  character, and every other byte is passed over like a letter (`walkBytes`). Taken one by one, the
  bytes of a character lead where the character leads (`walkBytes_charBytes`), so the walk stops
  between two characters and at the place where the search ends (`walkBytes_eq`).

  What stands behind this place is nested when it is read backwards (`nestsBackwards_of_backwards?`)
  and stays so without the dots at its start. `trailingExpr_stops_between_characters` puts this
  together.
-/
import OrmLens.Proofs.Cursor.TrailingChain
import OrmLens.Text.Utf8

namespace OrmLens.Cursor

open Source Text

/-! ## The walk -/

/-- The depth after a byte, unless the walk stops in front of it. No byte of a character outside
    ASCII stops it. -/
def byteBackward? (depth b : Nat) : Option Nat :=
  if b < 128 then backward? depth (Char.ofNat b) else some depth

/-- Walks over bytes that are given nearest first: the number of bytes in front of the place where
    the walk stops, and the depth there. -/
def walkBytes (depth : Nat) : List Nat → Nat × Nat
  | [] => (0, depth)
  | b :: older =>
    match byteBackward? depth b with
    | none => (older.length + 1, depth)
    | some deeper => walkBytes deeper older

/-- The byte offset at which the walk from the end of a text stops, and the depth there. -/
def chainStop (t : Text) : Nat × Nat := walkBytes 0 (encode t).reverse

theorem walkBytes_cons_of_some {depth deeper b : Nat} (h : byteBackward? depth b = some deeper)
    (older : List Nat) : walkBytes depth (b :: older) = walkBytes deeper older := by
  rw [walkBytes, h]

/-- Bytes outside ASCII are passed over. -/
theorem walkBytes_append_of_le {bytes : List Nat} (h : ∀ b ∈ bytes, 128 ≤ b) (depth : Nat)
    (older : List Nat) : walkBytes depth (bytes ++ older) = walkBytes depth older := by
  induction bytes with
  | nil => rfl
  | cons b bytes ih =>
    obtain ⟨hb, hbytes⟩ := List.forall_mem_cons.mp h
    have hpassed : byteBackward? depth b = some depth := if_neg (Nat.not_lt.mpr hb)
    rw [List.cons_append, walkBytes_cons_of_some hpassed, ih hbytes]

theorem charBytes_of_lt {c : Char} (h : c.toNat < 128) : charBytes c = [c.toNat] := if_pos h

theorem le_of_mem_charBytes {c : Char} (h : 128 ≤ c.toNat) : ∀ b ∈ charBytes c, 128 ≤ b := by
  intro b hb
  unfold charBytes at hb
  dsimp only at hb
  rw [if_neg (Nat.not_lt.mpr h)] at hb
  split at hb
  · simp only [List.mem_cons, List.not_mem_nil, or_false] at hb
    omega
  · split at hb
    all_goals
      simp only [List.mem_cons, List.not_mem_nil, or_false] at hb
      omega

/-- A character outside ASCII is passed over by the search too. -/
theorem backward?_of_le {c : Char} (h : 128 ≤ c.toNat) (depth : Nat) :
    backward? depth c = some depth := by
  have hchain : isChainChar c = true := by simp [isChainChar, h]
  cases depth with
  | zero => exact backward?_of_isChainChar hchain
  | succ depth => simp [backward?, roundBracket_of_isChainChar hchain]

/-- **The bytes of a character**, nearest first, lead the walk where the character leads the
    search. -/
theorem walkBytes_charBytes (depth : Nat) (c : Char) (older : List Nat) :
    walkBytes depth ((charBytes c).reverse ++ older) =
      match backward? depth c with
      | none => (older.length + c.utf8Size, depth)
      | some deeper => walkBytes deeper older := by
  by_cases hc : c.toNat < 128
  · have hsize : c.utf8Size = 1 := by rw [← length_charBytes, charBytes_of_lt hc]; rfl
    have hbyte : byteBackward? depth c.toNat = backward? depth c := by
      rw [byteBackward?, if_pos hc, Char.ofNat_toNat]
    rw [charBytes_of_lt hc, List.reverse_singleton, List.singleton_append, walkBytes, hbyte, hsize]
  · have hle : 128 ≤ c.toNat := Nat.not_lt.mp hc
    have hbytes : ∀ b ∈ (charBytes c).reverse, 128 ≤ b := fun b hb =>
      le_of_mem_charBytes hle b (List.mem_reverse.mp hb)
    rw [walkBytes_append_of_le hbytes, backward?_of_le hle]

theorem reverse_encode_concat (t : Text) (c : Char) :
    (encode (t ++ [c])).reverse = (charBytes c).reverse ++ (encode t).reverse := by
  simp [encode]

/-- **Where the walk stops**, for a text that is given from its end. It stops between two
    characters. The search takes what stands behind this place, unless a bracket is still open
    there. -/
theorem walkBytes_eq (depth : Nat) (t : Text) :
    ∃ taken rest deeper, t = taken ++ rest ∧ backwards? depth taken = some deeper ∧
      walkBytes depth (encode t.reverse).reverse = (bytes rest.reverse, deeper) ∧
      takeChain depth t = if deeper = 0 then some taken else none := by
  induction t generalizing depth with
  | nil => exact ⟨[], [], depth, rfl, rfl, rfl, by cases depth <;> rfl⟩
  | cons c t ih =>
    rw [List.reverse_cons, reverse_encode_concat, walkBytes_charBytes, takeChain_cons]
    cases hnext : backward? depth c with
    | none =>
      -- The search only ends where no bracket is open.
      obtain ⟨rfl, -⟩ := backward?_eq_none_iff.mp hnext
      refine ⟨[], c :: t, 0, rfl, rfl, ?_, rfl⟩
      dsimp only
      rw [List.length_reverse, length_encode, List.reverse_cons, bytes_append]
      rfl
    | some next =>
      obtain ⟨taken, rest, deeper, rfl, htaken, hwalk, hsearch⟩ := ih next
      refine ⟨c :: taken, rest, deeper, rfl, ?_, hwalk, ?_⟩
      · rw [backwards?, hnext, Option.bind_some, htaken]
      · dsimp only
        rw [hsearch]
        split <;> rfl

/-! ## Nesting -/

/-- Read backwards, no bracket opens what has not been closed, and at the start all are met. Round
    and square brackets count alike, wherever they stand. -/
def NestsBackwards (t : Text) : Prop :=
  openers t = closers t ∧ ∀ tail, tail <:+ t → openers tail ≤ closers tail

theorem openers_append (t u : Text) : openers (t ++ u) = openers t + openers u :=
  List.countP_append

theorem closers_append (t u : Text) : closers (t ++ u) = closers t + closers u :=
  List.countP_append

theorem nestsBackwards_of_backwards? {t : Text} (h : backwards? 0 t.reverse = some 0) :
    NestsBackwards t := by
  have hcount {u : Text} {depth : Nat} (hu : backwards? 0 u.reverse = some depth) :
      depth + openers u = closers u := by
    have hboth := (backwards?_eq_some_iff.mp hu).1
    rwa [openers_reverse, closers_reverse, Nat.zero_add] at hboth
  refine ⟨?_, ?_⟩
  · rw [← hcount h, Nat.zero_add]
  · rintro tail ⟨front, rfl⟩
    rw [List.reverse_append, backwards?_append] at h
    obtain ⟨depth, htail, -⟩ := Option.bind_eq_some_iff.mp h
    have htotal := hcount htail
    omega

/-- Dots at the start make no difference. -/
theorem NestsBackwards.dropWhile_dot {t : Text} (h : NestsBackwards t) :
    NestsBackwards (t.dropWhile (· == '.')) := by
  obtain ⟨htotal, htails⟩ := h
  have hdots : ∀ c ∈ t.takeWhile (· == '.'), roundBracket c = .other := by
    intro c hc
    obtain rfl : c = '.' := by simpa using List.mem_takeWhile_imp hc
    rfl
  have hopeners : openers (t.takeWhile (· == '.')) = 0 :=
    List.countP_eq_zero.mpr fun c hc => by simp [hdots c hc]
  have hclosers : closers (t.takeWhile (· == '.')) = 0 :=
    List.countP_eq_zero.mpr fun c hc => by simp [hdots c hc]
  have hsplit := List.takeWhile_append_dropWhile (p := (· == '.')) (l := t)
  rw [← hsplit, openers_append, closers_append, hopeners, hclosers, Nat.zero_add,
    Nat.zero_add] at htotal
  exact ⟨htotal, fun tail htail => htails tail (htail.trans (List.dropWhile_suffix _))⟩

/-- **The search never cuts a character in two.** Done on bytes, it stops at an offset between two
    characters of the text, and what it finds stands behind this offset: all but the dots at the
    start, or nothing if a bracket is still open there. This is an end of the text, it does not
    start with a dot, and read backwards its round and square brackets are nested. -/
theorem trailingExpr_stops_between_characters (t : Text) :
    (∃ before rest, t = before ++ rest ∧ (chainStop t).1 = bytes before ∧
      trailingExpr t = if (chainStop t).2 = 0 then rest.dropWhile (· == '.') else []) ∧
    trailingExpr t <:+ t ∧ (trailingExpr t).head? ≠ some '.' ∧ NestsBackwards (trailingExpr t) := by
  obtain ⟨taken, rest, depth, hreverse, htaken, hwalk, hsearch⟩ := walkBytes_eq 0 t.reverse
  have htext : t = rest.reverse ++ taken.reverse := by
    rw [← List.reverse_append, ← hreverse, List.reverse_reverse]
  have hstop : chainStop t = (bytes rest.reverse, depth) := by
    rw [chainStop, ← hwalk, List.reverse_reverse]
  have hfound : trailingExpr t =
      if depth = 0 then taken.reverse.dropWhile (· == '.') else [] := by
    rw [trailingExpr, hsearch]
    cases depth <;> rfl
  refine ⟨⟨rest.reverse, taken.reverse, htext, by rw [hstop], by rw [hstop, hfound]⟩,
    trailingExpr_isSuffix t, ?_⟩
  rw [hfound]
  split
  · rename_i hmet
    subst hmet
    refine ⟨fun hdot => ?_, NestsBackwards.dropWhile_dot ?_⟩
    · have hstops := stops_dropWhile (· == '.') taken.reverse
      exact absurd (hstops '.' hdot) (by decide)
    · exact nestsBackwards_of_backwards? (by rwa [List.reverse_reverse])
  · refine ⟨by simp, rfl, fun tail htail => ?_⟩
    obtain rfl := List.suffix_nil.mp htail
    exact Nat.le_refl 0

end OrmLens.Cursor
