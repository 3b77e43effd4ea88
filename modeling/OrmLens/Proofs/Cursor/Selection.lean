/-
  Which candidates are selected.

  Candidates are pushed one after another into a list that stops growing at the limit, takes only
  names that go on with what is typed, and takes each name once. `selectAll_eq`: this is the same as
  choosing the candidates that go on with the typed name, keeping the first of each name, and
  cutting the result off at the limit. The limit does not change which candidate of a name is taken:
  while there is room nothing has been cut off, and without room nothing is taken.

  `candidates_truncate` says for every graph and every text what follows for two limits.
-/
import OrmLens.Cursor.Completion
import OrmLens.Proofs.Named

namespace OrmLens.Cursor

open Index Model

/-! ## Selection without a limit -/

/-- The candidates that go on with the typed name, the first of each name. -/
def fitting (typed : Text) (ranked : List Candidate) : List Candidate :=
  Named.mergeAll [] (ranked.filter fun c => Text.startsWith c.name typed)

theorem nodup_fitting (typed : Text) (ranked : List Candidate) :
    (Named.names (fitting typed ranked)).Nodup := by
  have hnil : (Named.names ([] : List Candidate)).Nodup := List.nodup_nil
  exact Named.nodup_mergeAll hnil _

theorem mem_of_mem_fitting {typed : Text} {ranked : List Candidate} {c : Candidate}
    (h : c ∈ fitting typed ranked) : c ∈ ranked ∧ Text.startsWith c.name typed = true := by
  rcases Named.mem_of_mem_mergeAll h with h | h
  · cases h
  · exact List.mem_filter.mp h

/-! ## One candidate after another -/

theorem limit_select (typed : Text) (taken : Bounded Candidate) (c : Candidate) :
    (select typed taken c).limit = taken.limit := by
  unfold select
  split <;> rfl

/-- What is taken is the beginning of `all`, and it stays so when the candidate comes to both. -/
theorem items_select {typed : Text} {taken : Bounded Candidate} {all : List Candidate}
    (h : taken.items = all.take taken.limit) (c : Candidate) :
    (select typed taken c).items =
      (if Text.startsWith c.name typed then Named.merge all c else all).take taken.limit := by
  unfold select
  cases Text.startsWith c.name typed with
  | false => exact h
  | true =>
    rw [Bool.true_and, if_pos rfl]
    by_cases hroom : all.length < taken.limit
    · -- Nothing has been cut off, so the name is taken on both sides or on neither.
      have hall : taken.items = all := h.trans (List.take_of_length_le (Nat.le_of_lt hroom))
      rw [hall, Named.merge]
      change (if (!Named.taken all c.name) = true then _ else _ : Bounded Candidate).items =
        (if Named.taken all c.name = true then all else all ++ [c]).take taken.limit
      cases Named.taken all c.name with
      | true => exact h
      | false =>
        show (taken.push c).items = (all ++ [c]).take taken.limit
        rw [Bounded.items_push, hall]
    · -- There is no room, and what comes is behind the limit.
      have hfull : taken.items.length = taken.limit := by
        rw [h, List.length_take]
        omega
      have hkept : (Named.merge all c).take taken.limit = all.take taken.limit := by
        unfold Named.merge
        split
        · rfl
        · rw [List.take_append_of_le_length (by omega)]
      rw [hkept, ← h]
      split
      · rw [Bounded.items_push, ← hfull, List.take_left]
      · rfl

theorem items_foldl_select {typed : Text} {taken : Bounded Candidate} {all : List Candidate}
    (h : taken.items = all.take taken.limit) (ranked : List Candidate) :
    (ranked.foldl (select typed) taken).items =
      (Named.mergeAll all (ranked.filter fun c => Text.startsWith c.name typed)).take
        taken.limit := by
  induction ranked generalizing taken all with
  | nil => exact h
  | cons c ranked ih =>
    have hstep : (select typed taken c).items = _ := items_select h c
    rw [← limit_select typed taken c] at hstep
    rw [List.foldl_cons, ih hstep, limit_select]
    rw [List.filter_cons]
    cases Text.startsWith c.name typed <;> rfl

/-- **Selection is choosing, keeping firsts and cutting off.** -/
theorem selectAll_eq (limit : Nat) (typed : Text) (ranked : List Candidate) :
    selectAll limit typed ranked = (fitting typed ranked).take limit := by
  have hempty : ({ limit } : Bounded Candidate).items = [].take limit := List.take_nil.symm
  exact items_foldl_select hempty ranked

/-! ## The candidates at the end of a text -/

/-- The candidates at the end of a text if there were no limit. -/
def completeAll (s : State) (preceding unit : Text) : List Candidate :=
  match context? s preceding unit with
  | none => []
  | some context =>
    fitting (typedName preceding) (rankedCandidates s.graph (typedName preceding) context)

theorem complete_eq (s : State) (preceding unit : Text) :
    complete s preceding unit =
      (completeAll s preceding unit).take s.settings.completionLimit := by
  unfold complete completeAll
  cases context? s preceding unit with
  | none => exact List.take_nil.symm
  | some context => exact selectAll_eq _ _ _

theorem nodup_completeAll (s : State) (preceding unit : Text) :
    (Named.names (completeAll s preceding unit)).Nodup := by
  unfold completeAll
  split
  · exact List.nodup_nil
  · exact nodup_fitting _ _

theorem startsWith_of_mem_completeAll {s : State} {preceding unit : Text} {c : Candidate}
    (h : c ∈ completeAll s preceding unit) :
    Text.startsWith c.name (typedName preceding) = true := by
  unfold completeAll at h
  split at h
  · cases h
  · exact (mem_of_mem_fitting h).2

/-- The same index with another limit of candidates. -/
def limited (s : State) (limit : Nat) : State :=
  s.configure { s.settings with completionLimit := limit }

theorem complete_limited (s : State) (limit : Nat) (preceding unit : Text) :
    complete (limited s limit) preceding unit = (completeAll s preceding unit).take limit :=
  complete_eq (limited s limit) preceding unit

/-- **A lower limit only cuts the list shorter.** For every graph and every text, the candidates
    with limit `k` are the first `k` of those with a higher limit `m`, or all of them if there are
    fewer. Their names are distinct and start with the identifier at the end of the text. -/
theorem candidates_truncate (s : State) (preceding unit : Text) {k m : Nat} (h : k ≤ m) :
    let offered limit := complete (limited s limit) preceding unit
    offered k = (offered m).take (min k (offered m).length) ∧
      (offered k).length = min k (offered m).length ∧
      (offered k).length ≤ k ∧
      (Named.names (offered k)).Nodup ∧
      ∀ c ∈ offered k, typedName preceding <+: c.name := by
  intro offered
  have hoffered (limit : Nat) : offered limit = (completeAll s preceding unit).take limit :=
    complete_limited s limit preceding unit
  have hcut : offered k = (offered m).take k := by
    rw [hoffered, hoffered, List.take_take, Nat.min_eq_left h]
  have hlength : (offered k).length = min k (offered m).length := by
    rw [hcut, List.length_take]
  have hsub : (offered k).Sublist (completeAll s preceding unit) := by
    rw [hoffered]
    exact List.take_sublist _ _
  refine ⟨?_, hlength, by omega, (nodup_completeAll s preceding unit).sublist (hsub.map _),
    fun c hc => ?_⟩
  · rw [hcut, List.take_eq_take_iff]
    omega
  · exact (Text.startsWith_iff _ _).mp (startsWith_of_mem_completeAll (hsub.subset hc))

/-- A query keyword is typed: with room for one candidate it is the first of the three that there is
    room for otherwise. -/
theorem candidates_truncate_keyword :
    let s := (State.new {}).analyze "models.py" "class Book(Model):\n    title = CharField()\n"
    let offered limit := complete (limited s limit) "Book.objects.filter(ti" "views.py"
    Named.names (offered 1) = (["title"] : List Text) ∧
      Named.names (offered 3) = (["title", "title__exact", "title__iexact"] : List Text) ∧
      offered 1 = (offered 3).take (min 1 (offered 3).length) ∧
      ∀ c ∈ offered 1, typedName "Book.objects.filter(ti" <+: c.name := by
  intro s offered
  have hrun : Named.names (offered 1) = (["title"] : List Text) ∧
      Named.names (offered 3) = (["title", "title__exact", "title__iexact"] : List Text) := by
    decide +kernel
  obtain ⟨hcut, -, -, -, hstart⟩ :=
    candidates_truncate s "Book.objects.filter(ti" "views.py" (show 1 ≤ 3 by decide)
  exact ⟨hrun.1, hrun.2, hcut, hstart⟩

end OrmLens.Cursor
