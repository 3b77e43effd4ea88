/-
  One message, seen from the state.

  A message is heard if the connection is running, the message wants no answer, and it is a
  notification with parameters of the right shape (`State.heard?`). A message that is heard does
  what its notification does (`step_of_heard`). Any other message changes the phase of the
  connection at most, except the first one, which takes folders, settings and capabilities of the
  client (`step_of_unheard`).

  A run of the server is a list of turns: time passes, and a message is handled with the files and
  the client's replies of that moment.
-/
import OrmLens.Server.Step

namespace OrmLens.Server

open Workspace

/-! ## Messages that are heard -/

/-- The notification in a message, if it is one that is acted upon. -/
def Message.notification? (m : Message) : Option Notification :=
  (notifications.find? (·.method = m.method)).bind fun h => m.given?.bind h.decode?

/-- The notification that a server in this state acts upon when the message arrives. -/
def State.heard? (s : State) (m : Message) : Option Notification :=
  if s.phase = .running ∧ m.wantsAnswer = false then m.notification? else none

theorem State.heard?_eq_some_iff {s : State} {m : Message} {n : Notification} :
    s.heard? m = some n ↔
      s.phase = .running ∧ m.wantsAnswer = false ∧ m.notification? = some n := by
  unfold heard?
  split
  · rename_i h
    simp [h]
  · rename_i h
    simp only [reduceCtorEq, false_iff]
    exact fun h' => h ⟨h'.1, h'.2.1⟩

/-- Methods of notifications are neither those of requests nor those with steps of their own. -/
theorem method_of_mem_notifications {h : Handler Notification} (hm : h ∈ notifications) :
    h.method ≠ "exit" ∧ h.method ≠ handshake.method ∧ h.method ≠ "shutdown" ∧
      (requests.find? (·.method = h.method)).isNone = true := by
  revert h
  decide

/-- The requests that are answered ask and change nothing. -/
theorem answer_of_mem_requests {h : Handler Request} (hm : h ∈ requests) {params : Json}
    {r : Request} (hr : h.decode? params = some r) (s : State) : (answer s r).1 = s := by
  obtain ⟨j, -, hread⟩ := Option.bind_eq_some_iff.mp hr
  simp only [requests, List.mem_cons, List.not_mem_nil, or_false] at hm
  rcases hm with rfl | rfl | rfl
  all_goals
    obtain ⟨place, -, rfl⟩ := Option.map_eq_some_iff.mp hread
    rfl

/-- The first request is a greeting. -/
theorem exists_of_handshake {params : Json} {r : Request} (hr : handshake.decode? params = some r) :
    ∃ folders options capabilities, r = .handshake folders options capabilities := by
  obtain ⟨j, -, hread⟩ := Option.bind_eq_some_iff.mp hr
  obtain ⟨client, -, hread⟩ := Option.bind_eq_some_iff.mp hread
  obtain ⟨folders, -, hread⟩ := Option.bind_eq_some_iff.mp hread
  exact ⟨folders, _, _, (Option.some.inj hread).symm⟩

/-! ## What a step does -/

theorem state_step {s : State} (h : s.phase ≠ .exited) (files : FileTree) (replies : List Json)
    (m : Message) : (step files replies s m).state = (dispatch files replies s m).state := by
  unfold step
  rw [if_neg h]
  dsimp only
  split <;> rfl

/-- A message that is heard does what its notification does. -/
theorem step_of_heard {s : State} {m : Message} {n : Notification} (h : s.heard? m = some n)
    (files : FileTree) (replies : List Json) :
    (step files replies s m).state = (notice files replies s n).state := by
  obtain ⟨hrunning, hanswer, hn⟩ := State.heard?_eq_some_iff.mp h
  obtain ⟨handler, hfind, hdecode⟩ := Option.bind_eq_some_iff.mp hn
  have hmethod : handler.method = m.method := by simpa using List.find?_some hfind
  obtain ⟨hexit, hfirst, hshutdown, hrequest⟩ :=
    method_of_mem_notifications (List.mem_of_find?_eq_some hfind)
  rw [hmethod] at hexit hfirst hshutdown hrequest
  have hnotice : noticeStep files replies s handler m = notice files replies s n := by
    unfold noticeStep
    rw [if_neg (not_not_intro hrunning), if_neg (by rw [hanswer]; exact Bool.false_ne_true),
      hdecode]
  rw [state_step (by rw [hrunning]; exact nofun)]
  unfold dispatch
  rw [if_neg hexit, if_neg hfirst, if_neg hshutdown, Option.isNone_iff_eq_none.mp hrequest, hfind]
  exact congrArg Outcome.state hnotice

/-- The first message is refused, or it greets the server. -/
theorem firstStep_cases (s : State) (m : Message) :
    (firstStep s m).1 = s ∨ s.phase = .waiting ∧ ∃ folders options capabilities,
      (firstStep s m).1 = { greet s folders options capabilities with phase := .running } := by
  unfold firstStep
  split
  · exact Or.inl rfl
  · rename_i hphase
    split
    · exact Or.inl rfl
    · split
      · exact Or.inl rfl
      · rename_i request hr
        obtain ⟨params, -, hdecode⟩ := Option.bind_eq_some_iff.mp hr
        obtain ⟨folders, options, capabilities, rfl⟩ := exists_of_handshake hdecode
        exact Or.inr ⟨Decidable.not_not.mp hphase, folders, options, capabilities, rfl⟩

theorem requestStep_eq {h : Handler Request} (hm : h ∈ requests) (s : State) (m : Message) :
    (requestStep s h m).1 = s := by
  unfold requestStep
  split
  · rfl
  · split
    · rfl
    · split
      · rfl
      · rename_i request hr
        obtain ⟨params, -, hdecode⟩ := Option.bind_eq_some_iff.mp hr
        exact answer_of_mem_requests hm hdecode s

theorem shutdownStep_eq (s : State) (m : Message) :
    ∃ phase, (shutdownStep s m).1 = { s with phase } := by
  unfold shutdownStep
  split
  · exact ⟨s.phase, rfl⟩
  · refine ⟨.stopped, ?_⟩
    dsimp only
    split
    · rfl
    · split <;> rfl

theorem otherStep_eq (s : State) (m : Message) : (otherStep s m).1 = s := by
  unfold otherStep
  split
  · unfold declinedStep
    repeat' split
    all_goals rfl
  · repeat' split
    all_goals rfl

theorem noticeStep_of_unheard {s : State} {m : Message} (h : s.heard? m = none)
    {handler : Handler Notification}
    (hfind : notifications.find? (·.method = m.method) = some handler) (files : FileTree)
    (replies : List Json) : (noticeStep files replies s handler m).state = s := by
  unfold noticeStep
  split
  · rfl
  · rename_i hphase
    split
    · rfl
    · rename_i hanswer
      split
      · rfl
      · rename_i n hdecode
        have hheard : s.heard? m = some n := by
          rw [State.heard?_eq_some_iff]
          refine ⟨Decidable.not_not.mp hphase, by simpa using hanswer, ?_⟩
          rw [Message.notification?, hfind]
          exact hdecode
        rw [h] at hheard
        cases hheard

/-- A message that is not heard changes the phase at most, unless it is the greeting of a client. -/
theorem step_of_unheard {s : State} {m : Message} (h : s.heard? m = none) (files : FileTree)
    (replies : List Json) :
    (∃ phase, (step files replies s m).state = { s with phase }) ∨
      s.phase = .waiting ∧ ∃ folders options capabilities,
        (step files replies s m).state =
          { greet s folders options capabilities with phase := .running } := by
  by_cases hexited : s.phase = .exited
  · left
    refine ⟨s.phase, ?_⟩
    unfold step
    rw [if_pos hexited]
  · rw [state_step hexited]
    unfold dispatch
    dsimp only
    split
    · exact Or.inl ⟨.exited, rfl⟩
    · split
      · rcases firstStep_cases s m with hsame | hgreet
        · exact Or.inl ⟨s.phase, hsame⟩
        · exact Or.inr hgreet
      · split
        · exact Or.inl (shutdownStep_eq s m)
        · left
          refine ⟨s.phase, ?_⟩
          split
          · rename_i handler _ hfind
            exact requestStep_eq (List.mem_of_find?_eq_some hfind) s m
          · rename_i handler _ hfind
            exact noticeStep_of_unheard h hfind files replies
          · exact otherStep_eq s m

/-! ## Turns -/

/-- A message with what surrounds it: the milliseconds since the message before, the files as they
    are now, and the client's replies to what it may be asked. -/
structure Turn where
  elapsed : Nat := 0
  files : FileTree := {}
  replies : List Json := []
  message : Message

namespace State

/-- Lets time pass. -/
def wait (s : State) (milliseconds : Nat) : State :=
  { s with index := s.index.wait milliseconds }

/-- The state after a turn. -/
def take (s : State) (t : Turn) : State :=
  (step t.files t.replies (s.wait t.elapsed) t.message).state

/-- The state after turns, one after another. -/
def serve (s : State) (turns : List Turn) : State := turns.foldl take s

theorem serve_append (s : State) (turns more : List Turn) :
    s.serve (turns ++ more) = (s.serve turns).serve more :=
  List.foldl_append

theorem take_of_heard {s : State} {t : Turn} {n : Notification}
    (h : s.heard? t.message = some n) :
    s.take t = (notice t.files t.replies (s.wait t.elapsed) n).state :=
  step_of_heard (s := s.wait t.elapsed) h t.files t.replies

end State

end OrmLens.Server
