import AvControl.Proofs.Engine.Unhurried

/-!
# Requests with a deadline are answered

Drivers may keep silent for ever, but nobody waits for them longer than a request has time. A run
stops only when nothing is left to wait for, and as long as a session is at work its deadline is
still ahead: whenever time passes the coordinators look around first. So when all sessions have
deadlines a run does not stop before all of them are over.
-/

namespace AvControl

namespace Session

/-- The session has a deadline, which is ahead as long as the session is not over. -/
def InTime (session : Session) (now : Nat) : Prop :=
  ∃ deadline, session.context.deadline = some deadline ∧
    (session.finished = false → now < deadline)

variable {session : Session} {deadline : Nat}

theorem inTime_attend {δ : Type} (bounded : session.context.deadline = some deadline)
    (world : World δ) : (session.attend world).2.InTime world.clock := by
  have sameContext : (session.attend world).2.context = session.context :=
    (session.continues_attend world).context
  refine ⟨deadline, by rw [sameContext, bounded], fun unfinished => ?_⟩
  have ahead : world.interruption? session.context = none → world.clock < deadline := by
    intro live
    by_contra past
    have ended := (session.context.interruption?_isSome world.tokens world.clock).2
      (Or.inr (by simpa [bounded] using past))
    rw [show session.context.interruption? world.tokens world.clock = none from live] at ended
    cases ended
  have attends := session.attend_attends world
  generalize session.attend world = attended at attends unfinished
  cases attends with
  | rests finished => cases finished.symm.trans unfinished
  | givesUp => cases unfinished
  | collects _ live | cancels _ live => exact ahead live

end Session

namespace Run

variable {δ : Type} {run next : Run δ}

/-- All sessions have deadlines. -/
def Bounded (run : Run δ) : Prop :=
  ∀ session ∈ run.sessions, ∃ deadline, session.context.deadline = some deadline

/-- All sessions have deadlines, which are ahead of those that are not over. -/
def Punctual (run : Run δ) : Prop := ∀ session ∈ run.sessions, session.InTime run.world.clock

theorem Punctual.bounded (punctual : run.Punctual) : run.Bounded := by
  intro session member
  rcases punctual session member with ⟨deadline, bounded, -⟩
  exact ⟨deadline, bounded⟩

/-- When the coordinators have looked around, no session is at work that has no time. -/
theorem Bounded.attend (bounded : run.Bounded) : run.attend.Punctual := by
  intro session member
  rcases mem_right_of_forall₂ (attendAll_sessions run.sessions run.world) member with
    ⟨before, isBefore, tokens, -, rfl⟩
  rcases bounded before isBefore with ⟨deadline, isBounded⟩
  rw [attend_clock]
  exact before.inTime_attend isBounded { run.world with tokens }

variable [Driver δ]

theorem Punctual.steps {patience : Option Nat} (punctual : run.Punctual)
    (steps : Steps patience run next) : next.Punctual := by
  cases steps with
  | collect => exact punctual.bounded.attend
  | @wait time =>
      have bounded : (run.wind time).Bounded := punctual.bounded
      exact bounded.attend
  | @poll turn i j session task first isSession unfinished isTask =>
      have clock : (task.poll session.context run.world).1.clock = run.world.clock :=
        (Task.poll_polls _ _ _).later.clock
      intro other member
      rw [clock]
      rcases List.mem_or_eq_of_mem_set member with isOld | rfl
      · exact punctual other isOld
      · exact punctual session (List.mem_of_getElem? isSession)

/-- A run of sessions with deadlines does not stop before all of them are over. -/
theorem Punctual.finished (punctual : run.Punctual) (stops : run.step none = none) :
    run.finished = true := by
  rcases step_eq_none stops with finished | impatient | ⟨-, -, never⟩
  · exact finished
  · cases impatient
  · by_contra unfinished
    simp only [Run.finished, List.all_eq_true, not_forall, Bool.not_eq_true] at unfinished
    rcases unfinished with ⟨session, member, atWork⟩
    rcases punctual session member with ⟨deadline, bounded, ahead⟩
    have isWake : deadline ∈ run.wakes := by
      refine List.mem_flatMap.2 ⟨session, member, ?_⟩
      simp [atWork, bounded]
    have isTime : deadline ∈ run.wakes.filter fun time => run.world.clock < time :=
      List.mem_filter.2 ⟨isWake, by simpa using ahead atWork⟩
    rw [nextTime, Option.toList_none, List.nil_append, List.min?_eq_none_iff] at never
    rw [never] at isTime
    cases isTime

end Run

namespace World

variable {δ : Type} [Driver δ] {world : World δ} {request : RoomRequest} {deadline : Nat}

/-- A request with a deadline is answered, whatever drivers do. -/
theorem serveOne_of_deadline (bounded : request.context.deadline = some deadline) :
    ∃ reply, (world.serveOne request none).2 = some reply := by
  cases prepared : world.prepare request with
  | error error => exact ⟨.error error, by rw [serveOne_refused prepared]⟩
  | ok session =>
      have alone := engage_one prepared
      have start : (world.engage [request]).Bounded := by
        intro other member
        rw [alone, List.mem_singleton] at member
        rw [member, (ready_of_prepare prepared).context]
        exact ⟨deadline, bounded⟩
      have punctual : ((world.engage [request]).complete none).Punctual :=
        Run.go_induction (fun _ _ punctual isNext => punctual.steps (Run.step_steps isNext).2) _
          start.attend
      have finished := punctual.finished (complete_ends world [request] none)
      simp only [serveOne, serve_eq, finished, if_true, List.map_cons, prepared]
      cases ((world.engage [request]).complete none).sessions <;> exact ⟨_, rfl⟩

end World

end AvControl
