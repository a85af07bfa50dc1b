import AvControl.Proofs.Engine.Commands
import AvControl.Proofs.Engine.Reports
import AvControl.Proofs.Engine.Transcript

/-!
# Requests that come to their end

A request whose context is live is over as soon as all its tasks have reported, so nothing but an
opening or a call that never ends can keep it from being answered. Together with the transcripts of
its tasks this says what the answer tells: of every device what its driver has said.
-/

namespace AvControl

namespace Session

variable {δ : Type} [Driver δ] {session session' : Session}

/-- The outcome of some device has not been collected, unless the session is over. -/
def Misses (session : Session) : Prop := session.finished = false → session.unreported ≠ []

theorem Kept.misses_coordinate {busy : Task → Prop} {brings : Task → Outcome → Prop}
    (kept : session.Kept busy brings) (unfinished : session.finished = false)
    (ended : Option Interruption) : (session.coordinate ended).Misses := by
  cases ended with
  | none =>
      rw [kept.coordinate_live unfinished]
      exact List.isEmpty_eq_false_iff.1
  | some interruption =>
      intro stillUnfinished
      cases stillUnfinished

theorem Kept.misses_attend (kept : session.Kept Task.UnderWay Task.Settled) (world : World δ) :
    (session.attend world).2.Misses := by
  have attends := session.attend_attends world
  generalize session.attend world = attended at attends
  cases attends with
  | rests finished =>
      intro unfinished
      rw [finished] at unfinished
      cases unfinished
  | givesUp unfinished => exact kept.misses_coordinate unfinished _
  | collects unfinished => exact kept.misses_coordinate unfinished none
  | cancels unfinished _ unreported =>
      exact (kept.coordinate (δ := δ) Task.settling unfinished none).misses_coordinate unreported _

theorem Goes.misses (goes : session.Goes δ session')
    (kept : session.Kept Task.UnderWay Task.Settled) (misses : session.Misses) :
    session'.Misses := by
  cases goes with
  | stays => exact misses
  | polls world unfinished isTask =>
      intro _
      rw [unreported_of_continues (continues_receive world isTask) rfl]
      exact misses unfinished
  | attends world => exact kept.misses_attend world

theorem Reaches.misses (reaches : session.Reaches δ session')
    (kept : session.Kept Task.UnderWay Task.Settled) (misses : session.Misses) :
    session'.Misses := by
  induction reaches with
  | refl => exact misses
  | tail reaches goes ih => exact goes.misses (kept.reaches Task.settling reaches) ih

theorem Goes.eq_of_finished (goes : session.Goes δ session') (finished : session.finished = true) :
    session' = session := by
  cases goes with
  | stays => rfl
  | polls world unfinished isTask =>
      rw [unfinished] at finished
      cases finished
  | attends world =>
      have attends := session.attend_attends world
      generalize session.attend world = attended at attends
      cases attends with
      | rests => rfl
      | givesUp unfinished | collects unfinished | cancels unfinished =>
          rw [unfinished] at finished
          cases finished

/-- Nothing happens any more to a session that is over. -/
theorem Reaches.eq_of_finished (reaches : session.Reaches δ session')
    (finished : session.finished = true) : session' = session := by
  induction reaches with
  | refl => rfl
  | tail _ goes ih =>
      subst ih
      exact goes.eq_of_finished finished

end Session

namespace Look

variable {δ : Type} [Driver δ]

/-- A device is not being opened any more when its task is told what came of the opening. -/
theorem begun_of_answered {look : Look δ} (answered : look.opening?.isSome = true) :
    ∀ caller, look.result.2.1.phase ≠ .opening caller := by
  have polls := look.polls
  generalize look.result = result at polls
  cases polls with
  | silent isOver => simp [isOver]
  | leavesOut | fails | givesUp => simp [Task.enter]
  | waits opening _ unanswered =>
      simp only [opening?, opening] at answered
      split at answered
      · cases answered
      · simp [unanswered] at answered
  | begins _ _ _ works | goesOn _ works => cases works <;> simp [Task.enter]

end Look

namespace Course

variable {δ : Type} [Driver δ] {task last : Task} {looks : List (Look δ)}

theorem stays_begun (course : Course δ task looks last)
    (begun : ∀ caller, task.phase ≠ .opening caller) : ∀ caller, last.phase ≠ .opening caller := by
  induction course with
  | rests => exact begun
  | @goes look _ _ _ ih => exact ih (look.polls.begun begun)

theorem begun_of_answered (course : Course δ task looks last)
    (answered : ∃ look ∈ looks, look.opening?.isSome = true) :
    ∀ caller, last.phase ≠ .opening caller := by
  induction course with
  | rests => simp at answered
  | @goes look _ _ rest ih =>
      rcases answered with ⟨other, member, answered⟩
      rcases List.mem_cons.1 member with rfl | later
      · exact rest.stays_begun (other.begun_of_answered answered)
      · exact ih ⟨other, later, answered⟩

theorem device (course : Course δ task looks last) : last.device = task.device := by
  induction course with
  | rests => rfl
  | @goes look _ _ _ ih =>
      rcases look.polls.eq_enter with ⟨phase, same⟩
      rw [ih, same, Task.device_enter]

end Course

namespace Run

variable {δ : Type} [Driver δ]

/-- What is said to the task for a device in a session until all is over. -/
def utterances (run : Run (Transcribed δ)) (i : Nat) (device : DeviceId) : List Utterance :=
  (run.looks i device).flatMap Look.utterances

/--
The task for a device in a session is not hindered: it is told what came of the opening of the
device, and its calls neither hang nor break down.
-/
structure Unhindered (run : Run (Transcribed δ)) (i : Nat) (device : DeviceId) : Prop where
  opening : ∃ look ∈ run.looks i device, look.opening?.isSome = true
  calls : ∀ utterance ∈ run.utterances i device, utterance.EndsWell

/-- A context is live until a session is over. -/
structure LiveUntilAnswered (run : Run δ) (i : Nat) (context : RequestContext) : Prop where
  first : (run.after 0).world.interruption? context = none
  next : ∀ steps, run.answer? i steps = none →
    (run.after (steps + 1)).world.interruption? context = none

/-- A context that is live in the end was so until the session was over. -/
theorem liveUntilAnswered_of_complete {run : Run δ} {context : RequestContext}
    (ends : (run.complete none).step none = none)
    (live : (run.complete none).world.interruption? context = none) (i : Nat) :
    run.LiveUntilAnswered i context :=
  ⟨live_after_of_complete ends live 0, fun steps _ => live_after_of_complete ends live (steps + 1)⟩

theorem answer?_of_isOpen {run : Run δ} {i steps : Nat} (isOpen : (run.after steps).IsOpen i) :
    run.answer? i steps = none := by
  rcases isOpen with ⟨session, isSession, unfinished⟩
  rw [Option.mem_def] at isSession
  simp [answer?, isSession, Option.filter, unfinished]

theorem after_add (run : Run δ) (steps more : Nat) :
    run.after (steps + more) = go none more (run.after steps) :=
  (go_add none more steps run.attend).symm

/-- A session that is over stays as it is. -/
theorem stays_over {run : Run δ} {i steps more : Nat} {session : Session}
    (isSession : (run.after steps).sessions[i]? = some session)
    (finished : session.finished = true) :
    (run.after (steps + more)).sessions[i]? = some session := by
  have related := getElem?_rel (go_reaches none more (run.after steps)) i
  rw [← after_add, isSession] at related
  cases isLater : (run.after (steps + more)).sessions[i]? with
  | none =>
      rw [isLater] at related
      cases related
  | some later =>
      rw [isLater] at related
      cases related with
      | some reaches => rw [reaches.eq_of_finished finished]

/-- The first state of a run in which a session is over; its context was live until then. -/
theorem LiveUntilAnswered.exists_over {run : Run δ} {i steps : Nat} {context : RequestContext}
    {last : Session} (live : run.LiveUntilAnswered i context)
    (isLast : (run.after steps).sessions[i]? = some last) (finished : last.finished = true) :
    ∃ first ≤ steps, (run.after first).sessions[i]? = some last ∧
      (run.after first).world.interruption? context = none := by
  induction steps with
  | zero => exact ⟨0, Nat.le_refl 0, isLast, live.first⟩
  | succ steps ih =>
      cases isAnswer : run.answer? i steps with
      | none => exact ⟨steps + 1, Nat.le_refl _, isLast, live.next steps isAnswer⟩
      | some answer =>
          rcases Option.map_eq_some_iff.1 isAnswer with ⟨session, isSession, -⟩
          rcases Option.filter_eq_some_iff.1 isSession with ⟨isSession, isOver⟩
          obtain rfl : session = last :=
            Option.some.inj ((stays_over isSession isOver).symm.trans isLast)
          rcases ih isSession with ⟨first, earlier, isFirst, isLive⟩
          exact ⟨first, Nat.le_succ_of_le earlier, isFirst, isLive⟩

theorem looksWithin_add (i : Nat) (device : DeviceId) (steps more : Nat) : ∀ run : Run δ,
    run.looksWithin i device (steps + more) =
      run.looksWithin i device steps ++ (go none steps run).looksWithin i device more := by
  induction steps with
  | zero =>
      intro run
      simp [looksWithin, go]
  | succ steps ih =>
      intro run
      rw [Nat.succ_add]
      cases isNext : run.step none with
      | none =>
          have nothing : ∀ steps, run.looksWithin i device steps = [] := by
            intro steps
            cases steps <;> simp [looksWithin, isNext]
          rw [go_ended isNext, nothing, nothing, nothing, List.append_nil]
      | some next => simp only [looksWithin, isNext, go_step isNext, ih, List.append_assoc]

/-- What a task has reported it does not take back. -/
theorem deliveries_mono (run : Run δ) (i : Nat) (device : DeviceId) {steps later : Nat}
    (passes : steps ≤ later) :
    run.deliveries i device steps <+: run.deliveries i device later := by
  rcases Nat.exists_eq_add_of_le passes with ⟨more, rfl⟩
  rw [deliveries, deliveries, looksWithin_add, List.flatMap_append]
  exact List.prefix_append _ _

/-- A session in whose run nothing happens any more is over, if all its tasks have reported. -/
theorem finished_of_reported {run : Run δ} {i : Nat} {session : Session}
    (ended : run.step none = none) (isSession : run.sessions[i]? = some session)
    (kept : session.Kept Task.UnderWay Task.Settled) (misses : session.Misses)
    (reported : ∀ task ∈ session.tasks, task.phase = .reported) : session.finished = true := by
  have inRun := List.mem_of_getElem? isSession
  rcases step_eq_none ended with allOver | impatient | ⟨-, noMail, -⟩
  · exact List.all_eq_true.1 allOver session inRun
  · cases impatient
  · by_contra isOver
    have unfinished : session.finished = false := by simpa using isOver
    have emptyMailbox : session.mailbox = [] := by
      have noMailHere := List.any_eq_false.1 noMail session inRun
      simpa [unfinished] using noMailHere
    rcases List.exists_mem_of_ne_nil _ (misses unfinished) with ⟨device, missing⟩
    rcases Session.mem_unreported.1 missing with ⟨isDevice, notCollected⟩
    rcases List.mem_map.1 isDevice with ⟨task, member, rfl⟩
    have arrived := (kept.reported unfinished task member).1 (reported task member)
    rw [Session.arrived, emptyMailbox, List.append_nil] at arrived
    exact notCollected arrived

/-- A session of a run that is not over at its end misses an outcome. -/
theorem misses_complete {run : Run δ} {i : Nat} {session last : Session}
    (isSession : run.sessions[i]? = some session)
    (kept : session.Kept Task.UnderWay Task.Settled)
    (isLast : (run.complete none).sessions[i]? = some last) : last.Misses := by
  rcases attendAll_at run.sessions run.world isSession with ⟨tokens, -, isFirst, -⟩
  have related := getElem?_rel (go_reaches none run.bound run.attend) i
  rw [show run.attend.sessions[i]? = _ from isFirst,
    show (go none run.bound run.attend).sessions[i]? = _ from isLast] at related
  cases related with
  | some reaches => exact reaches.misses (kept.attend Task.settling _) (kept.misses_attend _)

end Run

namespace World

variable {δ : Type} [Driver δ]

/--
A request whose context stays live is answered, unless somebody hinders one of its tasks, and the
answer tells of every device what its task reports at its end.
-/
theorem Ready.answers {world : World (Transcribed δ)} {requests : List RoomRequest}
    {request : RoomRequest} {session : Session} {i : Nat} (ready : world.Ready request session)
    (isSession : (world.engage requests).sessions[i]? = some session)
    (live : (world.engage requests).LiveUntilAnswered i request.context)
    (unhindered : ∀ task ∈ session.tasks, (world.engage requests).Unhindered i task.device) :
    ∃ answer, (world.engage requests).answer? i (world.engage requests).bound = some answer ∧
      answer.operation = request.operation ∧ ∀ task ∈ session.tasks, ∃ outcome,
        task.Concludes ((world.engage requests).openedWith i task.device)
          ((world.engage requests).utterances i task.device) [outcome] ∧
        task.Settled outcome ∧ answer.Tells task.device outcome := by
  have ended := world.complete_ends requests none
  rcases ready.accounts isSession (world.engage requests).bound ⟨""⟩ with ⟨last, books, continues⟩
  have isLast : ((world.engage requests).complete none).sessions[i]? = some last := books.isSession
  have kept := books.accounts.kept
  -- Every task is looked after until it has reported.
  have ends : ∀ task ∈ session.tasks, ∃ final ∈ last.tasks, final.device = task.device ∧
      final.phase = .reported ∧ task.Concludes ((world.engage requests).openedWith i task.device)
        ((world.engage requests).utterances i task.device)
        ((world.engage requests).deliveries i task.device (world.engage requests).bound) := by
    intro task member
    rcases ready.followed isSession member (fun _ => live.first) (fun steps _ isOpen =>
        live.next steps (Run.answer?_of_isOpen isOpen)) with
      ⟨j, last', final, follows, -, course, fair⟩
    obtain rfl := Option.some.inj (isLast.symm.trans follows.isSession)
    rcases unhindered task member with ⟨answered, well⟩
    have waits : task.Waits := by
      intro lanes later outcome working
      rw [ready.fresh member] at working
      cases working
    have isOver := follows.reported_of_ended ended (course.waits_of_well fair well waits)
      (course.begun_of_answered answered)
    exact ⟨final, List.mem_of_getElem? follows.isTask, course.device, isOver,
      course.concludes fair well isOver⟩
  have finished : last.finished = true := by
    refine Run.finished_of_reported ended isLast kept
      (Run.misses_complete isSession (ready.kept ready.underWay) isLast) fun task inLast => ?_
    rcases continues.symm.mem inLast with ⟨phase, inFirst⟩
    rcases ends _ inFirst with ⟨final, inLast', sameDevice, isOver, -⟩
    rwa [← List.inj_on_of_nodup_map kept.distinct inLast' inLast sameDevice]
  refine ⟨last.answer, ?_, continues.operation.trans ready.operation, fun task member => ?_⟩
  · have isLast' : ((world.engage requests).after (world.engage requests).bound).sessions[i]? =
        some last := isLast
    simp [Run.answer?, isLast', Option.filter, finished]
  · rcases ends task member with ⟨-, -, -, -, concludes⟩
    rcases continues.mem member with ⟨phase, stillThere⟩
    rcases kept.outcome finished stillThere with ⟨outcome, collected, brought⟩
    have settled : task.Settled outcome :=
      (Task.settling (δ := Transcribed δ)).enter task.phase brought
    refine ⟨outcome, ?_, settled, kept.tells (fun settled _ => settled.own) collected⟩
    -- The outcome was collected when the session was over, which is perhaps long ago.
    rcases live.exists_over isLast finished with ⟨first, earlier, isFirst, isLive⟩
    rcases ready.accounts isSession first task.device with ⟨last', books', -⟩
    obtain rfl := Option.some.inj (isFirst.symm.trans books'.isSession)
    rcases books'.accounts.after finished outcome collected with delivered | ⟨-, interrupted⟩
    · rcases ready.accounts isSession (world.engage requests).bound task.device with
        ⟨_, inTheEnd, -⟩
      have reported := (world.engage requests).deliveries_mono i task.device earlier
      rw [delivered] at reported
      have all : [outcome] = (world.engage requests).deliveries i task.device
          (world.engage requests).bound := reported.eq_of_length_le inTheEnd.accounts.atMostOnce
      rwa [← all] at concludes
    · rw [continues.context, ready.context] at interrupted
      exact absurd isLive interrupted

end World

end AvControl
