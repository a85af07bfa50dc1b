import AvControl.Proofs.Engine.Passage
import Mathlib.Data.ENat.Lattice
import Mathlib.Order.CompletePartialOrder

/-!
# Requests without a deadline

A request that has no deadline, and that nobody cancels, waits for all its tasks. Whatever they
report is collected at the time at which it is reported, and until then the request is not over.
-/

namespace AvControl

namespace Session

variable {δ : Type}

/-- A session has gone on, and nothing is lost that had arrived. -/
structure Onward (before after : Session) : Prop where
  continues : before.Continues after
  arrived : ∀ entry ∈ before.arrived, entry ∈ after.arrived

theorem Onward.refl (session : Session) : session.Onward session :=
  ⟨.refl session, fun _ member => member⟩

theorem Onward.trans {first middle last : Session} (earlier : first.Onward middle)
    (later : middle.Onward last) : first.Onward last where
  continues := earlier.continues.trans later.continues
  arrived entry member := later.arrived entry (earlier.arrived entry member)

/-- A coordinator under a live context, whom nobody tells to stop, collects what has arrived. -/
theorem attend_live {session : Session} {world : World δ} (unfinished : session.finished = false)
    (live : world.interruption? session.context = none) (patient : session.cancelAt = none) :
    session.attend world = (world, session.coordinate none) := by
  have noTime : (session.coordinate none).isToBeCancelled world.clock = false := by
    have same := (session.continues_coordinate none).cancelAt
    simp [isToBeCancelled, same, patient]
  simp [attend, unfinished, live, noTime]

theorem onward_receive [Driver δ] {session : Session} {j : Nat} {task : Task} (world : World δ)
    (isTask : session.tasks[j]? = some task) :
    session.Onward (session.receive j (task.poll session.context world).2) := by
  refine ⟨continues_receive world isTask, ?_⟩
  intro entry member
  rcases List.mem_append.1 member with collected | inMailbox
  · exact List.mem_append_left _ collected
  · exact List.mem_append_right _ (List.mem_append_left _ inMailbox)

theorem unreported_of_continues {before after : Session} (continues : before.Continues after)
    (collected : after.collected = before.collected) : after.unreported = before.unreported := by
  simp only [unreported, hasCollected, continues.devices, collected]

end Session

namespace Run

variable {δ : Type} {run : Run δ} {session : Session}

/-- Whether the task for a device has reported. -/
def HasReported (run : Run δ) (device : DeviceId) : Prop :=
  ∃ session ∈ run.sessions, ∃ task ∈ session.tasks,
    task.device = device ∧ task.phase = .reported

/-- A run with one request, which has no deadline and is not told to stop. -/
structure Unhurried (run : Run δ) (session : Session) : Prop where
  alone : run.sessions = [session]
  unbounded : session.context.deadline = none
  patient : session.cancelAt = none
  kept : session.Kept Task.UnderWay Task.Settled
  allReported : session.finished = true → ∀ task ∈ session.tasks, task.phase = .reported

/-- The request is not over while there is something that has not been collected. -/
structure Collecting (run : Run δ) (session : Session) : Prop extends run.Unhurried session where
  waits : session.finished = false → session.unreported ≠ []

theorem Unhurried.finished_eq (unhurried : run.Unhurried session) :
    run.finished = session.finished := by
  simp [finished, unhurried.alone]

theorem Unhurried.wind (unhurried : run.Unhurried session) (time : Nat) :
    (run.wind time).Unhurried session :=
  ⟨unhurried.alone, unhurried.unbounded, unhurried.patient, unhurried.kept, unhurried.allReported⟩

/-- The tasks that have reported are those whose outcomes have arrived. -/
theorem Unhurried.reported_iff (unhurried : run.Unhurried session) {device : DeviceId} :
    run.HasReported device ↔ device ∈ session.arrived.map Prod.fst := by
  have inBooks : ∀ task ∈ session.tasks,
      task.phase = .reported ↔ task.device ∈ session.arrived.map Prod.fst := by
    cases finished : session.finished with
    | false => exact unhurried.kept.reported finished
    | true =>
        intro task member
        rcases unhurried.kept.outcome finished member with ⟨outcome, collected, -⟩
        refine iff_of_true (unhurried.allReported finished task member) ?_
        exact List.mem_map.2 ⟨_, List.mem_append_left _ collected, rfl⟩
  constructor
  · rintro ⟨other, isSession, task, member, rfl, reported⟩
    rw [unhurried.alone, List.mem_singleton] at isSession
    subst isSession
    exact (inBooks task member).1 reported
  · intro hasArrived
    rcases List.mem_map.1 hasArrived with ⟨entry, member, rfl⟩
    rcases unhurried.kept.brought entry member with ⟨task, isTask, sameDevice, -⟩
    refine ⟨session, by simp [unhurried.alone], task, isTask, sameDevice, ?_⟩
    rw [inBooks task isTask, sameDevice]
    exact hasArrived

/-- When nobody has anything to do but wait, a task of an unfinished request has not reported. -/
theorem Collecting.missing (collecting : run.Collecting session)
    (unfinished : run.finished = false) (noMail : run.hasMail = false) :
    ∃ device ∈ session.tasks.map Task.device, ¬run.HasReported device := by
  rw [collecting.finished_eq] at unfinished
  have emptyMailbox : session.mailbox = [] := by
    simpa [hasMail, collecting.alone, unfinished] using noMail
  rcases List.exists_mem_of_ne_nil _ (collecting.waits unfinished) with ⟨device, missing⟩
  rcases Session.mem_unreported.1 missing with ⟨isDevice, notCollected⟩
  refine ⟨device, isDevice, ?_⟩
  rw [collecting.reported_iff, Session.arrived, emptyMailbox, List.append_nil]
  exact notCollected

variable [Driver δ]

/-- When the coordinators look around, that of an unhurried request collects all there is. -/
theorem Unhurried.attend (unhurried : run.Unhurried session)
    (live : run.world.interruption? session.context = none) :
    ∃ session', run.attend.Collecting session' ∧ session.Onward session' := by
  cases finished : session.finished with
  | true =>
      have stays : session.attend run.world = (run.world, session) := by
        simp [Session.attend, finished]
      have same : run.attend = run := by
        rcases run with ⟨world, sessions⟩
        obtain rfl : sessions = [session] := unhurried.alone
        simp only [Run.attend, attendAll_cons, stays]
        rfl
      rw [same]
      exact ⟨session, ⟨unhurried, by simp [finished]⟩, .refl session⟩
  | false =>
      have attended := Session.attend_live finished live unhurried.patient
      have alone : run.attend.sessions = [session.coordinate none] := by
        simp only [Run.attend, unhurried.alone, attendAll_cons, attended]
        rfl
      have arrived := unhurried.kept.arrived_live finished
      have kept := unhurried.kept.coordinate (δ := δ) Task.settling finished none
      have continues := session.continues_coordinate none
      rw [unhurried.kept.coordinate_live finished] at alone arrived kept continues
      refine ⟨_, ⟨⟨alone, unhurried.unbounded, unhurried.patient, kept, ?_⟩, ?_⟩, continues, ?_⟩
      · intro isOver task member
        rcases kept.outcome isOver member with ⟨outcome, collected, -⟩
        rw [unhurried.kept.reported finished task member, ← arrived]
        exact List.mem_map.2 ⟨_, List.mem_append_left _ collected, rfl⟩
      · intro unfinished
        exact List.isEmpty_eq_false_iff.1 unfinished
      · intro entry member
        rwa [arrived]

theorem Collecting.step {next : Run δ} (collecting : run.Collecting session)
    (steps : Steps none run next) (live : next.world.interruption? session.context = none) :
    ∃ session', next.Collecting session' ∧ session.Onward session' := by
  have liveBefore : ∀ now, session.context.interruption? run.world.tokens now = none :=
    fun now => RequestContext.live_without_deadline collecting.unbounded steps.tokens live
  cases steps with
  | @poll _ i j other task _ isSession unfinished isTask _ =>
      rw [collecting.alone, List.getElem?_singleton] at isSession
      split at isSession
      · rename_i isFirst
        subst isFirst
        obtain rfl := Option.some.inj isSession
        have onward := Session.onward_receive run.world isTask
        refine ⟨session.receive j (task.poll session.context run.world).2,
          ⟨⟨?_, collecting.unbounded, collecting.patient,
            collecting.kept.receive Task.settling unfinished run.world isTask, ?_⟩, ?_⟩, onward⟩
        · rw [collecting.alone]
          rfl
        · intro isOver
          simp [Session.receive, unfinished] at isOver
        · intro _
          rw [Session.unreported_of_continues onward.continues rfl]
          exact collecting.waits unfinished
      · cases isSession
  | collect => exact collecting.toUnhurried.attend (liveBefore _)
  | @wait time => exact (collecting.toUnhurried.wind time).attend (liveBefore time)

theorem Collecting.go {steps : Nat} : ∀ {run : Run δ} {session : Session},
    run.Collecting session →
    (go none steps run).world.interruption? session.context = none →
    ∃ session', (go none steps run).Collecting session' ∧ session.Onward session' := by
  induction steps with
  | zero => exact fun collecting _ => ⟨_, collecting, .refl _⟩
  | succ steps ih =>
      intro run session collecting live
      cases isNext : run.step none with
      | none =>
          rw [go_ended isNext]
          exact ⟨session, collecting, .refl session⟩
      | some next =>
          rw [go_step isNext] at live ⊢
          have liveNext : next.world.interruption? session.context = none :=
            RequestContext.live_without_deadline collecting.unbounded (go_tokens none steps next)
              live
          rcases collecting.step (step_steps isNext).2 liveNext with ⟨middle, collecting', first⟩
          rw [← first.continues.context] at live
          rcases ih collecting' live with ⟨last, collecting'', others⟩
          exact ⟨last, collecting'', first.trans others⟩

/-! ### Time -/

/-- The time that passes until the task for a device has reported, infinite if it never does. -/
noncomputable def reportTime (run : Run δ) (device : DeviceId) : ℕ∞ :=
  ⨅ (steps : Nat) (_ : (run.after steps).HasReported device),
    (((run.after steps).world.clock - run.world.clock : Nat) : ℕ∞)

/-- Time passes a moment in one step, in which nobody has anything to do but wait. -/
theorem exists_wait {moment : Nat} (steps : Nat) : ∀ run : Run δ, run.world.clock < moment →
    moment ≤ (Run.go none steps run).world.clock → ∃ waits < steps,
      (Run.go none waits run).world.clock < moment ∧
      moment ≤ (Run.go none (waits + 1) run).world.clock ∧
      (Run.go none waits run).finished = false ∧ (Run.go none waits run).hasMail = false := by
  induction steps with
  | zero =>
      intro run before reached
      exact absurd reached (Nat.not_le.2 before)
  | succ steps ih =>
      intro run before reached
      cases isNext : run.step none with
      | none =>
          rw [go_ended isNext] at reached
          exact absurd reached (Nat.not_le.2 before)
      | some next =>
          rw [go_step isNext] at reached
          rcases Nat.lt_or_ge next.world.clock moment with stillBefore | passes
          · rcases ih next stillBefore reached with ⟨waits, less, found⟩
            refine ⟨waits + 1, Nat.succ_lt_succ less, ?_⟩
            rw [go_step isNext, go_step isNext]
            exact found
          · rcases step_steps isNext with ⟨⟨unfinished, -⟩, steps'⟩
            refine ⟨0, Nat.succ_pos steps, before, by rwa [go_step isNext],
              unfinished, ?_⟩
            cases steps' with
            | @poll _ _ _ session task =>
                have sameClock := (task.poll_polls session.context run.world).later.clock
                dsimp only at passes
                omega
            | collect =>
                rw [attend_clock] at passes
                exact absurd passes (Nat.not_le.2 before)
            | wait idle noMail => exact noMail

/-! ### The whole run -/

/-- A run with one request, which has no deadline and is never cancelled. -/
structure Undisturbed (run : Run δ) (session : Session) : Prop extends run.Unhurried session where
  ends : (run.complete none).step none = none
  live : (run.complete none).world.interruption? session.context = none

namespace Undisturbed

variable {run : Run δ} {session : Session}

theorem onward_end (undisturbed : run.Undisturbed session) (steps : Nat) :
    Run.go none run.bound (run.after steps) = run.complete none := by
  rw [after, go_add, Nat.add_comm, ← go_add]
  exact go_ended undisturbed.ends steps

theorem live_after (undisturbed : run.Undisturbed session) (steps now : Nat) :
    session.context.interruption? (run.after steps).world.tokens now = none := by
  have below := go_tokens none run.bound (run.after steps)
  rw [undisturbed.onward_end] at below
  exact RequestContext.live_without_deadline undisturbed.unbounded below undisturbed.live

theorem collecting (undisturbed : run.Undisturbed session) (steps : Nat) :
    ∃ session', (run.after steps).Collecting session' ∧ session.Onward session' := by
  rcases run.world_attend with ⟨tokens, below, same⟩
  have liveFirst : run.attend.world.interruption? session.context = none :=
    undisturbed.live_after 0 _
  have liveStart : run.world.interruption? session.context = none := by
    rw [same] at liveFirst
    exact RequestContext.live_of_below below liveFirst
  rcases undisturbed.toUnhurried.attend liveStart with ⟨first, collecting, onward⟩
  have live := undisturbed.live_after steps (run.after steps).world.clock
  rw [← onward.continues.context] at live
  rcases collecting.go live with ⟨last, collecting', onward'⟩
  exact ⟨last, collecting', onward.trans onward'⟩

theorem collecting_end (undisturbed : run.Undisturbed session) :
    ∃ session', (run.complete none).Collecting session' ∧ session.Onward session' :=
  undisturbed.collecting run.bound

/-- What has arrived at some time has arrived later, too. -/
theorem onward (undisturbed : run.Undisturbed session) {first second : Nat}
    (earlier : first ≤ second) {before after : Session}
    (collecting : (run.after first).Collecting before)
    (collecting' : (run.after second).Collecting after) : before.Onward after := by
  rcases Nat.exists_eq_add_of_le earlier with ⟨more, rfl⟩
  have same : Run.go none more (run.after first) = run.after (first + more) :=
    go_add none more first run.attend
  rcases undisturbed.collecting first with ⟨before', isBefore, continues⟩
  obtain rfl : before' = before := by simpa [isBefore.alone] using collecting.alone
  have live := undisturbed.live_after (first + more) (run.after (first + more)).world.clock
  rw [← continues.continues.context, ← same] at live
  rcases collecting.go live with ⟨after', isAfter, onward⟩
  rw [same] at isAfter
  obtain rfl : after' = after := by simpa [isAfter.alone] using collecting'.alone
  exact onward

/-- What has arrived at some time has arrived in the end. -/
theorem onward_to_end (undisturbed : run.Undisturbed session) {steps : Nat} {before last : Session}
    (collecting : (run.after steps).Collecting before)
    (collecting' : (run.complete none).Collecting last) : before.Onward last := by
  have same : run.after (steps + run.bound) = run.complete none := by
    rw [← undisturbed.onward_end steps]
    exact (go_add none run.bound steps run.attend).symm
  rw [← same] at collecting'
  exact undisturbed.onward (Nat.le_add_right steps run.bound) collecting collecting'

theorem hasReported_mono (undisturbed : run.Undisturbed session) {first second : Nat}
    (earlier : first ≤ second) {device : DeviceId}
    (reported : (run.after first).HasReported device) :
    (run.after second).HasReported device := by
  rcases undisturbed.collecting first with ⟨before, collecting, -⟩
  rcases undisturbed.collecting second with ⟨after, collecting', -⟩
  rw [collecting.reported_iff] at reported
  rw [collecting'.reported_iff]
  rcases List.mem_map.1 reported with ⟨entry, member, rfl⟩
  exact List.mem_map.2 ⟨entry, (undisturbed.onward earlier collecting collecting').arrived _ member,
    rfl⟩

/-- A task that has not reported before some moment takes at least that long. -/
theorem le_reportTime (undisturbed : run.Undisturbed session) {steps moment : Nat}
    {device : DeviceId} (missing : ¬(run.after steps).HasReported device)
    (passes : moment ≤ (run.after (steps + 1)).world.clock) :
    ((moment - run.world.clock : Nat) : ℕ∞) ≤ run.reportTime device := by
  apply le_iInf₂
  intro other reported
  have later : steps + 1 ≤ other := by
    by_contra earlier
    exact missing (undisturbed.hasReported_mono (by omega) reported)
  have passes' := run.clock_after_mono later
  exact_mod_cast Nat.sub_le_sub_right (passes.trans passes') run.world.clock

/-- A request is over at the time at which the last of its tasks reports. -/
theorem time_of_finished (undisturbed : run.Undisturbed session) {steps : Nat}
    (finished : (run.after steps).finished = true) :
    ⨆ device ∈ session.tasks.map Task.device, run.reportTime device =
      (((run.after steps).world.clock - run.world.clock : Nat) : ℕ∞) := by
  rcases undisturbed.collecting steps with ⟨last, collecting, onward⟩
  apply le_antisymm
  · refine iSup₂_le fun device isDevice => iInf₂_le steps ?_
    rw [← onward.continues.devices] at isDevice
    rcases List.mem_map.1 isDevice with ⟨task, member, rfl⟩
    rw [collecting.finished_eq] at finished
    exact ⟨last, by simp [collecting.alone], task, member, rfl,
      collecting.allReported finished task member⟩
  · rcases Nat.eq_or_lt_of_le (run.clock_le_after steps) with noTime | time
    · rw [← noTime, Nat.sub_self]
      exact bot_le
    · rw [← attend_clock run] at time
      rcases exists_wait steps run.attend time (Nat.le_refl _) with
        ⟨waits, -, -, passes, unfinished, noMail⟩
      rcases undisturbed.collecting waits with ⟨middle, collecting', onward'⟩
      rcases collecting'.missing unfinished noMail with ⟨device, isDevice, missing⟩
      rw [onward'.continues.devices] at isDevice
      exact (undisturbed.le_reportTime missing passes).trans
        (le_iSup₂ (f := fun device _ => run.reportTime device) device isDevice)

end Undisturbed

end Run

namespace World

variable {δ : Type}

theorem engage_one {world : World δ} {request : RoomRequest} {session : Session}
    (prepared : world.prepare request = .ok session) :
    (world.engage [request]).sessions = [session] := by
  simp [engage, prepared, Except.toOption]

variable [Driver δ]

/-- A request that does not pass the checks is answered at once, and nothing happens. -/
theorem serveOne_refused {world : World δ} {request : RoomRequest} {error : RequestError}
    {patience : Option Nat} (refused : world.prepare request = .error error) :
    world.serveOne request patience = (world, some (.error error)) := by
  have nothing : world.engage [request] = { world, sessions := [] } := by
    simp [engage, refused, Except.toOption]
  have ended : (world.engage [request]).complete patience = { world, sessions := [] } := by
    rw [nothing]
    exact Run.go_ended (Run.step_of_finished rfl patience) _
  simp [serveOne, serve_eq, ended, Run.finished, refused, distribute]

theorem serveOne_eq {world : World δ} {request : RoomRequest} {start last : Session}
    (prepared : world.prepare request = .ok start)
    (finished : ((world.engage [request]).complete none).finished = true)
    (alone : ((world.engage [request]).complete none).sessions = [last]) :
    world.serveOne request none =
      (((world.engage [request]).complete none).world, some (.ok last.answer)) := by
  simp [serveOne, serve_eq, finished, alone, prepared, distribute]

/-- A request that is answered has a session that came to its end. -/
theorem serveOne_ok {world world' : World δ} {request : RoomRequest} {answer : Answer}
    (served : world.serveOne request none = (world', some (.ok answer))) :
    ∃ start last, world.prepare request = .ok start ∧
      ((world.engage [request]).complete none).finished = true ∧
      (world.engage [request]).complete none = { world := world', sessions := [last] } ∧
      answer = last.answer := by
  simp only [serveOne, serve_eq] at served
  split at served
  · rename_i finished
    obtain ⟨rfl, isFirst⟩ := Prod.mk.inj served
    cases prepared : world.prepare request with
    | error => simp [prepared, distribute] at isFirst
    | ok start =>
        have reaches := (world.engage [request]).complete_reaches none
        rw [engage_one prepared] at reaches
        generalize (world.engage [request]).complete none = ended at reaches isFirst finished
        rcases ended with ⟨world', sessions⟩
        cases reaches with
        | @cons _ last _ _ reached others =>
            cases others
            refine ⟨start, last, rfl, finished, rfl, ?_⟩
            simpa [prepared, distribute, eq_comm] using isFirst
  · simp at served

omit [Driver δ] in
theorem unhurried_engage {world : World δ} {request : RoomRequest} {session : Session}
    (prepared : world.prepare request = .ok session) (unbounded : request.context.deadline = none)
    (patient : request.cancelAt = none) : (world.engage [request]).Unhurried session := by
  have ready := ready_of_prepare prepared
  refine ⟨engage_one prepared, ?_, ?_, ready.kept ready.underWay, ?_⟩
  · rw [ready.context]
    exact unbounded
  · rw [ready.cancelAt]
    exact patient
  · intro isOver
    simp [ready.unfinished] at isOver

/-- A request without a deadline that nobody cancels waits for all its tasks. -/
theorem undisturbed {world : World δ} {request : RoomRequest} {session : Session}
    (prepared : world.prepare request = .ok session) (unbounded : request.context.deadline = none)
    (patient : request.cancelAt = none)
    (live : ((world.engage [request]).complete none).world.interruption? request.context = none) :
    (world.engage [request]).Undisturbed session := by
  refine ⟨unhurried_engage prepared unbounded patient, world.complete_ends _ none, ?_⟩
  rw [(ready_of_prepare prepared).context]
  exact live

end World

end AvControl
