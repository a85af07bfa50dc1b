import AvControl.Proofs.Engine.Success
import AvControl.Proofs.Virtual.Updates

/-!
# What is echoed was applied

Whatever happens, and whether requests run out of time or not: what a coordinator has collected of a
device was found by a task, and what a task has found it has brought about. So a setting that an
answer echoes was written to the device while the request was at work. The record says the more in
the case of a request that has no report: every setting that it asks for was written.
-/

namespace AvControl

open Relation Virtual

namespace Session

variable {session : Session} {driver address : String} {field : Field} {setting : Setting}

/-- What a coordinator makes up for devices that it gives up on has no findings. -/
theorem mem_arrived_giveUp {error : String} {entry : DeviceId × Outcome}
    (member : entry ∈ (session.giveUp error).arrived) :
    entry ∈ session.arrived ∨ entry.2.findings = [] := by
  simp only [arrived, giveUp, List.append_nil, List.mem_append, List.mem_map] at member
  rcases member with collected | ⟨device, -, rfl⟩
  · exact Or.inl (List.mem_append_left _ collected)
  · exact Or.inr rfl

theorem mem_arrived_coordinate {ended : Option Interruption} {entry : DeviceId × Outcome}
    (member : entry ∈ (session.coordinate ended).arrived) :
    entry ∈ session.arrived ∨ entry.2.findings = [] := by
  cases ended with
  | some interruption =>
      have gaveUp := mem_arrived_giveUp member
      rwa [arrived_collect] at gaveUp
  | none =>
      simp only [coordinate] at member
      split at member
      · have gaveUp := mem_arrived_giveUp member
        rwa [arrived_collect] at gaveUp
      · rw [arrived_collect] at member
        exact Or.inl member

theorem mem_arrived_attend {δ : Type} {world : World δ} {entry : DeviceId × Outcome}
    (member : entry ∈ (session.attend world).2.arrived) :
    entry ∈ session.arrived ∨ entry.2.findings = [] := by
  have attends := session.attend_attends world
  generalize session.attend world = attended at attends member
  cases attends with
  | rests => exact Or.inl member
  | givesUp | collects => exact mem_arrived_coordinate member
  | cancels =>
      rcases mem_arrived_coordinate member with arrived | nothing
      · exact mem_arrived_coordinate arrived
      · exact Or.inr nothing

/-- Looking around does not bring a coordinator anything that no task has set. -/
theorem sets_of_attend {δ : Type} {world : World δ}
    (sets : (session.attend world).2.Sets driver address field setting) :
    session.Sets driver address field setting := by
  rcases sets with ⟨task, member, here, finding, isFound, writes⟩
  rw [tasks_attend] at member
  refine ⟨task, member, here, finding, ?_, writes⟩
  rcases List.mem_append.1 isFound with own | arrived
  · exact List.mem_append_left _ own
  · refine List.mem_append_right _ ?_
    rcases List.mem_flatMap.1 arrived with ⟨entry, isEntry, inEntry⟩
    rcases List.mem_filter.1 isEntry with ⟨hasArrived, isOwn⟩
    rcases mem_arrived_attend hasArrived with before | nothing
    · exact List.mem_flatMap.2 ⟨entry, List.mem_filter.2 ⟨before, isOwn⟩, inEntry⟩
    · rw [nothing] at inEntry
      cases inEntry

/-- A setting that is echoed was set by the task of the device. -/
theorem Kept.sets_of_echo {task : Task} {state : DeviceState} {request : StateRequest}
    {room : RoomConfig} (kept : session.Kept Task.UnderWay Task.Settled)
    (finished : session.finished = true) (isSet : session.operation = .set request)
    (member : task ∈ session.tasks)
    (targeted : (task.device, task.work) ∈ session.operation.targets room)
    (echoed : session.answer.echo? task.device = some state)
    (isSetting : state.setting? field = some setting) :
    session.Sets task.config.driver task.config.address field setting := by
  rcases kept.outcome finished member with ⟨outcome, collected, settled⟩
  have once : (session.collected.map Prod.fst).Nodup :=
    kept.once.sublist ((List.sublist_append_left session.collected session.mailbox).map _)
  rw [isSet] at targeted
  rcases Operation.exists_apply targeted with ⟨desired, -, applies⟩
  rw [echo?_answer_of_set isSet once collected] at echoed
  rcases (settled.exists_write? applies).2 ⟨state, echoed, isSetting⟩ with
    ⟨finding, isFinding, writes⟩
  refine ⟨task, member, rfl, finding, List.mem_append_right _ ?_, writes⟩
  refine List.mem_flatMap.2 ⟨_, List.mem_filter.2 ⟨List.mem_append_left _ collected, ?_⟩, isFinding⟩
  simp

end Session

namespace Run

variable {δ : Type} [Driver δ] [Enacts δ] {run next : Run (Recorded δ)}

/-- What requests have set is on record. -/
structure Records (run : Run (Recorded δ)) : Prop where
  orderly : run.Orderly
  written : ∀ driver address field setting, run.Sets driver address field setting →
    setting ∈ run.world.writes driver address field

namespace Records

omit [Driver δ] [Enacts δ] in
theorem quiet (records : run.Records) (orderly : next.Orderly)
    (writes : ∀ driver address field, next.world.writes driver address field =
      run.world.writes driver address field)
    (sets : ∀ driver address field setting, next.Sets driver address field setting →
      run.Sets driver address field setting) : next.Records := by
  refine ⟨orderly, fun driver address field setting isSet => ?_⟩
  rw [writes]
  exact records.written _ _ _ _ (sets _ _ _ _ isSet)

theorem receive {i j : Nat} {session : Session} {task : Task}
    {result : World (Recorded δ) × Task × Option Outcome} (records : run.Records)
    (orderly : (run.receive i session j result).Orderly)
    (isSession : run.sessions[i]? = some session) (isTask : session.tasks[j]? = some task)
    (stirs : task.Stirs session.context run.world result) :
    (run.receive i session j result).Records := by
  rcases stirs.exists_does with ⟨deal, does, gains⟩
  refine ⟨orderly, fun driver address field setting isSet => ?_⟩
  change setting ∈ result.1.writes driver address field
  rw [does.writes, List.mem_append, Option.mem_toList]
  have before : ∀ other ∈ run.sessions, other.Sets driver address field setting →
      setting ∈ run.world.writes driver address field :=
    fun other member sets => records.written _ _ _ _ ⟨other, member, sets⟩
  have isOld := List.mem_of_getElem? isSession
  rcases isSet with ⟨other, member, sets⟩
  rcases List.mem_or_eq_of_mem_set member with isOther | rfl
  · exact Or.inl (before other isOther sets)
  · rcases stirs.eq_enter with ⟨phase, isPhase⟩
    rcases result with ⟨world, task', outcome⟩
    obtain rfl : task' = task.enter phase := isPhase
    have received := Session.sets_receive driver address field setting
      (records.orderly session isOld) isTask gains
    rcases received.1 sets with already | ⟨here, finding, isFinding, writes⟩
    · exact Or.inl (before session isOld already)
    · refine Or.inr ?_
      rw [Option.mem_toList] at isFinding
      rw [Task.gain?, if_pos here, isFinding]
      exact writes

end Records

/-- Whatever happens, what requests have set is on record. -/
theorem Happens.records (happens : Happens run next) (records : run.Records) : next.Records := by
  have orderly := happens.orderly records.orderly
  cases happens with
  | creates | cancels => exact records.quiet orderly (fun _ _ _ => rfl) fun _ _ _ _ sets => sets
  | visits =>
      exact records.quiet orderly (fun _ _ _ => run.world.writes_lookAfter _ _ _ _ _ _ _)
        fun _ _ _ _ sets => sets
  | configures configured =>
      exact records.quiet orderly (fun _ _ _ => World.writes_configure configured _ _ _)
        fun _ _ _ _ sets => sets
  | arrives prepared =>
      refine records.quiet orderly (fun _ _ _ => rfl) fun driver address field setting sets => ?_
      rcases sets with ⟨session, member, isSet⟩
      rcases List.mem_append.1 member with isOld | isNew
      · exact ⟨session, isOld, isSet⟩
      · obtain rfl := List.mem_singleton.1 isNew
        exact absurd isSet (not_sets_of_ready (World.ready_of_prepare prepared) _ _ _ _)
  | advances advances =>
      cases advances with
      | waits => exact records.quiet orderly (fun _ _ _ => rfl) fun _ _ _ _ sets => sets
      | @attends i session isSession =>
          have same : (session.attend run.world).1.registry = run.world.registry := by
            rcases attend_world session run.world with ⟨tokens, -, same⟩
            rw [same]
          refine records.quiet orderly (fun _ _ _ => ?_) fun driver address field setting sets => ?_
          · simp only [World.writes, World.deeds, same]
          · rcases sets with ⟨other, member, isSet⟩
            rcases List.mem_or_eq_of_mem_set member with isOld | rfl
            · exact ⟨other, isOld, isSet⟩
            · exact ⟨session, List.mem_of_getElem? isSession, Session.sets_of_attend isSet⟩
      | stirs isSession unfinished isTask stirs =>
          exact records.receive orderly isSession isTask stirs

omit [Driver δ] [Enacts δ] in
theorem records_recorded (world : World δ) :
    Records { world := world.recorded, sessions := [] } where
  orderly := by simp [Orderly]
  written := by simp [Sets]

theorem Happenings.records {world : World δ}
    (happenings : Happenings { world := world.recorded, sessions := [] } next) : next.Records := by
  induction happenings with
  | refl => exact records_recorded world
  | tail _ happens ih => exact happens.records ih

end Run

namespace World

variable {δ : Type} [Driver δ] [Enacts δ] {world : World δ} {request : RoomRequest}
  {world' : World (Recorded δ)}

/-- What is echoed of a device was written to it while the request was at work. -/
theorem writes_of_echo {change : StateRequest} {response : RoomResponse DeviceState}
    {device : DeviceId} {state : DeviceState} {field : Field} {setting : Setting}
    (isSet : request.operation = .set change)
    (served : world.recorded.serveOne request none = (world', some (.ok ⟨.set change, response⟩)))
    (echoed : response.devices.get? device = some state)
    (isSetting : state.setting? field = some setting) :
    ∃ config, request.room.devices.get? device = some config ∧
      setting ∈ world'.writes config.driver config.address field := by
  rcases exists_last served with ⟨start, last, ready, reaches, finished, isEnd, isAnswer⟩
  have records : Run.Records { world := world', sessions := [last] } := by
    rw [← isEnd]
    exact (Run.happenings_serve world.recorded [request] none).records
  have kept := records.orderly last (by simp)
  have isTarget : device ∈ last.tasks.map Task.device := by
    by_contra foreign
    have silent := kept.about_others foreign
    rw [← isAnswer] at silent
    have noData : response.devices.get? device = none := congrArg Prod.fst silent
    rw [noData] at echoed
    cases echoed
  rw [reaches.continues.devices] at isTarget
  rcases List.mem_map.1 isTarget with ⟨task, member, rfl⟩
  have isConfig : request.room.devices.get? task.device = some task.config := by
    rcases ready.assigned member with ⟨target, -, assigned⟩
    rw [assigned.device]
    exact assigned.config
  have targeted := ready.targets member
  rw [← reaches.continues.operation] at targeted
  rcases reaches.continues.mem member with ⟨phase, isTask⟩
  have sets := kept.sets_of_echo finished
    (reaches.continues.operation.trans (ready.operation.trans isSet)) isTask targeted
    (isAnswer ▸ echoed) isSetting
  exact ⟨task.config, isConfig,
    records.written _ _ _ _ ⟨last, List.mem_singleton_self last, sets⟩⟩

end World

end AvControl
