import AvControl.Driver.Direct
import AvControl.Proofs.Virtual.Bounds
import AvControl.Proofs.Virtual.Wiring

/-!
# The life of a virtual device

From its opening on a virtual device is called any number of times, with whatever arguments, under
contexts that may have ended or end on the way. A call is either broken off, and then nothing has
happened, or it is done all at once when its round trip is over. The device therefore always is as
the writes that have succeeded have left it.
-/

namespace AvControl

open Virtual

/-- A call of a device: when it is made, under which context, and what is cancelled by then. -/
structure DirectCall where
  now : Nat
  tokens : Tokens
  context : RequestContext
  command : Command

/--
The context of a call is live, and remains so for as long as the call takes. To a device it is the
same whether somebody cancels the context on the way or its deadline passes.
-/
def DirectCall.Outlasts (call : DirectCall) (latency : Nat) : Prop :=
  call.context.interruption? call.tokens call.now = none ∧
    ∀ deadline ∈ call.context.deadline, call.now + latency ≤ deadline

/-- A wait is over in time exactly when the context lasts as long. -/
theorem RequestContext.await_cases (context : RequestContext) (tokens : Tokens) (now due : Nat) :
    (context.interruption? tokens now = none ∧ (∀ deadline ∈ context.deadline, due ≤ deadline)) ∧
        context.await tokens now (some due) none = .finished due ∨
      ¬(context.interruption? tokens now = none ∧ ∀ deadline ∈ context.deadline, due ≤ deadline) ∧
        ∃ time interruption,
          context.await tokens now (some due) none = .interrupted time interruption := by
  cases ended : context.interruption? tokens now with
  | some interruption => exact Or.inr ⟨by simp, now, interruption, by simp [await, ended]⟩
  | none =>
      cases isDeadline : context.deadline with
      | none => exact Or.inl ⟨by simp, by simp [await, ended, isDeadline, earlier]⟩
      | some deadline =>
          by_cases inTime : due ≤ deadline
          · exact Or.inl ⟨by simpa using inTime,
              by simp [await, ended, isDeadline, earlier, Nat.min_eq_left inTime]⟩
          · have late : min due deadline = deadline := Nat.min_eq_right (by omega)
            refine Or.inr ⟨by simpa using inTime, deadline, .deadlineExceeded, ?_⟩
            have notDue : due ≠ deadline := by omega
            simp [await, ended, isDeadline, earlier, late, notDue]

/-- The reply of a device that obeys or refuses. -/
def Reply.ofExcept {α : Type} : Except DriverError α → Reply α
  | .ok result => .ok result
  | .error failure => .error failure

/-- A command that a device was asked to obey, and its reply, if there was one. -/
structure CallRecord where
  command : Command
  reply : Option (Reply command.Result)

/-- What a call has set a field to, provided that it is a write and has succeeded. -/
def CallRecord.write? (field : Field) : CallRecord → Option Setting
  | ⟨command, some (.ok _)⟩ => if command.field = field then command.setting? else none
  | _ => none

/-- What a field was last set to by calls that have succeeded, or else what it is at first. -/
def Virtual.Model.lastWritten (model : Model) (records : List CallRecord) (field : Field) :
    Option Setting :=
  (records.filterMap (CallRecord.write? field)).getLast?.or (model.fresh.setting? field)

theorem Virtual.Model.lastWritten_append (model : Model) (records : List CallRecord)
    (last : CallRecord) (field : Field) : model.lastWritten (records ++ [last]) field =
      (last.write? field).or (model.lastWritten records field) := by
  simp only [lastWritten, List.filterMap_append, List.filterMap_cons, List.filterMap_nil]
  cases last.write? field <;> simp [List.getLast?_append]

namespace VirtualDriver

/-- Make one call of the device at an address, and wait until it is over. -/
def take (driver : VirtualDriver) (address : String) (call : DirectCall) :
    VirtualDriver × Option (Reply call.command.Result) :=
  let user : SoleUser VirtualDriver := { driver, clock := call.now, tokens := call.tokens }
  let done := user.call call.context address call.command
  (done.1.driver, done.2)

/-- Make some calls of the device at an address, one after another, and write down the replies. -/
def takeAll (address : String) : List DirectCall → VirtualDriver → VirtualDriver × List CallRecord
  | [], driver => (driver, [])
  | call :: rest, driver =>
    let (driver, reply) := driver.take address call
    let (driver, records) := takeAll address rest driver
    (driver, ⟨call.command, reply⟩ :: records)

/-- A call is broken off by its context, or else the device obeys or refuses the command. -/
theorem take_cases (driver : VirtualDriver) (address : String) (call : DirectCall) :
    (¬call.Outlasts (driver.latencyAt address) ∧ ∃ interruption,
        driver.take address call = (driver, some (.error (.ofInterruption interruption)))) ∨
      call.Outlasts (driver.latencyAt address) ∧
        driver.take address call = ((driver.perform address call.command).1,
          some (driver.perform address call.command).2) := by
  simp only [take, SoleUser.call, SoleUser.complete, SoleUser.wait, Driver.beginCall, roundTrip,
    Wait.due, Bool.false_eq_true, if_false, if_true]
  rcases call.context.await_cases call.tokens call.now
    (call.now + driver.latencyAt address) with ⟨outlasts, ends⟩ | ⟨ended, time, interruption, ends⟩
  · exact Or.inr ⟨outlasts, by simp only [ends]; rfl⟩
  · exact Or.inl ⟨ended, interruption, by simp only [ends]⟩

variable {driver : VirtualDriver} {address : String} {model : Model} {hardware : Hardware}
  {records : List CallRecord} {call : DirectCall}

/-- After a call that is not an error the device is as the command has left it. -/
theorem take_ok (connected : driver.hardware? address = some hardware)
    {result : call.command.Result} (isOk : (driver.take address call).2 = some (.ok result)) :
    hardware.reply address call.command = .ok result ∧
      (driver.take address call).1.hardware? address =
        some (hardware.after address call.command) := by
  rcases driver.take_cases address call with ⟨-, interruption, taken⟩ | ⟨-, taken⟩
  · rw [taken] at isOk
    cases isOk
  · rcases perform_of_connected connected call.command with ⟨-, changed, replied⟩
    rw [taken] at isOk ⊢
    rw [Option.some.injEq, replied] at isOk
    refine ⟨?_, by rw [changed, if_pos rfl]⟩
    cases replied' : hardware.reply address call.command with
    | error error => simp [replied'] at isOk
    | ok result' =>
        rw [replied', Reply.ok.injEq] at isOk
        rw [isOk]

/-- After a call that is an error the device is as it was. -/
theorem take_error (connected : driver.hardware? address = some hardware) {error : DriverError}
    (failed : (driver.take address call).2 = some (.error error)) :
    (driver.take address call).1.hardware? address = some hardware := by
  rcases driver.take_cases address call with ⟨-, interruption, taken⟩ | ⟨-, taken⟩
  · rw [taken]
    exact connected
  · rcases perform_of_connected connected call.command with ⟨-, changed, replied⟩
    rw [taken] at failed ⊢
    rw [Option.some.injEq, replied] at failed
    cases replied' : hardware.reply address call.command with
    | ok result => simp [replied'] at failed
    | error error' => rw [changed, if_pos rfl, Hardware.after_of_error replied']

/-- A virtual device always has something to say in the end. -/
theorem take_answers (connected : driver.hardware? address = some hardware)
    (call : DirectCall) : (∃ result, (driver.take address call).2 = some (.ok result)) ∨
      ∃ error, (driver.take address call).2 = some (.error error) := by
  rcases driver.take_cases address call with ⟨-, interruption, taken⟩ | ⟨-, taken⟩
  · exact Or.inr ⟨_, by rw [taken]⟩
  · rw [taken, (perform_of_connected connected call.command).2.2]
    cases hardware.reply address call.command with
    | ok result => exact Or.inl ⟨result, rfl⟩
    | error error => exact Or.inr ⟨error, rfl⟩

/--
A device of a model that is connected to an address: its settings are within their ranges, and each
is as the successful writes on record have left it.
-/
structure Keeps (driver : VirtualDriver) (address : String) (model : Model)
    (records : List CallRecord) (hardware : Hardware) : Prop where
  connected : driver.hardware? address = some hardware
  isModel : hardware.model = model
  inRange : hardware.InRange
  settings : ∀ field, hardware.setting? field = model.lastWritten records field

/-- One more call leaves the device in order. -/
theorem Keeps.take (keeps : driver.Keeps address model records hardware) (call : DirectCall) :
    ∃ changed, (driver.take address call).1.Keeps address model
      (records ++ [⟨call.command, (driver.take address call).2⟩]) changed := by
  rcases take_answers keeps.connected call with ⟨result, isOk⟩ | ⟨error, failed⟩
  · rcases take_ok keeps.connected isOk with ⟨replied, connected⟩
    refine ⟨_, connected, ?_, keeps.inRange.after address call.command, fun field => ?_⟩
    · rw [Hardware.model_after, keeps.isModel]
    · rw [Model.lastWritten_append, isOk, ← keeps.settings]
      cases sets : call.command.setting? with
      | none =>
          rw [Hardware.setting?_after_read sets]
          simp [CallRecord.write?, sets]
      | some setting =>
          rw [(Hardware.setting?_write sets replied).2]
          by_cases same : field = call.command.field
          · simp [CallRecord.write?, sets, same]
          · simp [CallRecord.write?, same, Ne.symm same]
  · refine ⟨hardware, take_error keeps.connected failed, keeps.isModel, keeps.inRange,
      fun field => ?_⟩
    rw [Model.lastWritten_append, failed, keeps.settings]
    rfl

/-- However often it is called, the device stays in order. -/
theorem Keeps.takeAll (calls : List DirectCall) : ∀ {driver : VirtualDriver}
    {records : List CallRecord} {hardware : Hardware}, driver.Keeps address model records hardware →
      ∃ changed, (VirtualDriver.takeAll address calls driver).1.Keeps address model
        (records ++ (VirtualDriver.takeAll address calls driver).2) changed := by
  induction calls with
  | nil =>
      intro driver records hardware keeps
      exact ⟨hardware, by simpa [VirtualDriver.takeAll] using keeps⟩
  | cons call rest ih =>
      intro driver records hardware keeps
      rcases keeps.take call with ⟨middle, keeps'⟩
      rcases ih keeps' with ⟨changed, keeps''⟩
      refine ⟨changed, ?_⟩
      rw [List.append_assoc, List.singleton_append] at keeps''
      exact keeps''

/-- A device that was opened is as it comes out of the box. -/
theorem keeps_opened {user user' : SoleUser VirtualDriver} {context : RequestContext}
    {handle : Handle} (opened : user.openDevice context address = (user', some (.ok handle))) :
    user'.driver.Keeps address user.driver.model [] user.driver.model.fresh := by
  have connected : user'.driver.hardware? address = some user.driver.model.fresh := by
    simp only [SoleUser.openDevice, SoleUser.complete, SoleUser.wait, Driver.beginOpen,
      Driver.finishOpen, roundTrip, Wait.due, Bool.false_eq_true, if_false, if_true] at opened
    rcases context.await_cases user.tokens user.clock (user.clock + user.driver.latency) with
      ⟨-, ends⟩ | ⟨-, time, interruption, ends⟩
    · simp only [ends, Prod.mk.injEq, Option.some.injEq] at opened
      rcases opened with ⟨rfl, isOpen⟩
      rw [reply_connect] at isOpen
      split at isOpen
      · cases isOpen
      · rename_i reachable
        rw [hardware?_connect, if_pos ⟨rfl, by simpa using reachable⟩]
        rfl
    · simp [ends] at opened
  refine ⟨connected, ?_, Hardware.inRange_fresh _, fun field => rfl⟩
  cases user.driver.model <;> rfl

/-- What comes of one more call of a device. -/
structure Conducts (driver : VirtualDriver) (address : String) (model : Model)
    (records : List CallRecord) (hardware : Hardware) (call : DirectCall) : Prop where
  /-- A call that is not broken off is answered as the device sees fit. -/
  obeys : call.Outlasts (driver.latencyAt address) →
    (driver.take address call).2 = some (.ofExcept (hardware.reply address call.command))
  failed : ∀ error, (driver.take address call).2 = some (.error error) →
    (driver.take address call).1.hardware? address = some hardware
  written : ∀ result setting, (driver.take address call).2 = some (.ok result) →
    call.command.setting? = some setting →
      ∃ changed, (driver.take address call).1.hardware? address = some changed ∧
        ∀ field, changed.setting? field =
          if field = call.command.field then some setting else hardware.setting? field
  /-- A write of one block of a sound processor does not even bring other blocks into being. -/
  blocks : ∀ result state, (driver.take address call).2 = some (.ok result) →
    call.command.setting?.isSome = true → hardware = .dsp state →
      ∃ changed, (driver.take address call).1.hardware? address = some (.dsp changed) ∧
        ∀ name, call.command.field ≠ .volume name → call.command.field ≠ .mute name →
          changed.blocks.get? name = state.blocks.get? name
  off : ∀ result state, (driver.take address call).2 = some (.ok result) →
    call.command.setting?.isSome = true → hardware = .display state → state.poweredOn = false →
      ∃ on, call.command = .setPower on
  read : ∀ result, (driver.take address call).2 = some (.ok result) →
    call.command.setting? = none → ∀ assignment ∈ Finding.assignments ⟨call.command, result⟩,
      model.lastWritten records assignment.field = some assignment.setting

theorem Keeps.conducts (keeps : driver.Keeps address model records hardware) (call : DirectCall) :
    driver.Conducts address model records hardware call := by
  constructor
  case obeys =>
    intro outlasts
    rcases driver.take_cases address call with ⟨ended, -⟩ | ⟨-, taken⟩
    · exact absurd outlasts ended
    · rw [taken, (perform_of_connected keeps.connected call.command).2.2]
      cases hardware.reply address call.command <;> rfl
  case failed => exact fun error failed => take_error keeps.connected failed
  case written =>
    intro result setting isOk sets
    rcases take_ok keeps.connected isOk with ⟨replied, connected⟩
    exact ⟨_, connected, (Hardware.setting?_write sets replied).2⟩
  case blocks =>
    rintro result state isOk sets rfl
    rcases take_ok keeps.connected isOk with ⟨replied, connected⟩
    have performed := Hardware.perform_of_reply replied
    rcases exists_of_map_eq_ok performed with ⟨done, isDone, same⟩
    rw [← (Prod.mk.inj same).1] at connected
    exact ⟨_, connected, fun name => Dsp.blocks_write sets isDone⟩
  case off =>
    rintro result state isOk sets rfl isOff
    rcases take_ok keeps.connected isOk with ⟨replied, -⟩
    rcases exists_of_map_eq_ok (Hardware.perform_of_reply replied) with ⟨done, isDone, -⟩
    exact Display.power_of_off isOff sets isDone
  case read =>
    intro result isOk reads assignment reported
    rw [← keeps.settings]
    exact Hardware.setting?_of_read reads (take_ok keeps.connected isOk).1 reported

/--
However a virtual device is called since it was opened, whatever the arguments and whether contexts
last, its settings are within their ranges, and each is as the last successful write has left it, or
as it was at first. One more call that is an error leaves the device as it is. One that succeeds
sets the field that it writes, if it writes one, and no other; a display that is off obeys no write
but that of its power; and a reading reports settings as they were written.
-/
theorem obeys_for_life {user user' : SoleUser VirtualDriver} {context : RequestContext}
    {handle : Handle} (opened : user.openDevice context address = (user', some (.ok handle)))
    (calls : List DirectCall) :
    ∃ hardware, (takeAll address calls user'.driver).1.Keeps address user.driver.model
        (takeAll address calls user'.driver).2 hardware ∧
      ∀ call, (takeAll address calls user'.driver).1.Conducts address user.driver.model
        (takeAll address calls user'.driver).2 hardware call := by
  rcases (keeps_opened opened).takeAll calls with ⟨hardware, keeps⟩
  exact ⟨hardware, keeps, keeps.conducts⟩

/-- Switch a display on, choose an input in time and one too late, and set a level too high. -/
def labCalls : List DirectCall :=
  [{ now := 5, tokens := {}, context := ⟨none, 0⟩, command := .setPower true },
    { now := 10, tokens := {}, context := ⟨some 15, 0⟩
      command := .setInput .audioVideo "" "hdmi3" },
    { now := 15, tokens := {}, context := ⟨some 19, 0⟩
      command := .setInput .audioVideo "" "hdmi4" },
    { now := 19, tokens := {}, context := ⟨none, 0⟩, command := .setVolume "" 130 }]

theorem obeys_for_life_lab :
    let user : SoleUser VirtualDriver := { driver := { model := .display, latency := 5 } }
    ∃ user' handle hardware, user.openDevice ⟨none, 0⟩ "lab" = (user', some (.ok handle)) ∧
      (takeAll "lab" labCalls user'.driver).1.Keeps "lab" .display
        (takeAll "lab" labCalls user'.driver).2 hardware ∧
      hardware = .display { poweredOn := true, input := "hdmi3" } := by
  intro user
  have opened : user.openDevice ⟨none, 0⟩ "lab" =
      ((user.openDevice ⟨none, 0⟩ "lab").1, some (.ok Model.display.handle)) := by
    have reached : unreachable "lab" = false := by decide +kernel
    refine Prod.ext rfl ?_
    change some (VirtualDriver.connect _ "lab").2 = _
    rw [reply_connect, reached]
    rfl
  rcases obeys_for_life opened labCalls with ⟨hardware, keeps, -⟩
  refine ⟨_, _, hardware, opened, keeps, Option.some.inj (keeps.connected.symm.trans ?_)⟩
  decide +kernel

end VirtualDriver

end AvControl
