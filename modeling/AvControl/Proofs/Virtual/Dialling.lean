import AvControl.Proofs.Engine.Locality
import AvControl.Proofs.Virtual.Wiring

/-!
# Waiting for a virtual device

Somebody wants a virtual device opened where nobody else does. Under a live context there are two
ends to that: the address is one that is never reached, or the device is connected, and then it is
as it was. Nothing that happens at other addresses has to do with it.
-/

namespace AvControl

open Virtual

/-- What is said of an address that is never reached. -/
def Virtual.noSuchHost (address : String) : DriverError :=
  { message := "dial " ++ address ++ ": no such host" }

/-! ### What happens elsewhere -/

namespace Virtual.Enacts

variable {δ : Type} [Driver δ] [Enacts δ] {address : String}

/-- What a driver is asked for at an address has no effect on the devices at others. -/
theorem ask_elsewhere (driver : δ) {ask : Ask} (away : ask.address ≠ address) :
    (player (Driver.ask driver ask).1).hardware? address = (player driver).hardware? address ∧
      (player (Driver.ask driver ask).1).model = (player driver).model := by
  cases ask with
  | beginOpen other =>
      have differs : address ≠ other := fun same => away same.symm
      simp only [Driver.ask, (Enacts.beginOpen driver other).1]
      exact ⟨by rw [VirtualDriver.hardware?_setLink, if_neg differs], rfl⟩
  | finishOpen other =>
      have differs : address ≠ other := fun same => away same.symm
      simp only [Driver.ask, (Enacts.finishOpen driver other).1]
      refine ⟨?_, VirtualDriver.model_connect _ _⟩
      rw [VirtualDriver.hardware?_connect, if_neg fun both => differs both.1]
  | beginCall other command =>
      simp only [Driver.ask, (Enacts.beginCall driver other command).1, and_self]
  | finishCall other command =>
      have differs : address ≠ other := fun same => away same.symm
      simp only [Driver.ask, (Enacts.finishCall driver other command).1]
      cases connected : (player driver).hardware? other with
      | none =>
          rw [VirtualDriver.perform_of_disconnected connected]
          exact ⟨rfl, rfl⟩
      | some hardware =>
          rcases VirtualDriver.perform_of_connected connected command with ⟨model, others, -⟩
          exact ⟨by rw [others, if_neg differs], model⟩

theorem asked_elsewhere {asks : List Ask} (away : ∀ ask ∈ asks, ask.address ≠ address) :
    ∀ driver : δ, (player (Driver.asked driver asks)).hardware? address =
        (player driver).hardware? address ∧
      (player (Driver.asked driver asks)).model = (player driver).model := by
  induction asks with
  | nil => exact fun _ => ⟨rfl, rfl⟩
  | cons ask rest ih =>
      intro driver
      rcases List.forall_mem_cons.1 away with ⟨first, others⟩
      rcases ask_elsewhere driver first with ⟨hardware, model⟩
      rcases ih others (Driver.ask driver ask).1 with ⟨hardware', model'⟩
      exact ⟨hardware'.trans hardware, model'.trans model⟩

end Virtual.Enacts

namespace CachedDriver

variable {δ : Type} [Driver δ] [Enacts δ] {cached cached' : CachedDriver δ} {address : String}

/-- What is wired to an address is the same. -/
structure SameWiring (address : String) (before after : CachedDriver δ) : Prop
    extends before.SameAt address after where
  hardware : after.player.hardware? address = before.player.hardware? address
  model : after.player.model = before.player.model

theorem SameAt.sameWiring {asks : List Ask} (same : cached.SameAt address cached')
    (away : ∀ ask ∈ asks, ask.address ≠ address)
    (asked : cached'.driver = Driver.asked cached.driver asks) :
    cached.SameWiring address cached' := by
  rcases Enacts.asked_elsewhere away cached.driver with ⟨hardware, model⟩
  rw [← asked] at hardware model
  exact ⟨same, hardware, model⟩

theorem SameWiring.wiredAt (same : cached.SameWiring address cached')
    (wired : cached.WiredAt address) : cached'.WiredAt address := by
  refine ⟨?_, ?_, fun number flying => ?_, fun number attempt found here waits => ?_⟩
  · rw [same.handles, same.hardware, same.model]
    exact wired.paired
  · rw [same.hardware, same.model]
    exact wired.reached
  · rw [same.inFlight] at flying
    rcases wired.rooted number flying with ⟨noHandle, attempt, due, found, here, stage⟩
    exact ⟨same.handles.trans noHandle, attempt, due, (same.attempts _ _ here).2 found, here, stage⟩
  · rw [same.inFlight]
    exact wired.waiting number attempt ((same.attempts _ _ here).1 found) here waits

theorem SameWiring.hardwareAt (same : cached.SameWiring address cached') :
    cached'.hardwareAt address = cached.hardwareAt address := by
  simp only [CachedDriver.hardwareAt, VirtualDriver.hardwareAt, same.hardware, same.model]

/-! ### Whoever waits -/

/-- Somebody who wants the device at an address opened, where nobody else does. -/
inductive Dials (cached : CachedDriver δ) (context : RequestContext) (address : String) :
    Caller → Prop
  | fresh (grounded : cached.inFlight.get? address = none) : Dials cached context address .fresh
  | joined {number due : Nat} {attempt : Attempt} (found : cached.attempts[number]? = some attempt)
      (here : attempt.address = address) (own : attempt.context = context)
      (waiting : attempt.stage = .waiting (some due) true) :
      Dials cached context address (.joined number)
  | refused (grounded : cached.inFlight.get? address = none)
      (unreachable : VirtualDriver.unreachable address = true) :
      Dials cached context address (.answered (.error (noSuchHost address)))
  | connected {hardware : Hardware} (grounded : cached.inFlight.get? address = none)
      (isHardware : cached.player.hardware? address = some hardware) :
      Dials cached context address (.answered (.ok cached.player.model.handle))

theorem Dials.same {context : RequestContext} {caller : Caller}
    (dials : cached.Dials context address caller) (same : cached.SameWiring address cached') :
    cached'.Dials context address caller := by
  cases dials with
  | fresh grounded => exact .fresh (same.inFlight.trans grounded)
  | joined found here own waiting =>
      exact .joined ((same.attempts _ _ here).2 found) here own waiting
  | refused grounded unreachable => exact .refused (same.inFlight.trans grounded) unreachable
  | connected grounded isHardware =>
      rw [← same.model]
      exact .connected (same.inFlight.trans grounded) (same.hardware.trans isHardware)

variable {tokens : Tokens} {now ticket number due : Nat} {context : RequestContext}
  {attempt : Attempt}

/-- Under a live context an attempt ends only with what its driver says. -/
theorem dials_advance (found : cached.attempts[number]? = some attempt)
    (waiting : attempt.stage = .waiting (some due) true)
    (live : attempt.context.interruption? tokens now = none) :
    (cached.advance tokens now number).Dials attempt.context attempt.address
      (.follow (cached.advance tokens now number) number) := by
  simp only [advance]
  simp only [found, waiting, live]
  split
  · rcases Enacts.finishOpen cached.driver attempt.address with ⟨isPlayer, isReply⟩
    let asked : CachedDriver δ :=
      { cached with driver := (Driver.finishOpen cached.driver attempt.address).1 }
    have found' : asked.attempts[number]? = some attempt := found
    simp only [finish]
    rw [follow_conclude found', isReply, VirtualDriver.reply_connect]
    have grounded : ∀ result, (asked.conclude number attempt.address result).inFlight.get?
        attempt.address = none := by simp
    cases reachable : VirtualDriver.unreachable attempt.address with
    | true => exact .refused (grounded _) reachable
    | false =>
        let opened := asked.conclude number attempt.address
          (.ok (Enacts.player cached.driver).model.handle)
        have isOpened : opened.player =
            ((Enacts.player cached.driver).connect attempt.address).1 := isPlayer
        have isModel : opened.player.model = (Enacts.player cached.driver).model := by
          rw [isOpened, VirtualDriver.model_connect]
        have isHardware : opened.player.hardware? attempt.address =
            some (Enacts.player cached.driver).model.fresh := by
          rw [isOpened, VirtualDriver.hardware?_connect, if_pos ⟨rfl, reachable⟩]
        have dials : opened.Dials attempt.context attempt.address
            (.answered (.ok opened.player.model.handle)) := .connected (grounded _) isHardware
        rw [isModel] at dials
        exact dials
  · have joined : Caller.follow cached number = .joined number := by
      simp [Caller.follow, found, Attempt.result?, waiting]
    simp only [if_true, joined]
    exact .joined found rfl rfl waiting

theorem dials_start (cached : CachedDriver δ) (tokens : Tokens) (now ticket : Nat)
    (address : String) (live : context.interruption? tokens now = none) :
    (cached.start tokens now ticket context address).1.Dials context address
      (.follow (cached.start tokens now ticket context address).1 cached.attempts.length) := by
  have reaction := (Enacts.beginOpen cached.driver address).2
  unfold start
  dsimp only
  rw [reaction]
  simp only [VirtualDriver.roundTrip, Bool.false_eq_true, if_false, live]
  let attempt : Attempt := {
    address, context, ticket
    stage := .waiting (some (now + (Enacts.player cached.driver).latency)) true }
  have waiting : attempt.stage =
      .waiting (some (now + (Enacts.player cached.driver).latency)) true := rfl
  exact dials_advance List.getElem?_concat_length waiting live

/-- Under a live context the device is connected, as it was, or can never be reached. -/
theorem Dials.poll {caller : Caller} (dials : cached.Dials context address caller)
    (wired : cached.WiredAt address) (live : context.interruption? tokens now = none) :
    (cached.poll tokens now ticket context address caller).cached.Dials context address
      (cached.poll tokens now ticket context address caller).caller := by
  cases dials with
  | refused grounded unreachable => exact .refused grounded unreachable
  | connected grounded isHardware => exact .connected grounded isHardware
  | joined found here own waiting =>
      subst here own
      exact dials_advance found waiting live
  | fresh grounded =>
      have paired := wired.paired
      simp only [CachedDriver.poll, grounded]
      cases isHardware : cached.player.hardware? address with
      | none =>
          rw [isHardware] at paired
          simp only [paired, Option.map_none]
          exact dials_start _ _ _ _ _ live
      | some hardware =>
          rw [isHardware] at paired
          simp only [paired, Option.map_some]
          exact .connected grounded isHardware

end CachedDriver

end AvControl
