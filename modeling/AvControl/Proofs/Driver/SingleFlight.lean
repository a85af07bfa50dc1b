import AvControl.Proofs.Driver.Fates

/-!
# Opening each device only once

Any number of callers come to one cached driver, for any addresses and under any contexts. Each of
them may be looked after or give up at any moment, under any cancellations and at any time; between
these acts the driver may be used for whatever else. What an opening comes to is left to the driver,
whose record says what it was asked for and what it replied.

Whatever happens, the number of openings that the driver was asked for at an address is the number
of those that failed, and one more if the address has a handle or an attempt in flight.
-/

namespace AvControl

/-- What a caller is given when it is first looked after. -/
inductive Source
  /-- The remembered handle. -/
  | kept (handle : Handle)
  /-- The attempt that is in flight, or the one that is begun for the caller. -/
  | attempt (number : Nat)
deriving Repr

/-- Somebody who wants the device at an address opened, from its arrival on. -/
structure Guest where
  address : String
  context : RequestContext
  caller : Caller := .fresh
  source : Option Source := none
  abandoned : Bool := false

/--
A driver that remembers its handles, and everybody who came to it, together with the moments at
which somebody was looked after.
-/
structure Lobby (δ : Type) where
  cached : CachedDriver (Recorded δ)
  guests : List Guest := []
  moments : List CachedDriver.Moment := []

namespace Source

/-- What a source has yielded so far. -/
def result? {δ : Type} (cached : CachedDriver δ) : Source → Option (Except DriverError Handle)
  | kept handle => some (.ok handle)
  | attempt number => cached.attempts[number]?.bind Attempt.result?

end Source

namespace CachedDriver

/-- What a new caller of an address is given. -/
def source {δ : Type} (cached : CachedDriver δ) (address : String) : Source :=
  match cached.handles.get? address with
  | some handle => .kept handle
  | none =>
    match cached.inFlight.get? address with
    | some number => .attempt number
    | none => .attempt cached.attempts.length

end CachedDriver

namespace Guest

variable {δ : Type}

/--
A guest was either never looked after, or got the remembered handle at once, or waits for its
attempt or got the result of that attempt. The attempt is one at the address of the guest.
-/
def Attended (cached : CachedDriver δ) (guest : Guest) : Prop :=
  match guest.source with
  | none => guest.caller = .fresh
  | some (.kept handle) =>
    guest.caller = .answered (.ok handle) ∧ cached.handles.get? guest.address = some handle
  | some (.attempt number) =>
    ∃ attempt, cached.attempts[number]? = some attempt ∧ attempt.address = guest.address ∧
      (guest.caller = .joined number ∨
        ∃ result, guest.caller = .answered result ∧ attempt.result? = some result)

/-- The guest has what its source has yielded so far. -/
def UpToDate (cached : CachedDriver δ) (guest : Guest) : Prop :=
  ∃ source, guest.source = some source ∧ guest.caller.answer? = source.result? cached

end Guest

namespace Lobby

variable {δ : Type}

/-- What can happen to a lobby. -/
inductive Act (δ : Type)
  | arrive (address : String) (context : RequestContext)
  /-- Look after a guest at a time and under some cancellations. -/
  | poll (index : Nat) (tokens : Tokens) (now ticket : Nat)
  | abandon (index : Nat)
  /-- The driver goes on to another state in some other way. -/
  | use (driver : δ)

/-- The lobby of a driver before anybody has come. -/
def around (driver : δ) : Lobby δ where
  cached := { driver := { driver } }

variable [Driver δ]

/-- Look after a guest, unless it has given up. -/
def pollGuest (lobby : Lobby δ) (index : Nat) (tokens : Tokens) (now ticket : Nat) : Lobby δ :=
  match lobby.guests[index]? with
  | none => lobby
  | some guest =>
    if guest.abandoned then lobby
    else
      let polled :=
        lobby.cached.poll tokens now ticket guest.context guest.address guest.caller
      let source := guest.source.getD (lobby.cached.source guest.address)
      { cached := polled.cached
        guests := lobby.guests.set index { guest with caller := polled.caller, source }
        moments := lobby.moments ++ [⟨polled.tokens, now⟩] }

/-- The lobby after something has happened. -/
def after (lobby : Lobby δ) : Act δ → Lobby δ
  | .arrive address context => { lobby with guests := lobby.guests ++ [{ address, context }] }
  | .poll index tokens now ticket => lobby.pollGuest index tokens now ticket
  | .abandon index =>
    { lobby with guests := lobby.guests.modify index fun guest => { guest with abandoned := true } }
  | .use driver =>
    { lobby with cached.driver.driver := driver }

/-- The lobby after some things have happened one after another. -/
def run (lobby : Lobby δ) (acts : List (Act δ)) : Lobby δ := acts.foldl after lobby

/-- Whether something happens at an address: a guest who came for it is looked after. -/
def Concerns (lobby : Lobby δ) (address : String) : Act δ → Prop
  | .poll index _ _ _ => ∃ guest, lobby.guests[index]? = some guest ∧ guest.address = address
  | _ => False

/-- The books of one address, with what has become of the openings there, oldest first. -/
structure Accounted (lobby : Lobby δ) (address : String) (fates : List Fate) : Prop where
  /-- What the driver was asked for there, and what it replied. -/
  outcomes : lobby.cached.driver.outcomes address = fates.map Fate.reply?
  /-- Every opening is that of one attempt, which ends as the opening does. -/
  attempts : List.Forall₂ (Attempt.Shows lobby.moments) (lobby.cached.attemptsAt address) fates
  openings : lobby.cached.driver.openings address = fates.countP Fate.fails +
    if (lobby.cached.handles.get? address).isSome ∨ (lobby.cached.inFlight.get? address).isSome
    then 1 else 0
  exclusive : ¬((lobby.cached.handles.get? address).isSome ∧
    (lobby.cached.inFlight.get? address).isSome)
  oneSuccess : fates.countP Fate.succeeds ≤ 1
  kept : ∀ handle, lobby.cached.handles.get? address = some handle ↔
    .replied (.ok handle) ∈ fates
  inFlight : ∀ number, lobby.cached.inFlight.get? address = some number ↔
    ∃ attempt, lobby.cached.attempts[number]? = some attempt ∧ attempt.address = address ∧
      attempt.result? = none

end Lobby

namespace CachedDriver

variable {δ : Type} [Driver δ] {cached : CachedDriver δ}

omit [Driver δ] in
theorem answer?_follow (number : Nat) :
    (Caller.follow cached number).answer? = (Source.attempt number).result? cached := by
  simp only [Caller.follow]
  simp only [Source.result?]
  cases cached.attempts[number]?.bind Attempt.result? <;> rfl

omit [Driver δ] in
theorem follow_eq {number : Nat} {attempt : Attempt}
    (found : cached.attempts[number]? = some attempt) :
    Caller.follow cached number = .joined number ∨
      ∃ result, Caller.follow cached number = .answered result ∧
        attempt.result? = some result := by
  simp only [Caller.follow]
  rw [found, Option.bind_some]
  cases attempt.result? with
  | none => exact Or.inl rfl
  | some result => exact Or.inr ⟨result, rfl, rfl⟩

/-- The guest as it is after it was looked after. -/
def attend (cached : CachedDriver δ) (guest : Guest) (tokens : Tokens)
    (now ticket : Nat) : Guest :=
  { guest with
    caller := (cached.poll tokens now ticket guest.context guest.address guest.caller).caller
    source := guest.source.getD (cached.source guest.address) }

omit [Driver δ] in
theorem attended_of_follow {guest : Guest} {number : Nat} {attempt : Attempt}
    (found : cached.attempts[number]? = some attempt) (here : attempt.address = guest.address)
    (source : guest.source = some (.attempt number))
    (caller : guest.caller = Caller.follow cached number) :
    guest.Attended cached ∧ guest.UpToDate cached := by
  refine ⟨?_, _, source, by rw [caller, answer?_follow]⟩
  simp only [Guest.Attended, source, caller]
  exact ⟨attempt, found, here, follow_eq found⟩

/--
Looking after a guest makes moves at its address, and leaves the guest with what its source has
yielded.
-/
theorem poll_spec (coherent : cached.Coherent) {guest : Guest} (attended : guest.Attended cached)
    (tokens : Tokens) (now ticket : Nat) :
    let polled := cached.poll tokens now ticket guest.context guest.address guest.caller
    Moves ⟨polled.tokens, now⟩ guest.address cached polled.cached ∧
      (cached.attend guest tokens now ticket).Attended polled.cached ∧
      (cached.attend guest tokens now ticket).UpToDate polled.cached := by
  rcases guest with ⟨address, context, caller, source, abandoned⟩
  rcases source with _ | ⟨handle⟩ | ⟨number⟩
  · have fresh : caller = .fresh := attended
    subst fresh
    cases handled : cached.handles.get? address with
    | some handle =>
        simp only [poll, attend, handled]
        refine ⟨.refl cached, ?_, _, rfl, ?_⟩
        · simp [Guest.Attended, CachedDriver.source, handled]
        · simp [CachedDriver.source, handled, Source.result?, Caller.answer?]
    | none =>
        cases flying : cached.inFlight.get? address with
        | some number =>
            rcases (coherent.inFlight _ _).1 flying with ⟨attempt, found, waits⟩
            rcases Attempt.waitsAt_iff.1 waits with ⟨rfl, -⟩
            have moves := moves_advance found tokens now
            rcases (moves.growsAt coherent).exists_attempt found with
              ⟨attempt', found', sameAddress, -⟩
            simp only [poll, attend, handled, flying]
            exact ⟨moves, attended_of_follow found' sameAddress
              (by simp [source, handled, flying]) rfl⟩
        | none =>
            rcases exists_attempt_start coherent tokens now ticket context handled flying with
              ⟨attempt', found', here⟩
            simp only [poll, attend, handled, flying]
            exact ⟨moves_start tokens now ticket context handled flying,
              attended_of_follow found' here (by simp [source, handled, flying]) rfl⟩
  · rcases attended with ⟨rfl, handled⟩
    exact ⟨.refl cached, ⟨rfl, handled⟩, .kept handle, rfl, rfl⟩
  · rcases attended with ⟨attempt, found, rfl, rfl | ⟨result, rfl, ended⟩⟩
    · have moves := moves_advance found tokens now
      rcases (moves.growsAt coherent).exists_attempt found with ⟨attempt', found', sameAddress, -⟩
      exact ⟨moves, attended_of_follow found' sameAddress rfl rfl⟩
    · refine ⟨.refl cached, ⟨attempt, found, rfl, Or.inr ⟨result, rfl, ended⟩⟩,
        .attempt number, rfl, ?_⟩
      simp [attend, poll, Caller.answer?, Source.result?, found, ended]

omit [Driver δ] in
/-- What a guest was told stays true while the driver is used. -/
theorem Grows.attended {after : CachedDriver δ} (grows : cached.Grows after) {guest : Guest}
    (attended : guest.Attended cached) : guest.Attended after := by
  rcases guest with ⟨address', context, caller, _ | ⟨handle⟩ | ⟨number⟩, abandoned⟩
  · exact attended
  · rcases attended with ⟨answered, handled⟩
    exact ⟨answered, grows.handles _ _ handled⟩
  · rcases attended with ⟨attempt, found, here, told⟩
    rcases grows.exists_attempt found with ⟨attempt', found', sameAddress, keeps⟩
    refine ⟨attempt', found', sameAddress.trans here, told.imp_right ?_⟩
    rintro ⟨result, answered, ended⟩
    exact ⟨result, answered, keeps result ended⟩

end CachedDriver

namespace Lobby

variable {δ : Type} {lobby : Lobby δ}

/-- The cached driver is coherent, its openings are known and every guest was told the truth. -/
structure Sound (lobby : Lobby δ) : Prop where
  coherent : lobby.cached.Coherent
  chronicled : ∀ address, ∃ failed,
    CachedDriver.Chronicled lobby.moments lobby.cached address failed
  attended : ∀ guest ∈ lobby.guests, guest.Attended lobby.cached

theorem sound_around (driver : δ) : (around driver).Sound where
  coherent := CachedDriver.coherent_new _
  chronicled address := ⟨[], .new driver address⟩
  attended _ member := by cases member

theorem Sound.accounted (sound : lobby.Sound) (address : String) :
    ∃ fates, lobby.Accounted address fates := by
  rcases sound.chronicled address with ⟨failed, chronicled⟩
  refine ⟨failed ++ lobby.cached.standing address, ?_⟩
  constructor
  case outcomes => exact chronicled.outcomes
  case attempts => exact chronicled.attempts
  case openings => exact chronicled.openings_eq
  case exclusive =>
    rintro ⟨handled, flying⟩
    rw [sound.coherent.exclusive address handled] at flying
    cases flying
  case oneSuccess => exact chronicled.countP_succeeds_le
  case kept => exact chronicled.handle_iff
  case inFlight =>
    intro number
    simpa only [Attempt.waitsAt_iff] using sound.coherent.inFlight address number

variable [Driver δ]

/-- Looking after a guest is the poll of a caller, unless nobody is there or it has given up. -/
theorem pollGuest_cases (lobby : Lobby δ) (index : Nat) (tokens : Tokens) (now ticket : Nat) :
    lobby.pollGuest index tokens now ticket = lobby ∧
        (∀ guest, lobby.guests[index]? = some guest → guest.abandoned = true) ∨
      ∃ guest, lobby.guests[index]? = some guest ∧ guest.abandoned = false ∧
        lobby.pollGuest index tokens now ticket =
          { cached :=
              (lobby.cached.poll tokens now ticket guest.context guest.address
                guest.caller).cached
            guests := lobby.guests.set index (lobby.cached.attend guest tokens now ticket)
            moments := lobby.moments ++
              [⟨(lobby.cached.poll tokens now ticket guest.context guest.address
                guest.caller).tokens, now⟩] } := by
  simp only [pollGuest]
  split
  · rename_i nobody
    simp [nobody]
  · rename_i guest found
    split
    · rename_i abandoned
      exact Or.inl ⟨rfl, by simp [found, abandoned]⟩
    · rename_i stays
      exact Or.inr ⟨guest, found, by simpa using stays, rfl⟩

/-- Whatever happens, soundness is kept. -/
theorem Sound.after (sound : lobby.Sound) (act : Act δ) : (lobby.after act).Sound := by
  cases act with
  | arrive address context =>
      refine ⟨sound.coherent, sound.chronicled, fun guest member => ?_⟩
      rcases List.mem_append.1 member with old | new
      · exact sound.attended guest old
      · obtain rfl := List.mem_singleton.1 new
        rfl
  | poll index tokens now ticket =>
      rcases lobby.pollGuest_cases index tokens now ticket with
        ⟨same, -⟩ | ⟨guest, found, -, polled⟩
      · simpa only [Lobby.after, same] using sound
      · have attended := sound.attended guest (List.mem_of_getElem? found)
        rcases CachedDriver.poll_spec sound.coherent attended tokens now ticket with
          ⟨moves, attended', -⟩
        have grows := moves.growsAt sound.coherent
        simp only [Lobby.after, polled]
        refine ⟨moves.coherent sound.coherent, ?_, fun other member => ?_⟩
        · refine moves.chronicled sound.coherent (List.mem_append_right _ (by simp)) fun other => ?_
          rcases sound.chronicled other with ⟨failed, chronicled⟩
          exact ⟨failed, chronicled.mono (List.subset_append_left _ _)⟩
        · rcases List.mem_or_eq_of_mem_set member with old | rfl
          · exact grows.attended (sound.attended other old)
          · exact attended'
  | abandon index =>
      refine ⟨sound.coherent, sound.chronicled, fun guest member => ?_⟩
      rcases List.getElem?_of_mem member with ⟨place, found⟩
      simp only [Lobby.after, List.getElem?_modify, Option.map_eq_map, Option.map_eq_some_iff]
        at found
      rcases found with ⟨old, isOld, rfl⟩
      have attended := sound.attended old (List.mem_of_getElem? isOld)
      split
      · exact attended
      · exact attended
  | use driver =>
      refine ⟨sound.coherent.withDriver _, fun address => ?_, sound.attended⟩
      rcases sound.chronicled address with ⟨failed, chronicled⟩
      exact ⟨failed, chronicled.frame rfl rfl rfl rfl⟩

theorem sound_run (driver : δ) (acts : List (Act δ)) : ((around driver).run acts).Sound := by
  suffices ∀ lobby : Lobby δ, lobby.Sound → (lobby.run acts).Sound from
    this _ (sound_around driver)
  induction acts with
  | nil => exact fun lobby sound => sound
  | cons act rest ih => exact fun lobby sound => ih _ (sound.after act)

theorem Sound.handles_after (sound : lobby.Sound) (act : Act δ) {address : String}
    {handle : Handle} (handled : lobby.cached.handles.get? address = some handle) :
    (lobby.after act).cached.handles.get? address = some handle := by
  cases act with
  | arrive | abandon | use => exact handled
  | poll index tokens now ticket =>
      rcases lobby.pollGuest_cases index tokens now ticket with
        ⟨same, -⟩ | ⟨guest, found, -, polled⟩
      · simpa only [Lobby.after, same] using handled
      · rcases CachedDriver.poll_spec sound.coherent
          (sound.attended guest (List.mem_of_getElem? found)) tokens now ticket with ⟨moves, -⟩
        simpa only [Lobby.after, polled] using
          (moves.growsAt sound.coherent).handles _ _ handled

theorem Sound.sameAt_after (sound : lobby.Sound) (act : Act δ) {address : String}
    (elsewhere : ¬lobby.Concerns address act) :
    lobby.cached.SameAt address (lobby.after act).cached := by
  cases act with
  | arrive | abandon | use => exact ⟨rfl, rfl, fun _ _ _ => Iff.rfl⟩
  | poll index tokens now ticket =>
      rcases lobby.pollGuest_cases index tokens now ticket with
        ⟨same, -⟩ | ⟨guest, found, -, polled⟩
      · simpa only [Lobby.after, same] using CachedDriver.SameAt.refl address lobby.cached
      · rcases CachedDriver.poll_spec sound.coherent
          (sound.attended guest (List.mem_of_getElem? found)) tokens now ticket with ⟨moves, -⟩
        have differs : address ≠ guest.address := by
          rintro rfl
          exact elsewhere ⟨guest, found, rfl⟩
        simpa only [Lobby.after, polled] using
          (moves.growsAt sound.coherent).elsewhere address differs

theorem Sound.upToDate_after_poll (sound : lobby.Sound) (index : Nat) (tokens : Tokens)
    (now ticket : Nat) {guest : Guest}
    (found : (lobby.after (.poll index tokens now ticket)).guests[index]? = some guest)
    (stays : guest.abandoned = false) :
    guest.UpToDate (lobby.after (.poll index tokens now ticket)).cached := by
  rcases lobby.pollGuest_cases index tokens now ticket with
    ⟨same, gone⟩ | ⟨before, isBefore, -, polled⟩
  · simp only [Lobby.after, same] at found
    rw [gone guest found] at stays
    exact absurd stays (by simp)
  · rcases CachedDriver.poll_spec sound.coherent
      (sound.attended before (List.mem_of_getElem? isBefore)) tokens now ticket with
      ⟨-, -, upToDate⟩
    have inside : index < lobby.guests.length := (List.getElem?_eq_some_iff.1 isBefore).1
    simp only [Lobby.after, polled, List.getElem?_set_self inside, Option.some.injEq] at found ⊢
    exact found ▸ upToDate

/-- Whoever waits for an attempt is answered when it is looked after and the wait is over. -/
theorem answered_after_poll {index number : Nat} {guest : Guest} {attempt : Attempt}
    (found : lobby.guests[index]? = some guest)
    (stays : guest.abandoned = false) (joined : guest.caller = .joined number)
    (isAttempt : lobby.cached.attempts[number]? = some attempt) {tokens : Tokens} {now : Nat}
    (ends : attempt.isOver now = true ∨ attempt.isCancelled tokens = true) (ticket : Nat) :
    ∃ guest' result, (lobby.after (.poll index tokens now ticket)).guests[index]? = some guest' ∧
      guest'.caller = .answered result := by
  rcases lobby.pollGuest_cases index tokens now ticket with
    ⟨-, gone⟩ | ⟨before, isBefore, -, polled⟩
  · rw [gone guest found] at stays
    cases stays
  · obtain rfl := Option.some.inj (isBefore.symm.trans found)
    have inside : index < lobby.guests.length := (List.getElem?_eq_some_iff.1 found).1
    rcases CachedDriver.follow_advance isAttempt ends with ⟨result, answered⟩
    refine ⟨lobby.cached.attend before tokens now ticket, result, ?_, ?_⟩
    · simp only [Lobby.after, polled, List.getElem?_set_self inside]
    · rw [CachedDriver.attend, joined]
      exact answered

/--
Single flight. Whatever has happened so far: at every address each opening that was begun belongs to
one attempt, which ends with the very reply of the driver or because its context has ended; the
number of openings is the number of those that failed, broke down or were given up, and one more if
there is a handle or an attempt in flight, but never both; at most one opening succeeded, and a
handle is remembered exactly if an opening has yielded it; and every guest has nothing yet, or the
remembered handle, or the result of the attempt it was given. Whatever happens next: handles stay as
they are, nothing changes at an address whose guests are not looked after, and a guest that is
looked after has what its source has yielded, which is an answer if it was waiting for an attempt
whose wait is over.
-/
theorem singleFlight (driver : δ) (acts : List (Act δ)) :
    let lobby := (around driver).run acts
    (∀ address, ∃ fates, lobby.Accounted address fates) ∧
      (∀ guest ∈ lobby.guests, guest.Attended lobby.cached) ∧
      (∀ act,
        (∀ address handle, lobby.cached.handles.get? address = some handle →
          (lobby.after act).cached.handles.get? address = some handle) ∧
        ∀ address, ¬lobby.Concerns address act →
          lobby.cached.SameAt address (lobby.after act).cached) ∧
      (∀ index tokens now ticket guest,
        (lobby.after (.poll index tokens now ticket)).guests[index]? = some guest →
        guest.abandoned = false →
        guest.UpToDate (lobby.after (.poll index tokens now ticket)).cached) ∧
      ∀ index tokens now ticket guest number attempt, lobby.guests[index]? = some guest →
        guest.abandoned = false → guest.caller = .joined number →
        lobby.cached.attempts[number]? = some attempt →
        attempt.isOver now = true ∨ attempt.isCancelled tokens = true →
        ∃ guest' result,
          (lobby.after (.poll index tokens now ticket)).guests[index]? = some guest' ∧
            guest'.caller = .answered result := by
  intro lobby
  have sound : lobby.Sound := sound_run driver acts
  refine ⟨sound.accounted, sound.attended, fun act => ⟨?_, ?_⟩, ?_, ?_⟩
  · intro address handle handled
    exact sound.handles_after act handled
  · intro address elsewhere
    exact sound.sameAt_after act elsewhere
  · intro index tokens now ticket guest found stays
    exact sound.upToDate_after_poll index tokens now ticket found stays
  · intro index tokens now ticket guest number attempt found stays joined isAttempt ends
    exact answered_after_poll found stays joined isAttempt ends ticket

end Lobby

end AvControl
