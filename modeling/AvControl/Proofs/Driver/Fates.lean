import AvControl.Proofs.Driver.Coherence
import AvControl.Proofs.Lists
import Mathlib.Data.List.Induction

/-!
# What becomes of openings

Whatever is said here about the openings of a device is read off the record of the driver, which
holds every opening that was begun and every reply. A cached driver adds nothing to it: each of its
attempts ends with the reply to its opening, or without one when the context of the attempt has
ended.

At one address the openings fail one after another, until one is under way or has yielded the handle
that is remembered. So the fates of the openings there are a row of failures, and at most one more,
and it is said by the handles and the addresses in flight which one that is. Every move keeps this.
-/

namespace AvControl

/-- What has become of an opening. -/
inductive Fate
  | underWay
  | replied (reply : Reply Handle)
  /-- The opening was given up because the context had ended. -/
  | brokenOff (interruption : Interruption)
deriving DecidableEq, Repr

namespace Fate

/-- What the driver said in the end. -/
def reply? : Fate → Option (Reply Handle)
  | replied reply => some reply
  | underWay | brokenOff _ => none

def fails : Fate → Bool
  | replied (.error _) | replied .crash | brokenOff _ => true
  | replied (.ok _) | underWay => false

def succeeds : Fate → Bool
  | replied (.ok _) => true
  | replied (.error _) | replied .crash | brokenOff _ | underWay => false

theorem not_succeeds_of_fails {fate : Fate} (fails : fate.fails = true) :
    fate.succeeds = false := by
  cases fate with
  | underWay => cases fails
  | brokenOff => rfl
  | replied reply =>
      cases reply with
      | ok => cases fails
      | error | crash => rfl

end Fate

/--
An attempt agrees with the fate of its opening. If the opening was given up, then at one of the
moments at which somebody was looked after, and the context of the attempt had ended by then.
-/
inductive Attempt.Shows (moments : List CachedDriver.Moment) (attempt : Attempt) : Fate → Prop
  | underWay (waiting : attempt.result? = none) : Shows moments attempt .underWay
  | replied (reply : Reply Handle) (ended : attempt.result? = some reply.opening) :
    Shows moments attempt (.replied reply)
  | brokenOff {moment : CachedDriver.Moment} {interruption : Interruption}
      (isMoment : moment ∈ moments)
      (interrupted : attempt.context.interruption? moment.tokens moment.time = some interruption)
      (ended : attempt.result? = some (.error (.ofInterruption interruption))) :
    Shows moments attempt (.brokenOff interruption)

namespace Attempt.Shows

variable {moments later : List CachedDriver.Moment} {attempt : Attempt} {fate : Fate}

theorem mono (shows : attempt.Shows moments fate) (more : moments ⊆ later) :
    attempt.Shows later fate := by
  cases shows with
  | underWay waiting => exact .underWay waiting
  | replied reply ended => exact .replied reply ended
  | brokenOff isMoment interrupted ended => exact .brokenOff (more isMoment) interrupted ended

theorem fate_of_ok {handle : Handle} (shows : attempt.Shows moments fate)
    (ended : attempt.result? = some (.ok handle)) : fate = .replied (.ok handle) := by
  cases shows with
  | underWay waiting => simp [waiting] at ended
  | replied reply ended' =>
      rw [ended, Option.some.injEq] at ended'
      cases reply with
      | ok value =>
          obtain rfl := Except.ok.inj ended'
          rfl
      | error | crash => cases ended'
  | brokenOff _ _ ended' => simp [ended] at ended'

theorem fails_of_error {error : DriverError} (shows : attempt.Shows moments fate)
    (ended : attempt.result? = some (.error error)) : fate.fails = true := by
  cases shows with
  | underWay waiting => simp [waiting] at ended
  | replied reply ended' =>
      cases reply with
      | ok value => simp [ended, Reply.opening] at ended'
      | error | crash => rfl
  | brokenOff => rfl

theorem not_fails_of_waiting (shows : attempt.Shows moments fate)
    (waiting : attempt.result? = none) : fate.fails = false := by
  cases shows with
  | underWay => rfl
  | replied _ ended | brokenOff _ _ ended => simp [waiting] at ended

end Attempt.Shows

/-- The entry at a place, and a change of it, between the entries before and after it. -/
theorem exists_modify {α : Type} {list : List α} {n : Nat} {entry : α}
    (found : list[n]? = some entry) (change : α → α) :
    ∃ front back, list = front ++ entry :: back ∧
      list.modify n change = front ++ change entry :: back := by
  have inside := (List.getElem?_eq_some_iff.1 found).1
  rcases List.exists_of_modify change inside with ⟨front, entry', back, rfl, rfl, changed⟩
  obtain rfl : entry' = entry := by simpa using found
  exact ⟨front, back, rfl, changed⟩

namespace CachedDriver

variable {δ : Type}

/-- The attempts at an address, oldest first. -/
def attemptsAt (cached : CachedDriver δ) (address : String) : List Attempt :=
  cached.attempts.filter fun attempt => attempt.address = address

/-- The fate of the opening at an address that has not failed, if there is one. -/
def standing (cached : CachedDriver δ) (address : String) : List Fate :=
  match cached.handles.get? address, cached.inFlight.get? address with
  | some handle, _ => [.replied (.ok handle)]
  | none, some _ => [.underWay]
  | none, none => []

/-- The openings at an address, of which all but the one that stands have failed. -/
structure Chronicled (moments : List Moment) (cached : CachedDriver (Recorded δ))
    (address : String) (failed : List Fate) : Prop where
  fails : ∀ fate ∈ failed, fate.fails = true
  openings : cached.driver.openings address = (failed ++ cached.standing address).length
  outcomes : cached.driver.outcomes address =
    (failed ++ cached.standing address).map Fate.reply?
  attempts : List.Forall₂ (Attempt.Shows moments) (cached.attemptsAt address)
    (failed ++ cached.standing address)

theorem attemptsAt_append (cached : CachedDriver δ) (driver : δ) (attempt : Attempt)
    (inFlight : SortedMap String Nat) (address : String) :
    ({ cached with driver, attempts := cached.attempts ++ [attempt], inFlight } :
        CachedDriver δ).attemptsAt address =
      cached.attemptsAt address ++ if attempt.address = address then [attempt] else [] := by
  by_cases here : attempt.address = address
  · simp [attemptsAt, List.filter_append, here]
  · simp [attemptsAt, List.filter_append, here]

section Conclude

variable {cached : CachedDriver δ} {number : Nat} {attempt : Attempt}

theorem attemptsAt_conclude (found : cached.attempts[number]? = some attempt) (driver : δ)
    (result : Except DriverError Handle) :
    ∃ front back, cached.attemptsAt attempt.address = front ++ attempt :: back ∧
      (({ cached with driver } : CachedDriver δ).conclude number attempt.address
        result).attemptsAt attempt.address = front ++ attempt.ended result :: back := by
  rcases exists_modify found fun attempt => attempt.ended result with
    ⟨front, back, isBefore, isAfter⟩
  refine ⟨front.filter fun other => other.address = attempt.address,
    back.filter fun other => other.address = attempt.address, ?_, ?_⟩
  · simp [attemptsAt, isBefore]
  · rw [attemptsAt, attempts_conclude, isAfter]
    simp

theorem attemptsAt_conclude_of_ne (found : cached.attempts[number]? = some attempt) (driver : δ)
    (result : Except DriverError Handle) {address : String} (differs : attempt.address ≠ address) :
    (({ cached with driver } : CachedDriver δ).conclude number attempt.address
      result).attemptsAt address = cached.attemptsAt address := by
  rcases exists_modify found fun attempt => attempt.ended result with
    ⟨front, back, isBefore, isAfter⟩
  rw [attemptsAt, attempts_conclude, isAfter, attemptsAt, isBefore]
  simp [differs]

end Conclude

theorem standing_eq {cached after : CachedDriver δ} {address : String}
    (handles : after.handles.get? address = cached.handles.get? address)
    (inFlight : after.inFlight.get? address = cached.inFlight.get? address) :
    after.standing address = cached.standing address := by
  rw [standing, standing, handles, inFlight]

theorem standing_of_flying {cached : CachedDriver δ} {address : String} {number : Nat}
    (unhandled : cached.handles.get? address = none)
    (flying : cached.inFlight.get? address = some number) :
    cached.standing address = [.underWay] := by
  rw [standing, unhandled, flying]

theorem standing_of_idle {cached : CachedDriver δ} {address : String}
    (unhandled : cached.handles.get? address = none)
    (grounded : cached.inFlight.get? address = none) : cached.standing address = [] := by
  rw [standing, unhandled, grounded]

theorem standing_of_kept {cached : CachedDriver δ} {address : String} {handle : Handle}
    (handled : cached.handles.get? address = some handle) :
    cached.standing address = [.replied (.ok handle)] := by
  rw [standing, handled]

/-- A handle stands where an opening has yielded one, and after a failure nothing does. -/
theorem standing_conclude (cached : CachedDriver δ) {address : String}
    (unhandled : cached.handles.get? address = none) (number : Nat)
    (result : Except DriverError Handle) :
    (cached.conclude number address result).standing address =
      result.toOption.toList.map fun handle => .replied (.ok handle) := by
  have handles : (cached.conclude number address result).handles.get? address =
      result.toOption := by
    rw [get?_handles_conclude, if_pos rfl, unhandled, Option.or_none]
  cases result with
  | ok handle => exact standing_of_kept handles
  | error error => exact standing_of_idle handles (by simp)

section Standing

variable (cached : CachedDriver δ) (address : String)

/-- Something stands where there is a handle or an attempt in flight. -/
theorem length_standing : (cached.standing address).length =
    if (cached.handles.get? address).isSome ∨ (cached.inFlight.get? address).isSome
    then 1 else 0 := by
  unfold standing
  split <;> simp_all

theorem countP_fails_standing : (cached.standing address).countP Fate.fails = 0 := by
  unfold standing
  split <;> rfl

theorem countP_succeeds_standing : (cached.standing address).countP Fate.succeeds ≤ 1 := by
  unfold standing
  split <;> simp [Fate.succeeds]

theorem mem_standing_iff (handle : Handle) :
    .replied (.ok handle) ∈ cached.standing address ↔
      cached.handles.get? address = some handle := by
  cases handled : cached.handles.get? address with
  | some kept => simp [standing_of_kept handled, eq_comm]
  | none =>
      cases flying : cached.inFlight.get? address with
      | some number => simp [standing_of_flying handled flying]
      | none => simp [standing_of_idle handled flying]

end Standing

namespace Chronicled

variable {moments later : List Moment} {cached after : CachedDriver (Recorded δ)}
  {address : String} {failed : List Fate}

theorem new (driver : δ) (address : String) :
    Chronicled [] { driver := { driver } } address [] where
  fails _ member := by cases member
  openings := rfl
  outcomes := rfl
  attempts := .nil

theorem mono (chronicled : Chronicled moments cached address failed) (more : moments ⊆ later) :
    Chronicled later cached address failed where
  fails := chronicled.fails
  openings := chronicled.openings
  outcomes := chronicled.outcomes
  attempts := chronicled.attempts.imp fun _ _ shows => shows.mono more

/-- What was begun has failed, or stands. -/
theorem openings_eq (chronicled : Chronicled moments cached address failed) :
    cached.driver.openings address = (failed ++ cached.standing address).countP Fate.fails +
      if (cached.handles.get? address).isSome ∨ (cached.inFlight.get? address).isSome
      then 1 else 0 := by
  rw [chronicled.openings, List.length_append, length_standing, List.countP_append,
    List.countP_eq_length.2 chronicled.fails, countP_fails_standing, Nat.add_zero]

theorem countP_succeeds_le (chronicled : Chronicled moments cached address failed) :
    (failed ++ cached.standing address).countP Fate.succeeds ≤ 1 := by
  have noneSucceeds : failed.countP Fate.succeeds = 0 := by
    refine List.countP_eq_zero.2 fun fate member => ?_
    simp [Fate.not_succeeds_of_fails (chronicled.fails fate member)]
  rw [List.countP_append, noneSucceeds, Nat.zero_add]
  exact countP_succeeds_standing cached address

/-- A handle is remembered exactly if an opening has yielded it. -/
theorem handle_iff (chronicled : Chronicled moments cached address failed) (handle : Handle) :
    cached.handles.get? address = some handle ↔
      .replied (.ok handle) ∈ failed ++ cached.standing address := by
  rw [List.mem_append, mem_standing_iff]
  refine (or_iff_right fun member => ?_).symm
  cases chronicled.fails _ member

/-- Nothing has happened at the address. -/
theorem frame (chronicled : Chronicled moments cached address failed)
    (standing : after.standing address = cached.standing address)
    (openings : after.driver.openings address = cached.driver.openings address)
    (outcomes : after.driver.outcomes address = cached.driver.outcomes address)
    (attempts : after.attemptsAt address = cached.attemptsAt address) :
    Chronicled moments after address failed where
  fails := chronicled.fails
  openings := by rw [openings, standing, chronicled.openings]
  outcomes := by rw [outcomes, standing, chronicled.outcomes]
  attempts := by
    rw [attempts, standing]
    exact chronicled.attempts

/-- One opening more is under way. -/
theorem begin {attempt : Attempt} (chronicled : Chronicled moments cached attempt.address failed)
    (waiting : attempt.result? = none) (idle : cached.standing attempt.address = [])
    (flying : after.standing attempt.address = [.underWay])
    (openings : after.driver.openings attempt.address =
      cached.driver.openings attempt.address + 1)
    (outcomes : after.driver.outcomes attempt.address =
      cached.driver.outcomes attempt.address ++ [none])
    (attempts : after.attemptsAt attempt.address =
      cached.attemptsAt attempt.address ++ [attempt]) :
    Chronicled moments after attempt.address failed where
  fails := chronicled.fails
  openings := by simp [openings, chronicled.openings, idle, flying]
  outcomes := by simp [outcomes, chronicled.outcomes, idle, flying, Fate.reply?]
  attempts := by
    have before := chronicled.attempts
    rw [idle, List.append_nil] at before
    rw [attempts, flying, forall₂_concat_iff]
    exact ⟨before, .underWay waiting⟩

/-- The attempt that waits is the last one, and all others have failed. -/
theorem eq_nil_of_waiting {attempt : Attempt} {front back : List Attempt}
    (chronicled : Chronicled moments cached address failed)
    (flying : cached.standing address = [.underWay]) (waiting : attempt.result? = none)
    (attempts : cached.attemptsAt address = front ++ attempt :: back) : back = [] := by
  have related := chronicled.attempts
  rw [flying, attempts] at related
  induction back using List.reverseRecOn with
  | nil => rfl
  | append_singleton back last _ =>
      rw [← List.cons_append, ← List.append_assoc, forall₂_concat_iff] at related
      rcases mem_left_of_forall₂ related.1 (List.mem_append_right front List.mem_cons_self) with
        ⟨fate, member, shows⟩
      have fails := chronicled.fails fate member
      rw [shows.not_fails_of_waiting waiting] at fails
      cases fails

/-- With one fate more, a failure joins the others and a handle stands. -/
theorem exists_failed_concluded {attempt : Attempt} {result : Except DriverError Handle}
    {fate : Fate} (fails : ∀ fate ∈ failed, fate.fails = true)
    (shows : (attempt.ended result).Shows moments fate) :
    ∃ failed', (∀ fate ∈ failed', fate.fails = true) ∧
      failed' ++ (result.toOption.toList.map fun handle => .replied (.ok handle)) =
        failed ++ [fate] := by
  cases result with
  | ok handle =>
      refine ⟨failed, fails, ?_⟩
      rw [shows.fate_of_ok rfl]
      rfl
  | error error =>
      refine ⟨failed ++ [fate], fun other member => ?_, List.append_nil _⟩
      rcases List.mem_append.1 member with old | new
      · exact fails other old
      · obtain rfl := List.mem_singleton.1 new
        exact shows.fails_of_error rfl

/-- What was under way is over. -/
theorem conclude {attempt : Attempt} {number : Nat} {driver : Recorded δ}
    {result : Except DriverError Handle} {fate : Fate}
    (chronicled : Chronicled moments cached attempt.address failed) (coherent : cached.Coherent)
    (found : cached.attempts[number]? = some attempt) (waiting : attempt.result? = none)
    (openings : driver.openings attempt.address = cached.driver.openings attempt.address)
    (outcomes : driver.outcomes attempt.address = failed.map Fate.reply? ++ [fate.reply?])
    (shows : (attempt.ended result).Shows moments fate) :
    ∃ failed', Chronicled moments (({ cached with driver } : CachedDriver (Recorded δ)).conclude
      number attempt.address result) attempt.address failed' := by
  have unhandled := coherent.handle_none_of_waiting found waiting
  have flying := standing_of_flying unhandled (coherent.inFlight_of_waiting found waiting)
  rcases attemptsAt_conclude found driver result with ⟨front, back, isBefore, isAfter⟩
  obtain rfl := chronicled.eq_nil_of_waiting flying waiting isBefore
  have before := chronicled.attempts
  rw [flying, isBefore, forall₂_concat_iff] at before
  rcases exists_failed_concluded chronicled.fails shows with ⟨failed', fails, total⟩
  have standing := standing_conclude { cached with driver } unhandled number result
  rw [← standing] at total
  refine ⟨failed', fails, ?_, ?_, ?_⟩
  · rw [driver_conclude, openings, total, chronicled.openings, flying]
    simp
  · rw [driver_conclude, outcomes, total, List.map_append]
    rfl
  · rw [isAfter, total, forall₂_concat_iff]
    exact ⟨before.1, shows⟩

end Chronicled

variable [Driver δ] {moments : List Moment} {moment : Moment} {address : String}
  {cached after : CachedDriver (Recorded δ)}

theorem Move.chronicled_elsewhere (move : Move moment address cached after) {other : String}
    (differs : address ≠ other) {failed : List Fate}
    (chronicled : Chronicled moments cached other failed) :
    Chronicled moments after other failed := by
  cases move with
  | @begins attempt here =>
      subst here
      refine chronicled.frame (standing_eq rfl ?_) ?_ ?_ ?_
      · exact (SortedMap.get?_insert ..).trans (if_neg differs.symm)
      · simp [differs]
      · simp [differs]
      · rw [attemptsAt_append, if_neg differs, List.append_nil]
  | @replies number attempt here found =>
      subst here
      refine chronicled.frame (standing_eq ?_ ?_) ?_ ?_ ?_
      · rw [get?_handles_conclude, if_neg differs.symm]
      · rw [get?_inFlight_conclude, if_neg differs.symm]
      · simp
      · simp [differs]
      · exact attemptsAt_conclude_of_ne found _ _ differs
  | @breaksOff number attempt interruption here found =>
      subst here
      refine chronicled.frame (standing_eq ?_ ?_) rfl rfl ?_
      · rw [get?_handles_conclude, if_neg differs.symm]
      · rw [get?_inFlight_conclude, if_neg differs.symm]
      · exact attemptsAt_conclude_of_ne found cached.driver _ differs

theorem Move.chronicled_here (move : Move moment address cached after) (coherent : cached.Coherent)
    (isMoment : moment ∈ moments) {failed : List Fate}
    (chronicled : Chronicled moments cached address failed) :
    ∃ failed', Chronicled moments after address failed' := by
  cases move with
  | @begins attempt here waiting unhandled grounded =>
      subst here
      have flying : (cached.inFlight.insert attempt.address cached.attempts.length).get?
          attempt.address = some cached.attempts.length := by
        rw [SortedMap.get?_insert, if_pos rfl]
      refine ⟨failed, chronicled.begin waiting (standing_of_idle unhandled grounded)
        (standing_of_flying unhandled flying) ?_ ?_ ?_⟩
      · simp
      · simp
      · rw [attemptsAt_append, if_pos rfl]
  | @replies number attempt here found waiting =>
      subst here
      have flying := standing_of_flying (coherent.handle_none_of_waiting found waiting)
        (coherent.inFlight_of_waiting found waiting)
      refine chronicled.conclude coherent found waiting ?_ ?_ (.replied _ rfl)
      · simp
      · simp [chronicled.outcomes, flying, Fate.reply?]
  | @breaksOff number attempt interruption here found waiting interrupted =>
      subst here
      have flying := standing_of_flying (coherent.handle_none_of_waiting found waiting)
        (coherent.inFlight_of_waiting found waiting)
      refine chronicled.conclude coherent found waiting rfl ?_
        (.brokenOff isMoment interrupted rfl)
      simp [chronicled.outcomes, flying, Fate.reply?]

theorem Moves.chronicled (moves : Moves moment address cached after) (coherent : cached.Coherent)
    (isMoment : moment ∈ moments)
    (chronicled : ∀ other, ∃ failed, Chronicled moments cached other failed) :
    ∀ other, ∃ failed, Chronicled moments after other failed := by
  induction moves with
  | refl => exact chronicled
  | step move _ ih =>
      refine ih (move.coherent coherent) fun other => ?_
      rcases chronicled other with ⟨failed, chronicled⟩
      by_cases here : address = other
      · subst here
        exact move.chronicled_here coherent isMoment chronicled
      · exact ⟨failed, move.chronicled_elsewhere here chronicled⟩

end CachedDriver

end AvControl
