import AvControl.Driver.Cached
import AvControl.Proofs.Context
import AvControl.Proofs.Driver.Recorded
import AvControl.Proofs.SortedMap

/-!
# Coherence of cached drivers

The attempts of a cached driver, its handles and its record of attempts in flight tell one story:
an address is in flight exactly under the number of the one attempt there that has not ended, and
while it is there is no handle for it. An attempt lets its address go by the address and not by its
number; that this is always its own entry follows from there being no other attempt in flight for
the address.

Every use of a cached driver is made of two kinds of moves. An attempt begins where there is neither
a handle nor an attempt in flight; and an attempt that has not ended is ended, with what its driver
replies or because its context has ended. What is to be shown of all uses is shown of each move.
-/

namespace AvControl

/-- What the reply to an opening means to whoever wants the device opened. -/
def Reply.opening : Reply Handle → Except DriverError Handle
  | .ok handle => .ok handle
  | .error refusal => .error refusal
  | .crash => .error CachedDriver.crashed

namespace Attempt

/-- Whether this is an attempt at an address that has not ended. -/
def waitsAt (address : String) (attempt : Attempt) : Bool :=
  attempt.address = address && attempt.result?.isNone

@[simp]
theorem waitsAt_iff {address : String} {attempt : Attempt} :
    attempt.waitsAt address = true ↔ attempt.address = address ∧ attempt.result? = none := by
  simp [waitsAt]

/-- The attempt at its end. -/
def ended (attempt : Attempt) (result : Except DriverError Handle) : Attempt :=
  { attempt with stage := .ended result }

@[simp]
theorem address_ended (attempt : Attempt) (result : Except DriverError Handle) :
    (attempt.ended result).address = attempt.address := rfl

@[simp]
theorem result?_ended (attempt : Attempt) (result : Except DriverError Handle) :
    (attempt.ended result).result? = some result := rfl

end Attempt

theorem getElem?_concat_eq_some {α : Type} {list : List α} {last entry : α} {n : Nat} :
    (list ++ [last])[n]? = some entry ↔
      list[n]? = some entry ∨ n = list.length ∧ last = entry := by
  rcases Nat.lt_trichotomy n list.length with older | same | beyond
  · simp [List.getElem?_append_left older, Nat.ne_of_lt older]
  · simp [same]
  · have outside : (list ++ [last])[n]? = none := List.getElem?_eq_none (by simp; omega)
    simp [outside, List.getElem?_eq_none (Nat.le_of_lt beyond), Nat.ne_of_gt beyond]

theorem any_earlier (a b : Option Nat) (now : Nat) :
    (earlier a b).any (· ≤ now) = (a.any (· ≤ now) || b.any (· ≤ now)) := by
  cases a with
  | none => simp [earlier]
  | some a =>
      cases b with
      | none => simp [earlier]
      | some b =>
          simp only [earlier, Option.any_some, ← Bool.decide_or, decide_eq_decide]
          omega

namespace CachedDriver

variable {δ : Type}

theorem attempts_conclude (cached : CachedDriver δ) (number : Nat) (address : String)
    (result : Except DriverError Handle) :
    (cached.conclude number address result).attempts =
      cached.attempts.modify number fun attempt => attempt.ended result := rfl

theorem getElem?_conclude {cached : CachedDriver δ} {number : Nat} {attempt : Attempt}
    (found : cached.attempts[number]? = some attempt) (address : String)
    (result : Except DriverError Handle) (other : Nat) :
    (cached.conclude number address result).attempts[other]? =
      if other = number then some (attempt.ended result) else cached.attempts[other]? := by
  by_cases same : other = number
  · subst same
    simp [conclude, found, Attempt.ended]
  · simp [conclude, same, Ne.symm same]

@[simp]
theorem get?_inFlight_conclude (cached : CachedDriver δ) (number : Nat) (address other : String)
    (result : Except DriverError Handle) :
    (cached.conclude number address result).inFlight.get? other =
      if other = address then none else cached.inFlight.get? other := by
  simp [conclude]

/-- A handle is added at the address of the attempt, and nothing else is. -/
@[simp]
theorem get?_handles_conclude (cached : CachedDriver δ) (number : Nat) (address other : String)
    (result : Except DriverError Handle) :
    (cached.conclude number address result).handles.get? other =
      if other = address then result.toOption.or (cached.handles.get? other)
      else cached.handles.get? other := by
  cases result <;> by_cases same : other = address <;> simp [conclude, same, Except.toOption]

@[simp]
theorem driver_conclude (cached : CachedDriver δ) (number : Nat) (address : String)
    (result : Except DriverError Handle) :
    (cached.conclude number address result).driver = cached.driver := rfl

theorem follow_conclude {cached : CachedDriver δ} {number : Nat} {attempt : Attempt}
    (found : cached.attempts[number]? = some attempt) (address : String)
    (result : Except DriverError Handle) :
    Caller.follow (cached.conclude number address result) number = .answered result := by
  simp [Caller.follow, getElem?_conclude found, Attempt.ended, Attempt.result?]

/-- The handles and the addresses in flight fit to the attempts. -/
structure Coherent (cached : CachedDriver δ) : Prop where
  inFlight : ∀ address number, cached.inFlight.get? address = some number ↔
    ∃ attempt, cached.attempts[number]? = some attempt ∧ attempt.waitsAt address
  exclusive : ∀ address, (cached.handles.get? address).isSome →
    cached.inFlight.get? address = none

/-- A driver before anybody has come to it. -/
theorem coherent_new (driver : δ) : Coherent { driver } :=
  ⟨by simp, by simp⟩

namespace Coherent

variable {cached : CachedDriver δ}

/-- An attempt that has not ended is the one in flight for its address. -/
theorem inFlight_of_waiting (coherent : cached.Coherent) {number : Nat} {attempt : Attempt}
    (found : cached.attempts[number]? = some attempt) (waiting : attempt.result? = none) :
    cached.inFlight.get? attempt.address = some number :=
  (coherent.inFlight _ _).2 ⟨attempt, found, by simp [waiting]⟩

/-- While an attempt has not ended there is no handle for its address. -/
theorem handle_none_of_waiting (coherent : cached.Coherent) {number : Nat} {attempt : Attempt}
    (found : cached.attempts[number]? = some attempt) (waiting : attempt.result? = none) :
    cached.handles.get? attempt.address = none := by
  have flying := coherent.inFlight_of_waiting found waiting
  cases handled : cached.handles.get? attempt.address with
  | none => rfl
  | some handle =>
      have grounded := coherent.exclusive attempt.address (by simp [handled])
      rw [flying] at grounded
      cases grounded

section Conclude

variable {number : Nat} {attempt : Attempt}

/-- Where an attempt has ended nobody waits. -/
theorem not_waits_conclude (coherent : cached.Coherent)
    (found : cached.attempts[number]? = some attempt) (waiting : attempt.result? = none)
    (result : Except DriverError Handle) {other : Nat} {attempt' : Attempt}
    (found' : (cached.conclude number attempt.address result).attempts[other]? = some attempt') :
    attempt'.waitsAt attempt.address = false := by
  rw [getElem?_conclude found] at found'
  split at found'
  · obtain rfl := Option.some.inj found'
    simp [Attempt.waitsAt]
  · rename_i differs
    rw [← Bool.not_eq_true]
    intro waits
    -- it would be in flight for the address together with the attempt that has ended
    have alsoFlying := (coherent.inFlight _ _).2 ⟨attempt', found', waits⟩
    rw [coherent.inFlight_of_waiting found waiting] at alsoFlying
    exact differs (Option.some.inj alsoFlying).symm

/-- Nobody begins or ceases to wait at another address. -/
theorem waits_conclude_iff (found : cached.attempts[number]? = some attempt)
    (result : Except DriverError Handle) {address : String} (differs : address ≠ attempt.address)
    (other : Nat) :
    (∃ attempt', (cached.conclude number attempt.address result).attempts[other]? =
        some attempt' ∧ attempt'.waitsAt address) ↔
      ∃ attempt', cached.attempts[other]? = some attempt' ∧ attempt'.waitsAt address := by
  rw [getElem?_conclude found]
  by_cases same : other = number
  · subst same
    simp [found, Ne.symm differs]
  · simp [same]

theorem inFlight_conclude (coherent : cached.Coherent)
    (found : cached.attempts[number]? = some attempt) (waiting : attempt.result? = none)
    (result : Except DriverError Handle) (address : String) (other : Nat) :
    (cached.conclude number attempt.address result).inFlight.get? address = some other ↔
      ∃ attempt', (cached.conclude number attempt.address result).attempts[other]? =
        some attempt' ∧ attempt'.waitsAt address := by
  rw [get?_inFlight_conclude]
  by_cases here : address = attempt.address
  · subst here
    rw [if_pos rfl]
    constructor
    · intro impossible
      cases impossible
    · rintro ⟨attempt', found', waits⟩
      rw [coherent.not_waits_conclude found waiting result found'] at waits
      cases waits
  · rw [if_neg here, coherent.inFlight, waits_conclude_iff found result here]

theorem exclusive_conclude (coherent : cached.Coherent) (number : Nat) (attempt : Attempt)
    (result : Except DriverError Handle) (address : String)
    (handled : ((cached.conclude number attempt.address result).handles.get? address).isSome) :
    (cached.conclude number attempt.address result).inFlight.get? address = none := by
  by_cases here : address = attempt.address
  · simp [here]
  · simp only [get?_handles_conclude, get?_inFlight_conclude, if_neg here] at handled ⊢
    exact coherent.exclusive address handled

/-- The end of an attempt keeps the story together. -/
theorem conclude (coherent : cached.Coherent) (found : cached.attempts[number]? = some attempt)
    (waiting : attempt.result? = none) (result : Except DriverError Handle) :
    (cached.conclude number attempt.address result).Coherent :=
  ⟨coherent.inFlight_conclude found waiting result,
    coherent.exclusive_conclude number attempt result⟩

end Conclude

/-- What the driver itself does is of no account. -/
theorem withDriver (coherent : cached.Coherent) (driver : δ) :
    ({ cached with driver } : CachedDriver δ).Coherent :=
  ⟨coherent.inFlight, coherent.exclusive⟩

section Begin

variable {attempt : Attempt}

theorem inFlight_begin (coherent : cached.Coherent) (waiting : attempt.result? = none)
    (grounded : cached.inFlight.get? attempt.address = none) (address : String) (number : Nat) :
    (cached.inFlight.insert attempt.address cached.attempts.length).get? address = some number ↔
      ∃ other, (cached.attempts ++ [attempt])[number]? = some other ∧ other.waitsAt address := by
  have before := coherent.inFlight address number
  simp only [SortedMap.get?_insert, getElem?_concat_eq_some]
  by_cases here : address = attempt.address
  · subst here
    rw [if_pos rfl, Option.some.injEq]
    constructor
    · rintro rfl
      exact ⟨attempt, Or.inr ⟨rfl, rfl⟩, by simp [waiting]⟩
    · rintro ⟨other, older | ⟨same, -⟩, waits⟩
      · rw [grounded] at before
        exact absurd (before.2 ⟨other, older, waits⟩) (by simp)
      · exact same.symm
  · rw [if_neg here, before]
    refine exists_congr fun other => and_congr_left fun waits => ?_
    have otherAddress := (Attempt.waitsAt_iff.1 waits).1
    constructor
    · exact Or.inl
    · rintro (older | ⟨-, rfl⟩)
      · exact older
      · exact absurd otherAddress.symm here

theorem exclusive_begin (coherent : cached.Coherent)
    (unhandled : cached.handles.get? attempt.address = none) (address : String)
    (handled : (cached.handles.get? address).isSome) :
    (cached.inFlight.insert attempt.address cached.attempts.length).get? address = none := by
  have differs : address ≠ attempt.address := by
    rintro rfl
    rw [unhandled] at handled
    cases handled
  rw [SortedMap.get?_insert, if_neg differs]
  exact coherent.exclusive address handled

/-- The beginning of an attempt where there is none and no handle keeps the story together. -/
theorem begin (coherent : cached.Coherent) (waiting : attempt.result? = none)
    (unhandled : cached.handles.get? attempt.address = none)
    (grounded : cached.inFlight.get? attempt.address = none) (driver : δ) :
    Coherent { cached with
      driver
      attempts := cached.attempts ++ [attempt]
      inFlight := cached.inFlight.insert attempt.address cached.attempts.length } :=
  ⟨coherent.inFlight_begin waiting grounded, coherent.exclusive_begin unhandled⟩

end Begin

end Coherent

/-- Nothing that belongs to an address has changed. -/
structure SameAt (address : String) (before after : CachedDriver δ) : Prop where
  handles : after.handles.get? address = before.handles.get? address
  inFlight : after.inFlight.get? address = before.inFlight.get? address
  attempts : ∀ (number : Nat) (attempt : Attempt), attempt.address = address →
    (after.attempts[number]? = some attempt ↔ before.attempts[number]? = some attempt)

namespace SameAt

theorem refl (address : String) (cached : CachedDriver δ) : cached.SameAt address cached :=
  ⟨rfl, rfl, fun _ _ _ => Iff.rfl⟩

theorem trans {address : String} {first middle last : CachedDriver δ}
    (earlier : first.SameAt address middle) (later : middle.SameAt address last) :
    first.SameAt address last where
  handles := later.handles.trans earlier.handles
  inFlight := later.inFlight.trans earlier.inFlight
  attempts number attempt here :=
    (later.attempts number attempt here).trans (earlier.attempts number attempt here)

/-- The end of an attempt matters at its own address only. -/
theorem conclude {cached : CachedDriver δ} {number : Nat} {attempt : Attempt}
    (found : cached.attempts[number]? = some attempt) (driver : δ)
    (result : Except DriverError Handle) {other : String} (differs : other ≠ attempt.address) :
    cached.SameAt other
      (({ cached with driver } : CachedDriver δ).conclude number attempt.address result) := by
  have sameAttempts : ({ cached with driver } : CachedDriver δ).attempts[number]? =
      some attempt := found
  refine ⟨by simp [differs], by simp [differs], fun number' attempt' here => ?_⟩
  rw [getElem?_conclude sameAttempts]
  by_cases same : number' = number
  · subst same
    simp only [if_true, Option.some.injEq, found]
    constructor
    · rintro rfl
      exact absurd here.symm differs
    · rintro rfl
      exact absurd here.symm differs
  · simp [same]

/-- So does the beginning of an attempt. -/
theorem begin (cached : CachedDriver δ) (attempt : Attempt) (driver : δ) {other : String}
    (differs : other ≠ attempt.address) :
    cached.SameAt other
      { cached with
        driver
        attempts := cached.attempts ++ [attempt]
        inFlight := cached.inFlight.insert attempt.address cached.attempts.length } := by
  refine ⟨rfl, by simp [differs], fun number attempt' here => ?_⟩
  rw [getElem?_concat_eq_some]
  refine or_iff_left ?_
  rintro ⟨-, rfl⟩
  exact differs here.symm

end SameAt

/--
A cached driver goes on: handles stay, and an attempt keeps its number and stays as it is unless it
ends, which happens once and leaves its address as it is.
-/
structure Grows (before after : CachedDriver δ) : Prop where
  handles : ∀ other handle, before.handles.get? other = some handle →
    after.handles.get? other = some handle
  attempts : ∀ (number : Nat) (attempt : Attempt), before.attempts[number]? = some attempt →
    after.attempts[number]? = some attempt ∨
      attempt.result? = none ∧ ∃ result, after.attempts[number]? = some (attempt.ended result)

namespace Grows

variable {first middle last before after : CachedDriver δ}

theorem refl (cached : CachedDriver δ) : cached.Grows cached where
  handles _ _ handled := handled
  attempts _ _ found := Or.inl found

theorem trans (earlier : first.Grows middle) (later : middle.Grows last) : first.Grows last where
  handles other handle handled := later.handles other handle (earlier.handles other handle handled)
  attempts number attempt found := by
    rcases earlier.attempts number attempt found with same | ⟨waiting, result, ends⟩
    · exact later.attempts number attempt same
    · rcases later.attempts number _ ends with same | ⟨impossible, -⟩
      · exact Or.inr ⟨waiting, result, same⟩
      · cases impossible

/-- Whatever an attempt has come to is kept. -/
theorem exists_attempt (grows : before.Grows after) {number : Nat} {attempt : Attempt}
    (found : before.attempts[number]? = some attempt) :
    ∃ attempt', after.attempts[number]? = some attempt' ∧ attempt'.address = attempt.address ∧
      ∀ result, attempt.result? = some result → attempt'.result? = some result := by
  rcases grows.attempts number attempt found with same | ⟨waiting, result, ends⟩
  · exact ⟨attempt, same, rfl, fun _ ended => ended⟩
  · refine ⟨_, ends, rfl, fun result' ended => ?_⟩
    rw [waiting] at ended
    cases ended

end Grows

/-- What looking after a caller of one address may do: nothing changes at other addresses. -/
structure GrowsAt (address : String) (before after : CachedDriver δ) : Prop
    extends Grows before after where
  elsewhere : ∀ other, other ≠ address → before.SameAt other after

namespace GrowsAt

theorem refl (address : String) (cached : CachedDriver δ) : cached.GrowsAt address cached where
  toGrows := .refl cached
  elsewhere other _ := .refl other cached

theorem trans {address : String} {first middle last : CachedDriver δ}
    (earlier : first.GrowsAt address middle) (later : middle.GrowsAt address last) :
    first.GrowsAt address last where
  toGrows := earlier.toGrows.trans later.toGrows
  elsewhere other differs := (earlier.elsewhere other differs).trans (later.elsewhere other differs)

theorem conclude {cached : CachedDriver δ} {number : Nat} {attempt : Attempt}
    (found : cached.attempts[number]? = some attempt) (waiting : attempt.result? = none)
    (unhandled : cached.handles.get? attempt.address = none) (driver : δ)
    (result : Except DriverError Handle) :
    cached.GrowsAt attempt.address
      (({ cached with driver } : CachedDriver δ).conclude number attempt.address result) := by
  have sameAttempts : ({ cached with driver } : CachedDriver δ).attempts[number]? =
      some attempt := found
  have after := getElem?_conclude sameAttempts attempt.address result
  refine ⟨⟨?_, ?_⟩, ?_⟩
  case refine_1 =>
    intro other handle handled
    by_cases here : other = attempt.address
    · subst here
      rw [unhandled] at handled
      cases handled
    · simpa [here] using handled
  case refine_2 =>
    intro other attempt' found'
    by_cases same : other = number
    · subst same
      obtain rfl := Option.some.inj (found.symm.trans found')
      exact Or.inr ⟨waiting, result, by rw [after, if_pos rfl]⟩
    · exact Or.inl (by rw [after, if_neg same]; exact found')
  case refine_3 => exact fun other differs => .conclude found driver result differs

theorem begin (cached : CachedDriver δ) (attempt : Attempt) (driver : δ) :
    cached.GrowsAt attempt.address
      { cached with
        driver
        attempts := cached.attempts ++ [attempt]
        inFlight := cached.inFlight.insert attempt.address cached.attempts.length } where
  handles _ _ handled := handled
  attempts _ _ found := Or.inl (getElem?_concat_eq_some.2 (Or.inl found))
  elsewhere _ differs := .begin cached attempt driver differs

end GrowsAt

/-! ### The moves -/

section Moves

/-- When a caller is looked after: under which cancellations, and at what time. -/
structure Moment where
  tokens : Tokens
  time : Nat

variable [Driver δ]

/-- The two kinds of moves, with two ways in which an attempt may end. -/
inductive Move (moment : Moment) (address : String) (cached : CachedDriver δ) :
    CachedDriver δ → Prop
  | begins {attempt : Attempt} (here : attempt.address = address)
      (waiting : attempt.result? = none) (unhandled : cached.handles.get? attempt.address = none)
      (grounded : cached.inFlight.get? attempt.address = none) :
    Move moment address cached { cached with
      driver := (Driver.beginOpen cached.driver attempt.address).1
      attempts := cached.attempts ++ [attempt]
      inFlight := cached.inFlight.insert attempt.address cached.attempts.length }
  | replies {number : Nat} {attempt : Attempt} (here : attempt.address = address)
      (found : cached.attempts[number]? = some attempt) (waiting : attempt.result? = none) :
    Move moment address cached
      (({ cached with driver := (Driver.finishOpen cached.driver attempt.address).1 } :
        CachedDriver δ).conclude number attempt.address
          (Driver.finishOpen cached.driver attempt.address).2.opening)
  | breaksOff {number : Nat} {attempt : Attempt} {interruption : Interruption}
      (here : attempt.address = address) (found : cached.attempts[number]? = some attempt)
      (waiting : attempt.result? = none)
      (interrupted : attempt.context.interruption? moment.tokens moment.time =
        some interruption) :
    Move moment address cached
      (cached.conclude number attempt.address (.error (.ofInterruption interruption)))

/-- Moves one after another, all at one address. -/
inductive Moves (moment : Moment) (address : String) : CachedDriver δ → CachedDriver δ → Prop
  | refl (cached : CachedDriver δ) : Moves moment address cached cached
  | step {first middle last : CachedDriver δ} (move : Move moment address first middle)
      (rest : Moves moment address middle last) : Moves moment address first last

variable {cached after : CachedDriver δ} {moment : Moment} {address : String}

theorem Move.moves (move : Move moment address cached after) :
    Moves moment address cached after := .step move (.refl after)

/-- The end of a wait is the reply of the driver. -/
theorem finish_eq (cached : CachedDriver δ) (number : Nat) (address : String) :
    cached.finish number address =
      ({ cached with driver := (Driver.finishOpen cached.driver address).1 } :
        CachedDriver δ).conclude number address
          (Driver.finishOpen cached.driver address).2.opening := by
  simp only [finish]
  cases (Driver.finishOpen cached.driver address).2 <;> rfl

/-- Looking after an attempt ends it at most. -/
theorem moves_advance {attempt : Attempt} {number : Nat}
    (found : cached.attempts[number]? = some attempt) (tokens : Tokens) (now : Nat) :
    Moves ⟨tokens, now⟩ attempt.address cached (cached.advance tokens now number) := by
  simp only [advance, found]
  split
  · exact .refl cached
  · rename_i due heedsContext stage
    have waiting : attempt.result? = none := by simp [Attempt.result?, stage]
    split
    · rw [finish_eq]
      exact (Move.replies rfl found waiting).moves
    · split
      · split
        · rename_i interruption interrupted
          exact (Move.breaksOff rfl found waiting interrupted).moves
        · exact .refl cached
      · exact .refl cached

/-- Starting an attempt begins one, which is ended at once or looked after. -/
theorem start_cases (cached : CachedDriver δ) (tokens : Tokens) (now ticket : Nat)
    (context : RequestContext) (address : String) :
    ∃ attempt : Attempt, attempt.address = address ∧ attempt.result? = none ∧
      Moves ⟨(cached.start tokens now ticket context address).2, now⟩ attempt.address
        { cached with
          driver := (Driver.beginOpen cached.driver attempt.address).1
          attempts := cached.attempts ++ [attempt]
          inFlight := cached.inFlight.insert attempt.address cached.attempts.length }
        (cached.start tokens now ticket context address).1 := by
  let attempt : Attempt :=
    { address, context, ticket
      stage := .waiting ((Driver.beginOpen cached.driver address).2.wait.due now)
        (Driver.beginOpen cached.driver address).2.heedsContext }
  refine ⟨attempt, rfl, rfl, ?_⟩
  generalize isBegun : ({ cached with
    driver := (Driver.beginOpen cached.driver attempt.address).1
    attempts := cached.attempts ++ [attempt]
    inFlight := cached.inFlight.insert attempt.address cached.attempts.length } :
      CachedDriver δ) = begun
  have found : begun.attempts[cached.attempts.length]? = some attempt := by
    rw [← isBegun]
    exact List.getElem?_concat_length
  simp only [start]
  rw [show CachedDriver.mk _ _ _ _ = begun from isBegun]
  split
  · rename_i interruption _ interrupted
    exact (Move.breaksOff rfl found rfl interrupted).moves
  · exact moves_advance found _ now

/-- A new attempt begins only where there is neither a handle nor an attempt in flight. -/
theorem moves_start (tokens : Tokens) (now ticket : Nat) (context : RequestContext)
    (unhandled : cached.handles.get? address = none)
    (grounded : cached.inFlight.get? address = none) :
    Moves ⟨(cached.start tokens now ticket context address).2, now⟩ address cached
      (cached.start tokens now ticket context address).1 := by
  rcases cached.start_cases tokens now ticket context address with ⟨attempt, rfl, waiting, moves⟩
  exact .step (.begins rfl waiting unhandled grounded) moves

theorem Move.coherent (move : Move moment address cached after) (coherent : cached.Coherent) :
    after.Coherent := by
  cases move with
  | begins _ waiting unhandled grounded => exact coherent.begin waiting unhandled grounded _
  | @replies number attempt _ found waiting =>
      have asked := coherent.withDriver (Driver.finishOpen cached.driver attempt.address).1
      exact asked.conclude found waiting _
  | breaksOff _ found waiting _ => exact coherent.conclude found waiting _

theorem Move.growsAt (move : Move moment address cached after) (coherent : cached.Coherent) :
    cached.GrowsAt address after := by
  cases move with
  | begins here => exact here ▸ .begin cached _ _
  | replies here found waiting =>
      exact here ▸ .conclude found waiting (coherent.handle_none_of_waiting found waiting) _ _
  | breaksOff here found waiting =>
      exact here ▸
        .conclude found waiting (coherent.handle_none_of_waiting found waiting) cached.driver _

theorem Moves.coherent (moves : Moves moment address cached after) (coherent : cached.Coherent) :
    after.Coherent := by
  induction moves with
  | refl => exact coherent
  | step move _ ih => exact ih (move.coherent coherent)

theorem Moves.growsAt (moves : Moves moment address cached after) (coherent : cached.Coherent) :
    cached.GrowsAt address after := by
  induction moves with
  | refl cached => exact .refl address cached
  | step move _ ih => exact (move.growsAt coherent).trans (ih (move.coherent coherent))

/-- The attempt that is begun for a caller can be found under its number afterwards. -/
theorem exists_attempt_start (coherent : cached.Coherent) (tokens : Tokens) (now ticket : Nat)
    (context : RequestContext) (unhandled : cached.handles.get? address = none)
    (grounded : cached.inFlight.get? address = none) :
    ∃ attempt, (cached.start tokens now ticket context address).1.attempts[
      cached.attempts.length]? = some attempt ∧ attempt.address = address := by
  rcases cached.start_cases tokens now ticket context address with ⟨attempt, rfl, waiting, moves⟩
  have begun := coherent.begin waiting unhandled grounded
    (Driver.beginOpen cached.driver attempt.address).1
  rcases (moves.growsAt begun).exists_attempt List.getElem?_concat_length with
    ⟨attempt', found, sameAddress, -⟩
  exact ⟨attempt', found, sameAddress⟩

/-- An attempt whose wait is over or broken off ends when somebody looks after it. -/
theorem follow_advance {tokens : Tokens} {now number : Nat}
    {attempt : Attempt} (found : cached.attempts[number]? = some attempt)
    (ends : attempt.isOver now = true ∨ attempt.isCancelled tokens = true) :
    ∃ result, Caller.follow (cached.advance tokens now number) number = .answered result := by
  simp only [advance]
  simp only [found]
  cases stage : attempt.stage with
  | ended result => exact ⟨result, by simp [Caller.follow, found, Attempt.result?, stage]⟩
  | waiting due heedsContext =>
      dsimp only
      split
      · have found' : ({ cached with
            driver := (Driver.finishOpen cached.driver attempt.address).1 } :
              CachedDriver δ).attempts[number]? = some attempt := found
        exact ⟨_, follow_conclude found' _ _⟩
      · rename_i notDue
        have broken : heedsContext = true ∧
            (attempt.context.interruption? tokens now).isSome = true := by
          rw [RequestContext.interruption?_isSome]
          rcases ends with isOver | cancelled
          · simp only [Attempt.isOver, Attempt.wake?, stage, any_earlier, Bool.or_eq_true] at isOver
            rcases isOver with isDue | past
            · exact absurd isDue notDue
            · cases heedsContext with
              | false => simp at past
              | true => exact ⟨rfl, Or.inr past⟩
          · simp only [Attempt.isCancelled, stage, Bool.and_eq_true] at cancelled
            exact ⟨cancelled.1, Or.inl cancelled.2⟩
        rw [if_pos broken.1]
        rcases Option.isSome_iff_exists.1 broken.2 with ⟨interruption, isEnded⟩
        rw [isEnded]
        exact ⟨_, follow_conclude found _ _⟩

end Moves

end CachedDriver

end AvControl
