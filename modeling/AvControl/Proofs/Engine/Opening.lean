import AvControl.Engine.Opening
import AvControl.Proofs.Driver.SingleFlight
import AvControl.Proofs.Engine.World
import AvControl.Proofs.Lists

/-!
# What comes of opening devices side by side

Looking after everybody once leaves those alone who have an answer, and answers everybody whose
attempt is over. An answer is what an attempt at the address has come to, or the handle that was
remembered, and it is noted at the time at which it came.

All this is kept from one round to the next. Between two rounds the clock goes on to a time at which
somebody will be answered, or at which patience ends; so there are no more rounds than applicants,
apart from the first, and the rounds that are allowed are enough.
-/

namespace AvControl

namespace Attempt

theorem isOver_of_wake {attempt : Attempt} {time : Nat} (wakes : attempt.wake? = some time) :
    attempt.isOver time = true := by
  simp only [isOver]
  split
  · simp [wakes]
  · rfl

theorem result?_of_not_over {attempt : Attempt} {now : Nat} (notOver : attempt.isOver now = false) :
    attempt.result? = none := by
  rcases attempt with ⟨address, context, ticket, _ | _⟩
  · rfl
  · cases notOver

theorem isCancelled_mono {attempt : Attempt} {tokens later : Tokens}
    (cancelled : attempt.isCancelled tokens = true) (below : tokens.Below later) :
    attempt.isCancelled later = true := by
  rcases attempt with ⟨address, context, ticket, ⟨due, heedsContext⟩ | result⟩
  · simp only [isCancelled, Bool.and_eq_true] at cancelled ⊢
    exact cancelled.imp_right (below _)
  · cases cancelled

/-- An attempt that will go on by itself will do so later than now. -/
theorem lt_of_wake {attempt : Attempt} {now time : Nat} (notOver : attempt.isOver now = false)
    (wakes : attempt.wake? = some time) : now < time := by
  simp only [isOver] at notOver
  split at notOver
  · simpa [wakes] using notOver
  · cases notOver

end Attempt

namespace CachedDriver

variable {δ : Type} [Driver δ]

omit [Driver δ] in
theorem follow_ne_fresh (cached : CachedDriver δ) (number : Nat) :
    Caller.follow cached number ≠ .fresh := by
  unfold Caller.follow
  split <;> simp

theorem caller_poll_ne_fresh (cached : CachedDriver δ) (tokens : Tokens) (now ticket : Nat)
    (context : RequestContext) (address : String) (caller : Caller) :
    (cached.poll tokens now ticket context address caller).caller ≠ .fresh := by
  cases caller with
  | answered result => simp [poll]
  | joined number => exact follow_ne_fresh _ number
  | fresh =>
      simp only [poll]
      split
      · simp
      · split <;> exact follow_ne_fresh _ _

/-- What somebody can be told who wants a device opened. -/
inductive Supplies (cached : CachedDriver δ) (address : String) : Except DriverError Handle → Prop
  | kept {handle : Handle} (handled : cached.handles.get? address = some handle) :
    Supplies cached address (.ok handle)
  | ended {number : Nat} {attempt : Attempt} {result : Except DriverError Handle}
      (found : cached.attempts[number]? = some attempt) (here : attempt.address = address)
      (ended : attempt.result? = some result) : Supplies cached address result

end CachedDriver

namespace Applicant

variable {δ : Type} {cached later : CachedDriver δ} {context : RequestContext}
  {start now : Nat} {applicant : Applicant}

/-- The applicant as a guest of the driver. -/
def guest (applicant : Applicant) (context : RequestContext) (source : Option Source) : Guest where
  address := applicant.address
  context := context
  caller := applicant.caller
  source := source

/-- The applicant was told the truth, and when it was told is known. -/
structure Truthful (cached : CachedDriver δ) (context : RequestContext) (start now : Nat)
    (applicant : Applicant) : Prop where
  attended : ∃ source, (applicant.guest context source).Attended cached
  timed : ∀ time, applicant.answeredAt = some time → start ≤ time ∧ time ≤ now
  noted : applicant.isAnswered = applicant.caller.answer?.isSome

theorem Truthful.grows (truthful : applicant.Truthful cached context start now)
    (grows : cached.Grows later) : applicant.Truthful later context start now where
  attended := truthful.attended.imp fun _ attended => grows.attended attended
  timed := truthful.timed
  noted := truthful.noted

theorem Truthful.waits (truthful : applicant.Truthful cached context start now) {now' : Nat}
    (passes : now ≤ now') : applicant.Truthful cached context start now' where
  attended := truthful.attended
  timed time isTime := (truthful.timed time isTime).imp_right passes.trans'
  noted := truthful.noted

theorem Truthful.supplies (truthful : applicant.Truthful cached context start now)
    {result : Except DriverError Handle} (answered : applicant.caller = .answered result) :
    cached.Supplies applicant.address result := by
  rcases truthful.attended with ⟨_ | ⟨handle⟩ | ⟨number⟩, attended⟩
  · have fresh : applicant.caller = .fresh := attended
    rw [answered] at fresh
    cases fresh
  · rcases attended with ⟨isHandle, handled⟩
    obtain rfl := Caller.answered.inj (answered.symm.trans isHandle)
    exact .kept handled
  · rcases attended with ⟨attempt, found, here, joined | ⟨result', isResult, ended⟩⟩
    · have waits : applicant.caller = .joined number := joined
      rw [answered] at waits
      cases waits
    · obtain rfl := Caller.answered.inj (answered.symm.trans isResult)
      exact .ended found here ended

/-- The answer is as good as what the applicant was told. -/
theorem Truthful.of_answer? (truthful : applicant.Truthful cached context start now)
    {answer : Except DriverError Handle × Nat} (isAnswer : applicant.answer? = some answer) :
    cached.Supplies applicant.address answer.1 ∧ start ≤ answer.2 ∧ answer.2 ≤ now := by
  simp only [answer?] at isAnswer
  split at isAnswer
  · rename_i result time answered isTime
    obtain rfl := Option.some.inj isAnswer
    exact ⟨truthful.supplies answered, truthful.timed time isTime⟩
  · cases isAnswer

theorem Truthful.answer?_isSome (truthful : applicant.Truthful cached context start now)
    (answered : applicant.isAnswered = true) : applicant.answer?.isSome = true := by
  have told := truthful.noted
  rw [answered] at told
  rcases applicant with ⟨address, _ | number | result, _ | time⟩
  · cases answered
  · cases told
  · cases answered
  · cases told
  · cases answered
  · rfl

/-- Whoever is not answered after it was looked after waits for an attempt at its address. -/
theorem Truthful.waits_for (truthful : applicant.Truthful cached context start now)
    (unanswered : applicant.isAnswered = false) (notFresh : applicant.caller ≠ .fresh) :
    ∃ (number : Nat) (attempt : Attempt), applicant.caller = .joined number ∧
      cached.attempts[number]? = some attempt ∧ attempt.address = applicant.address := by
  have noted := truthful.noted
  rw [unanswered] at noted
  rcases truthful.attended with ⟨_ | ⟨handle⟩ | ⟨number⟩, attended⟩
  · exact absurd attended notFresh
  · have answered : applicant.caller = .answered (.ok handle) := attended.1
    simp [answered, Caller.answer?] at noted
  · rcases attended with ⟨attempt, found, here, joined | ⟨result, isResult, -⟩⟩
    · exact ⟨number, attempt, joined, found, here⟩
    · have answered : applicant.caller = .answered result := isResult
      simp [answered, Caller.answer?] at noted

theorem isDue_iff {tokens : Tokens} : applicant.isDue cached tokens now = true ↔
    ∃ (number : Nat) (attempt : Attempt), applicant.caller = .joined number ∧
      cached.attempts[number]? = some attempt ∧
      (attempt.isOver now = true ∨ attempt.isCancelled tokens = true) := by
  simp only [isDue, attempt?]
  cases applicant.caller with
  | fresh | answered => simp
  | joined number => simp [Option.any_eq_true]

theorem isOver_eq_false {tokens : Tokens} {applicants : List Applicant}
    (noneDue : ¬(applicants.any fun applicant => applicant.isDue cached tokens now) = true)
    (member : applicant ∈ applicants) {attempt : Attempt}
    (isAttempt : applicant.attempt? cached = some attempt) : attempt.isOver now = false := by
  simp only [List.any_eq_true, not_exists, not_and, Bool.not_eq_true] at noneDue
  have notDue := noneDue applicant member
  simp only [isDue, isAttempt, Option.any_some, Bool.or_eq_false_iff] at notDue
  exact notDue.1

/-- Whatever happens meanwhile, an attempt that is over is over. -/
theorem isDue_mono {tokens tokens' : Tokens} (due : applicant.isDue cached tokens now = true)
    (grows : cached.Grows later) (below : tokens.Below tokens') :
    applicant.isDue later tokens' now = true := by
  rcases isDue_iff.1 due with ⟨number, attempt, joined, found, ends⟩
  rcases grows.attempts number attempt found with same | ⟨-, result, ended⟩
  · refine isDue_iff.2 ⟨number, attempt, joined, same, ends.imp_right fun cancelled => ?_⟩
    exact attempt.isCancelled_mono cancelled below
  · exact isDue_iff.2 ⟨number, _, joined, ended, Or.inl rfl⟩

/-- What looking after everybody makes of one applicant. -/
structure Follows (before after : Applicant) : Prop where
  address : after.address = before.address
  kept : before.isAnswered = true → after = before

theorem Follows.refl (applicant : Applicant) : applicant.Follows applicant := ⟨rfl, fun _ => rfl⟩

theorem Follows.trans {first middle last : Applicant} (earlier : first.Follows middle)
    (later : middle.Follows last) : first.Follows last where
  address := later.address.trans earlier.address
  kept answered := by
    obtain rfl := earlier.kept answered
    exact later.kept answered

end Applicant

namespace World

variable {δ : Type} [Driver δ] {driver : String} {context : RequestContext} {start : Nat}
  {world : World δ} {cached : CachedDriver δ}

/-- The memory of a driver has gone on with the world, and no time has passed. -/
structure Carries (driver : String) (world : World δ) (cached : CachedDriver δ) (world' : World δ)
    (cached' : CachedDriver δ) : Prop where
  found : world'.registry.get driver = some cached'
  coherent : cached'.Coherent
  grows : cached.Grows cached'
  later : world.Later world'

omit [Driver δ] in
theorem Carries.trans {middle last : World δ} {between final : CachedDriver δ}
    (first : Carries driver world cached middle between)
    (second : Carries driver middle between last final) :
    Carries driver world cached last final where
  found := second.found
  coherent := second.coherent
  grows := first.grows.trans second.grows
  later := first.later.trans second.later

/-! ### One round -/

/-- Looking after an applicant is looking after a caller, and noting the time. -/
theorem attend_eq (found : world.registry.get driver = some cached) (applicant : Applicant) :
    let polled := cached.poll world.tokens world.clock world.tickets context applicant.address
      applicant.caller
    (world.attend driver context applicant).1.registry.get driver = some polled.cached ∧
      (world.attend driver context applicant).2 =
        { applicant with
          caller := polled.caller
          answeredAt := if applicant.isAnswered then applicant.answeredAt
            else polled.caller.answer?.map fun _ => world.clock } := by
  rcases lookAfter_eq found applicant.address context applicant.caller with
    ⟨journal, tickets, looked⟩
  simp only [attend, looked]
  exact ⟨get_set _ _ _, trivial⟩

theorem later_attend (world : World δ) (driver : String) (context : RequestContext)
    (applicant : Applicant) : world.Later (world.attend driver context applicant).1 :=
  world.later_lookAfter driver applicant.address context applicant.caller

theorem follows_attend (found : world.registry.get driver = some cached) {applicant : Applicant}
    (truthful : applicant.Truthful cached context start world.clock) :
    applicant.Follows (world.attend driver context applicant).2 := by
  rw [(attend_eq found applicant).2]
  refine ⟨rfl, fun answered => ?_⟩
  have noted := truthful.noted
  rw [answered] at noted
  rcases applicant with ⟨address, _ | number | result, answeredAt⟩
  · cases noted
  · cases noted
  · simp [answered, CachedDriver.poll]

theorem answered_attend (found : world.registry.get driver = some cached) {applicant : Applicant}
    (truthful : applicant.Truthful cached context start world.clock)
    (due : applicant.isDue cached world.tokens world.clock = true) :
    (world.attend driver context applicant).2.isAnswered = true := by
  rcases Applicant.isDue_iff.1 due with ⟨number, attempt, joined, isAttempt, ends⟩
  rcases CachedDriver.follow_advance isAttempt ends with ⟨result, answered⟩
  have unanswered : applicant.isAnswered = false := by
    rw [truthful.noted, joined]
    rfl
  rw [(attend_eq found applicant).2]
  simp only [Applicant.isAnswered] at unanswered
  simp [Applicant.isAnswered, unanswered, joined, CachedDriver.poll, answered, Caller.answer?]

theorem truthful_attend (found : world.registry.get driver = some cached)
    (coherent : cached.Coherent) (began : start ≤ world.clock) {applicant : Applicant}
    (truthful : applicant.Truthful cached context start world.clock) :
    ∃ cached', Carries driver world cached (world.attend driver context applicant).1 cached' ∧
      (world.attend driver context applicant).2.Truthful cached' context start world.clock := by
  rcases truthful.attended with ⟨source, attended⟩
  rcases CachedDriver.poll_spec coherent attended world.tokens world.clock world.tickets with
    ⟨moves, attended', -⟩
  rcases attend_eq found applicant with ⟨found', isAfter⟩
  have carries : Carries driver world cached (world.attend driver context applicant).1 _ :=
    ⟨found', moves.coherent coherent, (moves.growsAt coherent).toGrows, later_attend _ _ _ _⟩
  refine ⟨_, carries, ?_⟩
  have kept := (follows_attend found truthful).kept
  cases answered : applicant.isAnswered with
  | true =>
      rw [kept answered]
      exact truthful.grows carries.grows
  | false =>
      rw [isAfter, answered]
      refine ⟨⟨_, attended'⟩, fun time isTime => ?_, ?_⟩
      · simp only [Bool.false_eq_true, if_false, Option.map_eq_some_iff] at isTime
        rcases isTime with ⟨_, -, rfl⟩
        exact ⟨began, Nat.le_refl _⟩
      · simp [Applicant.isAnswered]

/-- What a round has made of one applicant. -/
structure CaredFor (world : World δ) (cached cached' : CachedDriver δ) (context : RequestContext)
    (start : Nat) (before after : Applicant) : Prop where
  truthful : after.Truthful cached' context start world.clock
  follows : before.Follows after
  notFresh : after.caller ≠ .fresh
  prompt : before.isDue cached world.tokens world.clock = true → after.isAnswered = true

/-- A round tells nobody anything but the truth, and leaves nobody waiting for what is over. -/
theorem lookAfterAll_spec (applicants : List Applicant) : ∀ {world : World δ}
    {cached : CachedDriver δ}, world.registry.get driver = some cached → cached.Coherent →
      start ≤ world.clock →
      (∀ applicant ∈ applicants, applicant.Truthful cached context start world.clock) →
      ∃ cached', Carries driver world cached (lookAfterAll driver context world applicants).1
          cached' ∧
        List.Forall₂ (world.CaredFor cached cached' context start) applicants
          (lookAfterAll driver context world applicants).2 := by
  induction applicants with
  | nil =>
      intro world cached found coherent _ _
      exact ⟨cached, ⟨found, coherent, .refl cached, .refl world⟩, .nil⟩
  | cons applicant rest ih =>
      intro world cached found coherent began truthful
      rcases List.forall_mem_cons.1 truthful with ⟨first, others⟩
      rcases truthful_attend found coherent began first with ⟨between, carries, told⟩
      have sameClock := carries.later.clock
      have others' : ∀ other ∈ rest, other.Truthful between context start
          (world.attend driver context applicant).1.clock := by
        intro other member
        rw [sameClock]
        exact (others other member).grows carries.grows
      rcases ih carries.found carries.coherent (sameClock ▸ began) others' with
        ⟨cached', carries', served⟩
      simp only [lookAfterAll]
      refine ⟨cached', carries.trans carries', .cons ?_ (served.imp fun before after serves => ?_)⟩
      · refine ⟨told.grows carries'.grows, follows_attend found first, ?_,
          answered_attend found first⟩
        rw [(attend_eq found applicant).2]
        exact CachedDriver.caller_poll_ne_fresh _ _ _ _ _ _ _
      · refine ⟨sameClock ▸ serves.truthful, serves.follows, serves.notFresh, fun due => ?_⟩
        refine serves.prompt ?_
        rw [sameClock]
        exact Applicant.isDue_mono due carries.grows carries.later.tokens

/-! ### The next round -/

omit [Driver δ] in
/-- Time goes on until somebody will be answered, or patience ends. -/
theorem of_nextOpening_eq_some (found : world.registry.get driver = some cached)
    {applicants : List Applicant} {patience : Option Nat} {time : Nat}
    (patient : patience.any (· ≤ world.clock) = false)
    (next : world.nextOpening driver applicants patience = some time) :
    world.clock ≤ time ∧
      ((∃ applicant ∈ applicants, applicant.isDue cached world.tokens time = true) ∨
        patience.any (· ≤ time) = true) := by
  simp only [nextOpening, found] at next
  split at next
  · rename_i due
    obtain rfl := Option.some.inj next
    exact ⟨Nat.le_refl _, Or.inl (by simpa using due)⟩
  · rename_i noneDue
    rcases List.mem_append.1 (List.min?_mem next) with isPatience | isWake
    · obtain rfl : patience = some time := by simpa using isPatience
      have early : world.clock < time := by simpa using patient
      exact ⟨Nat.le_of_lt early, Or.inr (by simp)⟩
    · rcases List.mem_filterMap.1 isWake with ⟨applicant, member, wakes⟩
      rcases Option.bind_eq_some_iff.1 wakes with ⟨attempt, isAttempt, wakes⟩
      have notOver := Applicant.isOver_eq_false noneDue member isAttempt
      refine ⟨Nat.le_of_lt (Attempt.lt_of_wake notOver wakes), Or.inl ⟨applicant, member, ?_⟩⟩
      simp [Applicant.isDue, isAttempt, Attempt.isOver_of_wake wakes]

omit [Driver δ] in
/-- If time does not go on then all attempts that are waited for hang. -/
theorem of_nextOpening_eq_none (found : world.registry.get driver = some cached)
    {applicants : List Applicant} {patience : Option Nat}
    (next : world.nextOpening driver applicants patience = none) {applicant : Applicant}
    (member : applicant ∈ applicants) {attempt : Attempt}
    (isAttempt : applicant.attempt? cached = some attempt) :
    attempt.result? = none ∧ attempt.wake? = none := by
  simp only [nextOpening, found] at next
  split at next
  · cases next
  · rename_i noneDue
    refine ⟨Attempt.result?_of_not_over (Applicant.isOver_eq_false noneDue member isAttempt), ?_⟩
    have noWakes := (List.append_eq_nil_iff.1 (List.min?_eq_none_iff.1 next)).2
    have nothing := List.filterMap_eq_nil_iff.1 noWakes applicant member
    rwa [isAttempt, Option.bind_some] at nothing

/-! ### All rounds -/

/-- The applicants for a driver have been told the truth since some time. -/
structure Receives (world : World δ) (driver : String) (context : RequestContext) (start : Nat)
    (cached : CachedDriver δ) (applicants : List Applicant) : Prop where
  found : world.registry.get driver = some cached
  coherent : cached.Coherent
  began : start ≤ world.clock
  truthful : ∀ applicant ∈ applicants, applicant.Truthful cached context start world.clock

/-- There is nothing more to be done: everybody is answered, patience has ended, or somebody waits
for an attempt that hangs. -/
def Settles (world : World δ) (cached : CachedDriver δ) (patience : Option Nat)
    (applicants : List Applicant) : Prop :=
  applicants.all Applicant.isAnswered = true ∨ patience.any (· ≤ world.clock) = true ∨
    ∃ applicant ∈ applicants, ∃ (number : Nat) (attempt : Attempt),
      cached.attempts[number]? = some attempt ∧ attempt.address = applicant.address ∧
        attempt.result? = none ∧ attempt.wake? = none

/-- How many have no answer yet. -/
def unanswered (applicants : List Applicant) : Nat :=
  applicants.countP fun applicant => !applicant.isAnswered

/--
So many rounds are enough: one for everybody without an answer, and one more unless an attempt is
over by now. When patience has ended one round is enough.
-/
def Suffices (world : World δ) (cached : CachedDriver δ) (patience : Option Nat)
    (applicants : List Applicant) (rounds : Nat) : Prop :=
  unanswered applicants < rounds ∨
    (unanswered applicants ≤ rounds ∧
      ∃ applicant ∈ applicants, applicant.isDue cached world.tokens world.clock = true) ∨
    (patience.any (· ≤ world.clock) = true ∧ 0 < rounds)

section Rounds

variable {applicants : List Applicant} {patience : Option Nat}

/-- Everybody stands as the round has left them. -/
theorem Receives.round (receives : world.Receives driver context start cached applicants) :
    ∃ cached', (lookAfterAll driver context world applicants).1.Receives driver context start
        cached' (lookAfterAll driver context world applicants).2 ∧
      (lookAfterAll driver context world applicants).1.clock = world.clock ∧
      List.Forall₂ (world.CaredFor cached cached' context start) applicants
        (lookAfterAll driver context world applicants).2 := by
  rcases lookAfterAll_spec applicants receives.found receives.coherent receives.began
    receives.truthful with ⟨cached', carries, served⟩
  have sameClock := carries.later.clock
  refine ⟨cached', ⟨carries.found, carries.coherent, sameClock ▸ receives.began, ?_⟩, sameClock,
    served⟩
  intro after member
  rcases mem_right_of_forall₂ served member with ⟨before, -, serves⟩
  exact sameClock ▸ serves.truthful

omit [Driver δ] in
theorem Receives.waits (receives : world.Receives driver context start cached applicants)
    {time : Nat} (passes : world.clock ≤ time) :
    ({ world with clock := time } : World δ).Receives driver context start cached applicants where
  found := receives.found
  coherent := receives.coherent
  began := receives.began.trans passes
  truthful applicant member := (receives.truthful applicant member).waits passes

omit [Driver δ] in
theorem CaredFor.isAnswered {before after : Applicant} {cached' : CachedDriver δ}
    (served : world.CaredFor cached cached' context start before after)
    (waiting : (!after.isAnswered) = true) : (!before.isAnswered) = true := by
  cases answered : before.isAnswered with
  | false => rfl
  | true =>
      rw [served.follows.kept answered, answered] at waiting
      cases waiting

omit [Driver δ] in
/-- A round leaves no more without an answer than before. -/
theorem unanswered_le {after : List Applicant} {cached' : CachedDriver δ}
    (served : List.Forall₂ (world.CaredFor cached cached' context start) applicants after) :
    unanswered after ≤ unanswered applicants :=
  countP_le_of_forall₂ served fun _ _ serves => serves.isAnswered

omit [Driver δ] in
theorem Receives.not_isAnswered (receives : world.Receives driver context start cached applicants)
    {applicant : Applicant} (member : applicant ∈ applicants)
    (due : applicant.isDue cached world.tokens world.clock = true) :
    (!applicant.isAnswered) = true := by
  rcases Applicant.isDue_iff.1 due with ⟨number, attempt, joined, -⟩
  rw [(receives.truthful applicant member).noted, joined]
  rfl

omit [Driver δ] in
/-- If an attempt was over then there are fewer. -/
theorem Receives.unanswered_lt {after : List Applicant} {cached' : CachedDriver δ}
    (receives : world.Receives driver context start cached applicants)
    (served : List.Forall₂ (world.CaredFor cached cached' context start) applicants after)
    {applicant : Applicant} (member : applicant ∈ applicants)
    (due : applicant.isDue cached world.tokens world.clock = true) :
    unanswered after < unanswered applicants := by
  refine countP_lt_of_forall₂ served (fun _ _ serves => serves.isAnswered) member
    (receives.not_isAnswered member due) fun after serves => ?_
  rw [serves.prompt due]
  rfl

/-- Whatever the number of rounds, nobody is told anything but the truth. -/
theorem Receives.awaitOpenings (patience : Option Nat) (rounds : Nat) :
    ∀ {world : World δ} {cached : CachedDriver δ} {applicants : List Applicant},
      world.Receives driver context start cached applicants →
      ∃ cached', (awaitOpenings driver context patience rounds world applicants).1.Receives driver
          context start cached' (awaitOpenings driver context patience rounds world applicants).2 ∧
        List.Forall₂ Applicant.Follows applicants
          (awaitOpenings driver context patience rounds world applicants).2 := by
  induction rounds with
  | zero =>
      intro world cached applicants receives
      exact ⟨cached, receives, List.forall₂_same.2 fun applicant _ => .refl applicant⟩
  | succ rounds ih =>
      intro world cached applicants receives
      rcases receives.round with ⟨between, receives', -, served⟩
      have follows := served.imp fun _ _ serves => serves.follows
      simp only [World.awaitOpenings]
      split
      · exact ⟨between, receives', follows⟩
      · rename_i goesOn
        split
        · exact ⟨between, receives', follows⟩
        · rename_i time next
          have patient : patience.any (· ≤ (World.lookAfterAll driver context world
              applicants).1.clock) = false := by
            simp only [Bool.or_eq_true, not_or, Bool.not_eq_true] at goesOn
            exact goesOn.2
          have passes := (of_nextOpening_eq_some receives'.found patient next).1
          rcases ih (receives'.waits passes) with ⟨cached', receives'', follows'⟩
          exact ⟨cached', receives'',
            forall₂_trans follows follows' fun _ _ _ earlier later => earlier.trans later⟩

omit [Driver δ] in
/-- Where the rounds stop although there is patience and somebody has no answer, an attempt
hangs. -/
theorem Receives.settles_of_stop (receives : world.Receives driver context start cached applicants)
    (notFresh : ∀ applicant ∈ applicants, applicant.caller ≠ .fresh)
    (next : world.nextOpening driver applicants patience = none) :
    world.Settles cached patience applicants := by
  by_cases all : applicants.all Applicant.isAnswered = true
  · exact Or.inl all
  · simp only [List.all_eq_true, not_forall, Bool.not_eq_true] at all
    rcases all with ⟨applicant, member, unanswered⟩
    have truthful := receives.truthful applicant member
    rcases truthful.waits_for unanswered (notFresh applicant member) with
      ⟨number, attempt, joined, found, here⟩
    have isAttempt : applicant.attempt? cached = some attempt := by
      simp only [Applicant.attempt?, joined, found]
    exact Or.inr (Or.inr ⟨applicant, member, number, attempt, found, here,
      of_nextOpening_eq_none receives.found next member isAttempt⟩)

omit [Driver δ] in
theorem Receives.unanswered_pos (receives : world.Receives driver context start cached applicants)
    {applicant : Applicant} (member : applicant ∈ applicants)
    (due : applicant.isDue cached world.tokens world.clock = true) :
    0 < unanswered applicants :=
  List.countP_pos_iff.2 ⟨applicant, member, receives.not_isAnswered member due⟩

omit [Driver δ] in
/-- No rounds at all are never enough. -/
theorem Receives.not_suffices_zero
    (receives : world.Receives driver context start cached applicants) :
    ¬world.Suffices cached patience applicants 0 := by
  rintro (none | ⟨enough, applicant, member, due⟩ | ⟨-, none⟩)
  · cases none
  · exact Nat.not_le_of_lt (receives.unanswered_pos member due) enough
  · cases none

omit [Driver δ] in
/-- After a round that leaves somebody without an answer, one round fewer suffices from the next
time on. -/
theorem Receives.suffices_pred
    (receives : world.Receives driver context start cached applicants)
    {world' : World δ} {cached' : CachedDriver δ} {after : List Applicant} {rounds time : Nat}
    (served : List.Forall₂ (world.CaredFor cached cached' context start) applicants after)
    (enough : world.Suffices cached patience applicants (rounds + 1))
    (patient : patience.any (· ≤ world.clock) = false)
    (somebody : after.all Applicant.isAnswered = false)
    (reason : (∃ applicant ∈ after, applicant.isDue cached' world'.tokens time = true) ∨
      patience.any (· ≤ time) = true) :
    ({ world' with clock := time } : World δ).Suffices cached' patience after rounds := by
  have fewer : unanswered after ≤ rounds := by
    rcases enough with less | ⟨enough, applicant, member, due⟩ | ⟨late, -⟩
    · exact (unanswered_le served).trans (Nat.le_of_lt_succ less)
    · exact Nat.le_of_lt_succ ((receives.unanswered_lt served member due).trans_le enough)
    · rw [patient] at late
      cases late
  rcases reason with due | late
  · exact Or.inr (Or.inl ⟨fewer, due⟩)
  · have left : 0 < unanswered after := by
      rcases List.all_eq_false.1 somebody with ⟨applicant, member, waiting⟩
      exact List.countP_pos_iff.2 ⟨applicant, member, by simpa using waiting⟩
    exact Or.inr (Or.inr ⟨late, left.trans_le fewer⟩)

/-- If there are enough rounds then nothing more is to be done after them. -/
theorem Receives.settles (patience : Option Nat) (rounds : Nat) :
    ∀ {world : World δ} {cached : CachedDriver δ} {applicants : List Applicant},
      world.Receives driver context start cached applicants →
      world.Suffices cached patience applicants rounds →
      ∃ cached', (World.awaitOpenings driver context patience rounds world
          applicants).1.registry.get driver = some cached' ∧
        (World.awaitOpenings driver context patience rounds world applicants).1.Settles cached'
          patience (World.awaitOpenings driver context patience rounds world applicants).2 := by
  induction rounds with
  | zero => exact fun receives enough => absurd enough receives.not_suffices_zero
  | succ rounds ih =>
      intro world cached applicants receives enough
      rcases receives.round with ⟨between, receives', sameClock, served⟩
      have notFresh : ∀ after ∈ (World.lookAfterAll driver context world applicants).2,
          after.caller ≠ .fresh := by
        intro after member
        rcases mem_right_of_forall₂ served member with ⟨before, -, serves⟩
        exact serves.notFresh
      simp only [World.awaitOpenings]
      split
      · rename_i stops
        rw [Bool.or_eq_true] at stops
        refine ⟨between, receives'.found, ?_⟩
        rcases stops with all | late
        · exact Or.inl all
        · exact Or.inr (Or.inl late)
      · rename_i goesOn
        simp only [Bool.or_eq_true, not_or, Bool.not_eq_true] at goesOn
        split
        · rename_i next
          exact ⟨between, receives'.found, receives'.settles_of_stop notFresh next⟩
        · rename_i time next
          rcases of_nextOpening_eq_some receives'.found goesOn.2 next with ⟨passes, reason⟩
          exact ih (receives'.waits passes)
            (receives.suffices_pred served enough (sameClock ▸ goesOn.2) goesOn.1 reason)

end Rounds

/-! ### Everybody at once -/

omit [Driver δ] in
/-- Nobody has been told anything before the first round. -/
theorem receives_fresh (found : world.registry.get driver = some cached)
    (coherent : cached.Coherent) (context : RequestContext) (addresses : List String) :
    world.Receives driver context world.clock cached
      (addresses.map fun address => { address := address }) where
  found := found
  coherent := coherent
  began := Nat.le_refl _
  truthful applicant member := by
    rcases List.mem_map.1 member with ⟨address, -, rfl⟩
    exact ⟨⟨none, rfl⟩, by simp, rfl⟩

/--
All who are answered are told the truth, which came between the beginning and the end; and unless
everybody is answered patience has ended, or one of them waits for an attempt that hangs.
-/
theorem openAll_spec (found : world.registry.get driver = some cached) (coherent : cached.Coherent)
    (context : RequestContext) (addresses : List String) (patience : Option Nat) :
    let opened := world.openAll driver context addresses patience
    ∃ cached', opened.1.registry.get driver = some cached' ∧ cached'.Coherent ∧
      world.clock ≤ opened.1.clock ∧
      match opened.2 with
      | some answers => List.Forall₂ (fun address answer => cached'.Supplies address answer.1 ∧
          world.clock ≤ answer.2 ∧ answer.2 ≤ opened.1.clock) addresses answers
      | none => patience.any (· ≤ opened.1.clock) = true ∨
          ∃ (number : Nat) (attempt : Attempt), cached'.attempts[number]? = some attempt ∧
            attempt.address ∈ addresses ∧ attempt.result? = none ∧ attempt.wake? = none := by
  have fresh := receives_fresh found coherent context addresses
  have enough : unanswered (addresses.map fun address => ({ address := address } : Applicant)) <
      addresses.length + 2 := by
    have most := List.countP_le_length (p := fun applicant : Applicant => !applicant.isAnswered)
      (l := addresses.map fun address => { address := address })
    rw [List.length_map] at most
    exact Nat.lt_of_le_of_lt most (by omega)
  rcases fresh.awaitOpenings patience (addresses.length + 2) with
    ⟨cached', receives, follows⟩
  rcases fresh.settles patience (addresses.length + 2) (Or.inl enough) with
    ⟨cached'', found', settles⟩
  obtain rfl := Option.some.inj (receives.found.symm.trans found')
  refine ⟨cached', receives.found, receives.coherent, receives.began, ?_⟩
  have places := List.forall₂_map_left_iff.1 follows
  split
  · rename_i answers isSome
    have told := forall₂_and_right places receives.truthful
    refine forall₂_trans told (forall₂_of_mapM_option isSome) ?_
    rintro address applicant answer ⟨follows, truthful⟩ isAnswer
    have here : applicant.address = address := follows.address
    exact here ▸ truthful.of_answer? isAnswer
  · rename_i isNone
    rcases settles with all | late | ⟨applicant, member, number, attempt, isAttempt, here, hangs⟩
    · rcases exists_of_mapM_eq_none isNone with ⟨applicant, member, nothing⟩
      have answered := (receives.truthful applicant member).answer?_isSome
        (List.all_eq_true.1 all applicant member)
      rw [nothing] at answered
      cases answered
    · exact Or.inl late
    · rcases mem_right_of_forall₂ places member with ⟨address, isAddress, follows⟩
      have sameAddress : applicant.address = address := follows.address
      exact Or.inr ⟨number, attempt, isAttempt, here ▸ sameAddress ▸ isAddress, hangs⟩

end World

end AvControl
