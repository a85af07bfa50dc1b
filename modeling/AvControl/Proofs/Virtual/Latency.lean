import AvControl.Engine.World
import AvControl.Proofs.Driver.Registry
import AvControl.Proofs.Engine.Preparation
import AvControl.Proofs.Engine.World
import AvControl.Proofs.Virtual.Latencies
import Mathlib.Data.List.Induction

/-!
# Latency, however drivers are used

Configurations, openings and calls follow each other as they like, and each of them does to a driver
one of three things: it is told another latency, it goes on with its attempts, or it is called. So a
device takes as long as its driver had been told when the attempt that opened it began, and nothing
that comes later can change that.
-/

namespace AvControl

open Virtual

namespace CachedDriver

/-- What an act does to one driver: the attempts that begin, and the latency that it is told. -/
inductive Follows (now : Nat) (before : CachedDriver VirtualDriver) :
    List Opening → Option Nat → CachedDriver VirtualDriver → Prop
  | proceeds {begun : List Opening} {after : CachedDriver VirtualDriver}
      (proceeds : Proceeds now before begun after) : Follows now before begun none after
  | told (latency : Nat) :
    Follows now before [] (some latency) { before with driver := { before.driver with latency } }
  | finishes (address : String) (command : Command) :
    Follows now before [] none (before.finishCall address command)

namespace Follows

variable {now : Nat} {before after : CachedDriver VirtualDriver} {openings begun : List Opening}
  {told : Option Nat}

theorem rests : Follows now before [] none before := .proceeds (.rests before)

theorem timed (follows : before.Follows now begun told after) (timed : before.Timed openings) :
    after.Timed (openings ++ begun) := by
  cases follows with
  | proceeds proceeds => exact timed.proceeds proceeds
  | told latency => simpa using timed.told latency
  | finishes address command => simpa using timed.finishCall address command

theorem latency (follows : before.Follows now begun told after) :
    after.driver.latency = told.getD before.driver.latency := by
  cases follows with
  | proceeds proceeds => exact proceeds.latency
  | told latency => rfl
  | finishes address command => exact VirtualDriver.latency_perform _ _ _

theorem lasts (follows : before.Follows now begun told after) : before.Lasts after := by
  cases follows with
  | proceeds proceeds => exact proceeds.lasts
  | told | finishes => exact fun number attempt found => Or.inl found

end Follows

end CachedDriver

namespace World

/-- What may be done with the drivers of a world, and what may happen meanwhile. -/
inductive Act
  | configure (name : String) (configuration : Json)
  /-- Look after somebody who wants the device at an address opened. -/
  | look (name address : String) (context : RequestContext) (caller : Caller)
  | beginCall (config : DeviceConfig) (context : RequestContext) (command : Command)
  | finishCall (config : DeviceConfig) (command : Command)
  | wait (duration : Nat)
  /-- Make a context, perhaps under another one. -/
  | createContext (parent : Option Nat)
  | cancel (context : RequestContext)

/-- The world after an act. -/
def act (world : World VirtualDriver) : Act → World VirtualDriver
  | .configure name configuration =>
    match world.registry.configure name configuration with
    | .ok registry => { world with registry }
    | .error _ => world
  | .look name address context caller => (world.lookAfter name address context caller).1
  | .beginCall config context command => (world.beginCall config context command).1
  | .finishCall config command => (world.finishCall config command).1
  | .wait duration => { world with clock := world.clock + duration }
  | .createContext parent => { world with tokens := (world.tokens.add parent).1 }
  | .cancel context => world.cancel context

/-- The world after some acts, one after another. -/
def perform (world : World VirtualDriver) (acts : List Act) : World VirtualDriver :=
  acts.foldl act world

namespace Act

/-- The attempts that an act begins at a driver. -/
def openings (world : World VirtualDriver) (name : String) : Act → List Opening
  | .look name' address context caller =>
    if name' = name then
      match world.registry.get name with
      | some cached =>
        if (cached.poll world.tokens world.clock world.tickets context address caller).started then
          [⟨address, world.clock, cached.driver.latency⟩]
        else []
      | none => []
    else []
  | _ => []

/-- The latency that an act tells a driver. -/
def told (name : String) : Act → Option Nat
  | .configure name' configuration =>
    if name' = name then (readConfiguration configuration).toOption else none
  | _ => none

end Act

variable {world : World VirtualDriver} {name : String}

theorem rel_rests {now : Nat} (found : Option (CachedDriver VirtualDriver)) :
    Option.Rel (fun before after => before.Follows now [] none after) found found := by
  cases found with
  | none => exact .none
  | some cached => exact .some .rests

/-- What is done to one driver is done to no other one. -/
theorem rel_set {now : Nat} {driver : String} {cached after : CachedDriver VirtualDriver}
    {openings : List Opening} {told : Option Nat}
    (found : world.registry.get driver = some cached)
    (follows : driver = name → cached.Follows now openings told after)
    (nothing : driver ≠ name → openings = [] ∧ told = none) :
    Option.Rel (fun before after => before.Follows now openings told after)
      (world.registry.get name) ((world.registry.set driver after).get name) := by
  rw [Registry.get_set]
  split
  · rename_i same
    rw [same, found]
    exact .some (follows same.symm)
  · rename_i differs
    rcases nothing (Ne.symm differs) with ⟨rfl, rfl⟩
    exact rel_rests _

/-- An act does to every driver one of the things that can be done to it. -/
theorem follows_act (world : World VirtualDriver) (act : Act) (name : String) :
    Option.Rel (fun before after : CachedDriver VirtualDriver =>
        before.Follows world.clock (act.openings world name) (act.told name) after)
      (world.registry.get name) ((world.act act).registry.get name) := by
  cases act with
  | wait | createContext | cancel => exact rel_rests _
  | configure driver configuration =>
      simp only [World.act, Act.openings, Act.told]
      cases configured : world.registry.configure driver configuration with
      | ok registry =>
          rcases Registry.configure_eq_ok configured with ⟨cached, after, found, accepted, rfl⟩
          rcases CachedDriver.configure_eq_ok.1 accepted with ⟨latency, asks, rfl⟩
          refine rel_set found (fun same => ?_) fun differs => ⟨rfl, if_neg differs⟩
          rw [if_pos same, readConfiguration_eq_ok.2 asks]
          exact .told latency
      | error error =>
          by_cases same : driver = name
          · subst same
            cases Registry.refuses_of_configure configured with
            | missing missing =>
                rw [missing]
                exact .none
            | refused found refused =>
                rw [if_pos rfl, VirtualDriver.configure_eq_error.1 refused]
                exact rel_rests _
          · rw [if_neg same]
            exact rel_rests _
  | look driver address context caller =>
      simp only [World.act, Act.openings, Act.told]
      cases found : world.registry.get driver with
      | none =>
          rw [lookAfter_missing found]
          by_cases same : driver = name
          · subst same
            rw [found]
            exact .none
          · rw [if_neg same]
            exact rel_rests _
      | some cached =>
          rcases lookAfter_eq found address context caller with ⟨journal, tickets, isAfter⟩
          rw [isAfter]
          refine rel_set found (fun same => ?_) fun differs => ⟨if_neg differs, rfl⟩
          subst same
          rw [if_pos rfl, found]
          exact .proceeds (cached.proceeds_poll _ _ _ _ _ _)
  | beginCall config context command =>
      simp only [World.act, Act.openings, Act.told]
      cases found : world.registry.get config.driver with
      | none =>
          simp only [World.beginCall, found]
          exact rel_rests _
      | some cached =>
          simp only [World.beginCall, found]
          exact rel_set found (fun _ => .rests) fun _ => ⟨rfl, rfl⟩
  | finishCall config command =>
      simp only [World.act, Act.openings, Act.told]
      cases found : world.registry.get config.driver with
      | none =>
          rw [finishCall_missing found]
          exact rel_rests _
      | some cached =>
          rw [finishCall_eq found]
          exact rel_set found (fun _ => .finishes _ _) fun _ => ⟨rfl, rfl⟩

/-! ### Runs -/

/-- Nothing that a driver is told among some acts is accepted. -/
def Silent (name : String) (acts : List Act) : Prop :=
  ∀ configuration, Act.configure name configuration ∈ acts →
    ¬∃ latency, AsksLatency configuration latency

/-- The latency that the last accepted configuration asks for, which is none without one. -/
inductive LastTold (name : String) : List Act → Nat → Prop
  | never {acts : List Act} (silent : Silent name acts) : LastTold name acts 0
  | last {front back : List Act} {configuration : Json} {latency : Nat}
      (asks : AsksLatency configuration latency) (silent : Silent name back) :
    LastTold name (front ++ .configure name configuration :: back) latency

theorem silent_of_told {act : Act} (told : act.told name = none) : Silent name [act] := by
  rintro configuration isAct ⟨latency, asks⟩
  obtain rfl := List.mem_singleton.1 isAct
  rw [Act.told, if_pos rfl, readConfiguration_eq_ok.2 asks] at told
  cases told

theorem Silent.snoc {acts : List Act} {act : Act} (silent : Silent name acts)
    (told : act.told name = none) : Silent name (acts ++ [act]) := by
  intro configuration isAct
  rcases List.mem_append.1 isAct with earlier | last
  · exact silent configuration earlier
  · exact silent_of_told told configuration last

theorem LastTold.snoc {acts : List Act} {latency : Nat} (lastTold : LastTold name acts latency)
    (act : Act) : LastTold name (acts ++ [act]) ((act.told name).getD latency) := by
  cases told : act.told name with
  | none =>
      cases lastTold with
      | never silent => exact .never (silent.snoc told)
      | last asks silent =>
          rw [List.append_assoc, List.cons_append]
          exact .last asks (silent.snoc told)
  | some latency' =>
      cases act with
      | configure name' configuration =>
          simp only [Act.told] at told
          split at told
          · rename_i same
            subst same
            have asks : AsksLatency configuration latency' := by
              apply readConfiguration_eq_ok.1
              cases isRead : readConfiguration configuration with
              | error error => simp [isRead, Except.toOption] at told
              | ok latency'' => simpa [isRead, Except.toOption] using told
            exact .last asks (by simp [Silent])
          · cases told
      | _ => cases told

/-- The attempts that some acts begin at a driver. -/
def openings (world : World VirtualDriver) (name : String) : List Act → List Opening
  | [] => []
  | act :: rest => act.openings world name ++ (world.act act).openings name rest

theorem openings_append (front back : List Act) : ∀ world : World VirtualDriver,
    world.openings name (front ++ back) =
      world.openings name front ++ (world.perform front).openings name back := by
  induction front with
  | nil => exact fun _ => rfl
  | cons act rest ih =>
      intro world
      rw [List.cons_append, openings, ih, openings, List.append_assoc]
      rfl

theorem openings_singleton (world : World VirtualDriver) (name : String) (act : Act) :
    world.openings name [act] = act.openings world name := List.append_nil _

theorem perform_append (world : World VirtualDriver) (front back : List Act) :
    world.perform (front ++ back) = (world.perform front).perform back :=
  List.foldl_append

theorem perform_concat (world : World VirtualDriver) (acts : List Act) (act : Act) :
    world.perform (acts ++ [act]) = (world.perform acts).act act :=
  world.perform_append acts [act]

/-- All drivers are as they were registered, and nobody has told them anything. -/
def Untold (world : World VirtualDriver) : Prop :=
  ∀ name cached, world.registry.get name = some cached →
    ∃ model, cached = { driver := { model } }

/-- After any acts all attempts keep their latencies, and the driver has what it was last told. -/
theorem timed_perform (untold : world.Untold) (acts : List Act) :
    ∀ {cached : CachedDriver VirtualDriver}, (world.perform acts).registry.get name = some cached →
      cached.Timed (world.openings name acts) ∧ LastTold name acts cached.driver.latency := by
  induction acts using List.reverseRecOn with
  | nil =>
      intro cached found
      rcases untold name cached found with ⟨model, rfl⟩
      exact ⟨.fresh model 0, .never (by simp [Silent])⟩
  | append_singleton acts act ih =>
      intro after found
      have follows := (world.perform acts).follows_act act name
      rw [perform_concat] at found
      rw [found] at follows
      generalize earlier : (world.perform acts).registry.get name = before at follows
      cases follows with
      | some follows =>
          rcases ih earlier with ⟨timed, lastTold⟩
          constructor
          · rw [openings_append, openings_singleton]
            exact follows.timed timed
          · rw [follows.latency]
            exact lastTold.snoc act

/-- Whatever is done, no driver is lost, and no attempt but by its end. -/
theorem lasts_perform (acts : List Act) :
    ∀ {world : World VirtualDriver} {cached : CachedDriver VirtualDriver},
      world.registry.get name = some cached → ∃ after,
        (world.perform acts).registry.get name = some after ∧ cached.Lasts after := by
  induction acts with
  | nil => exact fun found => ⟨_, found, .refl _⟩
  | cons act rest ih =>
      intro world cached found
      have follows := world.follows_act act name
      rw [found] at follows
      generalize next : (world.act act).registry.get name = between at follows
      cases follows with
      | some follows =>
          rcases ih next with ⟨after, found', lasts⟩
          exact ⟨after, found', follows.lasts.trans lasts⟩

/-! ### The beginning of an attempt -/

/-- The attempt of a number that a driver has begun, as far as it has come. -/
def attempt? (world : World VirtualDriver) (name : String) (number : Nat) : Option Attempt :=
  (world.registry.get name).bind fun cached => cached.attempts[number]?

/-- The handle that is kept for an address. -/
def handle? (world : World VirtualDriver) (name address : String) : Option Handle :=
  (world.registry.get name).bind fun cached => cached.handles.get? address

/-- The attempt of a number is begun by the act that follows on some acts. -/
inductive Begins (world : World VirtualDriver) (name address : String) (number : Nat)
    (front : List Act) : List Act → Prop
  | looks {context : RequestContext} {caller : Caller} {back : List Act} {attempt : Attempt}
      (before : (world.perform front).attempt? name number = none)
      (after : (world.perform (front ++ [.look name address context caller])).attempt? name number =
        some attempt)
      (here : attempt.address = address) :
    Begins world name address number front (front ++ .look name address context caller :: back)

theorem eq_look_of_openings {world : World VirtualDriver} {act : Act} {opening : Opening}
    (isOpening : opening ∈ act.openings world name) :
    act.openings world name = [opening] ∧ opening.time = world.clock ∧
      (∃ cached, world.registry.get name = some cached ∧
        opening.latency = cached.driver.latency) ∧
      ∃ context caller, act = .look name opening.address context caller := by
  cases act with
  | look name' address context caller =>
      simp only [Act.openings] at isOpening ⊢
      split at isOpening
      · rename_i same
        subst same
        split at isOpening
        · rename_i cached found
          split at isOpening
          · rename_i started
            obtain rfl := List.mem_singleton.1 isOpening
            rw [if_pos rfl]
            refine ⟨?_, rfl, ⟨cached, found, rfl⟩, context, caller, rfl⟩
            simp only [started, if_true]
          · cases isOpening
        · cases isOpening
      · cases isOpening
  | _ => cases isOpening

/-- Every opening is that of an act. -/
theorem exists_act_of_openings (acts : List Act) : ∀ {world : World VirtualDriver} {number : Nat}
    {opening : Opening}, (world.openings name acts)[number]? = some opening →
      ∃ front act back, acts = front ++ act :: back ∧
        (world.openings name front).length = number ∧
        act.openings (world.perform front) name = [opening] := by
  induction acts using List.reverseRecOn with
  | nil =>
      intro world number opening isOpening
      cases isOpening
  | append_singleton acts act ih =>
      intro world number opening isOpening
      rw [openings_append, openings_singleton] at isOpening
      by_cases inside : number < (world.openings name acts).length
      · rw [List.getElem?_append_left inside] at isOpening
        rcases ih isOpening with ⟨front, act', back, rfl, isNumber, begins⟩
        exact ⟨front, act', back ++ [act], by simp, isNumber, begins⟩
      · rw [List.getElem?_append_right (Nat.le_of_not_lt inside)] at isOpening
        have begins := (eq_look_of_openings (List.mem_of_getElem? isOpening)).1
        refine ⟨acts, act, [], rfl, ?_, begins⟩
        rw [begins] at isOpening
        have inSingleton := (List.getElem?_eq_some_iff.1 isOpening).1
        simp only [List.length_singleton] at inSingleton
        omega

/-- Every attempt is begun by an act, and keeps the latency that its driver was last told then. -/
theorem exists_begins {world : World VirtualDriver} (untold : world.Untold) {acts : List Act}
    {cached : CachedDriver VirtualDriver} {number : Nat} {attempt : Attempt}
    (found : (world.perform acts).registry.get name = some cached)
    (isAttempt : cached.attempts[number]? = some attempt) :
    ∃ front opening, (world.openings name acts)[number]? = some opening ∧
      opening.time = (world.perform front).clock ∧ LastTold name front opening.latency ∧
        world.Begins name attempt.address number front acts := by
  have timed := (timed_perform untold acts found).1
  rcases timed.exists_opening isAttempt with ⟨opening, isOpening, pays⟩
  rcases exists_act_of_openings acts isOpening with ⟨front, act, back, rfl, isNumber, begins⟩
  have isNew : opening ∈ act.openings (world.perform front) name := by simp [begins]
  rcases eq_look_of_openings isNew with
    ⟨-, isTime, ⟨before, found', isLatency⟩, context, caller, rfl⟩
  rcases timed_perform untold front found' with ⟨timed', lastTold⟩
  refine ⟨front, opening, isOpening, isTime, isLatency ▸ lastTold, ?_⟩
  rcases lasts_perform [.look name opening.address context caller] found' with ⟨after, found'', -⟩
  rw [← perform_append] at found''
  have timed'' := (timed_perform untold _ found'').1
  rw [openings_append, openings_singleton, begins] at timed''
  have counted : after.attempts.length = number + 1 := by
    rw [← timed''.counted, List.length_append, isNumber, List.length_singleton]
  have isAttempt' := List.getElem?_eq_getElem (l := after.attempts) (i := number) (by omega)
  have isLast : (world.openings name front ++ [opening])[number]? = some opening := by
    rw [← isNumber, List.getElem?_concat_length]
  have pays' := timed''.pays number _ opening isAttempt' isLast
  rw [← pays.address]
  refine .looks ?_ ?_ pays'.address.symm
  · simp only [attempt?, found', Option.bind_some]
    apply List.getElem?_eq_none
    rw [← timed'.counted, isNumber]
  · simp only [attempt?, found'', Option.bind_some]
    exact isAttempt'

/-! ### What devices take -/

/-- Devices take as long as their drivers were told when they were opened. -/
structure PaysAsTold (world : World VirtualDriver) (acts : List Act) : Prop where
  /-- What a driver is told is accepted when the driver is there and it asks for a latency. -/
  accepts : ∀ name configuration,
    (∃ registry, (world.perform acts).registry.configure name configuration = .ok registry) ↔
      ((world.perform acts).registry.get name).isSome ∧ ∃ latency, AsksLatency configuration latency
  /-- It changes nothing but the latency of the driver then. -/
  tells : ∀ name configuration cached latency,
    (world.perform acts).registry.get name = some cached → AsksLatency configuration latency →
      (world.perform (acts ++ [.configure name configuration])).registry.get name =
        some { cached with driver := { cached.driver with latency } }
  /-- Otherwise it changes nothing at all. -/
  refuses : ∀ name configuration error,
    (world.perform acts).registry.configure name configuration = .error error →
      world.perform (acts ++ [.configure name configuration]) = world.perform acts
  apart : ∀ name configuration other, other ≠ name →
    (world.perform (acts ++ [.configure name configuration])).registry.get other =
      (world.perform acts).registry.get other
  /-- An attempt that waits does so for the latency last told before it began, until it ends. -/
  waits : ∀ name number attempt due heedsContext,
    (world.perform acts).attempt? name number = some attempt →
    attempt.stage = .waiting due heedsContext → ∃ front latency,
      world.Begins name attempt.address number front acts ∧ LastTold name front latency ∧
        due = some ((world.perform front).clock + latency) ∧ heedsContext = true ∧
        ∀ more, (world.perform (acts ++ more)).attempt? name number = some attempt ∨
          ∃ result, (world.perform (acts ++ more)).attempt? name number =
            some (attempt.ended result)
  /-- A device that is open takes the latency last told before the attempt began that opened it. -/
  takes : ∀ name address handle, (world.perform acts).handle? name address = some handle →
    ∃ number attempt front latency, (world.perform acts).attempt? name number = some attempt ∧
      attempt.result? = some (.ok handle) ∧ world.Begins name address number front acts ∧
        LastTold name front latency ∧ ∀ more ports context command,
          let call := ((world.perform (acts ++ more)).beginCall
            { address, driver := name, ports } context command).2
          (world.perform (acts ++ more)).handle? name address = some handle ∧
            call.due = some ((world.perform (acts ++ more)).clock + latency) ∧
            call.heedsContext = true

theorem pays_as_told {world : World VirtualDriver} (untold : world.Untold) (acts : List Act) :
    world.PaysAsTold acts where
  accepts name configuration := by
    constructor
    · rintro ⟨registry, configured⟩
      rcases Registry.configure_eq_ok configured with ⟨cached, after, found, accepted, -⟩
      rcases CachedDriver.configure_eq_ok.1 accepted with ⟨latency, asks, -⟩
      exact ⟨by simp [found], latency, asks⟩
    · rintro ⟨registered, latency, asks⟩
      rcases Option.isSome_iff_exists.1 registered with ⟨cached, found⟩
      exact ⟨_, Registry.configure_of_accepted found
        (CachedDriver.configure_eq_ok.2 ⟨latency, asks, rfl⟩)⟩
  tells name configuration cached latency found asks := by
    have configured := Registry.configure_of_accepted found
      (CachedDriver.configure_eq_ok.2 ⟨latency, asks, rfl⟩)
    rw [perform_concat]
    simp only [act, configured, Registry.get_set, if_true]
  refuses name configuration error refused := by
    rw [perform_concat]
    simp only [act, refused]
  apart name configuration other differs := by
    rw [perform_concat]
    simp only [act]
    split
    · rename_i registry configured
      rcases Registry.configure_eq_ok configured with ⟨cached, after, found, -, rfl⟩
      rw [Registry.get_set, if_neg differs]
    · rfl
  waits name number attempt due heedsContext isAttempt stage := by
    rcases Option.bind_eq_some_iff.1 isAttempt with ⟨cached, found, isThere⟩
    rcases exists_begins untold found isThere with
      ⟨front, opening, isOpening, isTime, lastTold, begins⟩
    have pays := (timed_perform untold acts found).1.pays number attempt opening isThere isOpening
    rcases pays.waits due heedsContext stage with ⟨isDue, heeds⟩
    refine ⟨front, opening.latency, begins, lastTold, isTime ▸ isDue, heeds, fun more => ?_⟩
    rcases lasts_perform more found with ⟨after, found', lasts⟩
    simp only [perform_append, attempt?, found', Option.bind_some]
    rcases lasts number attempt isThere with same | ⟨-, ended⟩
    · exact Or.inl same
    · exact Or.inr ended
  takes name address handle isHandle := by
    rcases Option.bind_eq_some_iff.1 isHandle with ⟨cached, found, handled⟩
    have timed := (timed_perform untold acts found).1
    rcases (timed.kept address handle).1 handled with ⟨number, attempt, isThere, rfl, yields⟩
    rcases exists_begins untold found isThere with ⟨front, opening, isOpening, -, lastTold, begins⟩
    refine ⟨number, attempt, front, opening.latency, ?_, yields, begins, lastTold, ?_⟩
    · simp only [attempt?, found, Option.bind_some, isThere]
    · intro more ports context command call
      rcases lasts_perform more found with ⟨after, found', lasts⟩
      rw [← perform_append] at found'
      have timed' := (timed_perform untold (acts ++ more) found').1
      have isThere' : after.attempts[number]? = some attempt := by
        rcases lasts number attempt isThere with same | ⟨waits, -⟩
        · exact same
        · cases waits.symm.trans yields
      have isOpening' : (world.openings name (acts ++ more))[number]? = some opening := by
        rw [openings_append, List.getElem?_append_left (List.getElem?_eq_some_iff.1 isOpening).1]
        exact isOpening
      have pays := timed'.pays number attempt opening isThere' isOpening'
      have linked := pays.linked (by simp [yields])
      have takes := VirtualDriver.latencyAt_of_linked linked
      refine ⟨?_, ?_, ?_⟩
      · simp only [handle?, found', Option.bind_some]
        exact (timed'.kept attempt.address handle).2 ⟨number, attempt, isThere', rfl, yields⟩
      · simp only [call, beginCall, found', Driver.beginCall, VirtualDriver.roundTrip, takes]
        rfl
      · simp only [call, beginCall, found']
        rfl

theorem untold_labWorld (model : Model) : (labWorld ({ model } : VirtualDriver)).Untold := by
  intro name cached found
  simp only [labWorld, Registry.get_set] at found
  split at found
  · exact ⟨model, (Option.some.inj found).symm⟩
  · cases found

/-- A display is opened under one latency, and its driver is told another one afterwards. -/
def labActs : List Act :=
  let context : RequestContext := { token := 0, deadline := none }
  [ .createContext none,
    .configure "display" (.object [("latency_ms", Json.ofInt 40)]),
    .look "display" "d1" context .fresh,
    .wait 40,
    .look "display" "d1" context (.joined 0),
    .configure "display" (.object [("latency_ms", Json.ofInt 25)]) ]

theorem pays_as_told_lab :
    let world := labWorld ({ model := .display } : VirtualDriver)
    (world.perform labActs).handle? "display" "d1" = some Model.display.handle ∧
      world.Untold ∧ world.PaysAsTold labActs :=
  ⟨by rfl, untold_labWorld _, pays_as_told (untold_labWorld _) labActs⟩

end World

end AvControl
