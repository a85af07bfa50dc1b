import AvControl.Proofs.Driver.Recorded
import AvControl.Proofs.Driver.Transcribed
import AvControl.Proofs.Engine.Alike

/-!
# Recording changes nothing

With drivers that take notes all goes as it goes with the drivers themselves: requests get the same
answers, and the same is asked of devices at the same times. What is proved of records and
transcripts is therefore true of what any drivers are asked for, and of what they say.
-/

namespace AvControl

namespace Likeness

section Agreeing

variable {δ ε : Type} [Driver δ] [Driver ε] {like : Likeness δ ε} {now : Nat} {a : Run δ}
  {b : Run ε}

/-- When contexts never differ, runs that are alike take the same steps. -/
theorem Runs.step_rel (agrees : ∀ now, like.Agrees now) (runs : like.Runs now a b)
    (patience : Option Nat) :
    Option.Rel (fun next next' => like.Runs next'.world.clock next next') (a.step patience)
      (b.step patience) := by
  have nextTime : a.nextTime patience = b.nextTime patience := by
    apply Option.ext
    intro time
    exact runs.nextTime (fun now _ => agrees now) patience (Nat.lt_succ_self time)
  simp only [Run.step]
  rw [runs.finished, runs.turns (agrees now), runs.hasMail, runs.worlds.clock, runs.worlds.clock',
    nextTime]
  split
  · exact .none
  · split
    · exact .some (runs.pollTask (agrees now) _ _).at_clock
    · split
      · exact .some (runs.attend (agrees now)).at_clock
      · cases b.nextTime patience with
        | none => exact .none
        | some time => exact .some ((runs.wind time).attend (agrees time)).at_clock

theorem Runs.go (agrees : ∀ now, like.Agrees now) (patience : Option Nat) (steps : Nat) :
    ∀ {now : Nat} {a : Run δ} {b : Run ε}, like.Runs now a b →
      ∃ now', like.Runs now' (Run.go patience steps a) (Run.go patience steps b) := by
  induction steps with
  | zero => exact fun runs => ⟨_, runs⟩
  | succ steps ih =>
      intro now a b runs
      have next := runs.step_rel agrees patience
      simp only [Run.go]
      generalize a.step patience = nextA at next
      generalize b.step patience = nextB at next
      cases next with
      | none => exact ⟨_, runs⟩
      | some runs' => exact ih runs'

end Agreeing

/-- Drivers that do what others do that can be read off them, and may take notes. -/
structure Annotates {δ ε : Type} [Driver δ] [Driver ε] (erase : ε → δ) : Prop where
  beginOpen : ∀ noted address,
    erase (Driver.beginOpen noted address).1 = (Driver.beginOpen (erase noted) address).1 ∧
      (Driver.beginOpen noted address).2 = (Driver.beginOpen (erase noted) address).2
  finishOpen : ∀ noted address,
    erase (Driver.finishOpen noted address).1 = (Driver.finishOpen (erase noted) address).1 ∧
      (Driver.finishOpen noted address).2 = (Driver.finishOpen (erase noted) address).2
  beginCall : ∀ noted address command,
    erase (Driver.beginCall noted address command).1 =
        (Driver.beginCall (erase noted) address command).1 ∧
      (Driver.beginCall noted address command).2 =
        (Driver.beginCall (erase noted) address command).2
  finishCall : ∀ noted address command,
    erase (Driver.finishCall noted address command).1 =
        (Driver.finishCall (erase noted) address command).1 ∧
      (Driver.finishCall noted address command).2 =
        (Driver.finishCall (erase noted) address command).2

variable {δ ε : Type} [Driver δ] [Driver ε] {erase : ε → δ}

theorem annotates_recorded : Annotates fun recorded : Recorded δ => recorded.driver :=
  ⟨fun _ _ => ⟨rfl, rfl⟩, fun _ _ => ⟨rfl, rfl⟩, fun _ _ _ => ⟨rfl, rfl⟩, fun _ _ _ => ⟨rfl, rfl⟩⟩

theorem annotates_transcribed : Annotates fun transcribed : Transcribed δ => transcribed.driver :=
  ⟨fun _ _ => ⟨rfl, rfl⟩, fun _ _ => ⟨rfl, rfl⟩, fun _ _ _ => ⟨rfl, rfl⟩, fun _ _ _ => ⟨rfl, rfl⟩⟩

/-- Drivers that take notes are like those that do not, for the same contexts. -/
def annotating (annotates : Annotates erase) : Likeness ε δ where
  drivers noted driver := erase noted = driver
  contexts a b := a = b
  token := congrArg RequestContext.token
  beginOpen := by
    rintro noted _ rfl
    exact annotates.beginOpen noted
  finishOpen := by
    rintro noted _ rfl
    exact annotates.finishOpen noted
  beginCall := by
    rintro noted _ rfl
    exact annotates.beginCall noted
  finishCall := by
    rintro noted _ rfl
    exact annotates.finishCall noted

theorem agrees_annotating (annotates : Annotates erase) (now : Nat) :
    (annotating annotates).Agrees now := by
  rintro a _ rfl tokens
  rfl

theorem eq_of_annotating (annotates : Annotates erase) {as bs : List Session}
    (sessions : List.Forall₂ (annotating annotates).Sessions as bs) : as = bs := by
  have same : List.Forall₂ Eq as bs := by
    apply sessions.imp
    intro a b alike
    rw [alike.others, ← show a.context = b.context from alike.context]
  rwa [List.forall₂_eq_eq_eq] at same

end Likeness

namespace World

variable {δ ε : Type}

/-- The same world with drivers that take notes from now on. -/
def annotated (note : δ → ε) (world : World δ) : World ε where
  clock := world.clock
  tokens := world.tokens
  registry := ⟨world.registry.drivers.mapValues fun _ cached =>
    { cached with driver := note cached.driver }⟩
  journal := world.journal
  tickets := world.tickets

/-- The same world with drivers that are recorded from now on. -/
def recorded (world : World δ) : World (Recorded δ) where
  clock := world.clock
  tokens := world.tokens
  registry := ⟨world.registry.drivers.mapValues fun _ cached =>
    { cached with driver := { driver := cached.driver } }⟩
  journal := world.journal
  tickets := world.tickets

/-- The same world with drivers that are transcribed from now on. -/
def transcribed (world : World δ) : World (Transcribed δ) :=
  world.annotated fun driver => { driver }

theorem prepare_annotated (note : δ → ε) (world : World δ) (request : RoomRequest) :
    (world.annotated note).prepare request = world.prepare request := by
  refine prepare_congr request rfl fun name => ?_
  simp only [Registry.get, annotated, SortedMap.get?_mapValues, Option.isSome_map]

variable [Driver δ] [Driver ε] {erase : ε → δ} {note : δ → ε}

theorem worlds_annotated (annotates : Likeness.Annotates erase)
    (erases : ∀ driver, erase (note driver) = driver) (world : World δ) :
    (Likeness.annotating annotates).Worlds world.clock (world.annotated note) world := by
  refine ⟨rfl, rfl, rfl, fun name => ?_, rfl, rfl⟩
  simp only [Registry.get, annotated, SortedMap.get?_mapValues]
  cases world.registry.drivers.get? name with
  | none => exact .none
  | some cached =>
      refine .some ⟨erases cached.driver, rfl, ?_, rfl⟩
      exact List.forall₂_same.2 fun attempt _ => ⟨rfl, rfl, rfl, rfl⟩

/-- Requests are answered in the same way whether drivers take notes or not. -/
theorem serve_annotated (annotates : Likeness.Annotates erase)
    (erases : ∀ driver, erase (note driver) = driver) (world : World δ)
    (requests : List RoomRequest) (patience : Option Nat) :
    ((world.annotated note).serve requests patience).2 = (world.serve requests patience).2 ∧
      ((world.annotated note).serve requests patience).1.journal =
        (world.serve requests patience).1.journal := by
  have prepared : requests.map (world.annotated note).prepare = requests.map world.prepare :=
    List.map_congr_left fun request _ => world.prepare_annotated note request
  have sessions : ((world.annotated note).engage requests).sessions =
      (world.engage requests).sessions :=
    congrArg (fun sessions => sessions.filterMap fun session => session.toOption) prepared
  have engaged : (Likeness.annotating annotates).Runs world.clock
      ((world.annotated note).engage requests) (world.engage requests) := by
    refine ⟨worlds_annotated annotates erases world, ?_⟩
    rw [sessions]
    exact List.forall₂_same.2 fun session _ => ⟨rfl, rfl⟩
  have bound : ((world.annotated note).engage requests).bound = (world.engage requests).bound := by
    simp only [Run.bound, sessions]
  rcases (engaged.attend (Likeness.agrees_annotating annotates _)).go
    (Likeness.agrees_annotating annotates) patience (world.engage requests).bound with ⟨now, ends⟩
  rw [serve_eq, serve_eq, Run.complete, Run.complete, bound, prepared, ends.finished,
    Likeness.eq_of_annotating annotates ends.sessions]
  split
  · exact ⟨rfl, ends.worlds.journal⟩
  · exact ⟨rfl, ends.worlds.journal⟩

theorem serve_recorded (world : World δ) (requests : List RoomRequest) (patience : Option Nat) :
    (world.recorded.serve requests patience).2 = (world.serve requests patience).2 ∧
      (world.recorded.serve requests patience).1.journal =
        (world.serve requests patience).1.journal := by
  rw [show world.recorded = world.annotated fun driver => { driver } from rfl]
  exact serve_annotated Likeness.annotates_recorded (fun _ => rfl) world requests patience

theorem serve_transcribed (world : World δ) (requests : List RoomRequest)
    (patience : Option Nat) :
    (world.transcribed.serve requests patience).2 = (world.serve requests patience).2 ∧
      (world.transcribed.serve requests patience).1.journal =
        (world.serve requests patience).1.journal :=
  serve_annotated Likeness.annotates_transcribed (fun _ => rfl) world requests patience

theorem serveOne_recorded (world : World δ) (request : RoomRequest) (patience : Option Nat) :
    (world.recorded.serveOne request patience).2 = (world.serveOne request patience).2 :=
  congrArg (fun answers => answers.bind List.head?) (world.serve_recorded [request] patience).1

end World

end AvControl
