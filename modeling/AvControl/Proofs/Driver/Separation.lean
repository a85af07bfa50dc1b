import AvControl.Driver.Scripted

/-!
# Devices that do not feel each other

Whatever a driver does it does when it is asked for one half of an opening or of a call, at some
address. It keeps the device at an address apart when what it has to say there depends on nothing
but what it was asked for there before. Two drivers that have come out of such a driver then say the
same about the device, whatever else they were asked for meanwhile.
-/

namespace AvControl

/-- What a driver can be asked for. -/
inductive Ask
  | beginOpen (address : String)
  | finishOpen (address : String)
  | beginCall (address : String) (command : Command)
  | finishCall (address : String) (command : Command)
deriving DecidableEq, Repr

namespace Ask

def address : Ask → String
  | beginOpen address | finishOpen address | beginCall address _ | finishCall address _ => address

/-- What a driver has to say. -/
def Response : Ask → Type
  | beginOpen _ | beginCall _ _ => Reaction
  | finishOpen _ => Reply Handle
  | finishCall _ command => Reply command.Result

/-- What was asked for at an address, among other things. -/
def only (address : String) (asks : List Ask) : List Ask :=
  asks.filter fun ask => ask.address = address

end Ask

namespace Driver

variable {δ : Type} [Driver δ]

def ask (driver : δ) : (ask : Ask) → δ × ask.Response
  | .beginOpen address => beginOpen driver address
  | .finishOpen address => finishOpen driver address
  | .beginCall address command => beginCall driver address command
  | .finishCall address command => finishCall driver address command

/-- The driver after it was asked for some things, one after another. -/
def asked (driver : δ) (asks : List Ask) : δ :=
  asks.foldl (fun driver next => (ask driver next).1) driver

theorem asked_append (driver : δ) (asks others : List Ask) :
    asked driver (asks ++ others) = asked (asked driver asks) others :=
  List.foldl_append

/-- What the driver has to say at an address depends only on what it was asked for there. -/
def KeepsApart (driver : δ) (address : String) : Prop :=
  ∀ asks others next, next.address = address → Ask.only address asks = Ask.only address others →
    (ask (asked driver asks) next).2 = (ask (asked driver others) next).2

/-- Two drivers that have come out of one and were asked for the same at an address. -/
def AlikeAt (origin : δ) (address : String) (a b : δ) : Prop :=
  ∃ asks others, a = asked origin asks ∧ b = asked origin others ∧
    Ask.only address asks = Ask.only address others

namespace AlikeAt

variable {origin a b : δ} {address : String}

theorem start (origin : δ) (address : String) : AlikeAt origin address origin origin :=
  ⟨[], [], rfl, rfl, rfl⟩

/-- Both say the same, and are alike afterwards. -/
theorem ask (alike : AlikeAt origin address a b) (apart : KeepsApart origin address) {next : Ask}
    (here : next.address = address) :
    (Driver.ask a next).2 = (Driver.ask b next).2 ∧
      AlikeAt origin address (Driver.ask a next).1 (Driver.ask b next).1 := by
  rcases alike with ⟨asks, others, rfl, rfl, same⟩
  refine ⟨apart asks others next here same, asks ++ [next], others ++ [next], ?_, ?_, ?_⟩
  · exact (asked_append origin asks [next]).symm
  · exact (asked_append origin others [next]).symm
  · simp only [Ask.only, List.filter_append] at same ⊢
    rw [same]

/-- What one of them is asked for elsewhere does not matter. -/
theorem elsewhere (alike : AlikeAt origin address a b) {asks : List Ask}
    (away : ∀ next ∈ asks, next.address ≠ address) :
    AlikeAt origin address (asked a asks) b := by
  rcases alike with ⟨before, others, rfl, rfl, same⟩
  refine ⟨before ++ asks, others, (asked_append origin before asks).symm, rfl, ?_⟩
  have nothing : Ask.only address asks = [] :=
    List.filter_eq_nil_iff.2 fun next member here => away next member (of_decide_eq_true here)
  rw [← same, Ask.only, List.filter_append, show asks.filter _ = [] from nothing, List.append_nil]
  rfl

end AlikeAt

end Driver

namespace ScriptedDriver

/-- Two scripted drivers that know the same about an address. -/
structure SameAt (address : String) (a b : ScriptedDriver) : Prop where
  script : a.script = b.script
  attempts : a.attempts.get? address = b.attempts.get? address
  memories : a.memories.get? address = b.memories.get? address

namespace SameAt

variable {address : String} {a b : ScriptedDriver}

theorem openRule (same : SameAt address a b) : a.openRule address = b.openRule address := by
  simp only [ScriptedDriver.openRule, attemptsAt, same.script, same.attempts]
  rfl

theorem setMemory (same : SameAt address a b) (memory : Script.Memory) :
    SameAt address (a.setMemory address memory) (b.setMemory address memory) :=
  ⟨same.script, same.attempts, by simp [ScriptedDriver.setMemory]⟩

theorem ask (same : SameAt address a b) {next : Ask} (here : next.address = address) :
    (Driver.ask a next).2 = (Driver.ask b next).2 ∧
      SameAt address (Driver.ask a next).1 (Driver.ask b next).1 := by
  subst here
  cases next with
  | beginOpen address =>
      change SameAt address a b at same
      have counted : SameAt address (a.countAttempt address) (b.countAttempt address) :=
        ⟨same.script, by simp [countAttempt, attemptsAt, same.attempts], same.memories⟩
      exact ⟨congrArg Script.Rule.reaction counted.openRule, counted⟩
  | finishOpen address =>
      change SameAt address a b at same
      simp only [Driver.ask, Driver.finishOpen, same.openRule, same.script]
      cases (b.openRule address).refusal? with
      | some refusal => exact ⟨rfl, same⟩
      | none => exact ⟨rfl, same.setMemory _⟩
  | beginCall address command =>
      refine ⟨?_, same⟩
      simp only [Driver.ask, Driver.beginCall, same.script]
      rfl
  | finishCall address command =>
      change SameAt address a b at same
      simp only [Driver.ask, Driver.finishCall, same.script, same.memories]
      cases ((b.script.device address).ruleFor command).refusal? with
      | some refusal => exact ⟨rfl, same⟩
      | none => exact ⟨rfl, same.setMemory _⟩

theorem elsewhere (driver : ScriptedDriver) {next : Ask} (away : next.address ≠ address) :
    SameAt address (Driver.ask driver next).1 driver := by
  have differs : address ≠ next.address := away.symm
  cases next with
  | beginOpen other =>
      replace differs : address ≠ other := differs
      exact ⟨rfl, by simp [Driver.ask, Driver.beginOpen, countAttempt, differs], rfl⟩
  | beginCall => exact ⟨rfl, rfl, rfl⟩
  | finishOpen other =>
      simp only [Driver.ask, Driver.finishOpen]
      split
      · exact ⟨rfl, rfl, rfl⟩
      · exact ⟨rfl, rfl, by simp [ScriptedDriver.setMemory, show address ≠ other from differs]⟩
  | finishCall other =>
      simp only [Driver.ask, Driver.finishCall]
      split
      · exact ⟨rfl, rfl, rfl⟩
      · exact ⟨rfl, rfl, by simp [ScriptedDriver.setMemory, show address ≠ other from differs]⟩

theorem trans {c : ScriptedDriver} (first : SameAt address a b) (second : SameAt address b c) :
    SameAt address a c :=
  ⟨first.script.trans second.script, first.attempts.trans second.attempts,
    first.memories.trans second.memories⟩

theorem symm (same : SameAt address a b) : SameAt address b a :=
  ⟨same.script.symm, same.attempts.symm, same.memories.symm⟩

/-- What is asked for at other addresses can be left out. -/
theorem asked_only (asks : List Ask) : ∀ {a b : ScriptedDriver}, SameAt address a b →
    SameAt address (Driver.asked a asks) (Driver.asked b (Ask.only address asks)) := by
  induction asks with
  | nil => exact fun same => same
  | cons next rest ih =>
      intro a b same
      by_cases here : next.address = address
      · rw [Ask.only, List.filter_cons_of_pos (by simpa using here)]
        exact ih (same.ask here).2
      · rw [Ask.only, List.filter_cons_of_neg (by simpa using here)]
        exact ih ((elsewhere a here).trans same)

end SameAt

/-- A scripted driver keeps the devices at all addresses apart. -/
theorem keepsApart (driver : ScriptedDriver) (address : String) :
    Driver.KeepsApart driver address := by
  intro asks others next here same
  have start : SameAt address driver driver := ⟨rfl, rfl, rfl⟩
  have first := SameAt.asked_only asks start
  rw [same] at first
  exact ((first.trans (SameAt.asked_only others start).symm).ask here).1

end ScriptedDriver

end AvControl
