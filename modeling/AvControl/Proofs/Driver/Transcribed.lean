import AvControl.Driver.Basic

/-!
# Transcribed drivers

A transcribed driver does what another driver does and writes down the calls that it is asked to
make, together with what it has to say about them. Unlike a record of deeds, the transcript holds
the very replies. Openings are left out.
-/

namespace AvControl

/-- What a driver has to say about one half of a call. -/
inductive Utterance
  | began (address : String) (command : Command) (reaction : Reaction)
  | replied (address : String) (command : Command) (reply : Reply command.Result)

namespace Utterance

def address : Utterance → String
  | began address _ _ | replied address _ _ => address

def command : Utterance → Command
  | began _ command _ | replied _ command _ => command

/-- The call neither hangs nor breaks down. -/
def EndsWell : Utterance → Prop
  | began _ _ reaction => reaction.wait ≠ .forever
  | replied _ _ reply => reply ≠ .crash

instance : DecidablePred EndsWell
  | began _ _ reaction => inferInstanceAs (Decidable (reaction.wait ≠ .forever))
  | replied _ _ .crash => isFalse fun well => well rfl
  | replied _ _ (.ok _) | replied _ _ (.error _) => isTrue (by simp [EndsWell])

end Utterance

/-- A driver together with what it said about the calls so far, oldest first. -/
structure Transcribed (δ : Type) where
  driver : δ
  transcript : List Utterance := []

namespace Transcribed

variable {δ : Type} [Driver δ]

instance : Driver (Transcribed δ) where
  configure transcribed configuration :=
    (Driver.configure transcribed.driver configuration).map fun driver =>
      { transcribed with driver }
  beginOpen transcribed address :=
    let (driver, reaction) := Driver.beginOpen transcribed.driver address
    ({ transcribed with driver }, reaction)
  finishOpen transcribed address :=
    let (driver, reply) := Driver.finishOpen transcribed.driver address
    ({ transcribed with driver }, reply)
  beginCall transcribed address command :=
    let (driver, reaction) := Driver.beginCall transcribed.driver address command
    let transcript := transcribed.transcript ++ [.began address command reaction]
    ({ driver, transcript }, reaction)
  finishCall transcribed address command :=
    let (driver, reply) := Driver.finishCall transcribed.driver address command
    let transcript := transcribed.transcript ++ [.replied address command reply]
    ({ driver, transcript }, reply)

end Transcribed

end AvControl
