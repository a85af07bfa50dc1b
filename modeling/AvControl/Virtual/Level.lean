import AvControl.Driver.Basic
import AvControl.Text.Quoted

/-!
# Checks that virtual devices share

All levels of virtual devices are on one scale from 0 to 100, and a name that a device does not
know is quoted in the complaint about it.
-/

namespace AvControl.Virtual

/-- The complaint about a name that the device does not know. -/
def unknown (what name : String) : DriverError :=
  { message := "unknown " ++ what ++ " " ++ Text.quoted name }

/-- The complaint about a command outside the contracts of the device. -/
def notOffered : DriverError := { message := "command not offered" }

/-- Let only the levels from 0 to 100 pass. -/
def checkLevel (level : Int32) : Except DriverError Unit :=
  if 0 ≤ level.toInt ∧ level.toInt ≤ 100 then .ok ()
  else .error { message := "volume " ++ toString level.toInt ++ " out of range 0-100" }

@[simp]
theorem checkLevel_eq_ok_iff (level : Int32) :
    checkLevel level = .ok () ↔ 0 ≤ level.toInt ∧ level.toInt ≤ 100 := by
  unfold checkLevel
  split <;> simp_all

end AvControl.Virtual
