import AvControl.Field
import AvControl.Proofs.Lists
import Mathlib.Logic.Function.Defs

/-!
# Paths of fields

A path tells its field, whatever blocks and outputs are called. Names stand in a path exactly as
they are, so that a name may hold dots or look like another path itself; but a name never stands
where it could be taken for something else. Before the first dot of a path there is nothing but its
family. The name of a block is all that follows. Only in the path of a route does something come
after the name: this is the name of a kind, which has no dots, so that the last dot of the path
stands before it.
-/

namespace AvControl

namespace SignalKind

theorem name_injective : Function.Injective name := by
  intro a b same
  cases a <;> cases b <;> first | rfl | simp [name] at same

theorem name_plain (kind : SignalKind) : '.' ∉ kind.name.toList := by
  cases kind <;> simp [name]

end SignalKind

namespace Field

/-- The path of a route has one more dot than the path of all routes of a kind. -/
theorem path_inputs_ne (kind : SignalKind) (output : String) (kind' : SignalKind) :
    (inputs kind).path ≠ (input output kind').path := by
  intro same
  have letters : kind.name.toList = output.toList ++ '.' :: kind'.name.toList := by
    simpa [path] using congrArg String.toList same
  have dotted : '.' ∈ kind.name.toList := letters ▸ by simp
  exact kind.name_plain dotted

/-- The paths of routes tell them apart: the kind comes after the last dot, and the output is what
stands before it. -/
theorem path_input_inj {output output' : String} {kind kind' : SignalKind}
    (same : (input output kind).path = (input output' kind').path) :
    output = output' ∧ kind = kind' := by
  have letters : output.toList ++ '.' :: kind.name.toList =
      output'.toList ++ '.' :: kind'.name.toList := by
    simpa [path] using congrArg String.toList same
  rcases cut_last_inj kind.name_plain kind'.name_plain letters with ⟨sameOutput, sameName⟩
  exact ⟨String.toList_inj.1 sameOutput, SignalKind.name_injective (String.toList_inj.1 sameName)⟩

/-- Different fields have different paths. -/
theorem path_injective : Function.Injective path := by
  intro a b same
  have letters := congrArg String.toList same
  cases a with
  | device | poweredOn | blanked | healthy | info | volumes | mutes | volume | mute =>
      -- Wherever the families differ, so do letters in front of the first name.
      clear same
      cases b <;> simp_all [path, String.toList_inj]
  | inputs kind =>
      cases b with
      | inputs kind' =>
          exact congrArg inputs (SignalKind.name_injective (by simpa [path] using same))
      | input output kind' => exact absurd same (path_inputs_ne kind output kind')
      | device | poweredOn | blanked | healthy | info | volumes | mutes | volume | mute =>
          simp [path] at letters
  | input output kind =>
      cases b with
      | inputs kind' => exact absurd same.symm (path_inputs_ne kind' output kind)
      | input output' kind' =>
          obtain ⟨rfl, rfl⟩ := path_input_inj same
          rfl
      | device | poweredOn | blanked | healthy | info | volumes | mutes | volume | mute =>
          simp [path] at letters

end Field

end AvControl
