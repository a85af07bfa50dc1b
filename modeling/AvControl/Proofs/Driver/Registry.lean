import AvControl.Driver.Registry

/-!
# The registry

Configuring a driver changes the state of this one driver, if it is there and accepts what it is
told. Otherwise the registry stays as it was, and the error says which of the two it is.
-/

namespace AvControl.Registry

variable {δ : Type}

theorem get_set (registry : Registry δ) (name other : String) (cached : CachedDriver δ) :
    (registry.set name cached).get other =
      if other = name then some cached else registry.get other :=
  SortedMap.get?_insert registry.drivers name other cached

variable [Driver δ]

theorem configure_of_accepted {registry : Registry δ} {name : String} {configuration : Json}
    {cached cached' : CachedDriver δ} (found : registry.get name = some cached)
    (accepted : cached.configure configuration = .ok cached') :
    registry.configure name configuration = .ok (registry.set name cached') := by
  simp only [configure, found, accepted]

theorem configure_eq_ok {registry registry' : Registry δ} {name : String} {configuration : Json}
    (configured : registry.configure name configuration = .ok registry') :
    ∃ cached cached', registry.get name = some cached ∧
      cached.configure configuration = .ok cached' ∧ registry' = registry.set name cached' := by
  simp only [configure] at configured
  split at configured
  · cases configured
  · rename_i cached found
    split at configured
    · rename_i cached' accepted
      exact ⟨cached, cached', found, accepted, (Except.ok.inj configured).symm⟩
    · cases configured

/-- Why a driver could not be configured. -/
inductive Refuses (registry : Registry δ) (name : String) (configuration : Json) :
    RegistryError → Prop
  | missing (missing : registry.get name = none) :
    Refuses registry name configuration (.unknown name)
  | refused {cached : CachedDriver δ} {error : DriverError}
      (found : registry.get name = some cached)
      (refused : Driver.configure cached.driver configuration = .error error) :
    Refuses registry name configuration (.config name error)

theorem refuses_of_configure {registry : Registry δ} {name : String} {configuration : Json}
    {error : RegistryError} (configured : registry.configure name configuration = .error error) :
    registry.Refuses name configuration error := by
  simp only [configure] at configured
  split at configured
  · rename_i missing
    obtain rfl := Except.error.inj configured
    exact .missing missing
  · rename_i cached found
    cases told : Driver.configure cached.driver configuration with
    | ok driver => simp [CachedDriver.configure, told, Except.map] at configured
    | error complaint =>
        simp only [CachedDriver.configure, told, Except.map] at configured
        obtain rfl := Except.error.inj configured
        exact .refused found told

end AvControl.Registry
