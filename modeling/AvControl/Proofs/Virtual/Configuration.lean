import AvControl.Virtual.Driver

/-!
# What virtual drivers accept

The documentation knows one kind of configuration: an object that says nothing but `latency_ms`, if
even that. What the drivers accept is decided by walking over a value, and it is more: a row of one
number at most passes as well. Apart from these rows nothing undocumented passes, and a driver that
refuses what it is told stays as it was.
-/

namespace AvControl

namespace Virtual

/-- A documented configuration and the round trip that it asks for. -/
inductive Documented : Json → Nat → Prop
  | silent : Documented (.object []) 0
  | told {latency : Nat} (fits : latency < UInt64.size) :
    Documented (.object [("latency_ms", Json.ofInt latency)]) latency

/-- A row of one number at most, and the round trip that it asks for. -/
inductive Row : Json → Nat → Prop
  | nothing : Row (.array []) 0
  | one {latency : Nat} (fits : latency < UInt64.size) :
    Row (.array [Json.ofInt latency]) latency

/-- A configuration asks for a round trip, in the documented way or in the other one. -/
def AsksLatency (configuration : Json) (latency : Nat) : Prop :=
  Documented configuration latency ∨ Row configuration latency

theorem readLatency_eq_ok {value : Json} {latency : Nat} :
    readLatency value = .ok latency ↔ latency < UInt64.size ∧ value = Json.ofInt latency := by
  constructor
  · intro isRead
    unfold readLatency at isRead
    split at isRead
    · rename_i duration
      split at isRead
      · rename_i fits
        obtain rfl := Except.ok.inj isRead
        have same : (duration.toNat : Int) = duration := Int.toNat_of_nonneg fits.1
        rw [same]
        refine ⟨?_, rfl⟩
        omega
      · cases isRead
    · cases isRead
  · rintro ⟨fits, rfl⟩
    have inRange : (0 : Int) ≤ latency ∧ (latency : Int) < UInt64.size := by omega
    simp only [readLatency, Json.ofInt, if_pos inRange, Int.toNat_natCast]

/-- Once the latency is told, nothing more may follow. -/
theorem readMembers_some {told latency : Nat} {members : List (String × Json)} :
    readMembers (some told) members = .ok latency ↔ members = [] ∧ latency = told := by
  cases members with
  | nil => simp [readMembers, eq_comm]
  | cons member rest =>
      simp only [readMembers]
      split <;> simp

theorem readMembers_none {latency : Nat} {members : List (String × Json)} :
    readMembers none members = .ok latency ↔
      members = [] ∧ latency = 0 ∨
        latency < UInt64.size ∧ members = [("latency_ms", Json.ofInt latency)] := by
  cases members with
  | nil => simp [readMembers, eq_comm]
  | cons member rest =>
      rcases member with ⟨name, value⟩
      by_cases named : name = "latency_ms"
      · subst named
        simp only [readMembers, if_true, reduceCtorEq, false_and, false_or, List.cons.injEq,
          Prod.mk.injEq, true_and, ← and_assoc, ← readLatency_eq_ok]
        cases isRead : readLatency value with
        | error error => simp
        | ok first =>
            simp only [readMembers_some, Except.ok.injEq]
            exact ⟨fun ⟨ends, same⟩ => ⟨same.symm, ends⟩, fun ⟨same, ends⟩ => ⟨ends, same.symm⟩⟩
      · simp [readMembers, named]

/-- A configuration is read exactly when it asks for a round trip. -/
theorem readConfiguration_eq_ok {configuration : Json} {latency : Nat} :
    readConfiguration configuration = .ok latency ↔ AsksLatency configuration latency := by
  constructor
  · intro isRead
    unfold readConfiguration at isRead
    split at isRead
    · rcases readMembers_none.1 isRead with ⟨rfl, rfl⟩ | ⟨fits, rfl⟩
      · exact Or.inl .silent
      · exact Or.inl (.told fits)
    · obtain rfl := Except.ok.inj isRead
      exact Or.inr .nothing
    · rcases readLatency_eq_ok.1 isRead with ⟨fits, rfl⟩
      exact Or.inr (.one fits)
    · split at isRead <;> cases isRead
    · cases isRead
  · rintro ((_ | fits) | (_ | fits))
    · exact readMembers_none.2 (.inl ⟨rfl, rfl⟩)
    · exact readMembers_none.2 (.inr ⟨fits, rfl⟩)
    · rfl
    · simpa only [readConfiguration, readLatency_eq_ok, and_true] using fits

end Virtual

namespace VirtualDriver

open Virtual

/-- The driver after it was told a configuration, and its complaint, if it has one. -/
def tell (driver : VirtualDriver) (configuration : Json) : VirtualDriver × Option DriverError :=
  match Driver.configure driver configuration with
  | .ok driver => (driver, none)
  | .error error => (driver, some error)

theorem configure_eq_ok {driver after : VirtualDriver} {configuration : Json} :
    Driver.configure driver configuration = .ok after ↔
      ∃ latency, AsksLatency configuration latency ∧ after = { driver with latency } := by
  simp only [← readConfiguration_eq_ok, Driver.configure]
  cases readConfiguration configuration with
  | ok latency => simp [Except.map, eq_comm]
  | error error => simp [Except.map]

theorem configure_eq_error {driver : VirtualDriver} {configuration : Json} {error : DriverError} :
    Driver.configure driver configuration = .error error ↔
      readConfiguration configuration = .error error := by
  simp only [Driver.configure]
  cases readConfiguration configuration <;> simp [Except.map]

/--
A virtual driver takes over the round trip that a documented configuration asks for, or a row of
one number at most. Whatever else it is told, it complains, and stays as it was.
-/
theorem accepts_documented_or_row (driver : VirtualDriver) (configuration : Json) :
    (∀ latency, Documented configuration latency ∨ Row configuration latency →
      driver.tell configuration = ({ driver with latency }, none)) ∧
    ((¬∃ latency, Documented configuration latency ∨ Row configuration latency) →
      ∃ error, driver.tell configuration = (driver, some error)) := by
  constructor
  · intro latency asks
    have accepted : Driver.configure driver configuration = .ok { driver with latency } :=
      configure_eq_ok.2 ⟨latency, asks, rfl⟩
    simp only [tell, accepted]
  · intro nothing
    cases isTold : Driver.configure driver configuration with
    | ok after =>
        rcases configure_eq_ok.1 isTold with ⟨latency, asks, -⟩
        exact absurd ⟨latency, asks⟩ nothing
    | error error => exact ⟨error, by simp only [tell, isTold]⟩

/-- A row is accepted, although it is not documented. -/
theorem accepts_undocumented_row :
    VirtualDriver.tell { model := .dsp } (.array [Json.ofInt 25]) =
        ({ model := .dsp, latency := 25 }, none) ∧
      ¬∃ latency, Documented (.array [Json.ofInt 25]) latency := by
  constructor
  · rfl
  · rintro ⟨latency, documented⟩
    cases documented

end VirtualDriver

end AvControl
