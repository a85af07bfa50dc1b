import AvControl.Proofs.Driver.Registry
import AvControl.Proofs.Driver.Uses
import AvControl.Proofs.Lists
import Mathlib.Data.List.Induction

/-!
# Drivers are registered for good

Drivers are registered by themselves or in a row, they are configured, and callers open devices with
them, in any order and with any success. Whatever happens, a name is granted at most once, and from
then on it stands for the driver that it was granted to, with everything that was done with this
driver since, and nothing else.

What a registry holds is found by following it act by act, from the last one back to the one that
granted the name. Since registering one driver is registering a row of one, there are only two kinds
of acts to follow: rows of registrations, and uses of one driver.
-/

namespace AvControl

namespace Registry

open CachedDriver (Use Visit)

variable {δ : Type}

/-! ### Registering -/

theorem mem_list_iff {registry : Registry δ} {name : String} :
    name ∈ registry.list ↔ ∃ cached, registry.get name = some cached := by
  simp only [list, get, ← SortedMap.mem_entries_iff, SortedMap.keys, List.mem_map, Prod.exists,
    exists_and_right, exists_eq_right]

theorem get_eq_none_iff {registry : Registry δ} {name : String} :
    registry.get name = none ↔ name ∉ registry.list := by
  rw [mem_list_iff, ← Option.isSome_iff_exists, Option.not_isSome_iff_eq_none]

/-- Why a name is not given to a driver. -/
inductive Declines (registry : Registry δ) (name : String) : RegistryError → Prop
  | nameless (isEmpty : name = "") : Declines registry name .emptyName
  | taken (named : name ≠ "") (listed : name ∈ registry.list) :
    Declines registry name (.duplicate name)

theorem register_eq (registry : Registry δ) (name : String) (driver : δ) :
    registry.register name driver =
      if name = "" then .error .emptyName
      else if name ∈ registry.list then .error (.duplicate name)
      else .ok (registry.set name { driver }) := by
  have isTaken : registry.drivers.contains name = true ↔ name ∈ registry.list := by
    rw [mem_list_iff, ← Option.isSome_iff_exists]
    rfl
  rw [register, set]
  simp only [isTaken]

theorem register_eq_error {registry : Registry δ} {name : String} {driver : δ}
    {error : RegistryError} :
    registry.register name driver = .error error ↔ registry.Declines name error := by
  rw [register_eq]
  constructor
  · intro failed
    split at failed
    · rename_i isEmpty
      obtain rfl := Except.error.inj failed
      exact .nameless isEmpty
    · rename_i named
      split at failed
      · rename_i listed
        obtain rfl := Except.error.inj failed
        exact .taken named listed
      · cases failed
  · rintro (isEmpty | ⟨named, listed⟩)
    · rw [if_pos isEmpty]
    · rw [if_neg named, if_pos listed]

theorem register_eq_ok {registry registry' : Registry δ} {name : String} {driver : δ} :
    registry.register name driver = .ok registry' ↔
      (name ≠ "" ∧ name ∉ registry.list) ∧ registry' = registry.set name { driver } := by
  rw [register_eq]
  constructor
  · intro registered
    split at registered
    · cases registered
    · rename_i named
      split at registered
      · cases registered
      · rename_i unlisted
        exact ⟨⟨named, unlisted⟩, (Except.ok.inj registered).symm⟩
  · rintro ⟨⟨named, unlisted⟩, rfl⟩
    rw [if_neg named, if_neg unlisted]

/-- One of the drivers that are registered in a row is granted its name: its turn comes, and it is
not declined. -/
inductive Grants : Registry δ → List (String × δ) → String → δ → Prop
  | first {registry registry' : Registry δ} {name : String} {driver : δ}
      {rest : List (String × δ)} (registered : registry.register name driver = .ok registry') :
    Grants registry ((name, driver) :: rest) name driver
  | later {registry registry' : Registry δ} {name other : String} {driver another : δ}
      {rest : List (String × δ)} (registered : registry.register other another = .ok registry')
      (granted : Grants registry' rest name driver) :
    Grants registry ((other, another) :: rest) name driver

theorem grants_cons {registry registry' : Registry δ} {name other : String} {driver another : δ}
    {rest : List (String × δ)} (registered : registry.register other another = .ok registry') :
    Grants registry ((other, another) :: rest) name driver ↔
      name = other ∧ driver = another ∨ Grants registry' rest name driver := by
  constructor
  · rintro (_ | ⟨registered', granted⟩)
    · exact Or.inl ⟨rfl, rfl⟩
    · obtain rfl := Except.ok.inj (registered.symm.trans registered')
      exact Or.inr granted
  · rintro (⟨rfl, rfl⟩ | granted)
    · exact .first registered
    · exact .later registered granted

/-- Nothing is granted that is nobody's name or somebody's already. -/
theorem Grants.free {registry : Registry δ} {offers : List (String × δ)} {name : String}
    {driver : δ} (granted : Grants registry offers name driver) :
    name ≠ "" ∧ registry.get name = none := by
  induction granted with
  | first registered =>
      rcases register_eq_ok.1 registered with ⟨⟨named, unlisted⟩, -⟩
      exact ⟨named, get_eq_none_iff.2 unlisted⟩
  | @later registry registry' name other driver another rest registered _ ih =>
      rcases register_eq_ok.1 registered with ⟨-, rfl⟩
      rcases ih with ⟨named, isFree⟩
      rw [get_set] at isFree
      split at isFree
      · cases isFree
      · exact ⟨named, isFree⟩

theorem Grants.unique {registry : Registry δ} {offers : List (String × δ)} {name : String}
    {driver another : δ} (granted : Grants registry offers name driver)
    (also : Grants registry offers name another) : driver = another := by
  induction granted with
  | @first registry registry' name driver rest registered =>
      rcases (grants_cons registered).1 also with ⟨-, same⟩ | later
      · exact same.symm
      · rcases register_eq_ok.1 registered with ⟨-, rfl⟩
        have isFree := later.free.2
        rw [get_set, if_pos rfl] at isFree
        cases isFree
  | @later registry registry' name other driver first rest registered granted ih =>
      rcases (grants_cons registered).1 also with ⟨rfl, -⟩ | later
      · rcases register_eq_ok.1 registered with ⟨-, rfl⟩
        have isFree := granted.free.2
        rw [get_set, if_pos rfl] at isFree
        cases isFree
      · exact ih later

/-- After a row of registrations there is what there was, and every driver that was granted its
name, as it was offered. -/
theorem get_registerAll {registry : Registry δ} {offers : List (String × δ)} {name : String}
    {cached : CachedDriver δ} :
    (registry.registerAll offers).1.get name = some cached ↔
      registry.get name = some cached ∨
        ∃ driver, Grants registry offers name driver ∧ cached = { driver } := by
  induction offers generalizing registry with
  | nil =>
      refine (or_iff_left ?_).symm
      rintro ⟨driver, ⟨⟩, -⟩
  | cons offer rest ih =>
      rcases offer with ⟨other, another⟩
      cases registered : registry.register other another with
      | error error =>
          simp only [registerAll, registered]
          refine (or_iff_left ?_).symm
          rintro ⟨driver, _ | ⟨registered', -⟩, -⟩
          · rename_i registered'
            cases registered.symm.trans registered'
          · cases registered.symm.trans registered'
      | ok registry' =>
          simp only [registerAll, registered, ih, grants_cons registered]
          rcases register_eq_ok.1 registered with ⟨⟨-, unlisted⟩, rfl⟩
          rw [get_set]
          by_cases same : name = other
          · subst same
            simp only [if_true, get_eq_none_iff.2 unlisted, reduceCtorEq, false_or, true_and,
              Option.some.injEq]
            constructor
            · rintro (rfl | ⟨driver, granted, rfl⟩)
              · exact ⟨another, Or.inl rfl, rfl⟩
              · exact ⟨driver, Or.inr granted, rfl⟩
            · rintro ⟨driver, rfl | granted, rfl⟩
              · exact Or.inl rfl
              · exact Or.inr ⟨driver, granted, rfl⟩
          · simp only [same, if_false, false_and, false_or]

theorem registerAll_append {registry registry' : Registry δ} {front back : List (String × δ)}
    (registered : registry.registerAll front = (registry', .ok ())) :
    registry.registerAll (front ++ back) = registry'.registerAll back := by
  induction front generalizing registry with
  | nil =>
      obtain rfl := congrArg Prod.fst registered
      rfl
  | cons offer rest ih =>
      rcases offer with ⟨name, driver⟩
      cases first : registry.register name driver with
      | error error => simp [registerAll, first] at registered
      | ok between =>
          simp only [registerAll, first, List.cons_append] at registered ⊢
          exact ih registered

/-- A row of registrations ends at the first driver whose name is declined. -/
theorem registerAll_eq_error {registry registry' : Registry δ} {offers : List (String × δ)}
    {error : RegistryError} :
    registry.registerAll offers = (registry', .error error) ↔
      ∃ front name driver back, offers = front ++ (name, driver) :: back ∧
        registry.registerAll front = (registry', .ok ()) ∧ registry'.Declines name error := by
  constructor
  · intro stopped
    induction offers generalizing registry with
    | nil => cases congrArg Prod.snd stopped
    | cons offer rest ih =>
        rcases offer with ⟨name, driver⟩
        cases first : registry.register name driver with
        | error error' =>
            simp only [registerAll, first, Prod.mk.injEq, Except.error.injEq] at stopped
            obtain ⟨rfl, rfl⟩ := stopped
            exact ⟨[], name, driver, rest, rfl, rfl, register_eq_error.1 first⟩
        | ok between =>
            simp only [registerAll, first] at stopped
            rcases ih stopped with ⟨front, name', driver', back, rfl, registered, declines⟩
            refine ⟨(name, driver) :: front, name', driver', back, rfl, ?_, declines⟩
            simpa only [registerAll, first] using registered
  · rintro ⟨front, name, driver, back, rfl, registered, declines⟩
    rw [registerAll_append registered]
    simp only [registerAll, register_eq_error.2 declines]

/-! ### What is done to a registry -/

/-- What can be done to a registry. -/
inductive Act (δ : Type)
  | register (name : String) (driver : δ)
  | registerAll (offers : List (String × δ))
  | configure (name : String) (configuration : Json)
  /-- A caller is looked after that wants a device opened by the driver of a name. -/
  | create (name : String) (visit : Visit)

namespace Act

/-- The drivers that are to be registered. -/
def offers : Act δ → List (String × δ)
  | .register name driver => [(name, driver)]
  | .registerAll offers => offers
  | .configure _ _ | .create _ _ => []

/-- What is done with the driver of a name. -/
def use? (name : String) : Act δ → Option Use
  | .configure other configuration => if other = name then some (.configure configuration) else none
  | .create other visit => if other = name then some (.create visit) else none
  | .register _ _ | .registerAll _ => none

end Act

/-- What was done with the driver of a name, in this order. -/
def uses (name : String) (acts : List (Act δ)) : List Use := acts.filterMap (Act.use? name)

variable [Driver δ]

/-- The registry after an act, and what came of it. A failure leaves a registry as it was. -/
def perform (registry : Registry δ) : Act δ → Registry δ × Except RegistryError Unit
  | .register name driver =>
    match registry.register name driver with
    | .ok registry => (registry, .ok ())
    | .error error => (registry, .error error)
  | .registerAll offers => registry.registerAll offers
  | .configure name configuration =>
    match registry.configure name configuration with
    | .ok registry => (registry, .ok ())
    | .error error => (registry, .error error)
  | .create name visit =>
    match registry.get name with
    | some cached => (registry.set name (cached.used (.create visit)), .ok ())
    | none => (registry, .ok ())

/-- An empty registry after some acts. -/
def after (acts : List (Act δ)) : Registry δ :=
  acts.foldl (fun registry act => (registry.perform act).1) {}

@[simp]
theorem after_concat (acts : List (Act δ)) (act : Act δ) :
    after (acts ++ [act]) = ((after acts).perform act).1 := by
  rw [after, List.foldl_append]
  rfl

/-- To register one driver is to register it in a row of its own. -/
theorem perform_register (registry : Registry δ) (name : String) (driver : δ) :
    registry.perform (.register name driver) = registry.registerAll [(name, driver)] := by
  cases registered : registry.register name driver <;>
    simp only [perform, registerAll, registered]

/-- Configuring a driver is a use of it, whether it accepts what it is told or not. -/
theorem get_perform_configure {registry : Registry δ} {name : String} {cached : CachedDriver δ}
    (found : registry.get name = some cached) (configuration : Json) (other : String) :
    (registry.perform (.configure name configuration)).1.get other =
      if other = name then some (cached.used (.configure configuration))
      else registry.get other := by
  cases told : Driver.configure cached.driver configuration with
  | ok driver =>
      simp only [perform, configure, found, CachedDriver.configure, told, Except.map,
        CachedDriver.used, get_set]
  | error error =>
      simp only [perform, configure, found, CachedDriver.configure, told, Except.map,
        CachedDriver.used]
      split
      · rename_i same
        rw [same, found]
      · rfl

/-- What is done to the driver of a name besides registering it is a use of this driver. -/
theorem get_perform_use (registry : Registry δ) {act : Act δ} (noOffers : act.offers = [])
    (name : String) :
    (registry.perform act).1.get name =
      (registry.get name).map fun cached => (act.use? name).elim cached cached.used := by
  cases act with
  | register other driver => cases noOffers
  | registerAll offers =>
      obtain rfl : offers = [] := noOffers
      simp [perform, registerAll, Act.use?]
  | configure other configuration =>
      cases found : registry.get other with
      | none =>
          by_cases here : name = other
          · subst here
            simp [perform, configure, found]
          · simp [perform, configure, found, Act.use?, Ne.symm here]
      | some cached =>
          rw [get_perform_configure found]
          by_cases here : name = other
          · subst here
            simp [found, Act.use?]
          · simp [here, Act.use?, Ne.symm here]
  | create other visit =>
      by_cases here : name = other
      · subst here
        cases found : registry.get name <;> simp [perform, found, Act.use?, get_set]
      · cases found : registry.get other <;>
          simp [perform, found, Act.use?, get_set, here, Ne.symm here]

/-- What an act leaves under a name: the driver there was, used or not, or a driver that was just
granted the name. -/
theorem get_perform {registry : Registry δ} {act : Act δ} {name : String}
    {cached : CachedDriver δ} :
    (registry.perform act).1.get name = some cached ↔
      (∃ before, registry.get name = some before ∧
        cached = (act.use? name).toList.foldl CachedDriver.used before) ∨
      ∃ driver, Grants registry act.offers name driver ∧ cached = { driver } := by
  have atOnce (noUse : act.use? name = none)
      (performed : (registry.perform act).1 = (registry.registerAll act.offers).1) :
      (registry.perform act).1.get name = some cached ↔
        (∃ before, registry.get name = some before ∧
          cached = (act.use? name).toList.foldl CachedDriver.used before) ∨
        ∃ driver, Grants registry act.offers name driver ∧ cached = { driver } := by
    rw [performed, get_registerAll, noUse]
    simp
  have asUse (noOffers : act.offers = []) :
      (registry.perform act).1.get name = some cached ↔
        (∃ before, registry.get name = some before ∧
          cached = (act.use? name).toList.foldl CachedDriver.used before) ∨
        ∃ driver, Grants registry act.offers name driver ∧ cached = { driver } := by
    have nothing : ¬∃ driver, Grants registry act.offers name driver ∧ cached = { driver } := by
      rw [noOffers]
      rintro ⟨driver, ⟨⟩, -⟩
    rw [get_perform_use registry noOffers, Option.map_eq_some_iff, or_iff_left nothing]
    refine exists_congr fun before => and_congr_right fun _ => ?_
    cases act.use? name <;> exact eq_comm
  cases act with
  | register other driver => exact atOnce rfl (congrArg Prod.fst (perform_register _ _ _))
  | registerAll offers => exact atOnce rfl rfl
  | configure other configuration => exact asUse rfl
  | create other visit => exact asUse rfl

/-! ### Whatever is done -/

/-- An act granted a name to a driver, and then the later acts were done. -/
def Granted (acts : List (Act δ)) (name : String) (driver : δ) (later : List (Act δ)) : Prop :=
  ∃ before act, acts = before ++ act :: later ∧ Grants (after before) act.offers name driver

theorem granted_concat {acts later : List (Act δ)} {act : Act δ} {name : String} {driver : δ} :
    Granted (acts ++ [act]) name driver later ↔
      later = [] ∧ Grants (after acts) act.offers name driver ∨
        ∃ between, later = between ++ [act] ∧ Granted acts name driver between := by
  simp only [Granted, concat_eq_append_cons_iff]
  constructor
  · rintro ⟨before, first, ⟨rfl, rfl, rfl⟩ | ⟨between, rfl, rfl⟩, granted⟩
    · exact Or.inl ⟨rfl, granted⟩
    · exact Or.inr ⟨between, rfl, before, first, rfl, granted⟩
  · rintro (⟨rfl, granted⟩ | ⟨between, rfl, before, first, rfl, granted⟩)
    · exact ⟨acts, act, Or.inl ⟨rfl, rfl, rfl⟩, granted⟩
    · exact ⟨before, first, Or.inr ⟨between, rfl, rfl⟩, granted⟩

/-- What is under a name after some acts: the driver that was granted the name, after all that was
done with it since. -/
theorem get_after {acts : List (Act δ)} {name : String} {cached : CachedDriver δ} :
    (after acts).get name = some cached ↔ ∃ driver later, Granted acts name driver later ∧
      cached = (uses name later).foldl CachedDriver.used { driver } := by
  induction acts using List.reverseRecOn generalizing cached with
  | nil =>
      constructor
      · intro found
        cases found
      · rintro ⟨driver, later, ⟨before, act, same, -⟩, -⟩
        simp at same
  | append_singleton acts act ih =>
      have usesConcat (between : List (Act δ)) (driver : δ) :
          (uses name (between ++ [act])).foldl CachedDriver.used { driver } =
            (act.use? name).toList.foldl CachedDriver.used
              ((uses name between).foldl CachedDriver.used { driver }) := by
        rw [uses, List.filterMap_append, List.foldl_append]
        cases isUse : act.use? name <;> simp [uses, isUse]
      rw [after_concat, get_perform]
      simp only [granted_concat]
      constructor
      · rintro (⟨before, found, rfl⟩ | ⟨driver, granted, rfl⟩)
        · rcases ih.1 found with ⟨driver, between, granted, rfl⟩
          exact ⟨driver, _, Or.inr ⟨between, rfl, granted⟩, (usesConcat between driver).symm⟩
        · exact ⟨driver, [], Or.inl ⟨rfl, granted⟩, rfl⟩
      · rintro ⟨driver, later, ⟨rfl, granted⟩ | ⟨between, rfl, granted⟩, rfl⟩
        · exact Or.inr ⟨driver, granted, rfl⟩
        · exact Or.inl ⟨_, ih.2 ⟨driver, between, granted, rfl⟩, usesConcat between driver⟩

theorem Granted.found {acts later : List (Act δ)} {name : String} {driver : δ}
    (granted : Granted acts name driver later) : (after acts).get name ≠ none := by
  rw [get_after.2 ⟨driver, later, granted, rfl⟩]
  exact Option.some_ne_none _

/-- No name is granted twice. -/
theorem Granted.unique {acts later later' : List (Act δ)} {name : String} {driver driver' : δ}
    (granted : Granted acts name driver later) (also : Granted acts name driver' later') :
    driver = driver' ∧ later = later' := by
  induction acts using List.reverseRecOn generalizing later later' with
  | nil =>
      rcases granted with ⟨before, act, same, -⟩
      simp at same
  | append_singleton acts act ih =>
      rcases granted_concat.1 granted with ⟨rfl, now⟩ | ⟨between, rfl, earlier⟩ <;>
        rcases granted_concat.1 also with ⟨rfl, now'⟩ | ⟨between', rfl, earlier'⟩
      · exact ⟨now.unique now', rfl⟩
      · exact absurd now.free.2 earlier'.found
      · exact absurd now'.free.2 earlier.found
      · rcases ih earlier earlier' with ⟨sameDriver, rfl⟩
        exact ⟨sameDriver, rfl⟩

/-- The driver of a name remembers a handle for an address. -/
def Remembers (registry : Registry δ) (name address : String) (handle : Handle) : Prop :=
  ∃ cached, registry.get name = some cached ∧ cached.handles.get? address = some handle

theorem Remembers.perform_after {acts : List (Act δ)} {name address : String} {handle : Handle}
    (remembers : (after acts).Remembers name address handle) (act : Act δ) :
    (after (acts ++ [act])).Remembers name address handle := by
  rcases remembers with ⟨cached, found, handled⟩
  rcases get_after.1 found with ⟨driver, later, -, isUsed⟩
  have coherent : cached.Coherent := by
    rw [isUsed]
    exact ((CachedDriver.coherent_new driver).foldl_used _).1
  refine ⟨_, ?_, (coherent.foldl_used (act.use? name).toList).2 address handle handled⟩
  rw [after_concat]
  exact get_perform.2 (Or.inl ⟨cached, found, rfl⟩)

theorem Remembers.after_append {acts : List (Act δ)} {name address : String} {handle : Handle}
    (remembers : (after acts).Remembers name address handle) (more : List (Act δ)) :
    (after (acts ++ more)).Remembers name address handle := by
  induction more using List.reverseRecOn with
  | nil => rwa [List.append_nil]
  | append_singleton more act ih =>
      rw [← List.append_assoc]
      exact ih.perform_after act

/-- What a registry has to say against an act. -/
inductive Complains (registry : Registry δ) : Act δ → RegistryError → Prop
  | declines {name : String} {driver : δ} {error : RegistryError}
      (declines : registry.Declines name error) :
    Complains registry (.register name driver) error
  /-- A row of registrations goes well up to a name that is declined. -/
  | stops {front back : List (String × δ)} {name : String} {driver : δ} {error : RegistryError}
      {registry' : Registry δ} (registered : registry.registerAll front = (registry', .ok ()))
      (declines : registry'.Declines name error) :
    Complains registry (.registerAll (front ++ (name, driver) :: back)) error
  | unknown {name : String} {configuration : Json} (unlisted : name ∉ registry.list) :
    Complains registry (.configure name configuration) (.unknown name)
  | rejects {name : String} {cached : CachedDriver δ} {configuration : Json} {error : DriverError}
      (found : registry.get name = some cached)
      (rejects : Driver.configure cached.driver configuration = .error error) :
    Complains registry (.configure name configuration) (.config name error)

theorem complains_of_perform {registry : Registry δ} {act : Act δ} {error : RegistryError}
    (failed : (registry.perform act).2 = .error error) : registry.Complains act error := by
  cases act with
  | register name driver =>
      cases registered : registry.register name driver with
      | ok registry' => simp [perform, registered] at failed
      | error error' =>
          simp only [perform, registered, Except.error.injEq] at failed
          subst failed
          exact .declines (register_eq_error.1 registered)
  | registerAll offers =>
      rcases registerAll_eq_error.1 (Prod.ext rfl failed) with
        ⟨front, name, driver, back, rfl, registered, declines⟩
      exact .stops registered declines
  | configure name configuration =>
      cases configured : registry.configure name configuration with
      | ok registry' => simp [perform, configured] at failed
      | error error' =>
          simp only [perform, configured, Except.error.injEq] at failed
          subst failed
          rcases refuses_of_configure configured with missing | ⟨found, refused⟩
          · exact .unknown (get_eq_none_iff.1 missing)
          · exact .rejects found refused
  | create name visit =>
      cases found : registry.get name <;> simp [perform, found] at failed

/-- A complaint changes nothing, except that what came before it in a row of registrations is
done. -/
theorem Complains.perform_eq {registry : Registry δ} {act : Act δ} {error : RegistryError}
    (complains : registry.Complains act error) :
    ∃ registry', registry.perform act = (registry', .error error) ∧
      ((∀ offers, act ≠ .registerAll offers) → registry' = registry) := by
  cases complains with
  | declines declines =>
      exact ⟨registry, by simp only [perform, register_eq_error.2 declines], fun _ => rfl⟩
  | stops registered declines =>
      refine ⟨_, registerAll_eq_error.2 ⟨_, _, _, _, rfl, registered, declines⟩, fun single => ?_⟩
      exact absurd rfl (single _)
  | unknown unlisted =>
      refine ⟨registry, ?_, fun _ => rfl⟩
      simp only [perform, configure, get_eq_none_iff.2 unlisted]
  | rejects found rejects =>
      refine ⟨registry, ?_, fun _ => rfl⟩
      simp only [perform, configure, found, CachedDriver.configure, rejects, Except.map]

/-- After some acts, every name stands for good for the driver that it was granted to. -/
structure RegisteredForGood (acts : List (Act δ)) : Prop where
  sorted : (after acts).list.Pairwise (· < ·)
  named : "" ∉ (after acts).list
  /-- The names in the list are those that were granted to a driver, by itself or in a row. -/
  listed : ∀ name, name ∈ (after acts).list ↔ ∃ driver later, Granted acts name driver later
  found : ∀ name, ((after acts).get name).isSome ↔ name ∈ (after acts).list
  /-- No name is granted twice. -/
  once : ∀ name driver driver' later later', Granted acts name driver later →
    Granted acts name driver' later' → driver = driver' ∧ later = later'
  /-- What is found under a name is the driver that was granted it, with what it remembers, after
  all that was done with this driver since. -/
  kept : ∀ name driver later, Granted acts name driver later →
    (after acts).get name = some ((uses name later).foldl CachedDriver.used { driver })
  /-- A handle that is remembered under a name is remembered whatever is done next. -/
  remembered : ∀ name address handle, (after acts).Remembers name address handle →
    ∀ more, (after (acts ++ more)).Remembers name address handle
  /-- An act fails in this way and no other: a name is declined because it is empty, or else because
  it is in the list; a driver cannot be told anything because its name is not in the list, or else
  because it rejects what it is told. -/
  complains : ∀ act error, ((after acts).perform act).2 = .error error ↔
    (after acts).Complains act error
  /-- An act that fails changes nothing. -/
  unchanged : ∀ act error, (after acts).Complains act error →
    (∀ offers, act ≠ .registerAll offers) → after (acts ++ [act]) = after acts
  /-- Of a row of registrations, those before the first failure are done. -/
  stopped : ∀ front name driver back error registry',
    (after acts).registerAll front = (registry', .ok ()) → registry'.Declines name error →
      after (acts ++ [.registerAll (front ++ (name, driver) :: back)]) =
        after (acts ++ [.registerAll front])

/-- Whatever is done to an empty registry, its drivers are registered for good. -/
theorem registered_for_good (acts : List (Act δ)) : RegisteredForGood acts := by
  have found (name : String) : ((after acts).get name).isSome ↔ name ∈ (after acts).list := by
    rw [mem_list_iff, Option.isSome_iff_exists]
  have listed (name : String) : name ∈ (after acts).list ↔
      ∃ driver later, Granted acts name driver later := by
    rw [mem_list_iff]
    constructor
    · rintro ⟨cached, isCached⟩
      rcases get_after.1 isCached with ⟨driver, later, granted, -⟩
      exact ⟨driver, later, granted⟩
    · rintro ⟨driver, later, granted⟩
      exact ⟨_, get_after.2 ⟨driver, later, granted, rfl⟩⟩
  constructor
  case sorted => exact List.pairwise_map.2 (after acts).drivers.sorted
  case named =>
    intro isListed
    rcases (listed "").1 isListed with ⟨driver, later, before, act, -, granted⟩
    exact granted.free.1 rfl
  case listed => exact listed
  case found => exact found
  case once => exact fun name driver driver' later later' granted also => granted.unique also
  case kept =>
    intro name driver later granted
    exact get_after.2 ⟨driver, later, granted, rfl⟩
  case remembered => exact fun name address handle remembers => remembers.after_append
  case complains =>
    intro act error
    refine ⟨complains_of_perform, fun complains => ?_⟩
    rcases complains.perform_eq with ⟨registry', performed, -⟩
    rw [performed]
  case unchanged =>
    intro act error complains single
    rcases complains.perform_eq with ⟨registry', performed, same⟩
    rw [after_concat, performed, same single]
  case stopped =>
    intro front name driver back error registry' registered declines
    have stopped := registerAll_eq_error.2 ⟨front, name, driver, back, rfl, registered, declines⟩
    rw [after_concat, after_concat, perform, perform, stopped, registered]

end Registry

end AvControl
