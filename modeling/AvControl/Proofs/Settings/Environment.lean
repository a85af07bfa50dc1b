import AvControl.Proofs.Json.Numerals
import AvControl.Proofs.Lists
import AvControl.Proofs.SortedMap
import AvControl.Settings.Environment

/-!
# Settings under an environment

Every setting has an order of precedence: the first source that gives a value prevails, and what is
written is the last resort. What takes effect under an environment is what prevails. Whether a
variable gives a value is said by how the value is spelled. A number is its usual digits, perhaps
behind zeros and a plus sign; an address is a host and a port with a colon between them. As no
number has a colon in it, an address that is made of a host and a port is taken apart again, however
many colons the host has. A variable whose value is no text counts as one that is not set.
-/

namespace AvControl

namespace Settings

/-! ### Numbers -/

/-- A text spells a number: its usual digits, perhaps behind zeros and a plus sign. -/
def Spells (text : String) (number : Nat) : Prop :=
  ∃ sign zeros, (sign = "" ∨ sign = "+") ∧
    text = sign ++ String.ofList (List.replicate zeros '0') ++ toString number

theorem spells_toString (number : Nat) : Spells (toString number) number :=
  ⟨"", 0, Or.inl rfl, by simp⟩

theorem toList_toString (number : Nat) : (toString number).toList = Nat.toDigits 10 number := by
  simp [toString, Nat.repr]

theorem digitsOnly?_eq_some {digits : List Char} {number : Nat} :
    digitsOnly? digits = some number ↔
      ∃ zeros, digits = List.replicate zeros '0' ++ Nat.toDigits 10 number := by
  have unfolded : digitsOnly? digits =
      if digits.isEmpty || !digits.all Char.isDigit then none
      else some (Json.digitsValue digits) := rfl
  rw [unfolded]
  constructor
  · intro isRead
    split at isRead
    · cases isRead
    · rename_i proper
      obtain rfl := Option.some.inj isRead
      simp only [Bool.or_eq_true, List.isEmpty_iff, Bool.not_eq_true', not_or,
        Bool.not_eq_false, List.all_eq_true] at proper
      exact Json.eq_zeros_append_toDigits ⟨proper.1, proper.2⟩
  · rintro ⟨zeros, rfl⟩
    have areDigits := Json.digits_toDigits number
    have notEmpty : (List.replicate zeros '0' ++ Nat.toDigits 10 number).isEmpty = false := by
      simp [areDigits.notEmpty]
    have all : (List.replicate zeros '0' ++ Nat.toDigits 10 number).all Char.isDigit = true := by
      rw [List.all_append, Bool.and_eq_true, List.all_eq_true, List.all_eq_true]
      exact ⟨fun c isZero => Json.isDigit_of_mem_zeros isZero, areDigits.areDigits⟩
    simp only [notEmpty, all, Bool.not_true, Bool.or_self, Bool.false_eq_true, if_false,
      Json.digitsValue_zeros, Json.digitsValue_toDigits]

/-- What is left of a text without a plus sign in front. -/
def unsigned : List Char → List Char
  | '+' :: digits => digits
  | digits => digits

theorem unsigned_of_head {text : List Char} (noPlus : text.head? ≠ some '+') :
    unsigned text = text := by
  unfold unsigned
  split
  · exact absurd rfl noPlus
  · rfl

theorem spells_iff {text : String} {number : Nat} : Spells text number ↔
    ∃ zeros, unsigned text.toList = List.replicate zeros '0' ++ Nat.toDigits 10 number := by
  constructor
  · rintro ⟨sign, zeros, rfl | rfl, rfl⟩
    · refine ⟨zeros, ?_⟩
      simp only [String.toList_append, String.toList_ofList, toList_toString, String.toList_empty,
        List.nil_append]
      apply unsigned_of_head
      intro isPlus
      rcases List.mem_append.1 (List.mem_of_mem_head? isPlus) with isZero | isDigit
      · cases Json.isDigit_of_mem_zeros isZero
      · cases (Json.digits_toDigits number).areDigits '+' isDigit
    · exact ⟨zeros, by simp [unsigned]⟩
  · rintro ⟨zeros, same⟩
    by_cases isPlus : text.toList.head? = some '+'
    · rcases List.head?_eq_some_iff.1 isPlus with ⟨digits, isText⟩
      refine ⟨"+", zeros, Or.inr rfl, String.toList_inj.1 ?_⟩
      rw [isText] at same ⊢
      simpa [unsigned] using same
    · refine ⟨"", zeros, Or.inl rfl, String.toList_inj.1 ?_⟩
      rw [unsigned_of_head isPlus] at same
      simpa using same

theorem natUpTo?_eq_some {greatest number : Nat} {text : String} :
    natUpTo? greatest text = some number ↔ Spells text number ∧ number ≤ greatest := by
  have unfolded : natUpTo? greatest text =
      (digitsOnly? (unsigned text.toList)).filter (· ≤ greatest) := rfl
  rw [unfolded, Option.filter_eq_some_iff, digitsOnly?_eq_some, decide_eq_true_iff, spells_iff]

/-- A port is read off the texts that spell its number. -/
theorem port?_eq_some {text : String} {port : UInt16} :
    port? text = some port ↔ Spells text port.toNat := by
  simp only [port?, Option.map_eq_some_iff, natUpTo?_eq_some]
  constructor
  · rintro ⟨number, ⟨spells, fits⟩, rfl⟩
    rwa [UInt16.toNat_ofNat_of_lt' (Nat.lt_of_le_pred (by decide) fits)]
  · intro spells
    exact ⟨port.toNat, ⟨spells, Nat.le_pred_of_lt port.toNat_lt_size⟩, UInt16.ofNat_toNat⟩

/-- A number of seconds is read off the texts that spell it. -/
theorem seconds?_eq_some {text : String} {seconds : UInt64} :
    seconds? text = some seconds ↔ Spells text seconds.toNat := by
  simp only [seconds?, Option.map_eq_some_iff, natUpTo?_eq_some]
  constructor
  · rintro ⟨number, ⟨spells, fits⟩, rfl⟩
    rwa [UInt64.toNat_ofNat_of_lt' (Nat.lt_of_le_pred (by decide) fits)]
  · intro spells
    exact ⟨seconds.toNat, ⟨spells, Nat.le_pred_of_lt seconds.toNat_lt_size⟩, UInt64.ofNat_toNat⟩

/-! ### Addresses -/

/-- A text is a host and what should be a port, with its last colon between them. -/
structure Address (text host port : String) : Prop where
  text_eq : text = host ++ ":" ++ port
  plain : ':' ∉ port.toList

theorem Address.split {text host port : String} (address : Address text host port) :
    splitAtLastColon? text = some (host, port) := by
  have backwards : text.toList.reverse = port.toList.reverse ++ ':' :: host.toList.reverse := by
    simp [address.text_eq]
  have plain : ':' ∉ port.toList.reverse := by simpa using address.plain
  simp only [splitAtLastColon?, backwards, takeWhile_ne plain, dropWhile_ne plain,
    List.reverse_reverse, String.ofList_toList]

theorem exists_address {text : String} (colon : ':' ∈ text.toList) :
    ∃ host port, Address text host port := by
  rcases List.eq_append_cons_of_mem (List.mem_reverse.2 colon) with ⟨after, before, same, plain⟩
  refine ⟨String.ofList before.reverse, String.ofList after.reverse, ?_, by simpa using plain⟩
  apply String.toList_inj.1
  rw [← List.reverse_reverse text.toList, same]
  simp

theorem splitAtLastColon?_eq_some {text host port : String} :
    splitAtLastColon? text = some (host, port) ↔ Address text host port := by
  refine ⟨fun isSplit => ?_, Address.split⟩
  by_cases colon : ':' ∈ text.toList
  · rcases exists_address colon with ⟨host', port', address⟩
    obtain ⟨rfl, rfl⟩ := Prod.mk.inj (Option.some.inj (address.split.symm.trans isSplit))
    exact address
  · have plain : ':' ∉ text.toList.reverse := fun isColon => colon (List.mem_reverse.1 isColon)
    simp only [splitAtLastColon?, dropWhile_ne_of_notMem plain] at isSplit
    cases isSplit

example : splitAtLastColon? "[::1]:8080" = some ("[::1]", "8080") := by decide +kernel

/-- The host and the port of settings are the parts of their address. -/
theorem address_bindAddress (settings : Settings) :
    Address settings.bindAddress settings.server.host (toString settings.server.port.toNat) := by
  refine ⟨rfl, fun isColon => ?_⟩
  rw [toList_toString] at isColon
  cases (Json.digits_toDigits _).areDigits ':' isColon

/-! ### Precedence -/

/-- A value prevails among sources: it is that of the first source that gives any, or what there is
without them. -/
inductive Prevails {α : Type} (fallback : α) : List (α → Prop) → α → Prop
  | fallback : Prevails fallback [] fallback
  | given {gives : α → Prop} {later : List (α → Prop)} {value : α} (isGiven : gives value) :
    Prevails fallback (gives :: later) value
  | silent {gives : α → Prop} {later : List (α → Prop)} {value : α} (nothing : ∀ v, ¬gives v)
      (prevails : Prevails fallback later value) : Prevails fallback (gives :: later) value

theorem prevails_nil_iff {α : Type} {fallback value : α} :
    Prevails fallback [] value ↔ fallback = value := by
  constructor
  · rintro ⟨⟩
    rfl
  · rintro rfl
    exact .fallback

/-- A variable gives the values that its text means. -/
def Gives {α : Type} (environment : Environment) (variableName : String)
    (means : String → α → Prop) (value : α) : Prop :=
  ∃ text, environment.get? variableName = some text ∧ means text value

/-- What may tell the host: the whole address, then the host by itself. -/
def hostSources (environment : Environment) : List (String → Prop) :=
  [Gives environment "ROOMCTL_BIND" fun text host => ∃ port, Address text host port,
    Gives environment "ROOMCTL_HOST" fun text host => text = host]

/-- What may tell the port: the whole address, then the port by itself. -/
def portSources (environment : Environment) : List (UInt16 → Prop) :=
  [Gives environment "ROOMCTL_BIND" fun text port =>
      ∃ host spelling, Address text host spelling ∧ Spells spelling port.toNat,
    Gives environment "ROOMCTL_PORT" fun text port => Spells text port.toNat]

/-- What may tell how long a request may take. -/
def timeoutSources (environment : Environment) : List (UInt64 → Prop) :=
  [Gives environment "ROOMCTL_REQUEST_TIMEOUT_SECS" fun text seconds => Spells text seconds.toNat]

/-- What may tell what is logged: the general variable, then the particular one. -/
def filterSources (environment : Environment) : List (String → Prop) :=
  [Gives environment "RUST_LOG" fun text filter => text = filter,
    Gives environment "ROOMCTL_LOG" fun text filter => text = filter]

/-- The settings that take effect under an environment for those that are written: each is what
prevails among the sources for it, and there are none for the drivers and the rooms. -/
structure TakesEffect (environment : Environment) (written effective : Settings) : Prop where
  host : Prevails written.server.host (hostSources environment) effective.server.host
  port : Prevails written.server.port (portSources environment) effective.server.port
  timeout : Prevails written.server.timeoutSeconds (timeoutSources environment)
    effective.server.timeoutSeconds
  filter : Prevails written.logging.filter (filterSources environment) effective.logging.filter
  drivers : effective.drivers = written.drivers
  rooms : effective.rooms = written.rooms

/-! ### One variable after another -/

section Heed

variable {α : Type} {field : Settings → α} {change : String → Settings → Settings}
  {means : String → α → Prop}

/-- A change makes a field what a text means, and leaves it as it is if the text means nothing. -/
structure Sets (field : Settings → α) (change : String → Settings → Settings)
    (means : String → α → Prop) : Prop where
  told : ∀ {text value}, means text value → ∀ settings, field (change text settings) = value
  silent : ∀ {text}, (∀ value, ¬means text value) →
    ∀ settings, field (change text settings) = field settings

/-- A change has nothing to do with a field. -/
def Spares (field : Settings → α) (change : String → Settings → Settings) : Prop :=
  ∀ text settings, field (change text settings) = field settings

variable {environment : Environment} {settings : Settings} {fallback value : α}
  {sources : List (α → Prop)}

theorem heed_of_spares (spares : Spares field change) (variableName : String) :
    field (settings.heed environment variableName change) = field settings := by
  unfold heed
  split
  · exact spares _ settings
  · rfl

theorem heed_of_gives (sets : Sets field change means) {variableName : String}
    (gives : Gives environment variableName means value) :
    field (settings.heed environment variableName change) = value := by
  rcases gives with ⟨text, isSet, meant⟩
  rw [heed, isSet]
  exact sets.told meant settings

theorem heed_of_silent (sets : Sets field change means) {variableName : String}
    (nothing : ∀ value, ¬Gives environment variableName means value) :
    field (settings.heed environment variableName change) = field settings := by
  unfold heed
  split
  · rename_i text isSet
    exact sets.silent (fun value meant => nothing value ⟨text, isSet, meant⟩) settings
  · rfl

/-- The variable that is looked at last takes precedence over all that were looked at before. -/
theorem prevails_heed_iff (sets : Sets field change means)
    (before : ∀ value, Prevails fallback sources value ↔ field settings = value)
    (variableName : String) (value : α) :
    Prevails fallback (Gives environment variableName means :: sources) value ↔
      field (settings.heed environment variableName change) = value := by
  constructor
  · rintro (_ | gives | ⟨nothing, prevails⟩)
    · exact heed_of_gives sets gives
    · rw [heed_of_silent sets nothing]
      exact (before value).1 prevails
  · rintro rfl
    by_cases nothing : ∀ value, ¬Gives environment variableName means value
    · refine .silent nothing ((before _).2 ?_)
      exact (heed_of_silent sets nothing).symm
    · rcases not_forall_not.1 nothing with ⟨best, gives⟩
      rw [heed_of_gives sets gives]
      exact .given gives

end Heed

/-! ### What each variable is about -/

theorem sets_host : Sets (·.server.host) withHost fun text host => text = host where
  told := by
    rintro text _ rfl settings
    rfl
  silent nothing := absurd rfl (nothing _)

theorem sets_filter : Sets (·.logging.filter) withFilter fun text filter => text = filter where
  told := by
    rintro text _ rfl settings
    rfl
  silent nothing := absurd rfl (nothing _)

theorem sets_port : Sets (·.server.port) withPort fun text port => Spells text port.toNat where
  told spells settings := by rw [withPort, port?_eq_some.2 spells]
  silent nothing settings := by
    unfold withPort
    split
    · rename_i port isRead
      exact absurd (port?_eq_some.1 isRead) (nothing port)
    · rfl

theorem sets_timeout : Sets (·.server.timeoutSeconds) withTimeout
    fun text seconds => Spells text seconds.toNat where
  told spells settings := by rw [withTimeout, seconds?_eq_some.2 spells]
  silent nothing settings := by
    unfold withTimeout
    split
    · rename_i seconds isRead
      exact absurd (seconds?_eq_some.1 isRead) (nothing seconds)
    · rfl

/-- A field that is neither the host nor the port is spared by an address. -/
theorem spares_address {α : Type} {field : Settings → α} (host : Spares field withHost)
    (port : Spares field withPort) : Spares field withAddress := by
  intro text settings
  unfold withAddress
  split
  · rw [port, host]
  · rfl

theorem spares_port {α : Type} {field : Settings → α}
    (spares : ∀ (settings : Settings) port, field { settings with server.port := port } =
      field settings) : Spares field withPort := by
  intro text settings
  unfold withPort
  split
  · exact spares settings _
  · rfl

theorem spares_timeout {α : Type} {field : Settings → α}
    (spares : ∀ (settings : Settings) seconds,
      field { settings with server.timeoutSeconds := seconds } = field settings) :
    Spares field withTimeout := by
  intro text settings
  unfold withTimeout
  split
  · exact spares settings _
  · rfl

theorem host_withPort : Spares (·.server.host) withPort := spares_port fun _ _ => rfl

theorem sets_host_of_address : Sets (·.server.host) withAddress
    fun text host => ∃ port, Address text host port where
  told := by
    rintro text host ⟨port, address⟩ settings
    rw [withAddress, address.split]
    exact host_withPort port (withHost host settings)
  silent nothing settings := by
    unfold withAddress
    split
    · rename_i host port isSplit
      exact absurd ⟨port, splitAtLastColon?_eq_some.1 isSplit⟩ (nothing host)
    · rfl

theorem sets_port_of_address : Sets (·.server.port) withAddress
    fun text port => ∃ host spelling, Address text host spelling ∧ Spells spelling port.toNat where
  told := by
    rintro text port ⟨host, spelling, address, spells⟩ settings
    rw [withAddress, address.split]
    exact sets_port.told spells (withHost host settings)
  silent nothing settings := by
    unfold withAddress
    split
    · rename_i host spelling isSplit
      refine sets_port.silent (fun port spells => nothing port ?_) (withHost host settings)
      exact ⟨host, spelling, splitAtLastColon?_eq_some.1 isSplit, spells⟩
    · rfl

section Override

variable {environment : Environment} {written effective : Settings}

/-- What no variable is about stays as it is written. -/
theorem override_of_spares {α : Type} {field : Settings → α} (host : Spares field withHost)
    (port : Spares field withPort) (timeout : Spares field withTimeout)
    (filter : Spares field withFilter) : field (written.override environment) = field written := by
  simp only [override, heed_of_spares filter, heed_of_spares timeout,
    heed_of_spares (spares_address host port), heed_of_spares port, heed_of_spares host]

@[simp]
theorem drivers_override : (written.override environment).drivers = written.drivers :=
  override_of_spares (fun _ _ => rfl) (spares_port fun _ _ => rfl) (spares_timeout fun _ _ => rfl)
    fun _ _ => rfl

@[simp]
theorem rooms_override : (written.override environment).rooms = written.rooms :=
  override_of_spares (fun _ _ => rfl) (spares_port fun _ _ => rfl) (spares_timeout fun _ _ => rfl)
    fun _ _ => rfl

theorem prevails_host {host : String} :
    Prevails written.server.host (hostSources environment) host ↔
      (written.override environment).server.host = host := by
  have alone (host : String) : Prevails written.server.host
      [Gives environment "ROOMCTL_HOST" fun text host => text = host] host ↔
        ((written.heed environment "ROOMCTL_HOST" withHost).heed environment "ROOMCTL_PORT"
          withPort).server.host = host := by
    rw [heed_of_spares host_withPort]
    exact prevails_heed_iff sets_host (fun _ => prevails_nil_iff) _ host
  have spared : Spares (·.server.host) withTimeout := spares_timeout fun _ _ => rfl
  have filterSpared : Spares (·.server.host) withFilter := fun _ _ => rfl
  rw [override, heed_of_spares filterSpared, heed_of_spares filterSpared, heed_of_spares spared]
  exact prevails_heed_iff sets_host_of_address alone _ host

theorem prevails_port {port : UInt16} :
    Prevails written.server.port (portSources environment) port ↔
      (written.override environment).server.port = port := by
  have hostSpared : Spares (·.server.port) withHost := fun _ _ => rfl
  have alone (port : UInt16) : Prevails written.server.port
      [Gives environment "ROOMCTL_PORT" fun text port => Spells text port.toNat] port ↔
        ((written.heed environment "ROOMCTL_HOST" withHost).heed environment "ROOMCTL_PORT"
          withPort).server.port = port := by
    rw [← heed_of_spares hostSpared "ROOMCTL_HOST"]
    exact prevails_heed_iff sets_port (fun _ => prevails_nil_iff) _ port
  have spared : Spares (·.server.port) withTimeout := spares_timeout fun _ _ => rfl
  have filterSpared : Spares (·.server.port) withFilter := fun _ _ => rfl
  rw [override, heed_of_spares filterSpared, heed_of_spares filterSpared, heed_of_spares spared]
  exact prevails_heed_iff sets_port_of_address alone _ port

theorem prevails_timeout {seconds : UInt64} :
    Prevails written.server.timeoutSeconds (timeoutSources environment) seconds ↔
      (written.override environment).server.timeoutSeconds = seconds := by
  have hostSpared : Spares (·.server.timeoutSeconds) withHost := fun _ _ => rfl
  have portSpared : Spares (·.server.timeoutSeconds) withPort := spares_port fun _ _ => rfl
  have filterSpared : Spares (·.server.timeoutSeconds) withFilter := fun _ _ => rfl
  rw [override, heed_of_spares filterSpared, heed_of_spares filterSpared]
  refine prevails_heed_iff sets_timeout (fun _ => ?_) _ seconds
  rw [heed_of_spares (spares_address hostSpared portSpared), heed_of_spares portSpared,
    heed_of_spares hostSpared]
  exact prevails_nil_iff

theorem prevails_filter {filter : String} :
    Prevails written.logging.filter (filterSources environment) filter ↔
      (written.override environment).logging.filter = filter := by
  have hostSpared : Spares (·.logging.filter) withHost := fun _ _ => rfl
  have portSpared : Spares (·.logging.filter) withPort := spares_port fun _ _ => rfl
  have timeoutSpared : Spares (·.logging.filter) withTimeout := spares_timeout fun _ _ => rfl
  refine prevails_heed_iff sets_filter (fun _ => ?_) _ filter
  refine prevails_heed_iff sets_filter (fun _ => ?_) _ _
  rw [heed_of_spares timeoutSpared, heed_of_spares (spares_address hostSpared portSpared),
    heed_of_spares portSpared, heed_of_spares hostSpared]
  exact prevails_nil_iff

theorem takesEffect_override : TakesEffect environment written (written.override environment) where
  host := prevails_host.2 rfl
  port := prevails_port.2 rfl
  timeout := prevails_timeout.2 rfl
  filter := prevails_filter.2 rfl
  drivers := drivers_override
  rooms := rooms_override

/-- What takes effect is what comes of laying the environment over what is written. -/
theorem TakesEffect.override_eq (takesEffect : TakesEffect environment written effective) :
    written.override environment = effective := by
  have isHost := prevails_host.1 takesEffect.host
  have isPort := prevails_port.1 takesEffect.port
  have isTimeout := prevails_timeout.1 takesEffect.timeout
  have isFilter := prevails_filter.1 takesEffect.filter
  have sameDrivers : (written.override environment).drivers = effective.drivers :=
    drivers_override.trans takesEffect.drivers.symm
  have sameRooms : (written.override environment).rooms = effective.rooms :=
    rooms_override.trans takesEffect.rooms.symm
  generalize written.override environment = overridden at *
  rcases overridden with ⟨⟨host, port, timeout⟩, ⟨filter⟩, drivers, rooms⟩
  rcases effective with ⟨⟨host', port', timeout'⟩, ⟨filter'⟩, drivers', rooms'⟩
  cases isHost
  cases isPort
  cases isTimeout
  cases isFilter
  cases sameDrivers
  cases sameRooms
  rfl

theorem override_insert_bind (told : Settings) :
    let bound := written.override (environment.insert "ROOMCTL_BIND" told.bindAddress)
    bound.server.host = told.server.host ∧ bound.server.port = told.server.port := by
  have address := address_bindAddress told
  have isSet : (environment.insert "ROOMCTL_BIND" told.bindAddress).get? "ROOMCTL_BIND" =
      some told.bindAddress := by
    rw [SortedMap.get?_insert, if_pos rfl]
  refine ⟨prevails_host.1 (.given ⟨_, isSet, _, address⟩), prevails_port.1 (.given ?_)⟩
  exact ⟨_, isSet, _, _, address, spells_toString _⟩

end Override

/-- Under any environment, the settings that come of laying it over what is written are those that
take effect, and no others; and setting the variable for the whole address to that of some settings
tells their host and their port, whatever the other variables and what is written say. -/
theorem environment_prevails (environment : Environment) (written : Settings) :
    (∀ effective, written.override environment = effective ↔
      TakesEffect environment written effective) ∧
    ∀ told : Settings,
      let bound := written.override (environment.insert "ROOMCTL_BIND" told.bindAddress)
      bound.server.host = told.server.host ∧ bound.server.port = told.server.port := by
  refine ⟨fun effective => ⟨?_, TakesEffect.override_eq⟩, fun told => override_insert_bind told⟩
  rintro rfl
  exact takesEffect_override

end Settings

end AvControl
