import AvControl.Proofs.Json.Spelling
import AvControl.Wire.Response
import AvControl.Wire.Room

/-!
# What is sent is received

States, requests and rooms are read back from the text that they are written as, and from every text
that differs from it only in what does not count: in the order of members, in members with unknown
names, and in null where something is absent. For each type there is a spelling that says how its
values may be written, a proof that the decoder reads this spelling, and a proof that the encoder
writes it. Responses are read back too as long as the values in their reports are simple.
-/

namespace AvControl

open Json (Decoder Spelling Slot Part Written)
open Json.Decoder (reads_text reads_bool)
open Json.Spelling (neverNull_text neverNull_bool neverNull_table table_ofTable list_map)

namespace Feed

def spelling : Spelling Feed := .record
  [ .optional "audioVideo" Feed.audioVideo .text,
    .optional "audio" Feed.audio .text,
    .optional "video" Feed.video .text ]

theorem reads : Feed.decoder.Reads 1 spelling := by
  refine Decoder.Reads.record
    [ .optional reads_text neverNull_text,
      .optional reads_text neverNull_text,
      .optional reads_text neverNull_text ] ?_ ?_ ?_ ?_
  · decide
  · simp [Part.Spares, Part.optional]
  · simp [Part.optional]
  · intro feed filled agree
    simp only [List.forall_mem_cons, Part.optional] at agree
    rcases agree with ⟨audioVideo, audio, video, -⟩
    simp only [audioVideo, audio, video]

theorem spelling_toJson (feed : Feed) : spelling feed feed.toJson := by
  simp only [toJson, List.append_assoc]
  refine Written.record (.cons (.optional ?_) (.cons (.optional ?_) (.optional ?_)))
  all_goals exact fun _ _ => rfl

end Feed

namespace DeviceState

/-- A level is written as the integer that it is. -/
def levelSpelling : Spelling Int32 := fun level json => json = levelToJson level

theorem reads_level : levelDecoder.Reads 0 levelSpelling := by
  rintro level _ depth rfl -
  have least : Int64.minValue.toInt ≤ level.toInt :=
    Int.le_trans (by decide) level.minValue_le_toInt
  have greatest : level.toInt ≤ Json.Numeral.maxSignificand :=
    Int.le_trans level.toInt_le (by decide)
  have inRange : Int32.minValue.toInt ≤ level.toInt ∧ level.toInt ≤ Int32.maxValue.toInt :=
    ⟨level.minValue_le_toInt, level.toInt_le⟩
  simp only [levelToJson, Json.ofInt, Json.Document.reread,
    Json.rereadNumber_integer least greatest, levelDecoder, Decoder.map, Decoder.integer,
    if_pos inRange]
  exact congrArg Except.ok (Int32.ofInt_toInt level)

def spelling : Spelling DeviceState := .record
  [ .optional "poweredOn" DeviceState.poweredOn .bool,
    .optional "blanked" DeviceState.blanked .bool,
    .optional "inputs" DeviceState.inputs (.table id Feed.spelling),
    .optional "volumes" DeviceState.volumes (.table id levelSpelling),
    .optional "mutes" DeviceState.mutes (.table id .bool) ]

theorem reads : DeviceState.decoder.Reads 3 spelling := by
  refine Decoder.Reads.record
    [ .optional (reads_bool.mono (Nat.zero_le 2)) neverNull_bool,
      .optional (reads_bool.mono (Nat.zero_le 2)) neverNull_bool,
      .optional (Feed.reads.table fun _ => rfl) (neverNull_table _ _),
      .optional ((reads_level.table fun _ => rfl).mono (Nat.le_succ 1)) (neverNull_table _ _),
      .optional ((reads_bool.table fun _ => rfl).mono (Nat.le_succ 1)) (neverNull_table _ _) ]
    ?_ ?_ ?_ ?_
  · decide
  · simp [Part.Spares, Part.optional]
  · simp [Part.optional]
  · intro state filled agree
    simp only [List.forall_mem_cons, Part.optional] at agree
    rcases agree with ⟨poweredOn, blanked, inputs, volumes, mutes, -⟩
    simp only [poweredOn, blanked, inputs, volumes, mutes]

theorem spelling_toJson (state : DeviceState) : spelling state state.toJson := by
  have level : ∀ level, levelSpelling level (levelToJson level) := fun _ => rfl
  have flag : ∀ flag, Spelling.bool flag (.bool flag) := fun _ => rfl
  simp only [toJson, List.append_assoc]
  refine Written.record (.cons (.optional ?_) (.cons (.optional ?_) (.cons (.optional ?_)
    (.cons (.optional ?_) (.optional ?_)))))
  · exact fun _ _ => rfl
  · exact fun _ _ => rfl
  · exact fun inputs _ => table_ofTable Feed.spelling_toJson inputs
  · exact fun volumes _ => table_ofTable level volumes
  · exact fun mutes _ => table_ofTable flag mutes

end DeviceState

namespace StateRequest

def spelling : Spelling StateRequest := .record
  [ .defaulted "devices" StateRequest.devices SortedMap.empty
      (.table DeviceId.text DeviceState.spelling) ]

theorem reads : StateRequest.decoder.Reads 5 spelling := by
  refine Decoder.Reads.record [ .defaulted (DeviceState.reads.table fun _ => rfl) ] ?_ ?_ ?_ ?_
  · decide
  · simp
  · simp [Part.defaulted]
  · intro request filled agree
    simp only [List.forall_mem_cons, Part.defaulted] at agree
    rcases agree with ⟨devices, -⟩
    exact congrArg (fun devices => some (StateRequest.mk devices)) devices

theorem spelling_toJson (request : StateRequest) : spelling request request.toJson := by
  refine Written.record (.present (Or.inl ⟨_, rfl, ?_⟩) .nil)
  exact table_ofTable DeviceState.spelling_toJson request.devices

end StateRequest

namespace Port

def spelling : Spelling Port := .record
  [ .required "name" Port.name .text,
    .required "type" Port.kind .text ]

theorem reads : Port.decoder.Reads 1 spelling := by
  refine Decoder.Reads.record [ .required reads_text, .required reads_text ] ?_ ?_ ?_ ?_
  · decide
  · simp [Part.Spares, Part.required]
  · simp [Part.required]
  · intro port filled agree
    simp only [List.forall_mem_cons, Part.required] at agree
    rcases agree with ⟨name, kind, -⟩
    simp only [name, kind]
    rfl

theorem spelling_toJson (port : Port) : spelling port port.toJson :=
  Written.record (.required rfl (.required rfl .nil))

end Port

namespace DeviceConfig

def spelling : Spelling DeviceConfig := .record
  [ .required "address" DeviceConfig.address .text,
    .required "driver" DeviceConfig.driver .text,
    .defaulted "ports" DeviceConfig.ports [] (.list Port.spelling) ]

theorem reads : DeviceConfig.decoder.Reads 3 spelling := by
  refine Decoder.Reads.record
    [ .required (reads_text.mono (Nat.zero_le 2)),
      .required (reads_text.mono (Nat.zero_le 2)),
      .defaulted Port.reads.list ] ?_ ?_ ?_ ?_
  · decide
  · simp [Part.Spares, Part.required, Part.defaulted]
  · simp [Part.required, Part.defaulted]
  · intro config filled agree
    simp only [List.forall_mem_cons, Part.required, Part.defaulted] at agree
    rcases agree with ⟨address, driver, ports, -⟩
    simp only [address, driver, ports]
    rfl

theorem spelling_toJson (config : DeviceConfig) : spelling config config.toJson := by
  refine Written.record (.required rfl (.required rfl (.defaulted ?_)))
  exact list_map fun port _ => port.spelling_toJson

end DeviceConfig

namespace RoomConfig

def spelling : Spelling RoomConfig := .record
  [ .required "id" (fun room => room.id.text) .text,
    .optional "proxy" RoomConfig.proxy .text,
    .defaulted "devices" RoomConfig.devices SortedMap.empty
      (.table DeviceId.text DeviceConfig.spelling) ]

theorem reads : RoomConfig.decoder.Reads 5 spelling := by
  refine Decoder.Reads.record
    [ .required (reads_text.mono (Nat.zero_le 4)),
      .optional (reads_text.mono (Nat.zero_le 4)) neverNull_text,
      .defaulted (DeviceConfig.reads.table fun _ => rfl) ] ?_ ?_ ?_ ?_
  · decide
  · simp [Part.Spares, Part.required, Part.optional, Part.defaulted]
  · simp [Part.required, Part.optional, Part.defaulted]
  · intro room filled agree
    simp only [List.forall_mem_cons, Part.required, Part.optional, Part.defaulted] at agree
    rcases agree with ⟨isId, proxy, devices, -⟩
    simp only [isId, proxy, devices]
    rfl

theorem spelling_toJson (room : RoomConfig) : spelling room room.toJson := by
  simp only [toJson, List.cons_append, List.nil_append]
  refine Written.record (.required rfl (.cons (.optional fun _ _ => rfl) ?_))
  refine .present (Or.inl ⟨_, rfl, ?_⟩) .nil
  exact table_ofTable DeviceConfig.spelling_toJson room.devices

end RoomConfig

/-- A value that is neither null nor nested nor a fraction, and fits 64 bits. -/
inductive Json.Simple : Json → Prop
  | bool (value : Bool) : Simple (.bool value)
  | string (text : String) : Simple (.string text)
  | integer {value : Int} (least : Int64.minValue.toInt ≤ value)
      (greatest : value ≤ Json.Numeral.maxSignificand) : Simple (Json.ofInt value)

namespace FieldReport

/-- A simple value is written as it is. -/
def valueSpelling : Spelling Json := fun value json => json = value ∧ value.Simple

theorem reads_value : Decoder.any.Reads 0 valueSpelling := by
  rintro value _ depth ⟨rfl, simple⟩ -
  cases simple with
  | bool | string => rw [Json.Document.reread, Decoder.any]
  | integer least greatest =>
      rw [Json.ofInt, Json.Document.reread, Json.rereadNumber_integer least greatest, Decoder.any]

theorem neverNull_value : valueSpelling.NeverNull := by
  rintro _ ⟨rfl, simple⟩
  cases simple

def spelling : Spelling FieldReport := .record
  [ .required "id" (fun report => report.device.text) .text,
    .required "field" FieldReport.field .text,
    .optional "value" FieldReport.value valueSpelling,
    .required "error" FieldReport.error .text ]

theorem reads : FieldReport.decoder.Reads 1 spelling := by
  refine Decoder.Reads.record
    [ .required reads_text,
      .required reads_text,
      .optional reads_value neverNull_value,
      .required reads_text ] ?_ ?_ ?_ ?_
  · decide
  · simp [Part.Spares, Part.required, Part.optional]
  · simp [Part.required, Part.optional]
  · intro report filled agree
    simp only [List.forall_mem_cons, Part.required, Part.optional] at agree
    rcases agree with ⟨device, field, value, error, -⟩
    simp only [device, field, value, error]
    rfl

theorem spelling_toJson {report : FieldReport}
    (simple : ∀ value, report.value = some value → value.Simple) :
    spelling report report.toJson := by
  simp only [toJson, List.cons_append, List.nil_append]
  refine Written.record (.required rfl (.required rfl (.cons (.optional ?_) ?_)))
  · exact fun value isValue => ⟨rfl, simple value isValue⟩
  · exact .required rfl .nil

end FieldReport

namespace RoomResponse

variable {α : Type}

def spelling (data : Spelling α) : Spelling (RoomResponse α) := .record
  [ .required "devices" RoomResponse.devices (.table DeviceId.text data),
    .defaulted "errors" RoomResponse.errors [] (.list FieldReport.spelling) ]

theorem reads {data : Decoder α} {levels : Nat} {written : Spelling α}
    (readsData : data.Reads (levels + 1) written) :
    (RoomResponse.decoder data).Reads (levels + 3) (spelling written) := by
  refine Decoder.Reads.record
    [ .required (readsData.table fun _ => rfl),
      .defaulted (FieldReport.reads.list.mono (by omega)) ] ?_ ?_ ?_ ?_
  · simp [Part.required, Part.defaulted]
  · simp [Part.Spares, Part.required, Part.defaulted]
  · simp [Part.required, Part.defaulted]
  · intro response filled agree
    simp only [List.forall_mem_cons, Part.required, Part.defaulted] at agree
    rcases agree with ⟨devices, errors, -⟩
    simp only [devices, errors]
    rfl

/-- All values in the reports are simple. -/
def Simple (response : RoomResponse α) : Prop :=
  ∀ report ∈ response.errors, ∀ value, report.value = some value → value.Simple

theorem spelling_toJson {data : Spelling α} {encode : α → Json}
    (spelled : ∀ value, data value (encode value)) {response : RoomResponse α}
    (simple : response.Simple) : spelling data response (response.toJson encode) := by
  refine Written.record (.required ?_ (.defaulted ?_))
  · exact table_ofTable spelled response.devices
  · exact list_map fun report member => FieldReport.spelling_toJson (simple report member)

end RoomResponse

namespace DeviceHealth

def spelling : Spelling DeviceHealth := .record
  [ .required "healthy" DeviceHealth.healthy .bool,
    .defaulted "issues" DeviceHealth.issues [] (.list .text) ]

theorem reads : DeviceHealth.decoder.Reads 2 spelling := by
  refine Decoder.Reads.record
    [ .required (reads_bool.mono (Nat.zero_le 1)), .defaulted reads_text.list ] ?_ ?_ ?_ ?_
  · decide
  · simp [Part.Spares, Part.required, Part.defaulted]
  · simp [Part.required, Part.defaulted]
  · intro health filled agree
    simp only [List.forall_mem_cons, Part.required, Part.defaulted] at agree
    rcases agree with ⟨healthy, issues, -⟩
    simp only [healthy, issues]
    rfl

theorem spelling_toJson (health : DeviceHealth) : spelling health health.toJson := by
  refine Written.record (.required rfl (.defaulted ?_))
  exact list_map fun _ _ => rfl

end DeviceHealth

/--
What is sent is received. A state, a request or a room is what is read from any text in which it is
spelled, and it is spelled by what it is sent as. A response is read from what it is sent as, if the
values in its reports are simple.
-/
theorem reads_back :
    DeviceState.decoder.ReadsBack DeviceState.toJson DeviceState.spelling ∧
    StateRequest.decoder.ReadsBack StateRequest.toJson StateRequest.spelling ∧
    RoomConfig.decoder.ReadsBack RoomConfig.toJson RoomConfig.spelling ∧
    (∀ response : RoomResponse DeviceState, response.Simple →
      (RoomResponse.decoder DeviceState.decoder).runText
        (response.toJson DeviceState.toJson).render = .ok response) ∧
    ∀ response : RoomResponse DeviceHealth, response.Simple →
      (RoomResponse.decoder DeviceHealth.decoder).runText
        (response.toJson DeviceHealth.toJson).render = .ok response := by
  refine ⟨⟨DeviceState.spelling_toJson, ?_⟩, ⟨StateRequest.spelling_toJson, ?_⟩,
    ⟨RoomConfig.spelling_toJson, ?_⟩, ?_, ?_⟩
  · exact fun _ _ spelled => DeviceState.reads.runText (by decide) spelled
  · exact fun _ _ spelled => StateRequest.reads.runText (by decide) spelled
  · exact fun _ _ spelled => RoomConfig.reads.runText (by decide) spelled
  · intro response simple
    have spelled := RoomResponse.spelling_toJson DeviceState.spelling_toJson simple
    exact (RoomResponse.reads DeviceState.reads).runText (by decide) spelled
  · intro response simple
    have spelled := RoomResponse.spelling_toJson DeviceHealth.spelling_toJson simple
    exact (RoomResponse.reads DeviceHealth.reads).runText (by decide) spelled

/--
A state with a null for a field that is absent, with an unknown member and with the members in
another order is read back, and so is the response in which a level was refused.
-/
theorem reads_back_disordered :
    DeviceState.decoder.runText
      (Json.object [("blanked", .null), ("poweredOn", .bool true), ("lamp", .array [])]).render =
        .ok { poweredOn := some true } ∧
    (RoomResponse.decoder DeviceState.decoder).runText
      (RoomResponse.toJson DeviceState.toJson
        { errors := [⟨⟨"1"⟩, "volumes.1", some (Json.ofInt 7), "refused"⟩] }).render =
        .ok { errors := [⟨⟨"1"⟩, "volumes.1", some (Json.ofInt 7), "refused"⟩] } := by
  rcases reads_back with ⟨states, -, -, responses, -⟩
  constructor
  · refine states.read _ _ ?_
    have extended : DeviceState.spelling { poweredOn := some true }
        (.object [("lamp", .array []), ("poweredOn", .bool true)]) :=
      Spelling.record_unknown (by decide) _ (states.spelled _)
    have filled : DeviceState.spelling { poweredOn := some true }
        (.object [("blanked", .null), ("lamp", .array []), ("poweredOn", .bool true)]) :=
      Spelling.record_null (.tail _ (.head _)) rfl (by decide) extended
    exact Spelling.record_reordered (.cons _ (.swap _ _ _)) filled
  · refine responses _ ?_
    intro report member value isValue
    simp only [List.mem_singleton] at member
    subst member
    cases isValue
    exact .integer (by decide) (by decide)

end AvControl
