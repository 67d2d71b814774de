import ReflexPolicy.Telemetry.Shelf
import ReflexPolicy.Proofs.Telemetry.Announcement

/-!
# What an event hides

The event that is made of a payload has the entries of the payload in their order, with the mask
under every key that the codex lists, and behind them the version and the time if they are missing.
What is added is not masked: an event hides all that is listed if the payload itself has the listed
ones of the two.  The payload and all other mappings of a shelf stay as they are, also if the sink
changes the mapping that it is given.
-/

namespace ReflexPolicy

namespace Codex

/-- The fields that are added to an event where its payload lacks them. -/
def ownFields (c : Codex) (now : Value) : Entries Scalar Value :=
  [(.text "codex_version", .text c.version), (.text "timestamp", now)]

/-- The codex lists the key to be masked. -/
def Lists (c : Codex) (key : Scalar) : Prop :=
  ∃ name ∈ c.telemetry.redactFields, key = .text name

/-- An entry is sent under its key, and with its own value if the codex does not list the key. -/
structure Masks (c : Codex) (given sent : Scalar × Value) : Prop where
  key : sent.1 = given.1
  listed : c.Lists given.1 → sent.2 = redacted
  unlisted : ¬c.Lists given.1 → sent.2 = given.2

end Codex

/-- The event is the one of a name and a payload. -/
structure Event.Delivers (e : Event) (c : Codex) (name : Text) (given : Entries Scalar Value)
    (now : Value) : Prop where
  name : e.name = name
  entries : ∃ sent, List.Forall₂ c.Masks given sent
    ∧ e.payload = sent ++ (c.ownFields now).filter fun own => !Entries.has given own.1
  masked : ∀ field ∈ c.telemetry.redactFields, Entries.has given (.text field) = true →
    Entries.get? e.payload (.text field) = some redacted
  unmasked : ∀ field ∉ c.telemetry.redactFields, Entries.has given (.text field) = true →
    Entries.get? e.payload (.text field) = Entries.get? given (.text field)
  /-- A field that the payload lacks is sent as it is, even if the codex lists it. -/
  added : ∀ field : Text, Entries.has given (.text field) = false →
    Entries.get? e.payload (.text field) = Entries.get? (c.ownFields now) (.text field)
  complete : (∀ own ∈ c.ownFields now, c.Lists own.1 → Entries.has given own.1 = true) →
    ∀ sent ∈ e.payload, c.Lists sent.1 → sent.2 = redacted

namespace Codex

variable (c : Codex) (given : Entries Scalar Value) (now : Value)

/-! ### Entries -/

theorem hides_iff_lists (key : Scalar) :
  c.hides key = true ↔ c.Lists key
  := by
  simp only [hides, Lists, List.any_eq_true, Scalar.same_text_iff]

theorem masks_redact :
  List.Forall₂ c.Masks given (c.redact given)
  := by
  rw [redact, List.forall₂_map_right_iff, List.forall₂_same]
  intro e _
  exact {
    key := rfl
    listed := fun listed => if_pos ((c.hides_iff_lists e.1).mpr listed)
    unlisted := fun unlisted => if_neg (mt (c.hides_iff_lists e.1).mp unlisted) }

theorem has_redact (name : Text) :
  Entries.has (c.redact given) (.text name) = Entries.has given (.text name)
  := by rw [Entries.has, get?_redact, Option.isSome_map, Entries.has]

/-- A field is added behind the payload if it is missing. -/
theorem addMissing_eq_append {payload : Entries Scalar Value} {name : String} (v : Value)
    (same : Entries.has payload (.text name) = Entries.has given (.text name)) :
  addMissing payload name v
    = payload ++ [(Scalar.text name, v)].filter fun own => !Entries.has given own.1
  := by
  rw [addMissing, same, List.filter_singleton]
  cases Entries.has given (.text name)
  · rfl
  · exact (List.append_nil payload).symm

theorem has_addMissing_of_ne (payload : Entries Scalar Value) {name other : String} (v : Value)
    (apart : name ≠ other) :
  Entries.has (addMissing payload name v) (.text other) = Entries.has payload (.text other)
  := by
  have apart : Scalar.text other ≠ .text name := by
    simpa [Text.ofString_inj] using apart.symm
  rw [Entries.has, get?_addMissing, if_neg apart, Option.or_none, Entries.has]

/-- The payload that is sent. -/
def sentPayload : Entries Scalar Value :=
  addMissing (addMissing (c.redact given) "codex_version" (.text c.version)) "timestamp" now

/-- The masked entries are sent, and behind them the own fields that were missing. -/
theorem sentPayload_eq_append :
  c.sentPayload given now
    = c.redact given ++ (c.ownFields now).filter fun own => !Entries.has given own.1
  := by
  have timestamp (version : Value) :
      Entries.has (addMissing (c.redact given) "codex_version" version) (.text "timestamp")
        = Entries.has given (.text "timestamp") := by
    rw [has_addMissing_of_ne _ _ (by decide), has_redact]
  rw [sentPayload, addMissing_eq_append given now (timestamp _),
    addMissing_eq_append given _ (c.has_redact given _), List.append_assoc, ← List.filter_append]
  rfl

theorem get?_sentPayload (field : Text) :
  Entries.get? (c.sentPayload given now) (.text field)
    = if Entries.has given (.text field) then
        if field ∈ c.telemetry.redactFields then some redacted
        else Entries.get? given (.text field)
      else Entries.get? (c.ownFields now) (.text field)
  := by
  rw [sentPayload, get?_addMissing, get?_addMissing, get?_redact, Entries.has]
  cases found : Entries.get? given (.text field) with
  | some v =>
    rw [Option.isSome_some, if_pos rfl, Option.map_some, Option.some_or, Option.some_or]
    split <;> rfl
  | none =>
    rw [Option.isSome_none, if_neg Bool.false_ne_true, Option.map_none, Option.none_or,
      ← get?_field, ← get?_field, ← Entries.get?_append]
    rfl

/-! ### Events -/

theorem delivers_sentPayload (name : Text) :
  Event.Delivers { name := name, payload := c.sentPayload given now } c name given now
  := {
    name := rfl
    entries := ⟨c.redact given, c.masks_redact given, c.sentPayload_eq_append given now⟩
    masked := by
      intro field listed present
      rw [get?_sentPayload, if_pos present, if_pos listed]
    unmasked := by
      intro field unlisted present
      rw [get?_sentPayload, if_pos present, if_neg unlisted]
    added := by
      intro field missing
      rw [get?_sentPayload, if_neg (by simp [missing])]
    complete := by
      intro supplied sent mem listed
      rw [sentPayload_eq_append, List.mem_append] at mem
      obtain masked | own := mem
      · obtain ⟨e, -, rfl⟩ := List.mem_map.mp masked
        exact if_pos ((c.hides_iff_lists e.1).mpr listed)
      · obtain ⟨own, missing⟩ := List.mem_filter.mp own
        rw [supplied sent own listed] at missing
        cases missing }

theorem outgoing?_eq_sentPayload (enabled : c.telemetry.enabled = true) (name : Text)
    (payload : Option (Entries Scalar Value)) :
  c.outgoing? name (payload.elim .null .map) now
    = some { name := name, payload := c.sentPayload (payload.getD []) now }
  := by
  rw [outgoing?, if_pos enabled]
  cases payload with
  | none => rfl
  | some es => rw [Option.elim_some, payloadOf?_map]; rfl

end Codex

/-! ### Places -/

/-- The places of a shelf keep their mappings. -/
structure Shelf.Keeps (before after : Shelf) : Prop where
  length : before.length ≤ after.length
  mapping : ∀ place < before.length, after.mapping place = before.mapping place

namespace Shelf

variable {before shelf : Shelf}

theorem Keeps.refl (shelf : Shelf) :
  shelf.Keeps shelf
  := ⟨Nat.le_refl _, fun _ _ => rfl⟩

theorem Keeps.add (keeps : before.Keeps shelf) (es : Entries Scalar Value) :
  before.Keeps (shelf.add es).2
  := {
    length := by
      rw [Shelf.add, List.length_append]
      exact Nat.le_trans keeps.length (Nat.le_add_right _ _)
    mapping := by
      intro place old
      rw [← keeps.mapping place old, Shelf.mapping, Shelf.add,
        List.getElem?_append_left (Nat.lt_of_lt_of_le old keeps.length), Shelf.mapping] }

/-- A change at a place that is new leaves the others as they are. -/
theorem Keeps.change (keeps : before.Keeps shelf) {place : Nat} (new : before.length ≤ place)
    (f : Entries Scalar Value → Entries Scalar Value) :
  before.Keeps (shelf.change place f)
  := {
    length := by
      rw [Shelf.change, List.length_modify]
      exact keeps.length
    mapping := by
      intro other old
      have apart : place ≠ other := (Nat.ne_of_lt (Nat.lt_of_lt_of_le old new)).symm
      rw [← keeps.mapping other old, Shelf.mapping, Shelf.change, List.getElem?_modify_ne _ _ apart,
        Shelf.mapping] }

theorem mapping_add (es : Entries Scalar Value) :
  (shelf.add es).2.mapping shelf.length = es
  := by
  rw [add, mapping, List.getElem?_concat_length, Option.getD_some]

theorem mapping_change {place : Nat} (there : place < shelf.length)
    (f : Entries Scalar Value → Entries Scalar Value) :
  (shelf.change place f).mapping place = f (shelf.mapping place)
  := by
  rw [mapping, change, List.getElem?_modify_eq, List.getElem?_eq_getElem there, mapping,
    List.getElem?_eq_getElem there]
  rfl

theorem length_add (es : Entries Scalar Value) :
  (shelf.add es).2.length = shelf.length + 1
  := by
  rw [add, List.length_append, List.length_singleton]

theorem length_change (place : Nat) (f : Entries Scalar Value → Entries Scalar Value) :
  (shelf.change place f).length = shelf.length
  := List.length_modify ..

end Shelf

namespace Codex

variable (c : Codex) (now : Value)

/-- The event's mapping is made at a new place, and nothing is changed at the others. -/
theorem prepare_makes (shelf : Shelf) (payload : Option Nat) :
  ∃ event after, c.prepare payload now shelf = (event, after)
    ∧ shelf.length ≤ event
    ∧ after.mapping event = c.sentPayload (payload.elim [] shelf.mapping) now
    ∧ shelf.Keeps after
  := by
  let given : Entries Scalar Value := payload.elim [] shelf.mapping
  let copied : Shelf := (shelf.add given).2
  let masked : Shelf := (copied.add (c.redact (copied.mapping shelf.length))).2
  let event : Nat := copied.length
  let versioned : Shelf := masked.change event (addMissing · "codex_version" (.text c.version))
  have new : shelf.length ≤ event := (Shelf.Keeps.refl shelf |>.add given).length
  have there : event < masked.length := by
    rw [Shelf.length_add]
    exact Nat.lt_succ_self _
  refine ⟨event, versioned.change event (addMissing · "timestamp" now), rfl, new, ?mapping, ?keeps⟩
  case mapping =>
    rw [Shelf.mapping_change (by rwa [Shelf.length_change]), Shelf.mapping_change there,
      Shelf.mapping_add, Shelf.mapping_add]
    rfl
  case keeps => exact Shelf.Keeps.refl shelf |>.add _ |>.add _ |>.change new _ |>.change new _

/-- A codex that sends no events leaves every sink alone, and an emission without a sink leaves the
state as it is.  Otherwise the sink receives the event of the name and the payload.  Its mapping is
made at a new place: whatever is changed there, the payload is as it was. -/
theorem emit_delivers (c : Codex) (name : Text) (payload : Option (Entries Scalar Value))
    (now : Value) :
  (∀ (σ : Type) (sink : Option (Sink σ)) (state : σ), sink.isNone ∨ c.telemetry.enabled = false →
      emit c sink name (payload.elim .null .map) now state = state)
    ∧ (c.telemetry.enabled = true → ∃ e : Event, e.Delivers c name (payload.getD []) now
      ∧ (∀ (σ : Type) (sink : Sink σ) (state : σ),
        emit c (some sink) name (payload.elim .null .map) now state = (sink.receive e state).2)
      ∧ ∀ (shelf : Shelf) (place : Option Nat), place.map shelf.mapping = payload →
        ∃ event after, c.prepare place now shelf = (event, after)
          ∧ after.mapping event = e.payload
          ∧ ∀ change, shelf.Keeps (after.change event change))
  := by
  refine ⟨?silent, ?told⟩
  case silent =>
    rintro σ sink state (missing | disabled)
    · rw [Option.isNone_iff_eq_none.mp missing]
      rfl
    · have silent : c.outgoing? name (payload.elim .null .map) now = none :=
        if_neg (by simp [disabled])
      cases sink <;> simp only [emit, silent]
  case told =>
    intro enabled
    refine ⟨_, c.delivers_sentPayload (payload.getD []) now name, ?received, ?prepared⟩
    case received =>
      intro σ sink state
      simp only [emit, c.outgoing?_eq_sentPayload now enabled]
    case prepared =>
      rintro shelf place rfl
      obtain ⟨event, after, prepared, new, mapping, keeps⟩ := c.prepare_makes now shelf place
      refine ⟨event, after, prepared, ?_, fun change => keeps.change new change⟩
      rw [mapping]
      cases place <;> rfl

def maskedFields : List Text := ["input", "codex_version"]

/-- The small document with some fields to be masked. -/
def maskingDocument : Value :=
  smallDocumentWith [("telemetry", .ofFields [("redact_fields", .list (maskedFields.map .text))])]

def smallVersion : Text := "1.0.0"

set_option maxRecDepth 4000 in
theorem listed_maskingDocument :
  ∃ c, ofValue maskingDocument = .ok c ∧ c.telemetry.enabled = true ∧ c.version = smallVersion
    ∧ c.telemetry.redactFields = maskedFields
  := by
  have computed : passes (fun c => c.telemetry.enabled && c.version == smallVersion
      && c.telemetry.redactFields == maskedFields) (ofValue maskingDocument) = true := by
    decide +kernel
  obtain ⟨c, loaded, computed⟩ := exists_of_passes computed
  simp only [Bool.and_eq_true, beq_iff_eq] at computed
  exact ⟨c, loaded, computed.1.1, computed.1.2, computed.2⟩

/-- A payload with an input, a number of turns and a version. -/
def versionedPayload : Entries Scalar Value :=
  [(.text "turns", .int 3), (.text "input", .text "secret"), (.text "codex_version", .text "0.9")]

/-- The version of the payload is masked in the event and kept in the payload. -/
theorem emit_delivers_versioned :
  ∃ c e, ofValue maskingDocument = .ok c
    ∧ emit c (some Sink.collecting) "report" (.map versionedPayload) .null [] = [e]
    ∧ (∀ sent ∈ e.payload, c.Lists sent.1 → sent.2 = redacted)
    ∧ Entries.get? e.payload (.text "codex_version") = some redacted
    ∧ ∃ event after, c.prepare (some 0) .null [versionedPayload] = (event, after)
      ∧ after.mapping event = e.payload
      ∧ (after.change event fun _ => []).mapping 0 = versionedPayload
  := by
  obtain ⟨c, loaded, enabled, -, listed⟩ := listed_maskingDocument
  obtain ⟨-, told⟩ := emit_delivers c "report" (some versionedPayload) .null
  obtain ⟨e, delivers, received, prepared⟩ := told enabled
  obtain ⟨event, after, made, mapping, keeps⟩ := prepared [versionedPayload] (some 0) rfl
  refine ⟨c, e, loaded, received _ Sink.collecting [], delivers.complete ?_,
    delivers.masked "codex_version" (by rw [listed]; decide) rfl,
    event, after, made, mapping, (keeps fun _ => []).mapping 0 Nat.zero_lt_one⟩
  intro own mem lists
  obtain rfl | rfl := List.mem_pair.mp mem
  · rfl
  · obtain ⟨field, mem, same⟩ := lists
    cases same
    rw [listed] at mem
    revert mem
    decide

/-- A version that is listed to be masked is sent where the payload has none, though it is masked
where the payload has one. -/
theorem leaks_version :
  ∃ c e e', ofValue maskingDocument = .ok c
    ∧ c.Lists (.text "codex_version")
    ∧ emit c (some Sink.collecting) "report" .null .null [] = [e]
    ∧ Entries.get? e.payload (.text "codex_version") = some (.text smallVersion)
    ∧ (Value.text smallVersion) ≠ redacted
    ∧ emit c (some Sink.collecting) "report" (.map versionedPayload) .null [] = [e']
    ∧ Entries.get? e'.payload (.text "codex_version") = some redacted
  := by
  obtain ⟨c, loaded, enabled, version, listed⟩ := listed_maskingDocument
  have sends (payload : Option (Entries Scalar Value)) :
      emit c (some Sink.collecting) "report" (payload.elim .null .map) .null []
        = [{ name := "report", payload := c.sentPayload (payload.getD []) .null }] := by
    simp only [emit, c.outgoing?_eq_sentPayload .null enabled]
    rfl
  have hidden : ("codex_version" : Text) ∈ c.telemetry.redactFields := by
    rw [listed]
    decide
  refine ⟨c, _, _, loaded, ⟨_, hidden, rfl⟩, sends none, ?missing, ?apart,
    sends (some versionedPayload), ?given⟩
  case missing =>
    rw [get?_sentPayload, if_neg (by decide), ← version]
    rfl
  case apart => simp [redacted, smallVersion, Text.ofString_inj]
  case given =>
    rw [get?_sentPayload, if_pos (by rfl), if_pos hidden]

end Codex

end ReflexPolicy
