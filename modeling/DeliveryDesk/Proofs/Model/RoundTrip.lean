import DeliveryDesk.Model.Delivery
import DeliveryDesk.Model.Health
import DeliveryDesk.Model.Subscription
import DeliveryDesk.Proofs.Model.Fields

/-!
# Records that are written and read again

The command line prints subscriptions, tasks, log entries and health snapshots as it would read
them. The proof goes field by field: `fields?_encode` says which fields a written record has, absent
ones included, and `Inverts` reads each of them back. Only one field is not read as it is written, a
payload that is null (`DeliveryTask.decode_encode`), and none is ever read
(`DeliveryTask.payload_ne_null`). So whatever was read survives being written and read again, in
whichever of its forms it came (`Record.Settles`, `Record.Lenient`).

Main result: `records_survive_encoding`.
-/

namespace DeliveryDesk

open Record
open RecordSource (shape? field?)

/-! ## What is written is read again -/

/-- What stands in the fields of a subscription that is written, in declared order. -/
theorem Subscription.fields?_encode (s : Subscription) : fields? fieldNames s.encode = some
    [some (.string s.id), some (.string s.targetUrl),
      some (Json.orNull Json.texts s.eventTypes), some (Json.orNull .string s.maskedSecret),
      s.createdAt.map .string, s.updatedAt.map .string] := by
  obtain ⟨id, targetUrl, eventTypes, maskedSecret, createdAt, updatedAt⟩ := s
  cases createdAt <;> cases updatedAt <;> rfl

/-- A subscription that is written is read back. -/
theorem Subscription.inverts : Inverts Subscription.decode Subscription.encode where
  decode_encode s := by
    rw [decode, fields?_encode]
    simp [inverts_text.required_encode, inverts_texts.optional_orNull,
      inverts_text.optional_orNull, inverts_text.optional_map]
  ne_null := nofun

/-- What stands in the fields of a log entry that is written; the alias is not among its names. -/
theorem LogEntry.fields?_encode (e : LogEntry) : fields? fieldNames e.encode = some
    [e.id.map .string, some (Json.orNull .string e.taskId), e.subscriptionId.map .string,
      some (Json.orNull .string e.targetUrl), some (.nat e.attemptNumber.toNat),
      some (.string e.status), some (Json.orNull (fun c => .nat c.toNat) e.statusCode),
      some (Json.orNull .string e.errorDetails), some (.string e.createdAt)] := by
  obtain ⟨id, taskId, subscriptionId, targetUrl, attemptNumber, status, statusCode, errorDetails,
    createdAt⟩ := e
  cases id <;> cases subscriptionId <;> rfl

/-- A log entry that is written is read back. -/
theorem LogEntry.inverts : Inverts LogEntry.decode LogEntry.encode where
  decode_encode e := by
    rw [decode, fields?_encode]
    simp [inverts_text.required_encode, inverts_word32.required_encode,
      inverts_word16.optional_orNull, inverts_text.optional_orNull, inverts_text.optional_map]
  ne_null := nofun

/-- What stands in the fields of a dependency that is written. -/
theorem Dependency.fields?_encode (d : Dependency) :
    fields? [["status"], ["error"], ["workers"]] d.encode = some
      [some (.string d.status), d.error.map .string, d.workers.map Json.texts] := by
  obtain ⟨status, error, workers⟩ := d
  cases error <;> cases workers <;> rfl

theorem Dependency.inverts : Inverts Dependency.decode Dependency.encode where
  decode_encode d := by
    rw [decode, fields?_encode]
    simp [inverts_text.required_encode, inverts_text.optional_map, inverts_texts.optional_map]
  ne_null := nofun

theorem Dependencies.inverts : Inverts Dependencies.decode Dependencies.encode where
  decode_encode d := by
    have fields : fields? [["database"], ["redis"], ["celery"]] d.encode = some
        [some d.database.encode, some d.redis.encode, some d.celery.encode] := rfl
    rw [decode, fields]
    simp [Dependency.inverts.required_encode]
  ne_null := nofun

/-- A health snapshot that is written is read back, with everything in it. -/
theorem HealthSnapshot.inverts : Inverts HealthSnapshot.decode HealthSnapshot.encode where
  decode_encode h := by
    have fields : fields? [["status"], ["service"], ["dependencies"]] h.encode = some
        [some (.string h.status), some (.string h.service), some h.dependencies.encode] := rfl
    rw [decode, fields]
    simp [inverts_text.required_encode, Dependencies.inverts.required_encode]
  ne_null := nofun

/-- What stands in the fields of a task that is written; its log is an array. -/
theorem DeliveryTask.fields?_encode (t : DeliveryTask) : fields? fieldNames t.encode = some
    [some (.string t.id), some (.string t.status), some (.nat t.attemptCount.toNat),
      some (Json.orNull .string t.nextAttemptAt), some (.string t.createdAt),
      t.subscriptionId.map .string, t.eventType.map .string, t.payload,
      some (.array (t.logs.map LogEntry.encode))] := by
  obtain ⟨id, status, attemptCount, nextAttemptAt, createdAt, subscriptionId, eventType, payload,
    logs⟩ := t
  cases subscriptionId <;> cases eventType <;> cases payload <;> rfl

/-- A payload comes back, but a null is read as no payload. -/
theorem DeliveryTask.decodePayload_eq_self_iff (p : Option Json) :
    decodePayload p = some p ↔ p ≠ some .null := by
  cases p with
  | none => simp [decodePayload]
  | some j => cases j <;> simp [decodePayload, freeForm, shape?, RecordSource.field?]

/-- A task that is written is read back, but for its payload, which is read in a way of its own. -/
theorem DeliveryTask.decode_encode (t : DeliveryTask) :
    decode t.encode = (decodePayload t.payload).map fun p => { t with payload := p } := by
  rw [decode, fields?_encode]
  have logs : defaulted [] (list LogEntry.decode) (some (Json.array (t.logs.map LogEntry.encode)))
      = some t.logs := LogEntry.inverts.list.decode_encode t.logs
  cases h : decodePayload t.payload <;>
    simp [inverts_text.required_encode, inverts_word32.required_encode, logs, h,
      inverts_text.optional_orNull, inverts_text.optional_map]

/-! ## The forms in which a record is read -/

/-- The fields of a subscription that may be null. -/
def Subscription.mayBeNull : List String :=
  ["event_types", "masked_secret", "created_at", "updated_at"]

/-- The fields of a log entry that may be null, under each of their names. -/
def LogEntry.mayBeNull : List String :=
  ["id", "task_id", "delivery_task_id", "subscription_id", "target_url", "status_code",
    "error_details"]

/-- The fields of a task that may be null. The log may be missing, but not null. -/
def DeliveryTask.mayBeNull : List String :=
  ["next_attempt_at", "subscription_id", "event_type", "payload"]

theorem Subscription.lenient :
    Lenient fieldNames mayBeNull Subscription.decode := by
  refine lenient_of_fields? (by decide) (by decide) (fun _ => rfl) fun k hk fields hlength => ?_
  simp only [mayBeNull, List.mem_cons, List.not_mem_nil, or_false] at hk
  match fields, hlength with
  | [_, _, _, _, _, _], _ => rcases hk with rfl | rfl | rfl | rfl <;> rfl

/-- Entries may name their task in either way, and all else may be missing that may be null. -/
theorem LogEntry.lenient : Lenient fieldNames mayBeNull LogEntry.decode := by
  refine lenient_of_fields? (by decide) (by decide) (fun _ => rfl) fun k hk fields hlength => ?_
  simp only [mayBeNull, List.mem_cons, List.not_mem_nil, or_false] at hk
  match fields, hlength with
  | [_, _, _, _, _, _, _, _, _], _ =>
    rcases hk with rfl | rfl | rfl | rfl | rfl | rfl | rfl <;> rfl

/-- A task may be written in other forms too; its log may be missing, but not be null. -/
theorem DeliveryTask.lenient : Lenient fieldNames mayBeNull DeliveryTask.decode := by
  refine lenient_of_fields? (by decide) (by decide) (fun _ => rfl) fun k hk fields hlength => ?_
  simp only [mayBeNull, List.mem_cons, List.not_mem_nil, or_false] at hk
  match fields, hlength with
  | [_, _, _, _, _, _, _, _, _], _ => rcases hk with rfl | rfl | rfl | rfl <;> rfl

theorem Dependency.lenient : Lenient [["status"], ["error"], ["workers"]] ["error", "workers"]
    Dependency.decode := by
  refine lenient_of_fields? (by decide) (by decide) (fun _ => rfl) fun k hk fields hlength => ?_
  simp only [List.mem_cons, List.not_mem_nil, or_false] at hk
  match fields, hlength with
  | [_, _, _], _ => rcases hk with rfl | rfl <;> rfl

theorem Dependencies.lenient :
    Lenient [["database"], ["redis"], ["celery"]] [] Dependencies.decode :=
  lenient_of_fields? (by decide) (by decide) (fun _ => rfl) nofun

theorem HealthSnapshot.lenient :
    Lenient [["status"], ["service"], ["dependencies"]] [] HealthSnapshot.decode :=
  lenient_of_fields? (by decide) (by decide) (fun _ => rfl) nofun

/-! ## What was read stays as it is -/

/-- Only the literal null is read as null, however deep a text may be nested. -/
theorem RawJson.eq_null_of_toJson? {depth : Nat} {x : RawJson}
    (h : x.toJson? depth = some .null) : x = .null := by
  cases x with
  | null => rfl
  | array => cases depth <;> simp [toJson?] at h
  | object => cases depth <;> simp [toJson?, Json.ofMembers] at h
  | _ => simp [toJson?] at h

/-- A free-form value is never null, wherever only a null is read as null. -/
theorem freeForm_ne_null {α : Type} [RecordSource α]
    (null : ∀ a : α, field? a = some .null → shape? a = some .null) (a : α) :
    freeForm a ≠ some (some .null) := by
  intro h
  unfold freeForm at h
  split at h
  · cases h
  · rename_i hshape
    obtain ⟨j, hj, hnull⟩ := Option.map_eq_some_iff.1 h
    cases hnull
    exact hshape (null a hj)

/-- The payload of a task that was read comes from one of its fields, or from none. -/
theorem DeliveryTask.exists_decodePayload {α : Type} [RecordSource α] {a : α} {t : DeliveryTask}
    (h : decode a = some t) : ∃ field : Option α, decodePayload field = some t.payload := by
  simp only [decode, Option.bind_eq_bind, Option.bind_eq_some_iff] at h
  obtain ⟨fields, -, h⟩ := h
  split at h
  · simp only [Option.bind_eq_some_iff] at h
    obtain ⟨_, _, _, _, _, _, _, _, _, _, _, _, _, _, p, hp, _, _, h⟩ := h
    cases h
    exact ⟨_, hp⟩
  · cases h

/-- A value that is read as null is null. -/
theorem Json.shape?_eq_null {j : Json} (h : field? j = some .null) : shape? j = some .null := by
  cases h
  rfl

/-- A text that is read as null is the null of its kind. -/
theorem RawJson.shape?_eq_null {x : RawJson} (h : field? x = some .null) :
    shape? x = some .null := by
  rw [RawJson.eq_null_of_toJson? h]
  rfl

/-- No payload is read as null, neither from a value nor from a text. -/
theorem DeliveryTask.payload_ne_null {α : Type} [RecordSource α]
    (null : ∀ a : α, field? a = some .null → shape? a = some .null) {a : α} {t : DeliveryTask}
    (h : decode a = some t) : t.payload ≠ some .null := by
  obtain ⟨field, hfield⟩ := exists_decodePayload h
  intro hnull
  rw [hnull] at hfield
  cases field with
  | none => cases hfield
  | some a => exact freeForm_ne_null null a hfield

/-- **A task survives exactly if its payload is not null**, which stands for no payload. -/
theorem DeliveryTask.decode_encode_eq_some_iff (t : DeliveryTask) :
    decode t.encode = some t ↔ t.payload ≠ some .null := by
  rw [← decodePayload_eq_self_iff, decode_encode]
  cases decodePayload t.payload with
  | none => simp
  | some p =>
    rw [Option.map_some, Option.some_inj, Option.some_inj]
    refine ⟨fun h => congrArg DeliveryTask.payload h, fun h => ?_⟩
    rw [h]

/-- What is read from a value, and what is read from a text, is read again from what is written of
it. -/
def Record.Settles {β : Type} (decode : {α : Type} → [RecordSource α] → α → Option β)
    (encode : β → Json) : Prop :=
  (∀ j : Json, ((decode j).bind fun b => decode (encode b)) = decode j) ∧
    ∀ x : RawJson, ((decode x).bind fun b => decode (encode b)) = decode x

/-- A function that keeps what there is keeps an optional value. -/
theorem Record.bind_eq_self {β : Type} {o : Option β} {f : β → Option β}
    (h : ∀ b, o = some b → f b = some b) : o.bind f = o := by
  cases o with
  | none => rfl
  | some b => exact h b rfl

/-- What was read is settled if everything is read back, since it is written and read like all else.
-/
theorem Record.Inverts.settles {β : Type}
    {decode : {α : Type} → [RecordSource α] → α → Option β} {encode : β → Json}
    (h : Inverts decode encode) : Settles decode encode :=
  ⟨fun _ => bind_eq_self fun b _ => h.decode_encode b,
    fun _ => bind_eq_self fun b _ => h.decode_encode b⟩

/-- A task that was read is settled as well: reading never leaves a null for its payload. -/
theorem DeliveryTask.settles : Settles DeliveryTask.decode DeliveryTask.encode :=
  ⟨fun _ => bind_eq_self fun t ht =>
      t.decode_encode_eq_some_iff.2 (payload_ne_null (fun _ => Json.shape?_eq_null) ht),
    fun _ => bind_eq_self fun t ht =>
      t.decode_encode_eq_some_iff.2 (payload_ne_null (fun _ => RawJson.shape?_eq_null) ht)⟩

/-! ## The names that are written -/

namespace Json

mutual

/-- The names of all members of a value, at any depth. -/
def names : Json → List String
  | .array items => itemNames items
  | .object members => memberNames members
  | _ => []

/-- The names in the items of an array. -/
def itemNames : List Json → List String
  | [] => []
  | j :: js => j.names ++ itemNames js

/-- The names of members, and those in their values. -/
def memberNames : List (String × Json) → List String
  | [] => []
  | (k, j) :: ms => k :: (j.names ++ memberNames ms)

end

/-- A name occurs in items if it occurs in one of them. -/
theorem mem_itemNames_iff {k : String} {js : List Json} :
    k ∈ itemNames js ↔ ∃ j ∈ js, k ∈ j.names := by
  induction js with
  | nil => simp [itemNames]
  | cons j js ih => simp [itemNames, ih]

/-- The names in members are those in the first of them and those in the rest. -/
theorem memberNames_append (ms ms' : List (String × Json)) :
    memberNames (ms ++ ms') = memberNames ms ++ memberNames ms' := by
  induction ms with
  | nil => rfl
  | cons m ms ih => simp [memberNames, ih]

/-- There are no names in a list of texts. -/
theorem names_texts (ss : List String) : (texts ss).names = [] := by
  rw [texts, names]
  simp [List.eq_nil_iff_forall_not_mem, mem_itemNames_iff, names]

/-- A value that may be null has the names of the value, if there is one. -/
theorem mem_names_orNull {α : Type} {k : String} {f : α → Json} {o : Option α} :
    k ∈ (orNull f o).names ↔ ∃ a ∈ o, k ∈ (f a).names := by
  cases o <;> simp [orNull, names]

/-- A member that may be left out has its own name, and those in its value, if it is there. -/
theorem mem_memberNames_memberIfAny {α : Type} {k key : String} {f : α → Json} {o : Option α} :
    k ∈ memberNames (memberIfAny key f o) ↔ ∃ a ∈ o, k = key ∨ k ∈ (f a).names := by
  cases o <;> simp [memberIfAny, memberNames]

end Json

/-- The alias is not written for a subscription. -/
theorem Subscription.alias_notMem_names (s : Subscription) :
    "delivery_task_id" ∉ s.encode.names := by
  simp [encode, Json.names, Json.memberNames, Json.memberNames_append, Json.mem_names_orNull,
    Json.mem_memberNames_memberIfAny, Json.names_texts]

/-- Neither is it written for a log entry, which may be read by it. -/
theorem LogEntry.alias_notMem_names (e : LogEntry) : "delivery_task_id" ∉ e.encode.names := by
  simp [encode, Json.names, Json.memberNames, Json.memberNames_append, Json.mem_names_orNull,
    Json.mem_memberNames_memberIfAny, Json.nat]

/-- In a task the alias can only be written as a part of the payload. -/
theorem DeliveryTask.alias_mem_names_iff (t : DeliveryTask) :
    "delivery_task_id" ∈ t.encode.names ↔ ∃ p ∈ t.payload, "delivery_task_id" ∈ p.names := by
  simp [encode, Json.names, Json.memberNames, Json.memberNames_append, Json.mem_names_orNull,
    Json.mem_memberNames_memberIfAny, Json.nat, Json.mem_itemNames_iff, LogEntry.alias_notMem_names]

theorem Dependency.alias_notMem_names (d : Dependency) : "delivery_task_id" ∉ d.encode.names := by
  simp [encode, Json.names, Json.memberNames, Json.memberNames_append,
    Json.mem_memberNames_memberIfAny, Json.names_texts]

theorem HealthSnapshot.alias_notMem_names (h : HealthSnapshot) :
    "delivery_task_id" ∉ h.encode.names := by
  simp [encode, Dependencies.encode, Json.names, Json.memberNames, Dependency.alias_notMem_names]

/-- **Records survive being written and read again.** Every subscription, log entry and health
snapshot comes back as it was written, and so does every task but one whose payload is null.
Whatever was read, from a value or from a text, comes back too. A record is read alike in each of
its forms: its members in any order, with unknown ones among them, under either name, null or
missing where they may be, or as an array. Of the two names of a log entry's task the second is
never written, unless a payload brings it along, and no payload is ever read as null. -/
theorem records_survive_encoding :
    ((∀ s : Subscription, Subscription.decode s.encode = some s) ∧
      (∀ e : LogEntry, LogEntry.decode e.encode = some e) ∧
      (∀ h : HealthSnapshot, HealthSnapshot.decode h.encode = some h) ∧
      ∀ t : DeliveryTask, DeliveryTask.decode t.encode = some t ↔ t.payload ≠ some .null) ∧
    (Settles Subscription.decode Subscription.encode ∧ Settles LogEntry.decode LogEntry.encode ∧
      Settles HealthSnapshot.decode HealthSnapshot.encode ∧
      Settles DeliveryTask.decode DeliveryTask.encode) ∧
    (Lenient Subscription.fieldNames Subscription.mayBeNull Subscription.decode ∧
      Lenient LogEntry.fieldNames LogEntry.mayBeNull LogEntry.decode ∧
      Lenient DeliveryTask.fieldNames DeliveryTask.mayBeNull DeliveryTask.decode ∧
      Lenient [["status"], ["service"], ["dependencies"]] [] HealthSnapshot.decode ∧
      Lenient [["database"], ["redis"], ["celery"]] [] Dependencies.decode ∧
      Lenient [["status"], ["error"], ["workers"]] ["error", "workers"] Dependency.decode) ∧
    ((∀ s : Subscription, "delivery_task_id" ∉ s.encode.names) ∧
      (∀ e : LogEntry, "delivery_task_id" ∉ e.encode.names) ∧
      (∀ h : HealthSnapshot, "delivery_task_id" ∉ h.encode.names) ∧
      ∀ t : DeliveryTask, "delivery_task_id" ∈ t.encode.names ↔
        ∃ p ∈ t.payload, "delivery_task_id" ∈ p.names) ∧
    (∀ j : Json, (DeliveryTask.decode j).bind (·.payload) ≠ some .null) ∧
    ∀ x : RawJson, (DeliveryTask.decode x).bind (·.payload) ≠ some .null := by
  refine ⟨⟨Subscription.inverts.decode_encode, LogEntry.inverts.decode_encode,
      HealthSnapshot.inverts.decode_encode, DeliveryTask.decode_encode_eq_some_iff⟩,
    ⟨Subscription.inverts.settles, LogEntry.inverts.settles, HealthSnapshot.inverts.settles,
      DeliveryTask.settles⟩,
    ⟨Subscription.lenient, LogEntry.lenient, DeliveryTask.lenient, HealthSnapshot.lenient,
      Dependencies.lenient, Dependency.lenient⟩,
    ⟨Subscription.alias_notMem_names, LogEntry.alias_notMem_names,
      HealthSnapshot.alias_notMem_names, DeliveryTask.alias_mem_names_iff⟩,
    fun j hj => ?_, fun x hx => ?_⟩
  · obtain ⟨t, ht, hpayload⟩ := Option.bind_eq_some_iff.1 hj
    exact DeliveryTask.payload_ne_null (fun _ => Json.shape?_eq_null) ht hpayload
  · obtain ⟨t, ht, hpayload⟩ := Option.bind_eq_some_iff.1 hx
    exact DeliveryTask.payload_ne_null (fun _ => RawJson.shape?_eq_null) ht hpayload

/-- An entry that names its task the other way, in no order and with a member nobody knows. -/
example :
    (LogEntry.decode (Json.object
      [("created_at", .string "now"), ("delivery_task_id", .string "t1"), ("status", .string "ok"),
        ("status_code", .null), ("region", .string "eu"), ("attempt_number", .nat 1)])).map LogEntry.encode =
    some (.object
      [("task_id", .string "t1"), ("target_url", .null), ("attempt_number", .nat 1),
        ("status", .string "ok"), ("status_code", .null), ("error_details", .null),
        ("created_at", .string "now")]) := by
  rfl

end DeliveryDesk
