/-
  The entries that services log.

  An entry is made where something was read or called.  What it tells is a text that the service has
  written, what a request or a table holds, or how a failure was worded where it came from.

  * `Field.bytesIn_loggably`, `IdentityItem.toRecord_loggably` and the like: what cannot be read can
    be logged;
  * `Log.ToldAt`: what can be logged under a name; `Log.fits_merge`: a note with further fields;
  * `Log.fits_storage`, `Log.fits_table`, `Log.fits_carriedOut`, `Log.fits_notification`: the entries
    of services.
-/
import Rendezvous.Proofs.Journals

namespace Rendezvous

open Act Log

/-! ## Readings -/

/-- A fixed text can be logged. -/
theorem Value.isJson_fixed {depth : Nat} (s : String) : (Value.str s).IsJson depth :=
  .str (Text.isWhole_ofString s)

namespace Field

theorem pad_loggably (width : Int) {label : Value} (h : label.IsJson fieldDepth) (bytes : Bytes) :
    FailsLoggably (pad width label bytes) := by
  unfold pad
  split
  · exact .error (Failure.isLoggable_atField _ h)
  · exact .ok _

theorem wireBytes_loggably {label : Value} (h : label.IsJson fieldDepth) (v : Value) :
    FailsLoggably (wireBytes label v) := by
  unfold wireBytes
  split
  · exact .ok _
  · dsimp only
    split
    · exact .error (Failure.isLoggable_atField _ h)
    · split
      · exact .ok _
      · exact .error (Failure.isLoggable_atField _ h)
  · exact .error (Failure.isLoggable_atField _ h)

theorem decodeHex_loggably (width : Int) {label : Value} (h : label.IsJson fieldDepth) (v : Value) :
    FailsLoggably (decodeHex width label v) :=
  (wireBytes_loggably h v).bind fun bytes => pad_loggably width h bytes

theorem encodeNickname_loggably {label : Value} (h : label.IsJson fieldDepth) (v : Value) :
    FailsLoggably (encodeNickname label v) := by
  refine FailsBy.bind ?_ fun bytes => pad_loggably _ h bytes
  unfold nicknameBytes
  split
  · split
    · exact .ok _
    · exact .error trivial
  · exact .ok _
  · exact .error (Failure.isLoggable_atField _ h)

theorem bytesIn_loggably (body : Object) (name : String) : FailsLoggably (bytesIn body name) := by
  unfold bytesIn
  split
  · unfold nicknameIn
    dsimp only
    split
    · exact decodeHex_loggably _ (Value.isJson_fixed _) _
    · exact encodeNickname_loggably (Value.isJson_fixed _) _
  · split
    · exact decodeHex_loggably _ (Value.isJson_fixed _) _
    · exact .error trivial

theorem fromStorageHex_loggably (width : Int) (stored : Option Text) :
    FailsLoggably (fromStorageHex width (Value.ofText? stored)) := by
  refine FailsBy.bind ?_ fun bytes => pad_loggably _ .null bytes
  unfold storedBytes
  split
  · exact .ok _
  · cases stored with
    | none => rename_i hnull; exact (hnull rfl).elim
    | some t =>
      simp only [Value.ofText?]
      cases Hex.decode t with
      | ok bytes => exact .ok _
      | error refusal => exact .error trivial

theorem isWhole_hex (bytes : Bytes) : (Hex.encode bytes).IsWhole :=
  Text.IsScalar.isWhole (List.forall_mem_append.1 (isScalar_encodeHex bytes)).2

theorem isWhole_decodeNickname (nickname : Bytes) : (decodeNickname nickname).IsWhole :=
  (Text.isScalar_ofUtf8 _).isWhole

end Field

theorem Stamp.check_loggably (stamp : Option Text) : FailsLoggably (Stamp.check stamp) := by
  unfold check
  split
  · exact .ok _
  · split
    · exact .ok _
    · exact .error trivial

theorem IdentityItem.toRecord_loggably (item : IdentityItem) : FailsLoggably item.toRecord :=
  (Field.fromStorageHex_loggably _ _).bind fun _ =>
    (Field.fromStorageHex_loggably _ _).bind fun _ => .ok _

namespace ContactItem

theorem toRecord_loggably (item : ContactItem) : FailsLoggably item.toRecord :=
  (Field.fromStorageHex_loggably _ _).map _

theorem toEntry_loggably (item : ContactItem) : FailsLoggably item.toEntry :=
  (Stamp.check_loggably _).bind fun _ => (Field.fromStorageHex_loggably _ _).bind fun _ =>
    item.toRecord_loggably.bind fun _ => .ok _

end ContactItem

/-- The kind of a failure is one of our names for them. -/
theorem Failure.isWhole_name (e : Failure) : e.name.IsWhole := by
  have hfixed := Text.isWhole_ofString
  cases e with
  | service e => cases e <;> exact hfixed _
  | remote e => cases e <;> exact hfixed _
  | table kind message => cases kind <;> exact hfixed _
  | unusable reason =>
    rcases reason with message | (refusal | _ | _) | run | name <;> exact hfixed _
  | defect kind message => cases kind <;> exact hfixed _

/-! ## Entries -/

namespace Object

theorem mem_of_field? {o : Object} {name : Text} {v : Value} (h : o.field? name = some v) :
    (name, v) ∈ o := by
  induction o with
  | nil => cases h
  | cons field o ih =>
    obtain ⟨k, x⟩ := field
    rw [field?] at h
    split at h
    · rename_i hk
      obtain rfl := Option.some.inj h
      exact hk ▸ List.mem_cons_self
    · exact List.mem_cons_of_mem _ (ih h)

theorem forall_mem_put {P : Text × Value → Prop} {o : Object} {name : Text} {v : Value}
    (ho : ∀ field ∈ o, P field) (hv : P (name, v)) : ∀ field ∈ o.put name v, P field := by
  induction o with
  | nil => exact List.forall_mem_singleton.2 hv
  | cons field o ih =>
    obtain ⟨k, x⟩ := field
    obtain ⟨hfield, hrest⟩ := List.forall_mem_cons.1 ho
    by_cases hk : k = name
    · rw [put, if_pos hk]
      exact List.forall_mem_cons.2 ⟨hk ▸ hv, hrest⟩
    · rw [put, if_neg hk]
      exact List.forall_mem_cons.2 ⟨hfield, ih hrest⟩

theorem forall_mem_merge {P : Text × Value → Prop} {o extra : Object} (ho : ∀ field ∈ o, P field)
    (he : ∀ field ∈ extra, P field) : ∀ field ∈ o.merge extra, P field := by
  rw [merge]
  induction extra generalizing o with
  | nil => exact ho
  | cons field extra ih =>
    obtain ⟨hfield, hrest⟩ := List.forall_mem_cons.1 he
    exact ih (forall_mem_put ho hfield) hrest

end Object

namespace Value.IsJson
variable {depth : Nat}

theorem fieldOrNull {o : Object} (h : (Value.obj o).IsJson (depth + 1)) (name : Text) :
    (o.fieldOrNull name).IsJson depth := by
  rw [Object.fieldOrNull]
  cases hv : o.field? name with
  | none => exact .null
  | some v =>
    cases h with
    | obj _ _ hvalues => exact hvalues _ (Object.mem_of_field? hv)

theorem item {items : List Value} {v : Value} (h : (Value.arr items).IsJson depth)
    (hv : v ∈ items) : v.IsJson depth := by
  cases h with
  | arr hitems => exact (hitems v hv).mono (Nat.le_succ _)

end Value.IsJson

namespace Log

/-- What can be logged under a name: the wording of a failure may be any text. -/
abbrev ToldAt (W : Text → Prop) (field : Text × Value) : Prop :=
  IsTold (fun t => W t ∨ field.1 ∈ wordings) field.2

variable {W : Text → Prop} {g : Scope}

theorem IsTold.at {v : Value} (h : IsTold W v) (name : Text) : ToldAt W (name, v) :=
  h.imp_right fun ⟨t, ht, hW⟩ => ⟨t, ht, Or.inl hW⟩

theorem toldAt_json {v : Value} (h : v.IsJson fieldDepth) (name : Text) : ToldAt W (name, v) :=
  Or.inl h

theorem toldAt_whole {t : Text} (h : t.IsWhole) (name : Text) : ToldAt W (name, .str t) :=
  Or.inl (.str h)

theorem toldAt_fixed (s : String) (name : Text) : ToldAt W (name, .str s) :=
  toldAt_whole (Text.isWhole_ofString s) name

theorem toldAt_bool (b : Bool) (name : Text) : ToldAt W (name, .bool b) := Or.inl (.bool b)

theorem toldAt_wording {name : Text} (h : name ∈ wordings) (t : Text) : ToldAt W (name, .str t) :=
  Or.inr ⟨t, rfl, Or.inr h⟩

/-- How a failure came about is told of it. -/
theorem told_cause (handling : Bool) (e : Failure) :
    ∀ field ∈ (Cause.ofFailure handling e).fields, ToldAt W field := by
  rw [Cause.fields, List.forall_mem_cons, List.forall_mem_cons, List.forall_mem_singleton]
  exact ⟨toldAt_whole e.isWhole_name _, toldAt_wording (by decide) _, toldAt_wording (by decide) _⟩

/-- How a failure of an operation on the store is reported: with a wording of its own, or with what
    led to it. -/
theorem storageNote_cases (operation : Text) (e : Failure) :
    (∃ level message, e.storageNote (.str operation) true = .plain level (.str message) ∧
      ⟨mainSource, level, message⟩ ∈ storageHeadlines operation) ∨
    ∃ message, e.storageNote (.str operation) true =
        .trouble (.str message) (some (.ofFailure true e)) ∧
      ⟨mainSource, .error, message⟩ ∈ storageHeadlines operation := by
  cases e with
  | table kind text =>
    cases kind with
    | doesNotExist => exact Or.inl ⟨_, _, rfl, List.mem_of_getElem? (i := 0) rfl⟩
    | transactWrite => exact Or.inl ⟨_, _, rfl, List.mem_of_getElem? (i := 1) rfl⟩
    | get | query | update | delete | put =>
      exact Or.inr ⟨_, rfl, List.mem_of_getElem? (i := 2) rfl⟩
    | _ => exact Or.inr ⟨_, rfl, List.mem_of_getElem? (i := 3) rfl⟩
  | remote e =>
    cases e with
    | refused r => exact Or.inr ⟨_, rfl, List.mem_of_getElem? (i := 4) rfl⟩
    | _ => exact Or.inr ⟨_, rfl, List.mem_of_getElem? (i := 5) rfl⟩
  | _ => exact Or.inr ⟨_, rfl, List.mem_of_getElem? (i := 6) rfl⟩

theorem told_storageContext {operation table : Text} (ho : operation.IsWhole)
    (ht : table.IsWhole) {e : Failure} (he : e.IsLoggable) :
    ∀ field ∈ e.storageContext (.str operation) (.str table), ToldAt W field := by
  have htable : ((Value.str table).orElse (.str "unknown")).IsJson fieldDepth := by
    unfold Value.orElse
    split
    · exact .str ht
    · exact Value.isJson_fixed _
  have hshared : ∀ field ∈ ([("operation", .str operation),
      ("table_name", (Value.str table).orElse (.str "unknown")), ("error_type", .str e.name),
      ("error_message", .str e.message)] : Object), ToldAt W field := by
    rw [List.forall_mem_cons, List.forall_mem_cons, List.forall_mem_cons,
      List.forall_mem_singleton]
    exact ⟨toldAt_whole ho _, toldAt_json htable _, toldAt_whole e.isWhole_name _,
      toldAt_wording (by decide) _⟩
  unfold Failure.storageContext
  split
  · exact Object.forall_mem_put hshared (toldAt_json he _)
  · exact hshared

theorem fits_storage {operation table : Text} (ho : operation ∈ storageOperations)
    (ht : table.IsWhole) {e : Failure} (he : e.IsLoggable) :
    g.Fits ((e.storageNote (.str operation) true).entry (.str mainSource)
      (e.storageContext (.str operation) (.str table))) := by
  have htold : ∀ field ∈ e.storageContext (.str operation) (.str table), ToldAt g.told field :=
    told_storageContext (isScalar_storageOperations operation ho).isWhole ht he
  rcases storageNote_cases operation e with ⟨level, message, hnote, hh⟩ | ⟨message, hnote, hh⟩ <;>
    rw [hnote] <;> refine isFit_entry rfl (mem_headlines_storage ho hh) ?_ ?_
  · unfold Failure.storageContext
    split <;> rfl
  · exact htold
  · unfold Failure.storageContext
    split <;> rfl
  · exact Object.forall_mem_merge htold (told_cause true e)

/-- A note whose own fields have further fields merged into them, all of different names. -/
theorem fits_merge {source message : Text} {n : Note} {own extra : Object}
    (hmessage : n.message = .str message)
    (hh : ⟨source, n.level, message⟩ ∈ headlines g.site.tables g.bus)
    (hfields : n.fields extra = own.merge extra)
    (hnames : areFieldNames (Object.keys own ++ Object.keys extra) = true)
    (hown : ∀ field ∈ own, ToldAt g.told field) (hextra : ∀ field ∈ extra, ToldAt g.told field) :
    g.Fits (n.entry (.str source) extra) := by
  have hkeys : Object.keys (own ++ extra) = Object.keys own ++ Object.keys extra :=
    List.map_append
  have hmerge : n.fields extra = own ++ extra := by
    rw [hfields]
    exact Object.merge_of_nodup
      (hkeys ▸ of_decide_eq_true (Bool.and_eq_true_iff.1 hnames).1)
  refine isFit_entry hmessage hh ?_ ?_
  · rw [hmerge, hkeys]
    exact hnames
  · rw [hmerge]
    exact List.forall_mem_append.2 ⟨hown, hextra⟩

variable {source : Text} {extra : Object}

/-- What was done to a table. -/
theorem fits_table {table : Text} (operation : String)
    (hh : ⟨source, .info, tableMessage operation table⟩ ∈ headlines g.site.tables g.bus)
    (ht : table.IsWhole)
    (hnames : areFieldNames ("table_name" :: "operation" :: "success" :: Object.keys extra) = true)
    (he : ∀ field ∈ extra, ToldAt g.told field) :
    g.Fits ((Note.table (.str table) (.str operation) (.bool true)).entry (.str source) extra) := by
  have hfields : (Note.table (.str table) (.str operation) (.bool true)).fields extra =
      Object.merge [("table_name", .str table), ("operation", .str operation),
        ("success", .bool true)] extra := rfl
  refine fits_merge rfl hh hfields hnames ?_ he
  rw [List.forall_mem_cons, List.forall_mem_cons, List.forall_mem_singleton]
  exact ⟨toldAt_whole ht _, toldAt_fixed _ _, toldAt_bool _ _⟩

/-- What was carried out. -/
theorem fits_carriedOut {operation : Text} (ho : operation.IsWhole) {identity : Value}
    (hh : ⟨source, .info, operationMessage operation⟩ ∈ headlines g.site.tables g.bus)
    (hi : g.Tells identity)
    (hnames : areFieldNames ("operation" :: "identity" :: Object.keys extra) = true)
    (he : ∀ field ∈ extra, ToldAt g.told field) :
    g.Fits ((Note.carriedOut (.str operation) identity).entry (.str source) extra) := by
  cases ht : identity.isTruthy with
  | true =>
    have hfields : (Note.carriedOut (.str operation) identity).fields extra =
        Object.merge [("operation", .str operation), ("identity", identity)] extra := by
      simp only [Note.fields, ht, if_true]
    refine fits_merge rfl hh hfields hnames ?_ he
    rw [List.forall_mem_cons, List.forall_mem_singleton]
    exact ⟨toldAt_whole ho _, hi.at _⟩
  | false =>
    have hfields : (Note.carriedOut (.str operation) identity).fields extra =
        Object.merge [("operation", .str operation)] extra := by
      simp only [Note.fields, ht, Bool.false_eq_true, if_false]
    refine fits_merge rfl hh hfields ?_ (List.forall_mem_singleton.2 (toldAt_whole ho _)) he
    exact areFieldNames_of_sublist (.cons_cons _ (.cons _ (.refl _))) hnames

/-- A notification. -/
theorem fits_notification (kind : SignalKind) (success : Bool)
    (hb : g.bus.IsWhole)
    (hnames : areFieldNames ("kind" :: "event_bus" :: "success" :: Object.keys extra) = true)
    (he : ∀ field ∈ extra, ToldAt g.told field) :
    g.Fits ((Note.notification (.str kind.name) (.str g.bus) (.bool success)).entry
      (.str Transport.logSource) extra) := by
  have hfields : (Note.notification (.str kind.name) (.str g.bus) (.bool success)).fields extra =
      Object.merge [("kind", .str kind.name), ("event_bus", .str g.bus),
        ("success", .bool success)] extra := rfl
  have hkind : kind.name.IsWhole := by
    cases kind <;> exact Text.isWhole_ofString _
  have hown : ∀ field ∈ ([("kind", .str kind.name), ("event_bus", .str g.bus),
      ("success", .bool success)] : Object), ToldAt g.told field := by
    rw [List.forall_mem_cons, List.forall_mem_cons, List.forall_mem_singleton]
    exact ⟨toldAt_whole hkind _, toldAt_whole hb _, toldAt_bool _ _⟩
  cases success with
  | true =>
    exact fits_merge rfl (mem_headlines_channel (List.mem_of_getElem? (i := 0) rfl)) hfields hnames
      hown he
  | false =>
    exact fits_merge rfl (mem_headlines_channel (List.mem_of_getElem? (i := 1) rfl)) hfields hnames
      hown he

end Log

end Rendezvous
