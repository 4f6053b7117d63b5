/-
  What a log entry says, and what is read of its line.

  The top of an entry names its time, level, source, environment and message.  All of them are
  chosen from a list that only depends on the deployment (`Log.headlines`), and no field of an entry
  has one of their names.  So whatever texts are in the fields of an entry, its line is one object
  with that top, and every field is read back; only the halves of surrogate pairs that stand side by
  side in a text are joined.

  * `Text.isWhole_joined`, `Text.isWhole_between`: texts without halves side by side;
  * `Log.Headline`, `Log.headlines`: what stands at the top of the entries of a deployment;
  * `Log.Entry.IsFit`: an entry has one of the headlines, and fields that can be logged;
    `isFit_entry`: the entry of a note;
  * `Log.Entry.IsFit.parse_line`: what is read of the line of such an entry; so it
    `IsUnforged`.
-/
import Rendezvous.Diagnosis
import Rendezvous.Proofs.Calendar
import Rendezvous.Proofs.Rereading
import Rendezvous.Proofs.Unicode
import Rendezvous.Proofs.Wholeness
import Rendezvous.Service.Channel
import Rendezvous.Service.ContactBook
import Rendezvous.Service.Registry

namespace Rendezvous

/-! ## Whole texts -/

namespace Text

theorem isWhole_ofString (s : String) : IsWhole (ofString s) := (isScalar_ofString s).isWhole

/-- A whole text stays whole between texts without surrogates. -/
theorem isWhole_between {before after t : Text} (hb : before.IsScalar) (ht : t.IsWhole)
    (ha : after.IsScalar) : IsWhole (before ++ t ++ after) := by
  refine List.isChain_append.2 ⟨List.isChain_append.2 ⟨hb.isWhole, ht, ?_⟩, ha.isWhole, ?_⟩
  · intro high hhigh low _ hpair
    rw [CodePoint.not_high_of_not_surrogate (hb high (List.mem_of_mem_getLast? hhigh))] at hpair
    exact Bool.false_ne_true hpair.1
  · intro high _ low hlow hpair
    rw [CodePoint.not_low_of_not_surrogate (ha low (List.mem_of_mem_head? hlow))] at hpair
    exact Bool.false_ne_true hpair.2

/-- A text starts with its first code point, or with one that is no half of a pair. -/
theorem head?_joined (c : CodePoint) (t : Text) :
    ∀ d ∈ (joined (c :: t)).head?, d = c ∨ d.isSurrogate = false := by
  intro d hd
  cases t with
  | nil =>
    obtain rfl := Option.some.inj hd
    exact Or.inl rfl
  | cons low t =>
    rw [joined] at hd
    split at hd
    · obtain rfl := Option.some.inj hd
      exact Or.inr (Json.Token.isSurrogate_ofNat (by omega))
    · obtain rfl := Option.some.inj hd
      exact Or.inl rfl

/-- Joined halves leave no others to be joined. -/
theorem isWhole_joined (t : Text) : t.joined.IsWhole := by
  induction t using joined.induct with
  | case1 => exact List.isChain_nil
  | case2 c => exact List.isChain_singleton c
  | case3 high low t pair ih =>
    rw [joined, if_pos pair]
    have hscalar : (Json.Token.joinHalves high low).isSurrogate = false :=
      Json.Token.isSurrogate_ofNat (by omega)
    refine List.isChain_cons.2 ⟨fun d _ hpair => ?_, ih⟩
    rw [CodePoint.not_high_of_not_surrogate hscalar] at hpair
    exact Bool.false_ne_true hpair.1
  | case4 high low t apart ih =>
    rw [joined, if_neg apart]
    refine List.isChain_cons.2 ⟨fun d hd hpair => ?_, ih⟩
    rcases head?_joined low t d hd with rfl | hscalar
    · exact apart (by simpa using hpair)
    · rw [CodePoint.not_low_of_not_surrogate hscalar] at hpair
      exact Bool.false_ne_true hpair.2

theorem isScalar_ofNatPadded (width n : Nat) : IsScalar (ofNatPadded width n) := by
  have hzeros : IsDigits (List.replicate (width - (ofNat n).length) ('0' : CodePoint)) :=
    Json.Numeral.isDigits_zeroDigits _
  intro c hc
  have hdigit := Json.Numeral.isDigits_append hzeros (isDigits_ofNat n) c hc
  simp only [CodePoint.isDigit, Bool.and_eq_true, decide_eq_true_eq] at hdigit
  simp only [CodePoint.isSurrogate, Bool.and_eq_false_iff, decide_eq_false_iff_not]
  omega

end Text

theorem Instant.isWhole_isoText (now : Instant) : now.isoText.IsWhole := by
  have hpart := Text.isScalar_ofNatPadded
  have hmark := Text.isScalar_ofString
  have hsecond : now.secondText.IsScalar :=
    (((((((((((hpart _ _).append (hmark _)).append (hpart _ _)).append (hmark _)).append
      (hpart _ _)).append (hmark _)).append (hpart _ _)).append (hmark _)).append
      (hpart _ _)).append (hmark _)).append (hpart _ _))
  refine Text.IsScalar.isWhole ((hsecond.append ?_).append (hmark _))
  split
  · exact List.forall_mem_nil _
  · exact .cons rfl (hpart _ _)

namespace Log

/-! ## Headlines -/

/-- What stands at the top of an entry besides its time and the deployment. -/
structure Headline where
  source : Text
  level : Level
  message : Text
  deriving DecidableEq, Repr

/-- The top of an entry: no request has a part in it. -/
def Headline.top (h : Headline) (now : Instant) (environment : Text) : Object :=
  [("timestamp", .str now.isoText), ("level", .str h.level.name), ("service", .str h.source),
   ("environment", .str environment), ("message", .str h.message)]

/-- The headlines of how calls go. -/
def callHeadlines : List Headline :=
  [⟨mainSource, .info, "Lambda function lambda_handler started"⟩,
   ⟨mainSource, .info, "Lambda function lambda_handler completed"⟩,
   ⟨mainSource, .error, "Lambda function lambda_handler failed"⟩,
   ⟨mainSource, .info, "Validation error"⟩,
   ⟨mainSource, .error, "Unexpected error in lambda_handler"⟩]

/-- The operations whose failures are reported. -/
def storageOperations : List Text :=
  ["get_identity_record", "get_nickname_binding", "register", "get_contact", "upsert_contact",
   "remove_contact", "list_contacts"]

/-- The headlines of failures of an operation on the store. -/
def storageHeadlines (operation : Text) : List Headline :=
  [⟨mainSource, .warning, "DynamoDB item not found"⟩,
   ⟨mainSource, .warning, "DynamoDB transaction cancelled: " ++ operation⟩,
   ⟨mainSource, .error, "DynamoDB operation failed: " ++ operation⟩,
   ⟨mainSource, .error, "PynamoDB error occurred"⟩,
   ⟨mainSource, .error, "DynamoDB ClientError"⟩,
   ⟨mainSource, .error, "DynamoDB connection error"⟩,
   ⟨mainSource, .error, "Unexpected database error"⟩]

/-- The message of an operation on a table that has succeeded. -/
def tableMessage (operation table : Text) : Text :=
  "Database " ++ operation ++ " on " ++ table ++ " succeeded"

/-- The message of an operation that was carried out. -/
def operationMessage (operation : Text) : Text := "Service operation: " ++ operation

/-- The message of a notification on a bus. -/
def notificationMessage (kind : SignalKind) (bus : Text) (success : Bool) : Text :=
  kind.name ++ " notification on " ++ bus ++ (if success then " delivered" else " failed")

/-- The headlines of the registry. -/
def registryHeadlines (tables : TableNames) : List Headline :=
  [⟨Registry.source, .debug, "Identity not registered"⟩,
   ⟨Registry.source, .debug, "Nickname not bound"⟩,
   ⟨Registry.source, .info, "Registration rejected: identity already bound"⟩,
   ⟨Registry.source, .info, "Registration rejected: nickname already bound"⟩,
   ⟨Registry.source, .info, tableMessage "get" tables.identities⟩,
   ⟨Registry.source, .info, tableMessage "get" tables.nicknames⟩,
   ⟨Registry.source, .info, operationMessage "register"⟩]

/-- The headlines of contact books. -/
def bookHeadlines (tables : TableNames) : List Headline :=
  [⟨ContactBook.source, .warning, "Contact digest matched a different address"⟩,
   ⟨ContactBook.source, .info, tableMessage "upsert" tables.contacts⟩,
   ⟨ContactBook.source, .info, tableMessage "remove" tables.contacts⟩,
   ⟨ContactBook.source, .info, tableMessage "query" tables.contacts⟩]

/-- The headlines of channels that send signals of a kind. -/
def channelHeadlines (bus : Text) (kind : SignalKind) : List Headline :=
  [⟨Transport.logSource, .info, notificationMessage kind bus true⟩,
   ⟨Transport.logSource, .error, notificationMessage kind bus false⟩,
   ⟨Transport.logSource, .info, operationMessage (Channel.operationOf kind)⟩]

/-- All headlines of a deployment. -/
def headlines (tables : TableNames) (bus : Text) : List Headline :=
  callHeadlines ++ storageOperations.flatMap storageHeadlines ++ registryHeadlines tables ++
    bookHeadlines tables ++ SignalKind.all.flatMap (channelHeadlines bus)

end Log

/-- The names of the tables are whole texts. -/
structure TableNames.AreWhole (names : TableNames) : Prop where
  identities : names.identities.IsWhole
  nicknames : names.nicknames.IsWhole
  contacts : names.contacts.IsWhole

namespace Log

variable {tables : TableNames} {bus : Text}

theorem isWhole_tableMessage (operation : String) {table : Text} (h : table.IsWhole) :
    (tableMessage operation table).IsWhole :=
  Text.isWhole_between
    (((Text.isScalar_ofString _).append (Text.isScalar_ofString _)).append
      (Text.isScalar_ofString _)) h (Text.isScalar_ofString _)

theorem isScalar_storageOperations : ∀ operation ∈ storageOperations, operation.IsScalar := by
  have hscalar := Text.isScalar_ofString
  simp only [storageOperations, List.forall_mem_cons]
  exact ⟨hscalar _, hscalar _, hscalar _, hscalar _, hscalar _, hscalar _, hscalar _,
    List.forall_mem_nil _⟩

/-- A headline is made of fixed texts and the names of the deployment. -/
theorem isWhole_headlines (ht : tables.AreWhole) (hb : bus.IsWhole) :
    ∀ h ∈ headlines tables bus, h.source.IsWhole ∧ h.message.IsWhole := by
  have hfixed := Text.isWhole_ofString
  have hscalar := Text.isScalar_ofString
  have hkind (kind : SignalKind) : kind.name.IsScalar := by
    cases kind <;> exact hscalar _
  simp only [headlines, List.forall_mem_append, List.forall_mem_flatMap]
  refine ⟨⟨⟨⟨?_, fun operation hoperation => ?_⟩, ?_⟩, ?_⟩, fun kind _ => ?_⟩
  · simp only [callHeadlines, List.forall_mem_cons]
    exact ⟨⟨hfixed _, hfixed _⟩, ⟨hfixed _, hfixed _⟩, ⟨hfixed _, hfixed _⟩,
      ⟨hfixed _, hfixed _⟩, ⟨hfixed _, hfixed _⟩, List.forall_mem_nil _⟩
  · have hop := isScalar_storageOperations operation hoperation
    simp only [storageHeadlines, List.forall_mem_cons]
    exact ⟨⟨hfixed _, hfixed _⟩, ⟨hfixed _, ((hscalar _).append hop).isWhole⟩,
      ⟨hfixed _, ((hscalar _).append hop).isWhole⟩, ⟨hfixed _, hfixed _⟩, ⟨hfixed _, hfixed _⟩,
      ⟨hfixed _, hfixed _⟩, ⟨hfixed _, hfixed _⟩, List.forall_mem_nil _⟩
  · simp only [registryHeadlines, List.forall_mem_cons]
    exact ⟨⟨hfixed _, hfixed _⟩, ⟨hfixed _, hfixed _⟩, ⟨hfixed _, hfixed _⟩,
      ⟨hfixed _, hfixed _⟩, ⟨hfixed _, isWhole_tableMessage _ ht.identities⟩,
      ⟨hfixed _, isWhole_tableMessage _ ht.nicknames⟩,
      ⟨hfixed _, ((hscalar _).append (hscalar _)).isWhole⟩, List.forall_mem_nil _⟩
  · simp only [bookHeadlines, List.forall_mem_cons]
    exact ⟨⟨hfixed _, hfixed _⟩, ⟨hfixed _, isWhole_tableMessage _ ht.contacts⟩,
      ⟨hfixed _, isWhole_tableMessage _ ht.contacts⟩,
      ⟨hfixed _, isWhole_tableMessage _ ht.contacts⟩, List.forall_mem_nil _⟩
  · have hmessage (success : Bool) : (notificationMessage kind bus success).IsWhole :=
      Text.isWhole_between ((hkind kind).append (hscalar _)) hb
        (by cases success <;> exact hscalar _)
    simp only [channelHeadlines, List.forall_mem_cons]
    refine ⟨⟨hfixed _, hmessage true⟩, ⟨hfixed _, hmessage false⟩, ⟨hfixed _, ?_⟩,
      List.forall_mem_nil _⟩
    cases kind <;> exact ((hscalar _).append (hscalar _)).isWhole

/-! ### Finding headlines -/

theorem mem_headlines_call {h : Headline} (hh : h ∈ callHeadlines) : h ∈ headlines tables bus := by
  simp only [headlines, List.mem_append]
  exact Or.inl (Or.inl (Or.inl (Or.inl hh)))

theorem mem_headlines_storage {h : Headline} {operation : Text}
    (ho : operation ∈ storageOperations) (hh : h ∈ storageHeadlines operation) :
    h ∈ headlines tables bus := by
  simp only [headlines, List.mem_append]
  exact Or.inl (Or.inl (Or.inl (Or.inr (List.mem_flatMap.2 ⟨operation, ho, hh⟩))))

theorem mem_headlines_registry {h : Headline} (hh : h ∈ registryHeadlines tables) :
    h ∈ headlines tables bus := by
  simp only [headlines, List.mem_append]
  exact Or.inl (Or.inl (Or.inr hh))

theorem mem_headlines_book {h : Headline} (hh : h ∈ bookHeadlines tables) :
    h ∈ headlines tables bus := by
  simp only [headlines, List.mem_append]
  exact Or.inl (Or.inr hh)

theorem mem_headlines_channel {h : Headline} {kind : SignalKind}
    (hh : h ∈ channelHeadlines bus kind) : h ∈ headlines tables bus := by
  have hkind : kind ∈ SignalKind.all := by cases kind <;> simp [SignalKind.all]
  simp only [headlines, List.mem_append]
  exact Or.inr (List.mem_flatMap.2 ⟨kind, hkind, hh⟩)

/-! ## Fields -/

/-- How deep the value of a field may be, which stands inside of its entry. -/
def fieldDepth : Nat := Json.maxDepth - 1

/-- The names at the top of entries. -/
def topNames : List Text := ["timestamp", "level", "service", "environment", "message"]

/-- The names of the fields of entries. -/
def fieldNames : List Text :=
  ["function_name", "request_id", "event_keys", "event", "success", "duration_ms", "error_code",
   "field_name", "error_type", "error_message", "traceback", "operation", "table_name",
   "aws_error_code", "identity", "nickname", "owner", "contact_key", "result_count", "kind",
   "event_bus", "error", "sender", "recipient"]

/-- The fields that tell how a failure was worded where it came from. -/
def wordings : List Text := ["error_message", "traceback", "error"]

/-- No field has a name that stands at the top. -/
theorem disjoint_fieldNames : ∀ name ∈ topNames, name ∉ fieldNames := by
  have h : (topNames.all fun name => !fieldNames.contains name) = true := rfl
  intro name hname hmem
  have hnot := List.all_eq_true.1 h name hname
  rw [List.contains_iff_mem.2 hmem] at hnot
  cases hnot

end Log

namespace Json

theorem print_joined (v : Value) : print v.joined = print v := by
  cases v with
  | str t => exact printText_joined t
  | _ => rfl

end Json

theorem Value.IsJson.joined {depth : Nat} {v : Value} (h : v.IsJson depth) : v.joined = v := by
  cases h with
  | str h => exact congrArg Value.str (Text.joined_of_isWhole h)
  | _ => rfl

namespace Object

theorem keys_joined (o : Object) : keys o.joined = keys o := by
  simp [joined, keys]

theorem field?_joined (o : Object) (name : Text) :
    o.joined.field? name = (o.field? name).map Value.joined := by
  induction o with
  | nil => rfl
  | cons field o ih =>
    rw [field?]
    split
    · rename_i hname
      exact if_pos hname
    · rename_i hname
      exact (if_neg hname).trans ih

end Object

namespace Log

/-- What can be logged: a value that can be read back, or a text of some kind. -/
def IsTold (W : Text → Prop) (v : Value) : Prop :=
  v.IsJson fieldDepth ∨ ∃ t, v = .str t ∧ W t

theorem IsTold.isJson_joined {W : Text → Prop} {v : Value} (h : IsTold W v) :
    v.joined.IsJson fieldDepth := by
  rcases h with h | ⟨t, rfl, -⟩
  · rwa [h.joined]
  · exact .str (Text.isWhole_joined t)

/-- An entry has a headline. -/
structure Entry.IsUnder (e : Entry) (h : Headline) : Prop where
  source : e.source = .str h.source
  level : e.level = h.level
  message : e.message = .str h.message

/-- An entry has one of the headlines of the deployment, and fields of its own that can be logged.
    The wording of a failure may be any text. -/
structure Entry.IsFit (tables : TableNames) (bus : Text) (W : Text → Prop) (e : Entry) : Prop where
  headline : ∃ h ∈ headlines tables bus, e.IsUnder h
  distinct : (Object.keys e.fields).Nodup
  named : ∀ name ∈ Object.keys e.fields, name ∈ fieldNames
  told : ∀ field ∈ e.fields, IsTold (fun t => W t ∨ field.1 ∈ wordings) field.2

/-- Different names of fields. -/
def areFieldNames (names : List Text) : Bool := decide names.Nodup && names.all fieldNames.contains

theorem areFieldNames_of_sublist {names fewer : List Text} (h : fewer.Sublist names)
    (hn : areFieldNames names = true) : areFieldNames fewer = true := by
  obtain ⟨hdistinct, hall⟩ := Bool.and_eq_true_iff.1 hn
  refine Bool.and_eq_true_iff.2 ⟨decide_eq_true (h.nodup (of_decide_eq_true hdistinct)), ?_⟩
  exact List.all_eq_true.2 fun name hname => List.all_eq_true.1 hall name (h.subset hname)

variable {tables : TableNames} {bus : Text} {W : Text → Prop}

/-- A note under one of the headlines. -/
theorem isFit_entry {source message : Text} {n : Note} {extra : Object}
    (hmessage : n.message = .str message)
    (hheadline : ⟨source, n.level, message⟩ ∈ headlines tables bus)
    (hnames : areFieldNames (Object.keys (n.fields extra)) = true)
    (htold : ∀ field ∈ n.fields extra, IsTold (fun t => W t ∨ field.1 ∈ wordings) field.2) :
    (n.entry (.str source) extra).IsFit tables bus W := by
  obtain ⟨hdistinct, hnamed⟩ := Bool.and_eq_true_iff.1 hnames
  exact ⟨⟨_, hheadline, rfl, rfl, hmessage⟩, of_decide_eq_true hdistinct,
    fun name hname => List.contains_iff_mem.1 (List.all_eq_true.1 hnamed name hname), htold⟩

/-! ## Lines -/

theorem isWhole_topNames : ∀ name ∈ topNames, name.IsWhole := by
  simp only [topNames, List.forall_mem_cons]
  exact ⟨Text.isWhole_ofString _, Text.isWhole_ofString _, Text.isWhole_ofString _,
    Text.isWhole_ofString _, Text.isWhole_ofString _, List.forall_mem_nil _⟩

theorem isWhole_fieldNames : ∀ name ∈ fieldNames, name.IsWhole := by
  have h : (fieldNames.all fun name => name.all fun c => !c.isSurrogate) = true := rfl
  intro name hname
  refine Text.IsScalar.isWhole fun c hc => ?_
  have hpoint := List.all_eq_true.1 (List.all_eq_true.1 h name hname) c hc
  rwa [Bool.not_eq_true'] at hpoint

theorem Headline.isJson_top {h : Headline} (hs : h.source.IsWhole) (hm : h.message.IsWhole)
    {environment : Text} (he : environment.IsWhole) (now : Instant) {depth : Nat} :
    ∀ field ∈ h.top now environment, field.2.IsJson depth := by
  have hlevel : h.level.name.IsWhole := by
    cases h.level <;> exact Text.isWhole_ofString _
  simp only [top, List.forall_mem_cons]
  exact ⟨.str now.isWhole_isoText, .str hlevel, .str hs, .str he, .str hm, List.forall_mem_nil _⟩

namespace Entry.IsFit
variable {e : Entry} (h : e.IsFit tables bus W)
include h

/-- No field has a name that stands at the top. -/
theorem nodup_names : (topNames ++ Object.keys e.fields).Nodup := by
  refine List.nodup_append.2 ⟨(by decide : topNames.Nodup), h.distinct, ?_⟩
  rintro name htop _ hfield rfl
  exact disjoint_fieldNames name htop (h.named name hfield)

variable {head : Headline} (now : Instant)

theorem isJson_read (hhead : head ∈ headlines tables bus) (ht : tables.AreWhole)
    (hb : bus.IsWhole) {environment : Text} (he : environment.IsWhole) :
    (Value.obj (head.top now environment ++ e.fields.joined)).IsJson Json.maxDepth := by
  obtain ⟨hs, hm⟩ := isWhole_headlines ht hb head hhead
  have hkeys : Object.keys (head.top now environment ++ e.fields.joined) =
      topNames ++ Object.keys e.fields := by
    rw [← e.fields.keys_joined]
    exact List.map_append
  have hnames : ∀ name ∈ topNames ++ Object.keys e.fields, name.IsWhole :=
    List.forall_mem_append.2
      ⟨isWhole_topNames, fun name hname => isWhole_fieldNames name (h.named name hname)⟩
  refine @Value.IsJson.obj fieldDepth _ (hkeys ▸ h.nodup_names) ?_ ?_
  · exact fun field hfield => hnames _ (hkeys ▸ List.mem_map_of_mem hfield)
  · refine List.forall_mem_append.2 ⟨Headline.isJson_top hs hm he now, ?_⟩
    exact List.forall_mem_map.2 fun field hfield => (h.told field hfield).isJson_joined

variable (hu : e.IsUnder head)
include hu

/-- So no field takes the place of what stands at the top. -/
theorem toObject_eq (environment : Text) : e.toObject now (.str environment) =
    head.top now environment ++ e.fields := by
  rw [Entry.toObject, hu.source, hu.level, hu.message]
  exact Object.merge_of_nodup (by rw [Object.keys, List.map_append]; exact h.nodup_names)

/-- The line of an entry is that of what is read of it. -/
theorem line_eq (environment : Text) : e.line now (.str environment) =
    Json.print (.obj (head.top now environment ++ e.fields.joined)) := by
  -- halves side by side are written like the pair, so joining them first makes no difference
  have hfields : Json.printFields (head.top now environment ++ e.fields.joined) =
      Json.printFields (head.top now environment ++ e.fields) := by
    simp only [Json.printFields_eq, List.map_append, Object.joined, List.map_map,
      Function.comp_def, Json.print_joined]
  rw [line, h.toObject_eq now hu, Json.print, Json.print, hfields]

/-- The line of an entry is one line of ASCII, and what is read from it is an object of its
    headline and its fields. -/
theorem parse_line (hhead : head ∈ headlines tables bus) (ht : tables.AreWhole)
    (hb : bus.IsWhole) {environment : Text} (he : environment.IsWhole) :
    (e.line now (.str environment)).IsPrintable ∧
      Json.parse (e.line now (.str environment)) =
        .ok (.obj (head.top now environment ++ e.fields.joined)) := by
  have hjson := h.isJson_read now hhead ht hb he
  rw [h.line_eq now hu]
  exact ⟨Json.isPrintable_print hjson, Json.parse_print hjson⟩

end Entry.IsFit

/-- What is read of the line of an entry is what was logged, and no field has a part in its
    headline.  Requests may have some texts `spliced` of halves of surrogate pairs. -/
structure Entry.IsUnforged (tables : TableNames) (bus : Text) (now : Instant) (environment : Text)
    (spliced : Text → Prop) (e : Entry) : Prop where
  /-- The line holds printable ASCII only, and so no end of a line. -/
  printable : (e.line now (.str environment)).IsPrintable
  /-- It is read as an object of one of the headlines and of the fields. -/
  read : ∃ h ∈ headlines tables bus, e.IsUnder h ∧
    Json.parse (e.line now (.str environment)) =
      .ok (.obj (h.top now environment ++ e.fields.joined))
  /-- No field is named like what stands at the top, or like another field. -/
  distinct : (topNames ++ Object.keys e.fields).Nodup
  /-- A field is read exactly, if it is no text with halves side by side.  Such a text is spliced, or
      worded by others. -/
  exact : ∀ field ∈ e.fields, field ∈ e.fields.joined ∨
    ∃ t, field.2 = .str t ∧ ¬t.IsWhole ∧ (spliced t ∨ field.1 ∈ wordings)

theorem Entry.IsFit.isUnforged {e : Entry} {spliced : Text → Prop}
    (h : e.IsFit tables bus fun t => t.IsWhole ∨ spliced t) (ht : tables.AreWhole)
    (hb : bus.IsWhole) {environment : Text} (he : environment.IsWhole) (now : Instant) :
    e.IsUnforged tables bus now environment spliced := by
  obtain ⟨head, hhead, hu⟩ := h.headline
  obtain ⟨hprintable, hread⟩ := h.parse_line now hu hhead ht hb he
  refine ⟨hprintable, ⟨head, hhead, hu, hread⟩, h.nodup_names, fun field hfield => ?_⟩
  have hexact (hjoined : field.2.joined = field.2) : field ∈ e.fields.joined :=
    List.mem_map.2 ⟨field, hfield, Prod.ext rfl hjoined⟩
  rcases h.told field hfield with hjson | ⟨t, ht, hkind⟩
  · exact Or.inl (hexact hjson.joined)
  · by_cases hwhole : t.IsWhole
    · exact Or.inl (hexact (by rw [ht, Value.joined, Text.joined_of_isWhole hwhole]))
    · exact Or.inr ⟨t, ht, hwhole, hkind.imp_left fun hspliced => hspliced.resolve_left hwhole⟩

end Log

end Rendezvous
