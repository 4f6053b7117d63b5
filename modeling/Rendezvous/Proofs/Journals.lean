/-
  What programs log.

  What a deployment logs of a request comes from the request, but also from the tables, the event
  bus and the failures of calls.

  * `Failure.IsLoggable`: what a failure carries can be logged;
  * `World.IsLoggable`: what a world holds can be logged, and its services and its bus are those of
    the deployment;
  * `Act.Notes`: what a program logs wherever the replies are such: entries that are fit, and none
    else; `Notes.bind` and `Notes.attempt_bind` follow the way programs are put together, and
    `Notes.run` says so of a run;
  * `Act.run_lines`: a run writes one line for each entry that it logs.
-/
import Rendezvous.Proofs.Complaints
import Rendezvous.Proofs.Headlines
import Rendezvous.Proofs.Traps

namespace Rendezvous

open Log

/-! ## Failures -/

/-- The code of a failure of the service is one of ours, and the field that is at fault can be
    logged. -/
structure ServiceError.IsLoggable (e : ServiceError) : Prop where
  code : ∃ c : ErrorCode, e.code = .str c.text
  field : ∀ message field value hints, e = .validation message field value hints →
    field.IsJson fieldDepth

/-- What a failure carries can be logged. -/
def Failure.IsLoggable : Failure → Prop
  | .service e => e.IsLoggable
  | .remote (.refused r) => r.code.IsJson fieldDepth
  | _ => True

/-- What ends with a result of some kind, or with a failure that can be logged. -/
def Loggably {α : Type} (R : α → Prop) : Except Failure α → Prop
  | .ok a => R a
  | .error e => e.IsLoggable

/-- What fails, if at all, by a failure that can be logged. -/
abbrev FailsLoggably {α : Type} (x : Except Failure α) : Prop := FailsBy Failure.IsLoggable x

namespace Failure

theorem IsMishap.isLoggable {e : Failure} (h : e.IsMishap) : e.IsLoggable := by
  cases e with
  | unusable reason => trivial
  | defect kind message => trivial
  | _ => exact h.elim

theorem isLoggable_validation (message value hints : Value) {field : Value}
    (h : field.IsJson fieldDepth) :
    (Failure.service (.validation message field value hints)).IsLoggable := by
  refine ⟨⟨.validation, rfl⟩, fun _ _ _ _ he => ?_⟩
  obtain ⟨-, rfl, -, -⟩ := ServiceError.validation.inj he
  exact h

theorem isLoggable_atField (message : Text) {field : Value} (h : field.IsJson fieldDepth) :
    (Failure.atField message field).IsLoggable :=
  isLoggable_validation _ _ _ h

/-- A failure of the service that does not put the blame on a field. -/
theorem isLoggable_service {e : ServiceError} {c : ErrorCode} (hcode : e.code = .str c.text)
    (h : ∀ message field value hints, e ≠ .validation message field value hints) :
    (Failure.service e).IsLoggable :=
  ⟨⟨c, hcode⟩, fun message field value hints he => (h message field value hints he).elim⟩

end Failure

theorem Value.isLoggable_of_key {v : Value} {e : Failure} (h : v.key = .error e) :
    e.IsLoggable := by
  cases v <;> cases h <;> trivial

/-- Whatever foreign failure befalls a call, what it is told as can be logged. -/
theorem StoreCall.isLoggable_explain (names : TableNames) (call : StoreCall) {e : Failure}
    (h : e.IsForeign) : (call.explain names e).IsLoggable := by
  cases e with
  | service e => exact h.elim
  | remote e =>
    rcases call.explain_remote names e with ⟨text, ht⟩ | ⟨failure, hmishap, -, ht⟩
    · rw [ht]; trivial
    · rw [ht]; exact hmishap.isLoggable
  | _ => trivial

/-! ## Worlds -/

/-- What the log of a deployment depends on: where it runs, its bus, the texts of requests that are
    logged, and whether contacts are counted rather than put. -/
structure Scope where
  site : Site
  bus : Text
  told : Text → Prop
  counts : Bool

namespace Scope
variable (g : Scope)

/-- The names that a deployment is given are whole texts. -/
structure IsWhole : Prop where
  environment : g.site.environment.IsWhole
  tables : g.site.tables.AreWhole
  bus : g.bus.IsWhole

/-- The entries of a deployment. -/
def Fits (e : Entry) : Prop := e.IsFit g.site.tables g.bus g.told

/-- What can be logged of a request. -/
def Tells (v : Value) : Prop := IsTold g.told v

end Scope

/-- A transport is one on a bus, or fails by what can be logged. -/
def Transport.IsLoggable (bus : Text) : Transport → Prop
  | .bus name _ _ => name = .str bus
  | .recording (some failure) => failure.IsLoggable
  | .recording none | .undefined => True

/-- The bus that an environment names for a site. -/
def Environment.busName (env : Environment) (site : Site) : Text :=
  (env.setting? "event-bus-name").getD (Config.defaultBus site.environment)

/-- A binding that another writer puts is of an identity that can be logged. -/
def Intrusion.IsLoggable : Intrusion → Prop
  | .binding item => item.identity.IsJson fieldDepth
  | _ => True

namespace Query

/-- A question logs nothing but what is fit, and puts nothing else where it may be logged. -/
def IsFit (g : Scope) : Query → Prop
  | .log e => g.Fits e
  | .store (.register _ binding) => binding.identity.IsJson fieldDepth
  | .store (.putContact _) => g.counts = false
  | .store (.queryContacts _) => g.counts = true
  | .keepTransport _ kept => kept.IsLoggable g.bus
  | _ => True

/-- What a call to the store finds can be logged. -/
def FitResult : (call : StoreCall) → call.Result → Prop
  | .getBinding _, found => ∀ item, found = some item → item.identity.IsJson fieldDepth
  | .queryContacts _, found => Integer.isWritable found.length = true
  | _, _ => True

/-- A reply can be logged, and calls fail by failures of others. -/
def FitReply (g : Scope) : (q : Query) → q.Reply → Prop
  | .environment, env => env.busName g.site = g.bus
  | .store call, .ok found => FitResult call found
  | .store _, .error e => e.IsForeign
  | .service _, reply => Loggably (fun service => service.site = g.site) reply
  | .transport _, found => ∀ transport, found = some transport → transport.IsLoggable g.bus
  | .putEvent _, .ok v => v.IsJson Json.maxDepth
  | .putEvent _, .error e => e.IsForeign
  | _, _ => True

end Query

/-- Counts up to one that can be written can be written. -/
theorem Integer.isWritable_of_le {m n : Nat} (h : m ≤ n) (hn : isWritable n = true) :
    isWritable m = true := by
  rw [isWritable, decide_eq_true_eq, Int.natAbs_natCast] at hn ⊢
  exact Nat.lt_of_le_of_lt h hn

namespace Table
variable {κ ρ : Type} [DecidableEq κ]

theorem length_put_le (key : κ) (row : ρ) (table : Table κ ρ) :
    (table.put key row).length ≤ table.length + 1 := by
  induction table with
  | nil => exact Nat.le_refl 1
  | cons entry table ih =>
    rw [put]
    split
    · exact Nat.le_succ _
    · exact Nat.succ_le_succ ih

end Table

namespace Tables

/-- All bindings are of identities that can be logged, and contacts that are counted can be counted
    even after so many more. -/
structure IsLoggable (g : Scope) (spare : Nat) (t : Tables) : Prop where
  bindings : ∀ entry ∈ t.nicknames, entry.2.identity.IsJson fieldDepth
  contacts : g.counts = true → Integer.isWritable (t.contacts.length + spare : Nat) = true

namespace IsLoggable
variable {g : Scope} {t : Tables} {spare : Nat}

theorem mono {t' : Tables} {spare' : Nat} (h : t.IsLoggable g spare)
    (hnames : t'.nicknames = t.nicknames)
    (hle : t'.contacts.length + spare' ≤ t.contacts.length + spare) : t'.IsLoggable g spare' :=
  ⟨hnames ▸ h.bindings, fun hg => Integer.isWritable_of_le hle (h.contacts hg)⟩

theorem putBinding (h : t.IsLoggable g spare) {item : BindingItem}
    (hi : item.identity.IsJson fieldDepth) : (t.putBinding item).IsLoggable g spare := by
  refine ⟨fun entry hentry => ?_, h.contacts⟩
  rcases Table.mem_of_mem_put hentry with rfl | hold
  · exact hi
  · exact h.bindings entry hold

/-- Each of the other writers puts one item. -/
theorem letIn {intruders : List Intrusion} (h : t.IsLoggable g intruders.length)
    (hi : ∀ intruder ∈ intruders, intruder.IsLoggable) :
    (intruders.foldl Intrusion.apply t).IsLoggable g 0 := by
  induction intruders generalizing t with
  | nil => exact h
  | cons intruder intruders ih =>
    obtain ⟨hfirst, hrest⟩ := List.forall_mem_cons.1 hi
    refine ih ?_ hrest
    have hfewer : t.IsLoggable g intruders.length := h.mono rfl (Nat.le_succ _)
    cases intruder with
    | identity key item => exact hfewer.mono rfl (Nat.le_refl _)
    | binding item => exact hfewer.putBinding hfirst
    | contact owner item =>
      refine h.mono rfl ?_
      have hput := t.contacts.length_put_le (owner, item.key) item
      simp only [Intrusion.apply, putContact, List.length_cons]
      omega

theorem keyed (h : t.IsLoggable g spare) {α : Type} {v : Value}
    {act : Key → Except Failure α × Tables} (hact : ∀ key, (act key).2.IsLoggable g spare) :
    (t.keyed v act).2.IsLoggable g spare := by
  unfold Tables.keyed
  split
  · exact hact _
  · exact h

theorem register (h : t.IsLoggable g spare) (key : Key) (record : IdentityItem)
    {binding : BindingItem} (hb : binding.identity.IsJson fieldDepth) :
    (t.register key record binding).2.IsLoggable g spare := by
  unfold Tables.register
  split
  · exact IsLoggable.putBinding (t := t.putIdentity key record) (h.mono rfl (Nat.le_refl _)) hb
  · exact h

theorem call (h : t.IsLoggable g spare) {call : StoreCall} (hq : (Query.store call).IsFit g) :
    (t.call call).2.IsLoggable g spare := by
  cases call with
  | getBinding nickname => exact h
  | queryContacts owner => exact h
  | register record binding => exact h.keyed fun key => h.register key record hq
  | putContact item =>
    exact h.keyed fun key => ⟨h.bindings, fun hg => absurd (hq.symm.trans hg) (by decide)⟩
  | deleteContact owner digest =>
    refine h.keyed fun key => h.mono rfl (Nat.add_le_add_right ?_ _)
    exact List.length_filter_le _ _
  | _ => exact h.keyed fun key => h

/-- What is replied to a call can be logged. -/
theorem fitReply (h : t.IsLoggable g spare) {call : StoreCall} (hq : (Query.store call).IsFit g) :
    (Query.store call).FitReply g (t.call call).1 := by
  cases hx : (t.call call).1 with
  | error e => exact isForeign_of_call hx
  | ok found =>
    cases call with
    | getBinding nickname =>
      obtain rfl := Except.ok.inj hx
      exact fun item hitem => h.bindings _ (Table.mem_of_find? hitem)
    | queryContacts owner =>
      -- an owner has no more contacts than all owners have
      obtain rfl := Except.ok.inj hx
      refine Integer.isWritable_of_le ?_ (h.contacts hq)
      cases owner.key? with
      | none => exact Nat.zero_le _
      | some key =>
        have hcount : (t.contactsOf key).length ≤ t.contacts.length := by
          rw [contactsOf, List.length_mergeSort, List.length_map]
          exact List.length_filter_le _ _
        exact Nat.le_trans hcount (Nat.le_add_right _ _)
    | _ => trivial

end IsLoggable

end Tables

namespace Container

/-- The services of a container are those of a site. -/
structure IsAt (place : Site) (c : Container) : Prop where
  site : c.site = place
  services : ∀ entry ∈ c.services, entry.2.2.site = place

theorem site_of_make {c : Container} {name : Value} {service : Service}
    (h : c.make name = .ok service) : service.site = c.site := by
  unfold make at h
  split_ifs at h <;> (obtain rfl := Except.ok.inj h; rfl)

theorem isLoggable_of_make {c : Container} {name : Value} {e : Failure}
    (h : c.make name = .error e) : e.IsLoggable := by
  unfold make at h
  split_ifs at h
  obtain rfl := Except.error.inj h
  trivial

/-- So is the service of a name, and the services after it was asked for. -/
theorem IsAt.resolve {c : Container} {place : Site} (h : c.IsAt place) (name : Value) :
    Loggably (fun service => service.site = place) ((c.resolve name).1.map (·.2)) ∧
      (c.resolve name).2.IsAt place := by
  unfold Container.resolve
  cases hk : name.key with
  | error e => exact ⟨Value.isLoggable_of_key hk, h⟩
  | ok key =>
    simp only [resolveAt]
    split
    · rename_i found heq
      obtain ⟨before, after, hkept, -⟩ := List.lookup_eq_some_iff.1 heq
      exact ⟨h.services (key, found) (by rw [hkept]; simp), h⟩
    · cases hmake : c.make name with
      | error e => exact ⟨isLoggable_of_make hmake, h⟩
      | ok service =>
        have hsite : service.site = place := (site_of_make hmake).trans h.site
        refine ⟨hsite, h.site, fun entry hentry => ?_⟩
        rcases List.mem_cons.1 hentry with rfl | hold
        · exact hsite
        · exact h.services entry (List.mem_filter.1 hold).1

end Container

namespace World

/-- What a world holds can be logged, and its log, its services and its bus are those of a
    deployment. -/
structure IsLoggable (site : Site) (bus : Text) (w : World) : Prop where
  journal : w.journal.environment = .str site.environment
  foreign : w.IsForeign
  env : w.env.busName site = bus
  container : w.container.IsAt site
  bindings : ∀ entry ∈ w.tables.nicknames, entry.2.identity.IsJson fieldDepth
  intruders : ∀ intruder ∈ w.intruders, intruder.IsLoggable
  replies : ∀ v, .ok v ∈ w.replies → v.IsJson Json.maxDepth
  transports : ∀ entry ∈ w.transports, entry.2.IsLoggable bus

/-- The contacts of a world can be counted, those included that other writers put. -/
def IsCounted (w : World) : Prop :=
  Integer.isWritable (w.tables.contacts.length + w.intruders.length : Nat) = true

/-- What a world holds can be logged, and so can the number of its contacts if they are counted. -/
structure IsFit (g : Scope) (w : World) : Prop extends w.IsLoggable g.site g.bus where
  counted : g.counts = true → w.IsCounted

/-- The reply of the bus where nothing else was asked for can be logged. -/
theorem isJson_acceptance : acceptance.IsJson Json.maxDepth := by
  have hname := Text.isWhole_ofString
  have hentry : (Value.obj [("EventId", .str "1")]).IsJson 1 :=
    .obj (List.nodup_singleton _) (List.forall_mem_singleton.2 (hname _))
      (List.forall_mem_singleton.2 (.str (hname _)))
  have hreply : acceptance.IsJson 3 := by
    refine .obj (by decide) ?_ ?_ <;> rw [List.forall_mem_cons, List.forall_mem_singleton]
    · exact ⟨hname _, hname _⟩
    · exact ⟨.int (by decide +kernel), .arr (List.forall_mem_singleton.2 hentry)⟩
  exact hreply.mono (by decide)

namespace IsFit
variable {g : Scope} {w : World} (h : w.IsFit g)
include h

theorem tables : w.tables.IsLoggable g w.intruders.length := ⟨h.bindings, h.counted⟩

/-- A world may come to hold other things that can be logged. -/
theorem of_tables {w' : World} (htables : w'.tables.IsLoggable g w'.intruders.length)
    (hjournal : w'.journal = w.journal) (henv : w'.env = w.env) (hforeign : w'.IsForeign)
    (hcontainer : w'.container.IsAt g.site)
    (hintruders : ∀ intruder ∈ w'.intruders, intruder.IsLoggable)
    (hreplies : ∀ v, .ok v ∈ w'.replies → v.IsJson Json.maxDepth)
    (htransports : ∀ entry ∈ w'.transports, entry.2.IsLoggable g.bus) : w'.IsFit g :=
  ⟨⟨hjournal ▸ h.journal, hforeign, henv ▸ h.env, hcontainer, htables.bindings, hintruders,
    hreplies, htransports⟩, htables.contacts⟩

theorem callStore {call : StoreCall} (hq : (Query.store call).IsFit g) :
    (Query.store call).FitReply g (w.callStore call).1 ∧ (w.callStore call).2.IsFit g := by
  have hforeign := h.foreign.callStore call
  revert hforeign
  rw [World.callStore]
  split
  · rintro ⟨hw, hx⟩
    exact ⟨hx _ rfl, h.of_tables h.tables rfl rfl hw h.container h.intruders h.replies
      h.transports⟩
  · split
    · rintro ⟨hw, -⟩
      have hin := h.tables.letIn h.intruders
      exact ⟨hin.fitReply hq, h.of_tables (hin.call hq) rfl rfl hw h.container
        (List.forall_mem_nil _) h.replies h.transports⟩
    · rintro ⟨hw, -⟩
      exact ⟨h.tables.fitReply hq, h.of_tables (h.tables.call hq) rfl rfl hw h.container
        h.intruders h.replies h.transports⟩

theorem putEvent (entry : Object) : (Query.putEvent entry).FitReply g (w.putEvent entry).1 ∧
    (w.putEvent entry).2.IsFit g := by
  have hforeign := h.foreign.putEvent entry
  have hreplies := h.replies
  revert hforeign
  unfold World.putEvent
  split
  · rintro ⟨hw, -⟩
    exact ⟨isJson_acceptance, h.of_tables h.tables rfl rfl hw h.container h.intruders h.replies
      h.transports⟩
  · rename_i heq
    rintro ⟨hw, -⟩
    rw [heq] at hreplies
    exact ⟨hreplies _ List.mem_cons_self, h.of_tables h.tables rfl rfl hw h.container h.intruders
      (fun v hv => hreplies v (List.mem_cons_of_mem _ hv)) h.transports⟩
  · rename_i heq
    rintro ⟨hw, hx⟩
    rw [heq] at hreplies
    exact ⟨hx _ rfl, h.of_tables h.tables rfl rfl hw h.container h.intruders
      (fun v hv => hreplies v (List.mem_cons_of_mem _ hv)) h.transports⟩

/-- What is replied can be logged, and so can what the world holds then. -/
theorem reply {q : Query} (hq : q.IsFit g) :
    q.FitReply g (w.reply q).1 ∧ (w.reply q).2.IsFit g := by
  have hforeign := h.foreign.reply q
  cases q with
  | environment => exact ⟨h.env, h⟩
  | store call => exact h.callStore hq
  | service name =>
    obtain ⟨hfound, hcontainer⟩ := h.container.resolve name
    exact ⟨hfound, h.of_tables h.tables rfl rfl hforeign hcontainer h.intruders h.replies
      h.transports⟩
  | transport slot =>
    refine ⟨fun transport hfound => ?_, h⟩
    obtain ⟨before, after, hkept, -⟩ := List.lookup_eq_some_iff.1 hfound
    exact h.transports (slot, transport) (by rw [hkept]; simp)
  | keepTransport slot transport =>
    refine ⟨trivial, h.of_tables h.tables rfl rfl hforeign h.container h.intruders h.replies
      fun entry hentry => ?_⟩
    rcases List.mem_cons.1 hentry with rfl | hold
    · exact hq
    · exact h.transports entry (List.mem_filter.1 hold).1
  | putEvent entry => exact h.putEvent entry
  | stopwatch =>
    refine ⟨trivial, ?_⟩
    change w.readStopwatch.2.IsFit g
    unfold readStopwatch
    split
    · exact h
    · exact h.of_tables h.tables rfl rfl ⟨h.foreign.1, h.foreign.2⟩ h.container h.intruders
        h.replies h.transports
  | _ =>
    exact ⟨trivial, h.of_tables h.tables rfl rfl hforeign h.container h.intruders h.replies
      h.transports⟩

end IsFit

end World

/-! ## Programs -/

/-- A journal writes a line for each entry, save for debug entries while those are off. -/
theorem Log.Journal.filterMap_line? (j : Journal) (now : Instant) (entries : List Entry) :
    entries.filterMap (j.line? now) =
      (entries.filter fun e => e.level ≠ .debug || j.debug).map (·.line now j.environment) := by
  induction entries with
  | nil => rfl
  | cons e entries ih =>
    rw [List.filterMap_cons, List.filter_cons, Journal.line?, ih]
    cases j.debug <;> by_cases he : e.level = .debug <;> simp [he]

/-- The entry that a question logs. -/
def Query.entry? : Query → Option Entry
  | .log e => some e
  | _ => none

theorem World.callStore_journal (w : World) (call : StoreCall) :
    (w.callStore call).2.journal = w.journal ∧ (w.callStore call).2.lines = w.lines := by
  unfold callStore
  split
  · exact ⟨rfl, rfl⟩
  · split <;> exact ⟨rfl, rfl⟩

/-- Only what is logged is written, and each entry on one line. -/
theorem World.reply_lines (w : World) (q : Query) : (w.reply q).2.journal = w.journal ∧
    (w.reply q).2.lines = w.lines ++ (q.entry?.bind (w.journal.line? w.clock)).toList := by
  cases q with
  | log e => exact ⟨rfl, rfl⟩
  | store call =>
    obtain ⟨hjournal, hlines⟩ := w.callStore_journal call
    exact ⟨hjournal, hlines.trans (List.append_nil _).symm⟩
  | stopwatch => unfold reply readStopwatch; split <;> simp [Query.entry?]
  | putEvent entry => unfold reply putEvent; split <;> simp [Query.entry?]
  | _ => exact ⟨rfl, (List.append_nil _).symm⟩

namespace Act
variable {α β : Type} {g : Scope} {R : α → Prop} {S : β → Prop}

/-- Wherever the replies can be logged, a program asks nothing but what is fit, and ends with a
    result of some kind or a failure that can be logged. -/
def Notes (g : Scope) (R : α → Prop) : Act α → Prop
  | .done a => R a
  | .fail e => e.IsLoggable
  | .ask q next => q.IsFit g ∧ ∀ reply, q.FitReply g reply → (next reply).Notes g R

theorem Notes.mono {R' : α → Prop} {act : Act α} (h : act.Notes g R) (hR : ∀ a, R a → R' a) :
    act.Notes g R' := by
  induction act with
  | done a => exact hR a h
  | fail e => exact h
  | ask q next ih => exact ⟨h.1, fun reply hr => ih reply (h.2 reply hr)⟩

theorem Notes.bind {act : Act α} {f : α → Act β} (h : act.Notes g R)
    (hf : ∀ a, R a → (f a).Notes g S) : (act.bind f).Notes g S := by
  induction act with
  | done a => exact hf a h
  | fail e => exact h
  | ask q next ih => exact ⟨h.1, fun reply hr => ih reply (h.2 reply hr)⟩

theorem Notes.attempt_bind {act : Act α} {f : Except Failure α → Act β} (h : act.Notes g R)
    (hf : ∀ x, Loggably R x → (f x).Notes g S) : (act.attempt.bind f).Notes g S := by
  induction act with
  | done a => exact hf (.ok a) h
  | fail e => exact hf (.error e) h
  | ask q next ih => exact ⟨h.1, fun reply hr => ih reply (h.2 reply hr)⟩

/-- The entries that a program logs in a world, in order. -/
def logged (act : Act α) (w : World) : List Entry := (act.asked w).filterMap Query.entry?

/-- A program logs only entries that are fit, and leaves a world where it may do so again. -/
theorem Notes.run {act : Act α} (h : act.Notes g R) {w : World} (hw : w.IsFit g) :
    (act.run w).2.IsFit g ∧ ∀ e ∈ act.logged w, g.Fits e := by
  induction act generalizing w with
  | done a => exact ⟨hw, List.forall_mem_nil _⟩
  | fail e => exact ⟨hw, List.forall_mem_nil _⟩
  | ask q next ih =>
    obtain ⟨hreply, hnext⟩ := hw.reply h.1
    obtain ⟨hafter, hlogged⟩ := ih _ (h.2 _ hreply) hnext
    refine ⟨hafter, ?_⟩
    cases q with
    | log e => exact List.forall_mem_cons.2 ⟨h.1, hlogged⟩
    | _ => exact hlogged

theorem run_lines_journal (act : Act α) (w : World) : (act.run w).2.lines =
    w.lines ++ (act.logged w).filterMap (w.journal.line? w.clock) := by
  induction act generalizing w with
  | done a => exact (List.append_nil _).symm
  | fail e => exact (List.append_nil _).symm
  | ask q next ih =>
    obtain ⟨hclock, -⟩ := w.reply_rest q
    obtain ⟨hjournal, hlines⟩ := w.reply_lines q
    rw [run_ask, ih, hclock, hjournal, hlines, List.append_assoc, logged, logged, asked,
      List.filterMap_cons]
    cases q.entry? with
    | none => rfl
    | some e =>
      rw [List.filterMap_cons, Option.bind_some]
      cases hline : w.journal.line? w.clock e <;> rfl

/-- A run writes one line for each entry that it logs, save for debug entries while those are
    off. -/
theorem run_lines (act : Act α) (w : World) : (act.run w).2.lines =
    w.lines ++ ((act.logged w).filter fun e => e.level ≠ .debug || w.journal.debug).map
      (·.line w.clock w.journal.environment) := by
  rw [run_lines_journal, Journal.filterMap_line?]

end Act

end Rendezvous
