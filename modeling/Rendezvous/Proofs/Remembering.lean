/-
  What lookups in the parameter store remember.

  Each lookup remembers the value it gives, also null where there is none, and 128 values are
  remembered.  As long as the store keeps the same values a lookup gives what it would give if
  nothing were remembered, with one exception: null that a failed call has left behind is given
  instead of a value until it is forgotten.

  * `Cache.ofUses`: a cache after uses of its keys; `Cache.find?_ofUses`: what is found in it
    depends on how many other keys have been used since;
  * `Inquiries`: lookups of any keys in any configurations, one after another, with their answers;
    `Inquiries.remembered`: what they have left behind;
  * `Spoilt`: what is remembered for a key goes back to a failed call;
  * `Inquiries.remembering_transparent`: what a lookup gives when the store answers.
-/
import Rendezvous.Proofs.Settings

namespace Rendezvous

/-! ## Caches -/

namespace Cache
variable {κ ν : Type} [DecidableEq κ]

/-- The latest use of each key, of uses in order with the latest first. -/
def latest : List (κ × ν) → List (κ × ν)
  | [] => []
  | (key, value) :: uses => (key, value) :: (latest uses).filter fun entry => entry.1 ≠ key

/-- A cache after uses, the latest of which comes first. -/
def ofUses (capacity : Nat) : List (κ × ν) → Cache κ ν
  | [] => ⟨capacity, []⟩
  | (key, value) :: uses => (ofUses capacity uses).use key value

/-- The keys that are used. -/
def keys (uses : List (κ × ν)) : Finset κ := (uses.map Prod.fst).toFinset

variable {key : κ} {value : ν} {uses since before : List (κ × ν)} {capacity : Nat}

theorem mem_keys : key ∈ keys uses ↔ ∃ value, (key, value) ∈ uses := by
  simp [keys]

@[simp] theorem keys_cons (entry : κ × ν) : keys (entry :: uses) = insert entry.1 (keys uses) := by
  simp [keys]

@[simp] theorem keys_latest : keys (latest uses) = keys uses := by
  induction uses with
  | nil => rfl
  | cons use uses ih =>
    rw [latest, keys_cons, keys_cons, ← ih]
    ext k
    by_cases h : k = use.1 <;> simp [h, mem_keys]

theorem nodup_latest : ((latest uses).map Prod.fst).Nodup := by
  induction uses with
  | nil => exact .nil
  | cons use uses ih =>
    refine List.nodup_cons.2 ⟨by simp, ?_⟩
    exact ih.sublist (List.filter_sublist.map Prod.fst)

theorem length_latest : (latest uses).length = (keys uses).card := by
  rw [← keys_latest, keys, List.toFinset_card_of_nodup nodup_latest, List.length_map]

/-- A cache with room for one more keeps all but the last, whether or not the key was in it. -/
theorem take_filter_take {l : List (κ × ν)} (hl : (l.map Prod.fst).Nodup) (key : κ) (n : Nat) :
    ((l.take (n + 1)).filter fun e => e.1 ≠ key).take n = (l.filter fun e => e.1 ≠ key).take n := by
  induction l generalizing n with
  | nil => simp
  | cons entry l ih =>
    obtain ⟨hentry, hl⟩ := List.nodup_cons.1 hl
    rw [List.take_succ_cons]
    by_cases h : entry.1 = key
    · have hother (l' : List (κ × ν)) (hsub : l' ⊆ l) :
          (l'.filter fun e => e.1 ≠ key) = l' := by
        refine List.filter_eq_self.2 fun e he => ?_
        have hne : e.1 ≠ key := fun heq =>
          hentry (List.mem_map.2 ⟨e, hsub he, heq.trans h.symm⟩)
        simpa using hne
      rw [List.filter_cons_of_neg (by simpa using h), List.filter_cons_of_neg (by simpa using h),
        hother _ (List.take_subset _ _), hother _ (List.Subset.refl _), List.take_take, min_self]
    · rw [List.filter_cons_of_pos (by simpa using h), List.filter_cons_of_pos (by simpa using h)]
      cases n with
      | zero => rfl
      | succ n => rw [List.take_succ_cons, List.take_succ_cons, ih hl]

theorem capacity_ofUses : (ofUses capacity uses).capacity = capacity := by
  induction uses with
  | nil => rfl
  | cons use uses ih => exact ih

/-- A cache holds the keys used last, as many as it has room for. -/
theorem entries_ofUses : (ofUses capacity uses).entries = (latest uses).take capacity := by
  induction uses with
  | nil => simp [ofUses, latest]
  | cons use uses ih =>
    rw [ofUses, Cache.use, ih, capacity_ofUses, latest]
    cases capacity with
    | zero => rfl
    | succ n => rw [List.take_succ_cons, List.take_succ_cons, take_filter_take nodup_latest]

theorem latest_append : latest (since ++ before) =
    latest since ++ (latest before).filter fun entry => entry.1 ∉ keys since := by
  induction since with
  | nil => simp [latest, keys]
  | cons use since ih =>
    simp only [List.cons_append, latest, ih, List.filter_append, List.filter_filter, keys_cons,
      Finset.mem_insert, not_or, ne_eq, decide_not, Bool.decide_and]

/-- A value that was used is found as long as there is room for it and all keys used since. -/
theorem find?_ofUses (h : key ∉ keys since) :
    (ofUses capacity (since ++ (key, value) :: before)).find? key =
      if (keys since).card < capacity then some value else none := by
  have hsince : ∀ entry ∈ latest since, (decide (entry.1 = key)) = false := by
    intro entry hentry
    rw [← keys_latest] at h
    exact decide_eq_false fun heq => h (mem_keys.2 ⟨entry.2, heq ▸ hentry⟩)
  rw [find?, entries_ofUses, latest_append, latest, List.filter_cons_of_pos (by simpa using h),
    List.take_append, length_latest, List.find?_append]
  rw [List.find?_eq_none.2 fun entry hentry => by simp [hsince entry (List.mem_of_mem_take hentry)]]
  split
  next hroom =>
    obtain ⟨n, hn⟩ := Nat.exists_eq_succ_of_ne_zero (Nat.sub_ne_zero_of_lt hroom)
    simp [hn]
  next hfull => simp [Nat.sub_eq_zero_of_le (Nat.le_of_not_lt hfull)]

theorem find?_ofUses_of_notMem (h : key ∉ keys uses) : (ofUses capacity uses).find? key = none := by
  rw [find?, entries_ofUses, Option.map_eq_none_iff, List.find?_eq_none]
  intro entry hentry
  rw [← keys_latest] at h
  simpa using fun heq : entry.1 = key =>
    h (mem_keys.2 ⟨entry.2, heq ▸ List.mem_of_mem_take hentry⟩)

end Cache

/-! ## Inquiries -/

/-- The same state with nothing remembered. -/
def LookupState.forget (state : LookupState) : LookupState :=
  { state with remembered := LookupState.initial.remembered }

/-- Surroundings without variables where the parameter store gives what it keeps. -/
def Surroundings.holding (store : Text → Option Value) : Surroundings where
  env := []
  answer name :=
    match store name with
    | some v => .value v
    | none => .failed (.remote (.refused
        (.make (.str "ParameterNotFound") (.str "Unknown") "GetParameter")))
  down := false

/-- Surroundings without variables where the parameter store puts all calls off. -/
def Surroundings.throttled : Surroundings where
  env := []
  answer _ := .failed (.remote (.refused
    (.make (.str "ThrottlingException") (.str "Rate exceeded") "GetParameter")))
  down := false

/-- A lookup in the parameter store: the configuration it is made in, its key, whether the key is
    given by name, and what surrounds it at the time. -/
structure Inquiry where
  object : Nat
  byName : Bool
  key : Text
  around : Surroundings

namespace Inquiry
variable (homes : Nat → Environment) (store : Text → Option Value) (q : Inquiry)

/-- The configuration of an inquiry, where `homes` are the variables each one was made from. -/
def config : Config := .ofEnvironment q.object (homes q.object)

/-- The name that is asked for in the parameter store. -/
def name : Text := (q.config homes).remoteName q.key

/-- What the answer is remembered under. -/
def asked : Asked := ⟨q.object, q.byName, .text q.key⟩

/-- The lookup. -/
def lookUp : Lookup Value := (q.config homes).remoteParameterOf q.around q.byName (.str q.key)

/-- The store gives no other value than the one it keeps. -/
def Agrees : Prop :=
  ∀ v, q.around.answer (q.name homes) = .value v → store (q.name homes) = some v

/-- The store answers: it gives the value it keeps, or it refuses for want of one. -/
def IsAnswered : Prop :=
  match store (q.name homes) with
  | some v => q.around.answer (q.name homes) = .value v
  | none => ∃ r, q.around.answer (q.name homes) = .failed (.remote (.refused r)) ∧
      r.codeAt = .ok (.str "ParameterNotFound")

/-- A client can be opened, and the store answers. -/
def IsServed : Prop := q.around.down = false ∧ q.IsAnswered homes store

/-- What comes of asking the store. -/
def outcome (state : LookupState) : Except Failure Value :=
  (q.config homes).outcome q.around q.key state

/-- The value that an inquiry gets from a store that answers: the one that is kept, if the store
    can be asked. -/
def current (state : LookupState) : Value :=
  if (q.config homes).reaches q.around state then (store (q.name homes)).getD .null else .null

variable {homes store q} {state : LookupState}

theorem run_hit {v : Value} (h : state.remembered.find? q.asked = some v) :
    (q.lookUp homes).run state =
      (.ok v, { state with remembered := state.remembered.use q.asked v }) :=
  Config.lookUp_hit (q.config homes) q.around q.key h

theorem run_miss (h : state.remembered.find? q.asked = none) :
    ∃ after, state.Opens (q.config homes) after ∧
      ((q.config homes).reaches q.around state = true → q.object ∈ after.connected) ∧
      (q.lookUp homes).run state = (q.outcome homes state,
        match q.outcome homes state with
        | .ok v => { after with remembered := after.remembered.use q.asked v }
        | .error _ => after) :=
  Config.lookUp_miss (q.config homes) q.around q.key h

/-- An inquiry gives the value that is remembered for it, if there is one, or asks the store. -/
theorem answer_eq : ((q.lookUp homes).run state).1 =
    match state.remembered.find? q.asked with
    | some v => .ok v
    | none => q.outcome homes state := by
  cases hfound : state.remembered.find? q.asked with
  | some v => rw [run_hit hfound]
  | none =>
    obtain ⟨after, -, -, hrun⟩ := @run_miss homes q state hfound
    rw [hrun]

/-- An answer of the store is what it keeps. -/
theorem IsAnswered.agrees (h : q.IsAnswered homes store) : q.Agrees homes store := by
  intro v hv
  unfold IsAnswered at h
  split at h
  next w hw =>
    rw [hw, ParameterAnswer.value.inj (h.symm.trans hv)]
  next =>
    obtain ⟨r, hr, -⟩ := h
    cases hr.symm.trans hv

/-- Every value that an inquiry gives is remembered as the one used last. -/
theorem remembered_eq : ((q.lookUp homes).run state).2.remembered =
    match ((q.lookUp homes).run state).1 with
    | .ok v => state.remembered.use q.asked v
    | .error _ => state.remembered := by
  cases hfound : state.remembered.find? q.asked with
  | some v => rw [run_hit hfound]
  | none =>
    obtain ⟨after, hopens, -, hrun⟩ := @run_miss homes q state hfound
    rw [hrun]
    cases q.outcome homes state with
    | error e => exact hopens.remembered
    | ok v => exact congrArg (Cache.use q.asked v) hopens.remembered

/-- The clients after an inquiry are those there were, and perhaps that of its configuration, if
    that may ask the store; it is among them once the store has been asked. -/
theorem connected_run : (∀ i ∈ state.connected, i ∈ ((q.lookUp homes).run state).2.connected) ∧
    (∀ i ∈ ((q.lookUp homes).run state).2.connected,
      i ∈ state.connected ∨ i = q.object ∧ (q.config homes).remoteEnabled = true) ∧
    (state.remembered.find? q.asked = none → (q.config homes).reaches q.around state = true →
      q.object ∈ ((q.lookUp homes).run state).2.connected) := by
  cases hfound : state.remembered.find? q.asked with
  | some v =>
    rw [run_hit hfound]
    exact ⟨fun _ h => h, fun _ h => .inl h, nofun⟩
  | none =>
    obtain ⟨after, hopens, hserial, hrun⟩ := @run_miss homes q state hfound
    rw [hrun]
    cases q.outcome homes state <;> exact ⟨hopens.kept, hopens.opened, fun _ => hserial⟩

theorem outcome_of_isAnswered (h : q.IsAnswered homes store) :
    q.outcome homes state = .ok (q.current homes store state) := by
  have htold : (q.around.answer (q.name homes)).outcome (q.name homes) =
      .ok ((store (q.name homes)).getD .null) := by
    unfold IsAnswered at h
    split at h
    next v hv =>
      rw [hv, h]
      rfl
    next hnone =>
      obtain ⟨r, hr, hcode⟩ := h
      rw [hnone, hr, ParameterAnswer.outcome, hcode]
      rfl
  unfold outcome Config.outcome current
  split
  · exact htold
  · rfl

/-- A value that comes of asking the store is the one it keeps. -/
theorem outcome_agrees {v : Value} (hagrees : q.Agrees homes store)
    (hv : v ≠ .null) (h : q.outcome homes state = .ok v) :
    (q.config homes).reaches q.around state = true ∧ store (q.name homes) = some v := by
  unfold outcome Config.outcome at h
  split at h
  next hreaches =>
    refine ⟨hreaches, hagrees v ?_⟩
    have hanswer := (ParameterAnswer.outcome_eq_ok_iff.1 h).2.2
    unfold name
    cases ha : q.around.answer ((q.config homes).remoteName q.key) with
    | value w =>
      rw [ha] at h
      rw [Except.ok.inj h]
    | _ =>
      rw [ha] at hanswer
      exact absurd hanswer hv
  next => exact absurd (Except.ok.inj h).symm hv

theorem object_congr {b : Inquiry} (h : b.asked = q.asked) : b.object = q.object :=
  congrArg Asked.serial h

theorem config_congr {b : Inquiry} (h : b.asked = q.asked) : b.config homes = q.config homes := by
  rw [config, config, object_congr h]

theorem name_congr {b : Inquiry} (h : b.asked = q.asked) : b.name homes = q.name homes := by
  have hkey : b.key = q.key := Key.text.inj (congrArg Asked.key h)
  rw [name, name, config_congr h, hkey]

end Inquiry

/-- Inquiries with their answers, and what they have left behind; the latest is first. -/
inductive Inquiries (homes : Nat → Environment) :
    List (Inquiry × Except Failure Value) → LookupState → Prop
  | start : Inquiries homes [] .initial
  | ask {past state} (q : Inquiry) (h : Inquiries homes past state) :
      Inquiries homes ((q, ((q.lookUp homes).run state).1) :: past)
        ((q.lookUp homes).run state).2

/-- The values that inquiries have found, by what they are remembered under. -/
def uses (past : List (Inquiry × Except Failure Value)) : List (Asked × Value) :=
  past.filterMap fun (q, answer) => answer.toOption.map (q.asked, ·)

/-- A use of a key that has not been forgotten since: the key has not been used again, and fewer
    than 128 others have. -/
def Recent (a : Asked) (since : List (Inquiry × Except Failure Value)) : Prop :=
  a ∉ Cache.keys (uses since) ∧ (Cache.keys (uses since)).card < 128

/-- A failed call, one that was not served, has left null behind for a key, and it has not been
    forgotten since: either no lookup has given it again, or each one that has came in time. -/
inductive Spoilt (homes : Nat → Environment) (store : Text → Option Value) (a : Asked) :
    List (Inquiry × Except Failure Value) → Prop
  | failed {since b before} (hb : b.asked = a) (hserved : ¬b.IsServed homes store)
      (hrecent : Recent a since) : Spoilt homes store a (since ++ (b, .ok .null) :: before)
  | again {since b before} (hb : b.asked = a) (hspoilt : Spoilt homes store a before)
      (hrecent : Recent a since) : Spoilt homes store a (since ++ (b, .ok .null) :: before)

theorem uses_append (since before : List (Inquiry × Except Failure Value)) :
    uses (since ++ before) = uses since ++ uses before :=
  List.filterMap_append

theorem exists_of_mem_keys {a : Asked} {past : List (Inquiry × Except Failure Value)}
    (h : a ∈ Cache.keys (uses past)) : ∃ since b v before,
      past = since ++ (b, .ok v) :: before ∧ b.asked = a ∧ a ∉ Cache.keys (uses since) := by
  induction past with
  | nil => simp [uses, Cache.keys] at h
  | cons call past ih =>
    obtain ⟨b, answer⟩ := call
    cases answer with
    | error e =>
      obtain ⟨since, b', v, before, rfl, hb, hsince⟩ := ih h
      exact ⟨(b, .error e) :: since, b', v, before, rfl, hb, hsince⟩
    | ok v =>
      by_cases hb : b.asked = a
      · exact ⟨[], b, v, past, rfl, hb, by simp [uses, Cache.keys]⟩
      · have hcons (l) : uses ((b, .ok v) :: l) = (b.asked, v) :: uses l := rfl
        rw [hcons, Cache.keys_cons, Finset.mem_insert] at h
        obtain ⟨since, b', v', before, rfl, hb', hsince⟩ := ih (h.resolve_left (Ne.symm hb))
        refine ⟨(b, .ok v) :: since, b', v', before, rfl, hb', ?_⟩
        rw [hcons, Cache.keys_cons, Finset.mem_insert, not_or]
        exact ⟨Ne.symm hb, hsince⟩

namespace Inquiries
variable {homes : Nat → Environment} {store : Text → Option Value}
  {past since before : List (Inquiry × Except Failure Value)} {state : LookupState}

/-- What is remembered depends on the uses only. -/
theorem remembered (h : Inquiries homes past state) :
    state.remembered = Cache.ofUses 128 (uses past) := by
  induction h with
  | start => rfl
  | @ask past state q h ih =>
    rw [Inquiry.remembered_eq, ih]
    cases ((q.lookUp homes).run state).1 <;> rfl

/-- Only configurations that are to ask the store have clients. -/
theorem enabled (h : Inquiries homes past state) :
    ∀ i ∈ state.connected, (Config.ofEnvironment i (homes i)).remoteEnabled = true := by
  induction h with
  | start => nofun
  | @ask past state q h ih =>
    intro i hi
    obtain hi | ⟨rfl, henabled⟩ := q.connected_run.2.1 i hi
    exacts [ih i hi, henabled]

/-- What is found for a key used before is its value, as long as the use is recent. -/
theorem find?_remembered {b : Inquiry} {v : Value}
    (h : Inquiries homes (since ++ (b, .ok v) :: before) state)
    (hb : b.asked ∉ Cache.keys (uses since)) : state.remembered.find? b.asked =
      if (Cache.keys (uses since)).card < 128 then some v else none := by
  rw [h.remembered, uses_append]
  exact Cache.find?_ofUses hb

/-- What is found has been given before, and recently. -/
theorem of_found {a : Asked} {v : Value} (h : Inquiries homes past state)
    (hfound : state.remembered.find? a = some v) :
    ∃ since b before, past = since ++ (b, .ok v) :: before ∧ b.asked = a ∧ Recent a since := by
  have hused : a ∈ Cache.keys (uses past) := by
    by_contra hno
    rw [h.remembered, Cache.find?_ofUses_of_notMem hno] at hfound
    cases hfound
  obtain ⟨since, b, w, before, rfl, rfl, hsince⟩ := exists_of_mem_keys hused
  rw [h.find?_remembered hsince] at hfound
  split at hfound
  next hroom =>
    obtain rfl := Option.some.inj hfound
    exact ⟨since, b, before, rfl, rfl, hsince, hroom⟩
  next => cases hfound

/-- A value that was given is the one the store keeps, and there is a client for it since. -/
theorem given (h : Inquiries homes past state)
    (hfixed : ∀ b r, (b, r) ∈ past → b.Agrees homes store) {b : Inquiry} {v : Value}
    (hv : v ≠ .null) (hb : (b, .ok v) ∈ past) :
    store (b.name homes) = some v ∧ b.object ∈ state.connected := by
  induction h generalizing b with
  | start => cases hb
  | @ask past state q h ih =>
    have hkept := (@Inquiry.connected_run homes q state).1
    have hopened := (@Inquiry.connected_run homes q state).2.2
    replace ih {b} (hb : (b, .ok v) ∈ past) := ih (fun b r hbr => hfixed b r (.tail _ hbr)) hb
    obtain heq | hpast := List.mem_cons.1 hb
    · obtain ⟨rfl, hanswer⟩ := Prod.mk.inj heq
      rw [Inquiry.answer_eq] at hanswer
      cases hfound : state.remembered.find? b.asked with
      | some w =>
        rw [hfound] at hanswer
        obtain rfl := Except.ok.inj hanswer
        obtain ⟨since, b', before, rfl, hb', -⟩ := h.of_found hfound
        obtain ⟨hstore, hconnected⟩ := ih (b := b') (by simp)
        rw [← Inquiry.name_congr hb', ← Inquiry.object_congr hb']
        exact ⟨hstore, hkept _ hconnected⟩
      | none =>
        rw [hfound] at hanswer
        obtain ⟨hreaches, hstore⟩ := Inquiry.outcome_agrees (hfixed b _ (.head _)) hv hanswer.symm
        exact ⟨hstore, hopened hfound hreaches⟩
    · obtain ⟨hstore, hconnected⟩ := ih hpast
      exact ⟨hstore, hkept _ hconnected⟩

/-- What came before a call was a course of inquiries, too. -/
theorem of_append {b : Inquiry} {r : Except Failure Value}
    (h : Inquiries homes (since ++ (b, r) :: before) state) :
    ∃ earlier, Inquiries homes before earlier ∧ r = ((b.lookUp homes).run earlier).1 := by
  generalize hpast : since ++ (b, r) :: before = past at h
  induction since generalizing past state with
  | nil =>
    cases h with
    | start => cases hpast
    | @ask past' state' q h' =>
      obtain ⟨hcall, rfl⟩ := List.cons.inj hpast
      obtain ⟨rfl, rfl⟩ := Prod.mk.inj hcall
      exact ⟨state', h', rfl⟩
  | cons call since ih =>
    cases h with
    | start => cases hpast
    | @ask past' state' q h' => exact ih past' (List.cons.inj hpast).2 h'

theorem find?_of_spoilt {a : Asked} (h : Inquiries homes past state)
    (hspoilt : Spoilt homes store a past) : state.remembered.find? a = some .null := by
  cases hspoilt with
  | failed hb _ hrecent | again hb _ hrecent =>
    subst hb
    rw [h.find?_remembered hrecent.1, if_pos hrecent.2]

/-- Null that no failed call has left behind is what there is for the key: the store keeps nothing
    for it, or the configuration is not to ask the store. -/
theorem null_of_not_spoilt {q : Inquiry} (h : Inquiries homes past state)
    (hfound : state.remembered.find? q.asked = some .null)
    (hspoilt : ¬Spoilt homes store q.asked past) :
    (q.config homes).remoteEnabled = false ∨ (store (q.name homes)).getD .null = .null := by
  induction hlength : past.length using Nat.strong_induction_on generalizing past state with
  | _ n ih =>
    obtain ⟨since, b, before, rfl, hb, hrecent⟩ := h.of_found hfound
    obtain ⟨earlier, hearlier, hanswer⟩ := h.of_append
    have hserved : b.IsServed homes store := by
      by_contra hno
      exact hspoilt (.failed hb hno hrecent)
    rw [Inquiry.answer_eq] at hanswer
    cases hbefore : earlier.remembered.find? b.asked with
    | some w =>
      rw [hbefore] at hanswer
      obtain rfl := Except.ok.inj hanswer
      have hshorter : before.length < n := by
        rw [← hlength, List.length_append, List.length_cons]
        omega
      exact ih _ hshorter hearlier (hb ▸ hbefore) (fun hs => hspoilt (.again hb hs hrecent)) rfl
    | none =>
      rw [hbefore] at hanswer
      simp only [Inquiry.outcome_of_isAnswered hserved.2, Inquiry.current, Inquiry.name_congr hb,
        Inquiry.config_congr hb, Except.ok.injEq] at hanswer
      split at hanswer
      next => exact .inr hanswer.symm
      next hreaches =>
        rw [Config.reaches, hserved.1] at hreaches
        have hclosed : (q.config homes).serial ∉ earlier.connected ∧
            (q.config homes).remoteEnabled = false := by simpa using hreaches
        exact .inl hclosed.2

/-- A configuration that is not to ask the store never reaches it. -/
theorem not_reaches {q : Inquiry} (h : Inquiries homes past state)
    (hdisabled : (q.config homes).remoteEnabled = false) :
    (q.config homes).reaches q.around state = false := by
  have hclosed : q.object ∉ state.connected := fun hopen => by
    rw [Inquiry.config, h.enabled _ hopen] at hdisabled
    cases hdisabled
  rw [Config.reaches, hdisabled, Bool.false_and, Bool.or_false]
  simpa [Inquiry.config, Config.ofEnvironment] using hclosed

/-- A value that is found is the one that the store would give. -/
theorem current_of_found {q : Inquiry} {v : Value} (h : Inquiries homes past state)
    (hfixed : ∀ b r, (b, r) ∈ past → b.Agrees homes store)
    (hfound : state.remembered.find? q.asked = some v) (hv : v ≠ .null) :
    q.current homes store state = v := by
  obtain ⟨since, b, before, rfl, hb, -⟩ := h.of_found hfound
  obtain ⟨hstore, hopen⟩ := h.given hfixed hv (b := b) (by simp)
  rw [Inquiry.name_congr hb] at hstore
  rw [Inquiry.object_congr hb] at hopen
  have hreaches : (q.config homes).reaches q.around state = true := by
    simp [Config.reaches, Inquiry.config, Config.ofEnvironment, hopen]
  rw [Inquiry.current, hreaches, hstore]
  rfl

/-- A lookup with nothing remembered asks the store. -/
theorem forgetful_answer (q : Inquiry) (state : LookupState) :
    ((q.lookUp homes).run state.forget).1 = q.outcome homes state :=
  Inquiry.answer_eq

/-- Lookups that the store answers give what they would give if nothing were remembered, or null
    where a failed call has left it behind. -/
theorem remembering_transparent (h : Inquiries homes past state)
    (hfixed : ∀ b r, (b, r) ∈ past → b.Agrees homes store) {q : Inquiry}
    (hq : q.IsAnswered homes store) :
    ((q.lookUp homes).run state.forget).1 = .ok (q.current homes store state) ∧
      (((q.lookUp homes).run state).1 = .ok (q.current homes store state) ∨
        ((q.lookUp homes).run state).1 = .ok .null) ∧
      (((q.lookUp homes).run state).1 = .ok (q.current homes store state) ↔
        q.current homes store state = .null ∨ ¬Spoilt homes store q.asked past) := by
  have hcurrent : q.outcome homes state = .ok (q.current homes store state) :=
    Inquiry.outcome_of_isAnswered hq
  have hspoils : Spoilt homes store q.asked past →
      state.remembered.find? q.asked = some .null := h.find?_of_spoilt
  refine ⟨(forgetful_answer q state).trans hcurrent, ?_⟩
  rw [Inquiry.answer_eq, hcurrent]
  cases hfound : state.remembered.find? q.asked with
  | none =>
    rw [hfound] at hspoils
    exact ⟨.inl rfl, iff_of_true rfl (.inr fun hs => nomatch hspoils hs)⟩
  | some w =>
    by_cases hw : w = .null
    · subst hw
      refine ⟨.inr rfl, fun hv => .inl (Except.ok.inj hv).symm, fun hv => ?_⟩
      obtain hv | hno := hv
      · rw [hv]
      · obtain hdisabled | hnone := h.null_of_not_spoilt hfound hno
        · simp [Inquiry.current, h.not_reaches hdisabled]
        · simp [Inquiry.current, hnone]
    · rw [hfound] at hspoils
      rw [h.current_of_found hfixed hfound hw]
      exact ⟨.inl rfl, iff_of_true rfl (.inr fun hs => hw (Option.some.inj (hspoils hs)))⟩

/-- A call that is throttled in one configuration spoils nothing in another. -/
theorem found_again :
    let homes : Nat → Environment := fun _ => []
    let store : Text → Option Value := fun _ => some (.str "v")
    let spoilt : Inquiry := ⟨1, false, "k", .throttled⟩
    let q : Inquiry := ⟨0, false, "k", .holding store⟩
    let past : List (Inquiry × Except Failure Value) :=
      [(spoilt, .ok .null), (q, .ok (.str "v"))]
    ∃ state, Inquiries homes past state ∧ (∀ b r, (b, r) ∈ past → b.Agrees homes store) ∧
      q.IsAnswered homes store ∧ ((q.lookUp homes).run state.forget).1 = .ok (.str "v") ∧
      ((q.lookUp homes).run state).1 = .ok (.str "v") ∧ ¬Spoilt homes store q.asked past := by
  intro homes store spoilt q past
  have hpast : Inquiries homes past _ := .ask spoilt (.ask q .start)
  have hagrees : ∀ b r, (b, r) ∈ past → b.Agrees homes store := by
    intro b r hb
    simp only [past, List.mem_cons, Prod.mk.injEq, List.not_mem_nil, or_false] at hb
    obtain ⟨rfl, -⟩ | ⟨rfl, -⟩ := hb
    · exact nofun
    · exact Inquiry.IsAnswered.agrees rfl
  obtain ⟨hforget, -, hgiven⟩ := hpast.remembering_transparent hagrees (q := q) rfl
  exact ⟨_, hpast, hagrees, rfl, hforget, rfl, (hgiven.1 rfl).resolve_left nofun⟩

/-- A call that is throttled leaves null behind for a parameter that the store keeps. -/
theorem spoilt_by_throttling :
    let homes : Nat → Environment := fun _ => []
    let store : Text → Option Value := fun _ => some (.str "v")
    let past : List (Inquiry × Except Failure Value) := [(⟨0, false, "k", .throttled⟩, .ok .null)]
    let q : Inquiry := ⟨0, false, "k", .holding store⟩
    ∃ state, Inquiries homes past state ∧ (∀ b r, (b, r) ∈ past → b.Agrees homes store) ∧
      q.IsAnswered homes store ∧ ((q.lookUp homes).run state.forget).1 = .ok (.str "v") ∧
      ((q.lookUp homes).run state).1 = .ok .null := by
  intro homes store past q
  refine ⟨_, .ask ⟨0, false, "k", .throttled⟩ .start, ?_, rfl, rfl, rfl⟩
  intro b r hb
  simp only [past, List.mem_singleton, Prod.mk.injEq] at hb
  obtain ⟨rfl, -⟩ := hb
  exact nofun

end Inquiries

end Rendezvous
