/-
  Worlds in which functions are served.

  Whatever a function does for an event, its call is logged with the time that it took, and it asks
  for the service of a name.  No reply spoils the stopwatch or puts another service in the place of
  the registry.

  * `World.within`: how questions are answered in worlds of a kind; `Act.ensures_run_within`: what a
    program ensures there, its run does;
  * `Timed`: the stopwatch reads numbers of seconds, and time passes while something is logged;
  * `Function.invoke_timed`: the call of a function delivers the response to its event;
  * `Container.HasRegistry`: the registry is in its place, or will be made.
-/
import Rendezvous.Proofs.Calls
import Rendezvous.Proofs.Gateway

namespace Rendezvous

open Act

/-! ## Worlds of a kind -/

namespace World

/-- How questions are answered in worlds of a kind. -/
def within (I : World → Prop) : Answering World := fun q w reply w' =>
  I w ∧ w.reply q = (reply, w')

variable {w : World}

/-- Only the stopwatch reads the readings, and only asking for services changes the container. -/
theorem callStore_readings (w : World) (call : StoreCall) :
    (w.callStore call).2.readings = w.readings ∧ (w.callStore call).2.container = w.container := by
  unfold callStore
  split
  · exact ⟨rfl, rfl⟩
  · split <;> exact ⟨rfl, rfl⟩

theorem reply_readings {q : Query} (hq : q ≠ .stopwatch) (w : World) :
    (w.reply q).2.readings = w.readings := by
  cases q with
  | store call => exact (w.callStore_readings call).1
  | stopwatch => exact absurd rfl hq
  | putEvent entry => unfold reply putEvent; split <;> rfl
  | _ => rfl

theorem IsTimed.reply (h : w.IsTimed) (q : Query) : (w.reply q).2.IsTimed := by
  by_cases hq : q = .stopwatch
  · subst hq
    exact h.readStopwatch.2
  · rw [IsTimed, reply_readings hq]
    exact h

end World

/-- What a program ensures in worlds of a kind that no reply leaves, its run does. -/
theorem Act.ensures_run_within {α : Type} {I : World → Prop}
    (hI : ∀ w q, I w → I (World.reply w q).2) {Q : Except Failure α → World → Prop} {act : Act α}
    {w : World} (hw : I w) (h : act.Ensures (World.within I) Q w) :
    Q (act.run w).1 (act.run w).2 := by
  induction act generalizing w with
  | done a => exact h
  | fail e => exact h
  | ask q next ih => exact ih _ (hI w q hw) (h _ _ ⟨hw, rfl⟩)

/-- In worlds of a kind a program does as it does in a run. -/
theorem Act.ensures_within {α : Type} {I : World → Prop} (act : Act α) (w : World) :
    act.Ensures (World.within I) (fun x w' => (x, w') = act.run w) w := by
  induction act generalizing w with
  | done a => rfl
  | fail e => rfl
  | ask q next ih =>
    rintro reply w' ⟨-, hreply⟩
    rw [run_ask, hreply]
    exact ih reply w'

/-! ## Time -/

/-- Time passes while the stopwatch is read and while something is logged, and the stopwatch reads
    numbers of seconds. -/
structure Timed {σ : Type} (A : Answering σ) (T : σ → σ → Prop) : Prop where
  refl : ∀ s, T s s
  trans : ∀ {s₁ s₂ s₃}, T s₁ s₂ → T s₂ s₃ → T s₁ s₃
  stopwatch : ∀ {s reading s'}, A .stopwatch s reading s' → T s s' ∧ ∃ x, reading = .float x
  log : ∀ {entry s reply s'}, A (.log entry) s reply s' → T s s'

section
variable {σ : Type} {A : Answering σ} {T : σ → σ → Prop} (hA : Timed A T) {s : σ}
include hA

/-- The end of a call is logged. -/
theorem Handler.logEnd_timed (function : Text) (start : Binary64) {response : Value}
    (h : Response.IsWritable response) : (logEnd function (.float start) response).Ensures A
      (fun x s' => x = .ok () ∧ T s s') s := by
  obtain ⟨-, hform⟩ := h
  unfold logEnd
  simp only [bind_eq, liftM_eq, pure_eq]
  intro reading s₁ hr
  obtain ⟨h1, stop, rfl⟩ := hA.stopwatch hr
  -- a duration between floating readings is a floating one, which can always be logged
  have helapsed : elapsed (.float start) (.float stop) =
      .ok (.floating ((stop.sub start).scale 1000)) := rfl
  have hnote (n : Log.Note) (extra : Object) : (note mainSource n extra).Ensures A
      (fun x s' => x = .ok () ∧ T s s') s₁ := fun _ _ hr => ⟨rfl, hA.trans h1 (hA.log hr)⟩
  cases response with
  | obj fields =>
    have hfield : (Value.obj fields).fieldOrNull "success" =
        .ok (Object.fieldOrNull "success" fields) := rfl
    simp only [done_bind, helapsed, hfield, ofExcept_ok, checkDuration]
    rcases hform with hs | ⟨hs, c, hc⟩
    · have hs : (Object.fieldOrNull "success" fields).isTruthy = true := hs
      simp only [hs, if_true]
      exact hnote _ _
    · have hs : (Object.fieldOrNull "success" fields).isTruthy = false := hs
      simp only [hs, Bool.false_eq_true, if_false, hc, ofExcept_ok, done_bind]
      exact hnote _ _
  | _ => rcases hform with hs | ⟨-, c, hc⟩ <;> contradiction

/-- The call of a function delivers the response to its event, if that can be written. -/
theorem Function.invoke_timed {f : Function} {event : Value} (context : Value)
    {Q : Value → σ → Prop} (h : ∀ s₁, T s s₁ → (f.handler.answer event).Ensures A (fun x s₂ =>
      ∃ response, x = .ok response ∧ Response.IsWritable response ∧ Q response s₂) s₁) :
    (f.invoke event context).Ensures A (fun x s' => ∃ response s₂,
      Response.IsWritable response ∧ Q response s₂ ∧ T s₂ s' ∧
        x = Handler.deliver event response) s := by
  rw [invoke_eq]
  intro reading s₁ hr₁ _ s₂ hr₂
  obtain ⟨h1, start, rfl⟩ := hA.stopwatch hr₁
  simp only [served, bind_assoc, done_bind]
  refine (h s₂ (hA.trans h1 (hA.log hr₂))).bind ?_ ?_
  · rintro response s₃ ⟨response', hx, hwritable, hQ⟩
    obtain rfl := Except.ok.inj hx
    refine (Handler.logEnd_timed hA handlerName start hwritable).bind ?_ ?_
    · rintro _ s₄ ⟨-, h4⟩
      exact ensures_ofExcept.2 ⟨response, s₃, hwritable, hQ, h4, rfl⟩
    · rintro e s₄ ⟨he, -⟩
      cases he
  · rintro e s₃ ⟨response, he, -⟩
    cases he

end

/-- In worlds whose stopwatch is not broken, time passes as far as no call tells. -/
theorem World.timed_within {I : World → Prop} {T : World → World → Prop}
    (hI : ∀ w, I w → w.IsTimed) (refl : ∀ w, T w w)
    (trans : ∀ {w₁ w₂ w₃}, T w₁ w₂ → T w₂ w₃ → T w₁ w₃)
    (hT : ∀ w q, q.isCall = false → T w (World.reply w q).2) : Timed (World.within I) T where
  refl := refl
  trans := trans
  stopwatch {w reading w'} h := by
    obtain ⟨hw, hreply⟩ := h
    obtain ⟨x, hx⟩ := (hI w hw).readStopwatch.1
    have hpasses := hT w .stopwatch rfl
    rw [hreply] at hpasses
    exact ⟨hpasses, x, (congrArg Prod.fst hreply).symm.trans hx⟩
  log {entry w reply w'} h := by
    have hpasses := hT w (.log entry) rfl
    rwa [h.2] at hpasses

/-! ## The registry -/

namespace Container

/-- The service under the name of the registry is a registry. -/
def HasRegistry (c : Container) : Prop :=
  ∃ n r, (c.resolve (.str "identity_registry")).1 = .ok (n, .registry r)

variable {c : Container}

/-- The registry is made where there is no service under its name. -/
theorem hasRegistry_iff : c.HasRegistry ↔
    ∀ found, c.services.lookup (.text "identity_registry") = some found →
      ∃ r, found.2 = .registry r := by
  have hresolve : c.resolve (.str "identity_registry") =
      c.resolveAt (.text "identity_registry") (.str "identity_registry") := rfl
  rw [HasRegistry, hresolve, resolveAt]
  cases hfound : c.services.lookup (.text "identity_registry") with
  | none =>
    have hmake : c.make (.str "identity_registry") = .ok (.registry ⟨c.site⟩) := rfl
    simp [hmake]
  | some found =>
    obtain ⟨n, service⟩ := found
    simp

theorem lookup_filter_ne (services : List (Key × Nat × Service)) {key key' : Key} (h : key ≠ key') :
    (services.filter (·.1 ≠ key')).lookup key = services.lookup key := by
  induction services with
  | nil => rfl
  | cons entry services ih =>
    obtain ⟨k, found⟩ := entry
    by_cases hk : k = key'
    · have hne : (key == k) = false := beq_eq_false_iff_ne.2 (hk ▸ h)
      rw [List.filter_cons_of_neg (by simpa using hk), ih, List.lookup_cons, hne]
    · rw [List.filter_cons_of_pos (by simpa using hk), List.lookup_cons, List.lookup_cons, ih]

/-- Only a text has the key of a text. -/
theorem eq_of_key {name : Value} {t : Text} (h : name.key = .ok (.text t)) : name = .str t := by
  unfold Value.key at h
  cases name <;> simp_all [Value.key?]

/-- Whatever service is asked for, the registry stays in its place. -/
theorem HasRegistry.resolve (h : c.HasRegistry) (name : Value) :
    (c.resolve name).2.HasRegistry := by
  rw [Container.resolve]
  cases hkey : name.key with
  | error e => exact h
  | ok key =>
    dsimp only
    rw [resolveAt]
    cases hfound : c.services.lookup key with
    | some found => exact h
    | none =>
      cases hmake : c.make name with
      | error e => exact h
      | ok service =>
        refine hasRegistry_iff.2 fun found hlookup => ?_
        have hlookup : ((key, c.next, service) :: c.services.filter (·.1 ≠ key)).lookup
            (.text "identity_registry") = some found := hlookup
        rw [List.lookup_cons] at hlookup
        by_cases hname : key = .text "identity_registry"
        · -- it is the registry itself that was made
          obtain rfl := eq_of_key (hname ▸ hkey)
          obtain rfl := Except.ok.inj hmake
          rw [hname] at hlookup
          obtain rfl := Option.some.inj hlookup
          exact ⟨_, rfl⟩
        · rw [beq_eq_false_iff_ne.2 (Ne.symm hname), lookup_filter_ne _ (Ne.symm hname)] at hlookup
          exact hasRegistry_iff.1 h found hlookup

end Container

namespace World

/-- The service under the name of the registry is a registry. -/
def HasRegistry (w : World) : Prop := w.container.HasRegistry

variable {w : World}

theorem HasRegistry.service (h : w.HasRegistry) :
    ∃ r, (w.reply (.service (.str "identity_registry"))).1 = .ok (.registry r) := by
  obtain ⟨n, r, hr⟩ := h
  have hreply : (w.reply (.service (.str "identity_registry"))).1 =
      (w.container.resolve (.str "identity_registry")).1.map (·.2) := rfl
  exact ⟨r, by rw [hreply, hr]; rfl⟩

theorem HasRegistry.reply (h : w.HasRegistry) (q : Query) : (w.reply q).2.HasRegistry := by
  cases q with
  | store call =>
    rw [HasRegistry, World.reply, (w.callStore_readings call).2]
    exact h
  | service name => exact Container.HasRegistry.resolve h name
  | stopwatch => unfold World.reply World.readStopwatch; split <;> exact h
  | putEvent entry => unfold World.reply World.putEvent; split <;> exact h
  | _ => exact h

/-- A quiet world in which functions are served. -/
structure IsHosting (w : World) : Prop where
  quiet : w.IsQuiet
  timed : w.IsTimed
  registry : w.HasRegistry

theorem IsHosting.reply (h : w.IsHosting) (q : Query) :
    (w.reply q).2.IsHosting :=
  ⟨h.quiet.reply q, h.timed.reply q, h.registry.reply q⟩

theorem IsHosting.withTables (h : w.IsHosting) (t : Tables) :
    { w with tables := t }.IsHosting :=
  ⟨⟨h.quiet.faultless, h.quiet.alone, h.quiet.dated⟩, h.timed, h.registry⟩

end World

end Rendezvous
