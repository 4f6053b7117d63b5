/-
  How registrations at the same time end, if the store does not fail.

  * `Race.outcome_cases`: a registration is put, or refused for what is in the tables;
  * `Race.holds_cases`: what is in the tables was there at the start or was put since;
  * `Race.outcomes`: who succeeds, who is refused and for what, and what is looked up
    after that.
-/
import Rendezvous.Proofs.OneToOne

namespace Rendezvous

/-- Tables that come about by registrations, of which some may have failed. -/
def Tables.Reachable (t : Tables) : Prop :=
  ∃ (ι : Type) (_ : DecidableEq ι) (R : Race ι) (k : ℕ), R.start.Vacant ∧ R.tables k = t

theorem Tables.Reachable.paired {t : Tables} (h : t.Reachable) : t.Paired := by
  obtain ⟨ι, _, R, k, hstart, rfl⟩ := h
  exact Race.paired hstart.paired k

namespace Tables

variable {t : Tables} {a b : Application} {now later : Instant}

theorem Paired.of_registered (h : t.Paired) {identity : Text}
    (hi : t.registered identity = true) : ∃ a now, a.caller = identity ∧ t.Holds a now := by
  obtain ⟨item, hitem⟩ := Option.isSome_iff_exists.1 hi
  obtain ⟨a, now, hkey, -, ha⟩ := h.of_record hitem
  exact ⟨a, now, (Key.text.inj hkey).symm, ha⟩

theorem Paired.of_bound (h : t.Paired) {nickname : Bytes} (hn : t.bound nickname = true) :
    ∃ a now, a.nickname = nickname ∧ t.Holds a now := by
  obtain ⟨item, hitem⟩ := Option.isSome_iff_exists.1 hn
  obtain ⟨a, now, hkey, -, ha⟩ := h.of_binding hitem
  exact ⟨a, now, (Hex.encode_injective hkey).symm, ha⟩

/-- A registration that is there after another one was put is that one, or was there before. -/
theorem Holds.of_enroll (h : (t.enroll a now).Holds b later) (hdated : now.IsDated) :
    t.Holds b later ∨ b.caller = a.caller ∧ b.nickname = a.nickname := by
  have ha : (t.enroll a now).Holds a now := holds_enroll hdated
  by_cases hcaller : b.caller = a.caller
  · exact Or.inr ⟨hcaller, (h.eq_of_caller ha hcaller).1⟩
  · have hnickname : b.nickname ≠ a.nickname := fun hn => hcaller (h.eq_of_nickname ha hn)
    have hidentity : b.identityKey ≠ a.identityKey := fun hkey => hcaller (Key.text.inj hkey)
    have hkey : b.nicknameKey ≠ a.nicknameKey := fun hkey => hnickname (Hex.encode_injective hkey)
    refine Or.inl ⟨h.dated, ?_, ?_⟩
    · rw [← h.record]; exact (Table.find?_put_of_ne hidentity _ _).symm
    · rw [← h.binding]; exact (Table.find?_put_of_ne hkey _ _).symm

/-- A record that is in the tables is looked up bit for bit. -/
theorem Holds.getRecord (h : t.Holds a now) (hp : t.Paired) {r : Registry} {w : World}
    (hw : w.IsQuiet) (ht : w.tables = t) : ((r.getRecord (.str a.caller)).run w).1 = .ok a.record := by
  subst ht
  obtain ⟨hx, -⟩ := Course.run_of_shows hw
    (Registry.getRecord_shows (c := Course.quiet) r hp a.caller)
  rw [hx, h.record?]
  rfl

/-- A binding that is in the tables is looked up. -/
theorem Holds.resolveNickname (h : t.Holds a now) (hp : t.Paired) {r : Registry} {w : World}
    (hw : w.IsQuiet) (ht : w.tables = t) :
    ((r.resolveNickname a.nickname).run w).1 = .ok (.str a.caller) := by
  subst ht
  obtain ⟨hx, -⟩ := Course.run_of_shows hw
    (Registry.resolveNickname_shows (c := Course.quiet) r hp a.nickname)
  rw [hx, h.owner]

end Tables

namespace Race

variable {ι : Type} [DecidableEq ι] {R : Race ι} {i i' : ι}

/-- A race on tables that came about by registrations, in which no call to the store fails but by
    the tables.  The store admits no table whose name has a brace in it. -/
structure Regular (R : Race ι) : Prop where
  reachable : R.start.Reachable
  faultless : R.Faultless
  named : ∀ c ∈ R.registry.recordTable, c.isBrace = false

theorem rivals_regular (caller : Bool → Text) (turn : ℕ → Bool) :
    (rivals caller turn).Regular where
  reachable := ⟨Bool, inferInstance, rivals caller turn, 0, ⟨rfl, rfl⟩, rfl⟩
  faultless _ := rfl
  named c hc := by
    have hplain : (rivals caller turn).registry.recordTable.all (fun c => !c.isBrace) = true := rfl
    simpa using List.all_eq_true.1 hplain c hc

/-- A registration ends with a record. -/
def Succeeds (R : Race ι) (i : ι) : Prop := ∃ k record, R.outcome? i k = some (.ok record)

/-! ## Time -/

theorem outcome_of_le {k k' : ℕ} {x : Except Failure AddressRecord}
    (hx : R.outcome? i k = some x) (hk : k ≤ k') : R.outcome? i k' = some x := by
  induction k', hk using Nat.le_induction with
  | base => exact hx
  | succ k' hk ih =>
    have hidle : ¬R.Acts i k' := fun hact => by
      have hnone := hact.2
      rw [outcome?] at ih
      rw [ih] at hnone
      cases hnone
    rw [outcome?, Run.process_succ_of_not_acts hidle]
    exact ih

theorem Commits.lt_of_outcome {j k : ℕ} (h : R.Commits i j) {x : Except Failure AddressRecord}
    (hx : R.outcome? i k = some x) : j < k := by
  by_contra hjk
  have hj := outcome_of_le hx (Nat.not_lt.1 hjk)
  have hnone : R.outcome? i j = none := h.acts.2
  rw [hnone] at hj
  cases hj

/-! ## Who is put -/

/-- Of two registrations of one caller, or for one nickname, at most one is put. -/
theorem Commits.eq (hp : R.start.Paired) {j j' : ℕ} (h : R.Commits i j) (h' : R.Commits i' j')
    (hsame : (R.application i).caller = (R.application i').caller ∨
      (R.application i).nickname = (R.application i').nickname) : i = i' := by
  -- the later of the two would have found the earlier one in the tables
  have hlate : ∀ {i i' : ι} {j j' : ℕ}, R.Commits i j → R.Commits i' j' →
      ((R.application i).caller = (R.application i').caller ∨
        (R.application i).nickname = (R.application i').nickname) → ¬j < j' := by
    intro i i' j j' h h' hsame hlt
    obtain ⟨now, hholds⟩ := h.holds hp
    obtain ⟨hfree, hunbound⟩ := Tables.admits_iff.1 h'.admits
    rcases hsame with hc | hn
    · rw [← hc, (hholds j' hlt).registered] at hfree; cases hfree
    · rw [← hn, (hholds j' hlt).bound] at hunbound; cases hunbound
  rcases Nat.lt_trichotomy j j' with hlt | rfl | hlt
  · exact absurd hlt (hlate h h' hsame)
  · exact h.1.symm.trans h'.1
  · exact absurd hlt (hlate h' h (hsame.imp Eq.symm Eq.symm))

/-- What is in the tables was there at the start, or was put since. -/
theorem holds_cases {b : Application} {later : Instant} :
    ∀ {k : ℕ}, (R.tables k).Holds b later → R.start.Holds b later ∨
      ∃ i j, j < k ∧ R.Commits i j ∧ b.caller = (R.application i).caller ∧
        b.nickname = (R.application i).nickname
  | 0, h => Or.inl h
  | k + 1, h => by
    have hearlier : (R.tables k).Holds b later → _ := fun h => holds_cases h
    rcases step_cases R k with ⟨ht, -⟩ | ⟨now, hdated, hcommits, -, ht⟩
    · rw [ht] at h
      rcases hearlier h with hstart | ⟨i, j, hj, hrest⟩
      exacts [Or.inl hstart, Or.inr ⟨i, j, by omega, hrest⟩]
    · rw [ht] at h
      rcases h.of_enroll hdated with hold | ⟨hcaller, hnickname⟩
      · rcases hearlier hold with hstart | ⟨i, j, hj, hrest⟩
        exacts [Or.inl hstart, Or.inr ⟨i, j, by omega, hrest⟩]
      · exact Or.inr ⟨R.turn k, k, by omega, hcommits, hcaller, hnickname⟩

namespace Regular

omit [DecidableEq ι] in
theorem paired (h : R.Regular) : R.start.Paired := h.reachable.paired

/-- Whoever is registered and was not at the start was put since. -/
theorem exists_commits_of_registered (h : R.Regular) {k : ℕ} {identity : Text}
    (hstart : R.start.registered identity = false)
    (hk : (R.tables k).registered identity = true) :
    ∃ i j, j < k ∧ R.Commits i j ∧ (R.application i).caller = identity := by
  obtain ⟨a, now, rfl, ha⟩ := (Race.paired h.paired k).of_registered hk
  rcases holds_cases ha with hold | ⟨i, j, hj, hcommits, hcaller, -⟩
  · rw [hold.registered] at hstart; cases hstart
  · exact ⟨i, j, hj, hcommits, hcaller.symm⟩

/-- Whatever nickname is bound and was not at the start was put since. -/
theorem exists_commits_of_bound (h : R.Regular) {k : ℕ} {nickname : Bytes}
    (hstart : R.start.bound nickname = false) (hk : (R.tables k).bound nickname = true) :
    ∃ i j, j < k ∧ R.Commits i j ∧ (R.application i).nickname = nickname := by
  obtain ⟨a, now, rfl, ha⟩ := (Race.paired h.paired k).of_bound hk
  rcases holds_cases ha with hold | ⟨i, j, hj, hcommits, -, hnickname⟩
  · rw [hold.bound] at hstart; cases hstart
  · exact ⟨i, j, hj, hcommits, hnickname.symm⟩

/-! ## Endings -/

/-- A registration is put while it runs, or refused for what is in the tables while it runs. -/
theorem outcome_cases (h : R.Regular) {b e : ℕ} (hb : ∀ j < b, ¬R.Acts i j) (he : b ≤ e)
    {x : Except Failure AddressRecord} (hx : R.outcome? i e = some x) :
    (x = .ok (R.application i).record ∧ ∃ m, b ≤ m ∧ m < e ∧ R.Commits i m) ∨
      R.Passes i b e ∧
        ((x = .error (R.application i).identityTaken ∧
            ∃ m, b ≤ m ∧ m ≤ e ∧ (R.tables m).registered (R.application i).caller = true) ∨
          x = .error (R.application i).nicknameTaken ∧
            ∃ m m', b ≤ m ∧ m ≤ m' ∧ m' ≤ e ∧
              (R.tables m).registered (R.application i).caller = false ∧
              (R.tables m').bound (R.application i).nickname = true) := by
  obtain ⟨k, hk, hke, hsettled⟩ := settled h.paired h.faultless h.named he hb hx
  cases hsettled with
  | @put m m' _ now h1 hputs h3 =>
    obtain ⟨rfl, hcommits⟩ : m' = m + 1 ∧ R.Commits i m := hputs
    have h1 : R.Passes i b m := h1
    have h3 : R.Passes i (m + 1) k := h3
    exact Or.inl ⟨rfl, m, h1.1, h3.1.trans hke.1, hcommits⟩
  | @refused e' _ hchecked =>
    have hpasses : R.Passes i b k := hchecked.passes
    refine Or.inr ⟨hpasses.trans hke, ?_⟩
    cases hchecked with
    | @registered m _ h1 h2 hreg =>
      have h1 : R.Passes i b m := h1
      have h2 : R.Passes i m k := h2
      exact Or.inl ⟨rfl, m, h1.1, h2.1.trans hke.1, hreg⟩
    | @bound m m' _ h1 h2 h3 hfree hbound =>
      have h1 : R.Passes i b m := h1
      have h2 : R.Passes i m m' := h2
      have h3 : R.Passes i m' k := h3
      exact Or.inr ⟨rfl, m, m', h1.1, h2.1, h3.1.trans hke.1, hfree, hbound⟩

/-- A registration ends with its record exactly if it was put. -/
theorem ok_iff_commits (h : R.Regular) {k : ℕ} {x : Except Failure AddressRecord}
    (hx : R.outcome? i k = some x) : (∃ record, x = .ok record) ↔ ∃ j < k, R.Commits i j := by
  rcases h.outcome_cases (b := 0) (by simp) (Nat.zero_le k) hx with
    ⟨rfl, m, -, hm, hcommits⟩ | ⟨hpasses, hrefused⟩
  · exact ⟨fun _ => ⟨m, hm, hcommits⟩, fun _ => ⟨_, rfl⟩⟩
  · refine ⟨?_, fun ⟨j, hj, hcommits⟩ => absurd hcommits (hpasses.2 j (Nat.zero_le j) hj)⟩
    rintro ⟨record, rfl⟩
    rcases hrefused with ⟨he, -⟩ | ⟨he, -⟩ <;> cases he

theorem succeeds_iff (h : R.Regular) {k : ℕ} {x : Except Failure AddressRecord}
    (hx : R.outcome? i k = some x) : R.Succeeds i ↔ ∃ j, R.Commits i j := by
  constructor
  · rintro ⟨k', record, hx'⟩
    obtain ⟨j, -, hcommits⟩ := (h.ok_iff_commits hx').1 ⟨record, rfl⟩
    exact ⟨j, hcommits⟩
  · rintro ⟨j, hcommits⟩
    obtain ⟨record, rfl⟩ := (h.ok_iff_commits hx).2 ⟨j, hcommits.lt_of_outcome hx, hcommits⟩
    exact ⟨k, record, hx⟩

theorem exists_commits_of_succeeds (h : R.Regular) (hi : R.Succeeds i) : ∃ j, R.Commits i j := by
  obtain ⟨k, record, hx⟩ := hi
  exact (h.succeeds_iff hx).1 ⟨k, record, hx⟩

end Regular

/-! ## Contests -/

/-- One or more callers contend for a nickname: neither it nor they are bound at the start, they
    are all different and apply for nothing else, and each of them comes to an end. -/
structure Contest (R : Race ι) (nickname : Bytes) : Prop where
  unbound : R.start.bound nickname = false
  entered : ∃ i, (R.application i).nickname = nickname
  unregistered : ∀ i, (R.application i).nickname = nickname →
    R.start.registered (R.application i).caller = false
  distinct : ∀ i i', (R.application i).nickname = nickname →
    (R.application i').nickname = nickname →
    (R.application i).caller = (R.application i').caller → i = i'
  faithful : ∀ i i', (R.application i).nickname = nickname →
    (R.application i').caller = (R.application i).caller → (R.application i').nickname = nickname
  ended : ∀ i, (R.application i).nickname = nickname → ∃ k x, R.outcome? i k = some x

/-- Somebody who contends for the nickname is put. -/
theorem Contest.exists_commits {nickname : Bytes} (hc : R.Contest nickname) (h : R.Regular) :
    ∃ i j, (R.application i).nickname = nickname ∧ R.Commits i j := by
  obtain ⟨i, hi⟩ := hc.entered
  obtain ⟨k, x, hx⟩ := hc.ended i hi
  rcases h.outcome_cases (b := 0) (by simp) (Nat.zero_le k) hx with
    ⟨-, m, -, -, hcommits⟩ | ⟨-, ⟨-, m, -, -, hreg⟩ | ⟨-, -, m, -, -, -, -, hbound⟩⟩
  · exact ⟨i, m, hi, hcommits⟩
  · obtain ⟨i', j, -, hcommits, hcaller⟩ :=
      h.exists_commits_of_registered (hc.unregistered i hi) hreg
    exact ⟨i', j, hc.faithful i i' hi hcaller, hcommits⟩
  · rw [hi] at hbound
    obtain ⟨i', j, -, hcommits, hn⟩ := h.exists_commits_of_bound hc.unbound hbound
    exact ⟨i', j, hn, hcommits⟩

theorem Contest.existsUnique {nickname : Bytes} (hc : R.Contest nickname) (h : R.Regular) :
    ∃! i, (R.application i).nickname = nickname ∧ R.Succeeds i := by
  obtain ⟨i, j, hi, hcommits⟩ := hc.exists_commits h
  obtain ⟨k, x, hx⟩ := hc.ended i hi
  refine ⟨i, ⟨hi, (h.succeeds_iff hx).2 ⟨j, hcommits⟩⟩, ?_⟩
  rintro i' ⟨hi', hsucceeds⟩
  obtain ⟨j', hcommits'⟩ := h.exists_commits_of_succeeds hsucceeds
  exact hcommits'.eq h.paired hcommits (Or.inr (hi'.trans hi.symm))

/-! ## All about the endings -/

/-- How the registrations of a race end, and what is looked up after that. -/
structure Outcomes (R : Race ι) : Prop where
  ends : ∀ i k x, R.outcome? i k = some x → x = .ok (R.application i).record ∨
    x = .error (R.application i).identityTaken ∨ x = .error (R.application i).nicknameTaken
  ok_iff : ∀ i k x, R.outcome? i k = some x →
    ((∃ record, x = .ok record) ↔ ∃ j < k, R.Commits i j)
  found : ∀ i j, R.Commits i j → ∀ k, j < k → ∀ w : World, w.IsQuiet → w.tables = R.tables k →
    ((R.registry.getRecord (.str (R.application i).caller)).run w).1 =
        .ok (R.application i).record ∧
      ((R.registry.resolveNickname (R.application i).nickname).run w).1 =
        .ok (.str (R.application i).caller)
  one_by_identity : ∀ i i', R.Succeeds i → R.Succeeds i' →
    (R.application i).caller = (R.application i').caller → i = i'
  one_by_nickname : ∀ i i', R.Succeeds i → R.Succeeds i' →
    (R.application i).nickname = (R.application i').nickname → i = i'
  registered_when_told : ∀ i k, R.outcome? i k = some (.error (R.application i).identityTaken) →
    (R.tables k).registered (R.application i).caller = true
  bound_when_told : ∀ i k, R.outcome? i k = some (.error (R.application i).nicknameTaken) →
    (R.tables k).bound (R.application i).nickname = true
  one_of_contest : ∀ nickname, R.Contest nickname →
    ∃! i, (R.application i).nickname = nickname ∧ R.Succeeds i

/-- **Racing registrations end as they should**: with what was put, or with what was in the way;
    one caller at most is put for each identity and each nickname. -/
theorem outcomes {ι : Type} [DecidableEq ι] (R : Race ι) (h : R.Regular) : R.Outcomes where
  ends i k x hx := by
    rcases h.outcome_cases (b := 0) (by simp) (Nat.zero_le k) hx with
      ⟨hok, -⟩ | ⟨-, ⟨htaken, -⟩ | ⟨htaken, -⟩⟩
    exacts [Or.inl hok, Or.inr (Or.inl htaken), Or.inr (Or.inr htaken)]
  ok_iff i k x hx := h.ok_iff_commits hx
  found i j hcommits k hk w hw ht := by
    obtain ⟨now, hholds⟩ := hcommits.holds h.paired
    have hp := paired h.paired k
    exact ⟨(hholds k hk).getRecord hp hw ht, (hholds k hk).resolveNickname hp hw ht⟩
  one_by_identity i i' hi hi' hcaller := by
    obtain ⟨j, hcommits⟩ := h.exists_commits_of_succeeds hi
    obtain ⟨j', hcommits'⟩ := h.exists_commits_of_succeeds hi'
    exact hcommits.eq h.paired hcommits' (Or.inl hcaller)
  one_by_nickname i i' hi hi' hnickname := by
    obtain ⟨j, hcommits⟩ := h.exists_commits_of_succeeds hi
    obtain ⟨j', hcommits'⟩ := h.exists_commits_of_succeeds hi'
    exact hcommits.eq h.paired hcommits' (Or.inr hnickname)
  registered_when_told i k hx := by
    rcases h.outcome_cases (b := 0) (by simp) (Nat.zero_le k) hx with
      ⟨hok, -⟩ | ⟨-, ⟨-, m, -, hm, hreg⟩ | ⟨htaken, -⟩⟩
    · cases hok
    · exact (kept h.paired hm).registered hreg
    · cases htaken
  bound_when_told i k hx := by
    rcases h.outcome_cases (b := 0) (by simp) (Nat.zero_le k) hx with
      ⟨hok, -⟩ | ⟨-, ⟨htaken, -⟩ | ⟨-, -, m, -, -, hm, -, hbound⟩⟩
    · cases hok
    · cases htaken
    · exact (kept h.paired hm).bound hbound
  one_of_contest nickname hc := hc.existsUnique h

set_option maxRecDepth 4000 in
theorem contest_outcomes : contest.Regular ∧ contest.Contest (List.replicate 21 1) ∧
    contest.outcome? true 18 = some (.error (contest.application true).nicknameTaken) ∧
    ∃! i, (contest.application i).nickname = List.replicate 21 1 ∧ contest.Succeeds i := by
  have hfirst : contest.outcome? false 12 = some (.ok (contest.application false).record) := rfl
  have hsecond : contest.outcome? true 18 =
      some (.error (contest.application true).nicknameTaken) := rfl
  have hcontest : contest.Contest (List.replicate 21 1) :=
    { unbound := rfl
      entered := ⟨false, rfl⟩
      unregistered := fun _ _ => rfl
      distinct := by
        intro i i' _ _ hcaller
        cases i <;> cases i' <;> first | rfl | exact absurd hcaller (by decide)
      faithful := fun _ _ _ _ => rfl
      ended := fun i _ => by
        cases i
        exacts [⟨12, _, hfirst⟩, ⟨18, _, hsecond⟩] }
  have hregular : contest.Regular := rivals_regular _ _
  exact ⟨hregular, hcontest, hsecond, (outcomes contest hregular).one_of_contest _ hcontest⟩

end Race

end Rendezvous
