/-
  Registrations at the same time, as if each happened in one step.

  A registration in one step is refused if the caller has a record, or else if the
  nickname is bound.  The checks of a registration take two steps, and between them
  another request of the same caller may get ahead: the caller was still free when it
  was looked up, and the nickname is bound when it is looked up.

  * `Race.linearizes_iff`: this is the only way in which a registration ends as none in
    one step would;
  * `Race.twins_not_linearizes`: and it happens.
-/
import Rendezvous.Proofs.Outcomes

namespace Rendezvous

namespace Race

variable {ι : Type} [DecidableEq ι] {R : Race ι} {i : ι} {b e : ℕ}

/-- A registration that ran from one moment to another ends as it would in one step at some moment
    in between. -/
def Linearizes (R : Race ι) (i : ι) (b e : ℕ) (x : Except Failure AddressRecord) : Prop :=
  ∃ k, b ≤ k ∧ k ≤ e ∧ x = (R.tables k).verdict (R.application i)

/-- While a registration ran, another one of the same caller was put when the nickname of the
    first was not bound yet. -/
def Overtaken (R : Race ι) (i : ι) (b e : ℕ) : Prop :=
  ∃ i' k, i' ≠ i ∧ b ≤ k ∧ k < e ∧ R.Commits i' k ∧
    (R.application i').caller = (R.application i).caller ∧
    (R.tables k).bound (R.application i).nickname = false

/-- Where another registration of the same caller got ahead, no moment is left at which the
    nickname alone would be in the way. -/
theorem Overtaken.not_bound_only (hp : R.start.Paired) (h : R.Overtaken i b e) (k : ℕ) :
    (R.tables k).registered (R.application i).caller = true ∨
      (R.tables k).bound (R.application i).nickname = false := by
  obtain ⟨i', m, -, -, -, hcommits, hcaller, hunbound⟩ := h
  rcases Nat.lt_or_ge m k with hlt | hge
  · obtain ⟨now, hholds⟩ := hcommits.holds hp
    exact Or.inl (hcaller ▸ (hholds k hlt).registered)
  · exact Or.inr ((kept hp hge).unbound hunbound)

/-- A caller that becomes registered is registered by a step. -/
theorem exists_commits_between {m m' : ℕ} (hp : R.start.Paired) {identity : Text}
    (hm : (R.tables m).registered identity = false)
    (hm' : (R.tables m').registered identity = true) :
    ∃ k, m ≤ k ∧ k < m' ∧ (R.tables k).registered identity = false ∧
      R.Commits (R.turn k) k ∧ (R.application (R.turn k)).caller = identity := by
  obtain ⟨d, hbefore, hafter⟩ := Nat.exists_not_and_succ_of_not_zero_of_exists
    (p := fun d => (R.tables (m + d)).registered identity = true) (by simpa using hm)
    ⟨m' - m, by
      have hle : m' ≤ m + (m' - m) := by omega
      exact (kept hp hle).registered hm'⟩
  have hfree : (R.tables (m + d)).registered identity = false := by simpa using hbefore
  refine ⟨m + d, by omega, ?_, hfree, ?_⟩
  · by_contra hle
    exact hbefore ((kept hp (Nat.not_lt.1 hle)).registered hm')
  · rcases step_cases R (m + d) with ⟨ht, -⟩ | ⟨now, hdated, hcommits, -, ht⟩
    · have hsame : (R.tables (m + d + 1)).registered identity = true := hafter
      rw [ht] at hsame
      exact absurd hsame hbefore
    · refine ⟨hcommits, ?_⟩
      obtain ⟨a, later, rfl, hholds⟩ := (paired hp (m + d + 1)).of_registered hafter
      rw [ht] at hholds
      rcases hholds.of_enroll hdated with hold | ⟨hcaller, -⟩
      · exact absurd hold.registered hbefore
      · exact hcaller.symm

/-- **When a registration ends as it would in one step**: always, unless it is told that the
    nickname is taken while another registration of the same caller got ahead. -/
theorem linearizes_iff {ι : Type} [DecidableEq ι] (R : Race ι) (h : R.Regular) (i : ι) {b e : ℕ}
    (hb : ∀ j < b, ¬R.Acts i j) (he : b ≤ e) {x : Except Failure AddressRecord}
    (hx : R.outcome? i e = some x) :
    R.Linearizes i b e x ↔
      ¬(x = .error (R.application i).nicknameTaken ∧ R.Overtaken i b e) := by
  constructor
  · rintro ⟨k, -, -, rfl⟩ ⟨htaken, hover⟩
    obtain ⟨hfree, hbound⟩ := Tables.verdict_eq_nicknameTaken htaken
    rcases hover.not_bound_only h.paired k with hreg | hunbound
    · rw [hreg] at hfree; cases hfree
    · rw [hunbound] at hbound; cases hbound
  · intro hnot
    rcases h.outcome_cases hb he hx with
      ⟨rfl, m, hm, hme, hcommits⟩ | ⟨hpasses, ⟨rfl, m, hm, hme, hreg⟩ |
        ⟨rfl, m, m', hm, hmm', hme, hfree, hbound⟩⟩
    · exact ⟨m, hm, hme.le, (Tables.verdict_admits hcommits.admits).symm⟩
    · exact ⟨m, hm, hme, (Tables.verdict_registered hreg).symm⟩
    · by_contra hlin
      -- whenever the caller is still free, so is the nickname
      have hunbound : ∀ k, b ≤ k → k ≤ e →
          (R.tables k).registered (R.application i).caller = false →
          (R.tables k).bound (R.application i).nickname = false := by
        intro k hk hke hk'
        by_contra hbound'
        exact hlin ⟨k, hk, hke, (Tables.verdict_bound hk' (by simpa using hbound')).symm⟩
      have hreg : (R.tables m').registered (R.application i).caller = true := by
        by_contra hfree'
        rw [hunbound m' (hm.trans hmm') hme (by simpa using hfree')] at hbound
        cases hbound
      obtain ⟨k, hmk, hkm', hfree', hcommits, hcaller⟩ :=
        exists_commits_between h.paired hfree hreg
      have hne : R.turn k ≠ i := fun hturn =>
        hpasses.2 k (by omega) (by omega) (hturn ▸ hcommits)
      exact hnot ⟨rfl, R.turn k, k, hne, by omega, by omega, hcommits, hcaller,
        hunbound k (by omega) (by omega) hfree'⟩

set_option maxRecDepth 4000 in
theorem contest_linearizes : contest.Regular ∧ (∀ j < 5, ¬contest.Acts true j) ∧ 5 ≤ 18 ∧
    contest.outcome? true 18 = some (.error (contest.application true).nicknameTaken) ∧
    contest.Linearizes true 5 18 (.error (contest.application true).nicknameTaken) := by
  have hregular : contest.Regular := rivals_regular _ _
  have hidle : ∀ j < 5, ¬contest.Acts true j := by
    rintro j hj ⟨hturn, -⟩
    have hturn : (5 ≤ j && j < 10 || 12 ≤ j) = true := hturn
    simp only [Bool.or_eq_true, Bool.and_eq_true, decide_eq_true_eq] at hturn
    omega
  have hend : contest.outcome? true 18 =
      some (.error (contest.application true).nicknameTaken) := rfl
  refine ⟨hregular, hidle, by decide, hend, ?_⟩
  refine (linearizes_iff contest hregular true hidle (by decide) hend).2 ?_
  rintro ⟨-, i', k, hne, -, -, -, hcaller, -⟩
  cases i'
  · exact absurd hcaller (by decide)
  · exact hne rfl

/-- Two requests of one caller: the first is told that the nickname is taken, which belongs to
    the same caller, and no moment would tell it so in one step. -/
theorem twins_not_linearizes :
    twins.outcome? false 12 = some (.error (twins.application false).nicknameTaken) ∧
      (∀ i, (twins.application i).caller = "ann") ∧
      ¬twins.Linearizes false 0 12 (.error (twins.application false).nicknameTaken) := by
  refine ⟨rfl, fun i => rfl, ?_⟩
  rintro ⟨k, -, hk, htaken⟩
  obtain ⟨hfree, hbound⟩ := Tables.verdict_eq_nicknameTaken htaken.symm
  have hboth : ∀ k ≤ 12, (twins.tables k).registered "ann" = true ∨
      (twins.tables k).bound (List.replicate 21 1) = false := by decide +kernel
  rcases hboth k hk with hreg | hunbound
  · exact absurd (hreg.symm.trans hfree) (by decide)
  · exact absurd (hunbound.symm.trans hbound) (by decide)

end Race

end Rendezvous
