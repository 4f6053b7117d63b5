/-
  Identities and nicknames are bound one to one, and for good.

  * `Tables.OneToOne`: records and bindings are inverse to each other;
  * `Race.oneToOne_always`: they are at every moment of every race that starts with
    nothing registered, and no later step changes what is bound.
-/
import Rendezvous.Proofs.Race

namespace Rendezvous

/-- Identities and nicknames are bound one to one, by whole registrations. -/
structure Tables.OneToOne (t : Tables) : Prop where
  inverse : ∀ identity nickname, t.Records identity nickname ↔ t.Binds nickname identity
  one_nickname : ∀ identity nickname nickname', t.Binds nickname identity →
    t.Binds nickname' identity → nickname = nickname'
  one_identity : ∀ nickname identity identity', t.Records identity nickname →
    t.Records identity' nickname → identity = identity'
  whole : t.Paired

theorem Tables.Paired.oneToOne {t : Tables} (h : t.Paired) : t.OneToOne where
  inverse _ _ := h.records_iff_binds
  one_nickname identity nickname nickname' hn hn' := by
    obtain ⟨a, now, hcaller, rfl, ha⟩ := h.binds_iff.1 hn
    obtain ⟨b, later, hcaller', rfl, hb⟩ := h.binds_iff.1 hn'
    exact (ha.eq_of_caller hb (hcaller.trans hcaller'.symm)).1
  one_identity nickname identity identity' hi hi' := by
    obtain ⟨a, now, rfl, hn, ha⟩ := h.records_iff.1 hi
    obtain ⟨b, later, rfl, hn', hb⟩ := h.records_iff.1 hi'
    exact ha.eq_of_nickname hb (hn.trans hn'.symm)
  whole := h

namespace Race

/-- **Identities and nicknames are bound one to one, and for good**: however many callers
    register at the same time, whatever calls to the store fail. -/
theorem oneToOne_always {ι : Type} [DecidableEq ι] (R : Race ι) (h : R.start.Vacant) (k : ℕ) :
    (R.tables k).OneToOne ∧ ∀ k', k ≤ k' → (R.tables k).Kept (R.tables k') :=
  ⟨(paired h.paired k).oneToOne, fun _ hk => kept h.paired hk⟩

theorem twins_oneToOne : twins.start.Vacant ∧ (twins.tables 9).registered "ann" = true ∧
    (twins.tables 9).OneToOne ∧ ∀ k', 9 ≤ k' → (twins.tables 9).Kept (twins.tables k') :=
  ⟨⟨rfl, rfl⟩, rfl, oneToOne_always twins ⟨rfl, rfl⟩ 9⟩

end Race

end Rendezvous
