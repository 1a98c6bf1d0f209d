import Mathlib.Data.List.Nodup
import SitBank.Attempts.RegistrationOtp

/-!
Each registration code is compared at most five times and accepted at most once,
as long as verifications do not overlap.

The attempts of the stored code are in its row, except that of a verification
which has not committed yet. If there is at most one of these, and it writes its
attempt to the row that it has read, then the row counts every comparison. A
resend starts a new issue with the next number, so nothing is known of it before.
-/

namespace SitBank.Attempts.Registration

open SitBank.Interaction

/-- A code is compared while its challenge is as it was read and no other
verification of the same code is under way; an attempt is counted in the challenge
as it was read, unless that is gone; and a code is accepted while its challenge
is as it was read, and no later than its expiry if it had not expired when it was
tested. -/
def undisturbed (_ : ℕ) (o : OtpOp) (w : OtpWorld) : Prop :=
  match o with
  | .compare seen _ => w.row = some seen ∧ seen.issue ∉ w.pending
  | .count seen _ => w.row = some seen ∨ w.row = none
  | .delete seen (.accepted tested) =>
      w.row = some seen ∧ (tested < seen.expiresAt → w.clock < seen.expiresAt)
  | _ => True

/-! ### What the handlers write -/

/-- An attempt is counted one up, and below the maximum; and a code is accepted after a
test that it had not expired. -/
def Counts : OtpOp → Prop
  | .count seen attempts =>
      attempts = seen.attemptCount + 1 ∧ attempts < registrationOtpMaxAttempts
  | .delete seen (.accepted tested) => tested < seen.expiresAt
  | _ => True

/-- What the stored challenge says about its code. -/
structure Tallied (w : OtpWorld) (r : Challenge) : Prop where
  few : r.attemptCount < registrationOtpMaxAttempts
  counted : w.compared.count r.issue ≤ r.attemptCount + w.pending.count r.issue
  issued : r.issue < w.nextIssue
  open_ : r.issue ∉ w.accepted.map OtpAcceptance.issue

structure OtpOk (w : OtpWorld) : Prop where
  row : ∀ r, w.row = some r → Tallied w r
  bounded : ∀ i, w.compared.count i ≤ registrationOtpMaxAttempts
  compared_lt : ∀ i ∈ w.compared, i < w.nextIssue
  accepted_lt : ∀ a ∈ w.accepted, a.issue < w.nextIssue
  nodup : (w.accepted.map OtpAcceptance.issue).Nodup
  inForce : ∀ a ∈ w.accepted, a.inForce = true

section Statements

variable {w : OtpWorld}

theorem OtpOk.tick (h : OtpOk w) (clock : ℕ) : OtpOk { w with clock := clock } :=
  ⟨fun r hr => ⟨(h.row r hr).few, (h.row r hr).counted, (h.row r hr).issued, (h.row r hr).open_⟩,
    h.bounded, h.compared_lt, h.accepted_lt, h.nodup, h.inForce⟩

/-- The row goes, or stays as it is. -/
theorem OtpOk.filter (h : OtpOk w) (p : Challenge → Bool) :
    OtpOk { w with row := w.row.filter p } where
  row r hr := by
    obtain ⟨hr, -⟩ := Option.filter_eq_some_iff.mp hr
    have := h.row r hr
    exact ⟨this.few, this.counted, this.issued, this.open_⟩
  bounded := h.bounded
  compared_lt := h.compared_lt
  accepted_lt := h.accepted_lt
  nodup := h.nodup
  inForce := h.inForce

theorem OtpOk.compare (h : OtpOk w) {seen : Challenge} (hrow : w.row = some seen)
    (hfree : seen.issue ∉ w.pending) :
    OtpOk { w with
      compared := w.compared ++ [seen.issue]
      pending := w.pending ++ [seen.issue] } := by
  obtain ⟨hfew, hcounted, hissued, hopen⟩ := h.row seen hrow
  rw [List.count_eq_zero_of_not_mem hfree] at hcounted
  refine ⟨fun r hr => ?_, fun i => ?_, fun i hi => ?_, h.accepted_lt, h.nodup, h.inForce⟩
  · cases hrow.symm.trans hr
    refine ⟨hfew, ?_, hissued, hopen⟩
    simp only [List.count_append, List.count_singleton_self]
    omega
  · rw [List.count_append]
    by_cases hi : i = seen.issue
    · subst hi
      rw [List.count_singleton_self]
      omega
    · rw [List.count_singleton, if_neg (by simpa using Ne.symm hi)]
      exact h.bounded i
  · rcases List.mem_append.mp hi with hi | hi
    · exact h.compared_lt i hi
    · rw [List.mem_singleton.mp hi]
      exact hissued

theorem OtpOk.count (h : OtpOk w) {seen : Challenge} {attempts : ℕ}
    (hattempts : attempts = seen.attemptCount + 1 ∧ attempts < registrationOtpMaxAttempts)
    (hrow : w.row = some seen ∨ w.row = none) : OtpOk (w.count seen attempts).2 := by
  unfold OtpWorld.count
  rcases hrow with hrow | hrow
  · obtain ⟨-, hcounted, hissued, hopen⟩ := h.row seen hrow
    rw [hrow]
    dsimp only
    rw [if_pos rfl]
    refine ⟨?_, h.bounded, h.compared_lt, h.accepted_lt, h.nodup, h.inForce⟩
    rintro r ⟨rfl⟩
    refine ⟨hattempts.2, ?_, hissued, hopen⟩
    -- one pending comparison less, one counted more
    have herase : w.pending.count seen.issue ≤
          (w.pending.erase seen.issue).count seen.issue + 1 := by
      rw [List.count_erase_self]
      omega
    dsimp only
    omega
  · rw [hrow]
    exact h

theorem OtpOk.accept (h : OtpOk w) {seen : Challenge} {tested : ℕ} (hrow : w.row = some seen)
    (hclock : w.clock < seen.expiresAt) : OtpOk (w.delete seen (.accepted tested)) := by
  obtain ⟨-, -, hissued, hopen⟩ := h.row seen hrow
  have hgone : (w.delete seen (.accepted tested)).row = none := by
    simp [OtpWorld.delete, hrow]
  have haccepted : (w.delete seen (.accepted tested)).accepted =
      w.accepted ++ [⟨seen.issue, true⟩] := by
    simp [OtpWorld.delete, hrow, hclock]
  refine ⟨fun r hr => ?_, h.bounded, h.compared_lt, fun a ha => ?_, ?_, fun a ha => ?_⟩
  · rw [hgone] at hr
    cases hr
  · rw [haccepted] at ha
    rcases List.mem_append.mp ha with ha | ha
    · exact h.accepted_lt a ha
    · rw [List.mem_singleton.mp ha]
      exact hissued
  · rw [haccepted, List.map_append]
    refine List.nodup_append.mpr ⟨h.nodup, by simp, ?_⟩
    rintro i hi j hj rfl
    rw [List.mem_singleton.mp hj] at hi
    exact hopen hi
  · rw [haccepted] at ha
    rcases List.mem_append.mp ha with ha | ha
    · exact h.inForce a ha
    · rw [List.mem_singleton.mp ha]

/-- A new issue has not been compared or accepted. -/
theorem OtpOk.issue (h : OtpOk w) {r : Challenge} {nextId : ℕ} (hissue : r.issue = w.nextIssue)
    (hfew : r.attemptCount < registrationOtpMaxAttempts) :
    OtpOk { w with row := some r, nextId := nextId, nextIssue := w.nextIssue + 1 } := by
  refine ⟨?_, h.bounded, fun i hi => ?_, fun a ha => ?_, h.nodup, h.inForce⟩
  · rintro _ ⟨rfl⟩
    have hnew : r.issue ∉ w.compared := fun hmem => by
      have := h.compared_lt _ hmem
      omega
    refine ⟨hfew, ?_, ?_, fun hmem => ?_⟩
    · show w.compared.count r.issue ≤ _
      rw [List.count_eq_zero_of_not_mem hnew]
      exact Nat.zero_le _
    · show r.issue < w.nextIssue + 1
      omega
    · obtain ⟨a, ha, hai⟩ := List.mem_map.mp hmem
      have := h.accepted_lt a ha
      omega
  · exact Nat.lt_succ_of_lt (h.compared_lt i hi)
  · exact Nat.lt_succ_of_lt (h.accepted_lt a ha)

theorem OtpOk.insert (h : OtpOk w) (otpHmac : String) (resendAvailableAt expiresAt : ℕ) :
    OtpOk (w.insert otpHmac resendAvailableAt expiresAt).2 := by
  unfold OtpWorld.insert
  split
  · exact h
  · exact h.issue rfl (Nat.zero_lt_succ 4)

theorem OtpOk.reissue (h : OtpOk w) (seen : Challenge) (otpHmac : String)
    (resendAvailableAt expiresAt : ℕ) :
    OtpOk (w.reissue seen otpHmac resendAvailableAt expiresAt).2 := by
  unfold OtpWorld.reissue
  split
  · next r hr =>
      split
      · refine h.issue rfl ?_
        dsimp only
        split
        · exact (h.row r hr).few
        · exact Nat.zero_lt_succ 4
      · exact h
  · exact h

theorem OtpOk.delete (h : OtpOk w) {seen : Challenge} {reason : Deletion}
    (hreason : ∀ tested, reason ≠ .accepted tested) : OtpOk (w.delete seen reason) := by
  cases reason with
  | accepted tested => exact absurd rfl (hreason tested)
  | expired | locked | undelivered => exact h.filter _

/-- A statement that fails leaves everything as it was. -/
theorem OtpOk.orFail {α : Type} {p : Except OtpError α × OtpWorld} (h : OtpOk w) (hp : OtpOk p.2)
    (fail : Bool) : OtpOk (if fail then (.error .operational, w) else p).2 := by
  cases fail
  · exact hp
  · exact h

theorem OtpOk.act (o : OtpOp) (c : OtpChoice) (hcounts : Counts o) {t : ℕ}
    (hcond : undisturbed t o w) (h : OtpOk w) : OtpOk (otpAct o c w).2 := by
  cases o with
  | ask | time | randbelow | load => exact h
  | compare seen submittedHmac => exact h.compare hcond.1 hcond.2
  | count seen attempts => exact h.orFail (h.count hcounts hcond) c.fail
  | delete seen reason =>
      have hdelete : OtpOk (w.delete seen reason) := by
        cases reason with
        | accepted tested => exact h.accept hcond.1 (hcond.2 hcounts)
        | expired | locked | undelivered => exact h.delete nofun
      exact h.orFail (p := (.ok (), _)) hdelete c.fail
  | insert otpHmac resendAvailableAt expiresAt => exact h.orFail (h.insert ..) c.fail
  | reissue seen otpHmac resendAvailableAt expiresAt => exact h.orFail (h.reissue ..) c.fail
  | deleteExpired currentTime => exact h.orFail (p := (.ok (), _)) (h.filter _) c.fail

end Statements

/-! ### Runs -/

instance (t : ℕ) (o : OtpOp) (w : OtpWorld) : Decidable (undisturbed t o w) :=
  match o with
  | .compare seen _ => inferInstanceAs (Decidable (w.row = some seen ∧ seen.issue ∉ w.pending))
  | .count seen _ => inferInstanceAs (Decidable (w.row = some seen ∨ w.row = none))
  | .delete seen (.accepted tested) => inferInstanceAs (Decidable
      (w.row = some seen ∧ (tested < seen.expiresAt → w.clock < seen.expiresAt)))
  | .delete _ .expired => inferInstanceAs (Decidable True)
  | .delete _ .locked => inferInstanceAs (Decidable True)
  | .delete _ .undelivered => inferInstanceAs (Decidable True)
  | .ask _ => inferInstanceAs (Decidable True)
  | .time => inferInstanceAs (Decidable True)
  | .randbelow _ => inferInstanceAs (Decidable True)
  | .load => inferInstanceAs (Decidable True)
  | .insert _ _ _ => inferInstanceAs (Decidable True)
  | .reissue _ _ _ _ => inferInstanceAs (Decidable True)
  | .deleteExpired _ => inferInstanceAs (Decidable True)

/-- Thread `t` performs its next operations with these answers; the number drawn is
7, and no time passes. -/
def answers (t : ℕ) (yes : List Bool) : List (ℕ × OtpChoice) :=
  yes.map fun b => (t, ⟨b, 7, false, 0⟩)

/-- One thread is up to its comparison. -/
def compares (t : ℕ) : List (ℕ × OtpChoice) := answers t [true, true, true, true]

end SitBank.Attempts.Registration
