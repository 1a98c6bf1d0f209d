import Mathlib.Control.Monad.Basic
import SitBank.Admin.ActionDecisions
import SitBank.Admin.RequestIntegrity

/-!
Two sessions that find a request pending both act on it: one executes it, the other one
rejects it afterwards, or fails to execute it again and says so. In runs in which the
status is still what a session has tested when the session executes or writes, in which
the operations that other sessions have committed are recorded by then, and in which a
session that has committed the operation goes on to record it, the operation and the
status of the request agree, and what is decided stays decided.
-/

namespace SitBank.Admin.ActionDecisions

open SitBank.Interaction

/-- The status is what the session has tested, and what the other sessions have executed
is recorded. -/
def Unchanged (t : ℕ) (tested : ActionStatus) (w : DecisionWorld) : Prop :=
  w.row.status = tested ∧ ∀ u ∈ w.executions, u ≠ t → w.row.status = .executed

/-- Sessions act on what is still as they have tested it, and one that has executed the
operation records it. -/
def undisturbed (t : ℕ) (o : DecisionOp) (w : DecisionWorld) : Prop :=
  match o with
  | .execute tested => Unchanged t tested w
  | .store tested _ _ change =>
      Unchanged t tested w ∧ (change.status = .executionFailed → t ∉ w.executions)
  | .lose => t ∉ w.executions
  | _ => True

/-- The request is pending, and no other session has executed it. -/
def Free (t : ℕ) (w : DecisionWorld) : Prop :=
  w.row.status = .pending ∧ ∀ u ∈ w.executions, u = t

/-- This is where the test of the status is needed. -/
theorem Unchanged.free {t : ℕ} {w : DecisionWorld} (h : Unchanged t .pending w) : Free t w := by
  refine ⟨h.1, fun u hu => ?_⟩
  apply Decidable.byContradiction
  intro hne
  have hexecuted := h.2 u hu hne
  rw [h.1] at hexecuted
  cases hexecuted

structure DecisionOk (w : DecisionWorld) : Prop where
  once : w.executions.length ≤ 1
  recorded : w.row.status = .executed → w.executions ≠ []
  undecided : w.executions ≠ [] → w.row.status = .executed ∨ w.row.status = .pending
  apart : ∀ a ∈ w.row.approverId, a ≠ w.row.requesterId

/-- What session `t` can rely on. -/
structure Kept (t : ℕ) (w w' : DecisionWorld) : Prop where
  requester : w'.row.requesterId = w.row.requesterId
  decided : w.row.status ≠ .pending → w'.row.status = w.row.status
  own : t ∈ w'.executions ↔ t ∈ w.executions

def decisionRules : Rules DecisionOp DecisionWorld where
  rely := Kept
  guar t w w' := ∀ u, u ≠ t → Kept u w w'
  inv := DecisionOk
  cond := undisturbed

theorem Kept.refl (t : ℕ) (w : DecisionWorld) : Kept t w w := ⟨rfl, fun _ => rfl, Iff.rfl⟩

theorem Kept.trans {t : ℕ} {w₁ w₂ w₃ : DecisionWorld} (h : Kept t w₁ w₂) (h' : Kept t w₂ w₃) :
    Kept t w₁ w₃ where
  requester := h'.requester.trans h.requester
  decided hne := by
    have heq := h.decided hne
    rw [h'.decided (heq ▸ hne), heq]
  own := h'.own.trans h.own

theorem decisionRules_sound : decisionRules.Sound where
  refl := Kept.refl
  trans _ _ _ _ := Kept.trans
  others _ _ _ _ hne _ hg := hg _ (Ne.symm hne)

/-! ### One commit -/

section Commits

variable {t : ℕ} {executes : Bool} {record : Option DecisionRow} {change : Change}
  {row : DecisionRow} {w w' : DecisionWorld}

@[simp] theorem assign_status : (change.assign row).status = change.status := by
  cases change <;> rfl

theorem status_ne_pending (change : Change) : change.status ≠ .pending := by
  cases change <;> exact nofun

@[simp] theorem write_requesterId : (change.write record row).requesterId = row.requesterId := by
  cases record with
  | some old => rfl
  | none => cases change <;> rfl

/-- The reviewer whom a change names. -/
def Change.approver : Change → Option ℤ
  | .execute approver _ => some approver
  | .reject approver _ => some approver
  | .fail approver _ => some approver
  | .cancel _ => none
  | .expire _ => none

theorem mem_assign_approverId {a : ℤ} (h : a ∈ (change.assign row).approverId) :
    a ∈ row.approverId ∨ a ∈ change.approver := by
  cases change with
  | cancel now => exact .inl h
  | expire now => exact .inl h
  | execute approver now => exact .inr h
  | reject approver now => exact .inr h
  | fail approver decidedAt => exact .inr h

theorem mem_write_approverId {a : ℤ} (h : a ∈ (change.write record row).approverId) :
    a ∈ row.approverId ∨ a ∈ change.approver := by
  cases record with
  | none => exact mem_assign_approverId h
  | some old =>
      simp only [Change.write, written] at h
      split at h
      · exact .inl h
      · next hassigned =>
          -- A value other than the loaded one is the reviewer's.
          rcases mem_assign_approverId h with hold | happrover
          · cases change with
            | cancel now => exact absurd rfl hassigned
            | expire now => exact absurd rfl hassigned
            | execute approver now => exact .inr h
            | reject approver now => exact .inr h
            | fail approver decidedAt => exact .inr h
          · exact .inr happrover

/-- A copy that was loaded when the request was decided shows what it still is. -/
def Seen (record : Option DecisionRow) (w : DecisionWorld) : Prop :=
  ∀ old ∈ record, old.status ≠ .pending → w.row.status = old.status

theorem Seen.kept (h : Seen record w) (hk : Kept t w w') : Seen record w' := by
  intro old hold hne
  have hsame := h old hold hne
  rw [hk.decided (hsame ▸ hne), hsame]

theorem seen_row (w : DecisionWorld) : Seen (some w.row) w := by
  intro old hold _
  cases hold
  rfl

theorem write_status (hseen : Seen record w) (hpending : w.row.status = .pending) :
    (change.write record w.row).status = change.status := by
  cases record with
  | none => exact assign_status
  | some old =>
      have hold : old.status = .pending := by
        apply Decidable.byContradiction
        intro hne
        exact hne ((hseen old rfl hne).symm.trans hpending)
      simp only [Change.write, assign_status, written, hold]
      rw [if_neg (status_ne_pending change)]

/-- What a session knows when it has assigned the columns of `change`. -/
structure Ready (t : ℕ) (executes : Bool) (record : Option DecisionRow) (change : Change)
    (w : DecisionWorld) : Prop where
  seen : Seen record w
  approver : ∀ a ∈ change.approver, a ≠ w.row.requesterId
  executed : change.status = .executed → executes = true ∨ t ∈ w.executions
  pending : executes = true → t ∉ w.executions ∧ change.status = .executed
  own : t ∈ w.executions → change.status = .executed ∨ change.status = .executionFailed

theorem Ready.kept (h : Ready t executes record change w) (hk : Kept t w w') :
    Ready t executes record change w' where
  seen := h.seen.kept hk
  approver a ha := by
    rw [hk.requester]
    exact h.approver a ha
  executed hstatus := (h.executed hstatus).imp id hk.own.mpr
  pending hexecutes := ⟨fun ht => (h.pending hexecutes).1 (hk.own.mp ht), (h.pending hexecutes).2⟩
  own ht := h.own (hk.own.mp ht)

/-- Everything that session `t` has executed is recorded. -/
def Recorded (t : ℕ) (w : DecisionWorld) : Prop := t ∈ w.executions → w.row.status = .executed

theorem Recorded.kept (h : Recorded t w) (hk : Kept t w w') : Recorded t w' := by
  intro ht
  have hstatus := h (hk.own.mp ht)
  rw [hk.decided (by rw [hstatus]; exact nofun), hstatus]

theorem eq_nil_of_free (hfree : Free t w) (ht : t ∉ w.executions) : w.executions = [] :=
  List.eq_nil_iff_forall_not_mem.mpr fun u hu => ht (hfree.2 u hu ▸ hu)

theorem executed_of_mem (hready : Ready t executes record change w)
    (hcond : undisturbed t (.store .pending executes record change) w) (ht : t ∈ w.executions) :
    change.status = .executed :=
  (hready.own ht).elim id fun hfailed => absurd ht (hcond.2 hfailed)

theorem DecisionOk.store (h : DecisionOk w) (hready : Ready t executes record change w)
    (hcond : undisturbed t (.store .pending executes record change) w) :
    DecisionOk (w.store t executes record change) := by
  have hstatus : (w.store t executes record change).row.status = change.status :=
    write_status hready.seen hcond.1.free.1
  refine ⟨?_, fun hexecuted => ?_, fun hne => .inl ?_, fun a ha => ?_⟩
  · show (if executes then w.executions ++ [t] else w.executions).length ≤ 1
    split
    · next hexecutes =>
        rw [eq_nil_of_free hcond.1.free (hready.pending hexecutes).1]
        exact Nat.le_refl 1
    · exact h.once
  · show (if executes then w.executions ++ [t] else w.executions) ≠ []
    split
    · simp
    · next hexecutes =>
        have ht := (hready.executed (hstatus ▸ hexecuted)).resolve_left hexecutes
        exact List.ne_nil_of_mem ht
  · rw [hstatus]
    by_cases hexecutes : executes = true
    · exact (hready.pending hexecutes).2
    · have hexecutions : w.executions ≠ [] := by
        intro hnil
        apply hne
        show (if executes then w.executions ++ [t] else w.executions) = []
        rw [if_neg hexecutes, hnil]
      obtain ⟨u, hu⟩ := List.exists_mem_of_ne_nil _ hexecutions
      exact executed_of_mem hready hcond (hcond.1.free.2 u hu ▸ hu)
  · show a ≠ (change.write record w.row).requesterId
    rw [write_requesterId]
    exact (mem_write_approverId ha).elim (h.apart a) (hready.approver a)

theorem kept_store (hcond : undisturbed t (.store .pending executes record change) w) {u : ℕ}
    (hne : u ≠ t) : Kept u w (w.store t executes record change) where
  requester := write_requesterId
  decided hdecided := absurd hcond.1.free.1 hdecided
  own := by
    show u ∈ (if executes then w.executions ++ [t] else w.executions) ↔ u ∈ w.executions
    split
    · simp [hne]
    · exact Iff.rfl

theorem recorded_store (hready : Ready t executes record change w)
    (hcond : undisturbed t (.store .pending executes record change) w) :
    Recorded t (w.store t executes record change) := by
  intro ht
  show (change.write record w.row).status = .executed
  rw [write_status hready.seen hcond.1.free.1]
  by_cases hexecutes : executes = true
  · exact (hready.pending hexecutes).2
  · have hmem : t ∈ (if executes then w.executions ++ [t] else w.executions) := ht
    rw [if_neg hexecutes] at hmem
    exact executed_of_mem hready hcond hmem

end Commits

/-! ### Requests -/

section Requests

variable {t : ℕ} {w : DecisionWorld} {α : Type}

abbrev DecisionSat (t : ℕ) (p : DecisionReq α) (Q : Except DecisionError α → DecisionWorld → Prop)
    (w : DecisionWorld) : Prop := Holds decisionExec decisionRules t p Q w

/-- The operations that leave the world as it is. -/
def Quiet : DecisionOp → Prop
  | .execute _ => False
  | .store .. => False
  | .lose => False
  | _ => True

theorem quiet_exec {o : DecisionOp} {c : DecisionChoice} {r : Except DecisionError (DecisionRes o)}
    {w' : DecisionWorld} (ho : Quiet o) (he : decisionExec t o c w = some (r, w')) : w' = w := by
  cases o with
  | execute tested => exact ho.elim
  | store tested executes record change => exact ho.elim
  | lose => exact ho.elim
  | ask q => cases he; rfl
  | now => cases he; rfl
  | get => cases he; rfl
  | auditRequired => cases he; rfl
  | commit => cases he; rfl
  | rollback => cases he; rfl

/-- What the other sessions keep is kept by quiet programs. -/
theorem sat_quiet {I : DecisionWorld → Prop} (hstable : ∀ w w', I w → Kept t w w' → I w')
    {p : DecisionReq α} (hp : Prog.All Quiet p) (hw : I w) :
    DecisionSat t p (fun _ w' => I w') w := by
  refine Holds.of_all hstable (fun o c r w₁ w₂ ho hI hi _ he => ?_) hp hw
  obtain rfl := quiet_exec ho he
  exact ⟨fun u _ => Kept.refl u _, hi, hI⟩

/-- The answer of a quiet operation is never an error. -/
theorem sat_bind_perform {I : DecisionWorld → Prop} (hstable : ∀ w w', I w → Kept t w w' → I w')
    {o : DecisionOp} (ho : Quiet o) {k : DecisionRes o → DecisionReq α}
    {Q : Except DecisionError α → DecisionWorld → Prop} (hw : I w)
    (hk : ∀ a w', I w' → DecisionSat t (k a) Q w') :
    DecisionSat t ((Prog.perform o).bind k) Q w := by
  refine Holds.bind (M := fun r w' => I w' ∧ ∃ a, r = .ok a) ?_ (fun a w' h => hk a w' h.1) ?_
  · refine Holds.perform fun w₁ hr hi _ c r w₂ he => ?_
    have hanswer : ∃ a, r = .ok a := by
      cases o with
      | execute tested => exact ho.elim
      | store tested executes record change => exact ho.elim
      | lose => exact ho.elim
      | ask q => cases he; exact ⟨_, rfl⟩
      | now => cases he; exact ⟨_, rfl⟩
      | get => cases he; exact ⟨_, rfl⟩
      | auditRequired => cases he; exact ⟨_, rfl⟩
      | commit => cases he; exact ⟨_, rfl⟩
      | rollback => cases he; exact ⟨_, rfl⟩
    obtain rfl := quiet_exec ho he
    exact ⟨fun u _ => Kept.refl u _, hi, hstable _ _ hw hr, hanswer⟩
  · rintro e w' ⟨-, a, ha⟩
    cases ha

/-- The row is loaded as it is committed. -/
theorem sat_bind_get {I : DecisionWorld → Prop} (hstable : ∀ w w', I w → Kept t w w' → I w')
    {k : DecisionRow → DecisionReq α} {Q : Except DecisionError α → DecisionWorld → Prop}
    (hw : I w) (hk : ∀ w', I w' → DecisionSat t (k w'.row) Q w') :
    DecisionSat t (get.bind k) Q w := by
  refine Holds.bind (M := fun r w' => I w' ∧ r = .ok w'.row) ?_ ?_ ?_
  · refine Holds.perform fun w₁ hr hi _ c r w₂ he => ?_
    cases he
    exact ⟨fun u _ => Kept.refl u _, hi, hstable _ _ hw hr, rfl⟩
  · rintro row w' ⟨hI, hrow⟩
    cases hrow
    exact hk w' hI
  · rintro e w' ⟨-, hrow⟩
    cases hrow

theorem quiet_refuse (message : String) (status : ℕ) :
    Prog.All Quiet (refuse message status : DecisionReq α) :=
  Prog.All.bind (.perform trivial) fun _ => trivial

/-- A test that refuses is quiet. -/
theorem quiet_check (q : Question) (message : String) (status : ℕ) :
    Prog.All Quiet (do if ← ask q then pure () else refuse message status : DecisionReq Unit) := by
  refine Prog.All.bind (.perform trivial) fun yes => ?_
  split
  · trivial
  · exact quiet_refuse message status

theorem quiet_requireFreshCode : Prog.All Quiet requireFreshCode := by
  refine Prog.All.bind (.perform trivial) fun given => ?_
  split
  · refine Prog.All.bind (.perform trivial) fun backoff => ?_
    split
    · exact quiet_refuse _ _
    · refine Prog.All.bind (.perform trivial) fun right => ?_
      split
      · refine Prog.All.bind (.perform trivial) fun replayed => ?_
        split
        · exact Prog.All.bind (.perform trivial) fun _ => quiet_refuse _ _
        · exact .perform trivial
      · exact Prog.All.bind (.perform trivial) fun _ => quiet_refuse _ _
  · exact quiet_refuse _ _

/-- Whatever becomes of the required event, what the session has executed is recorded. -/
theorem sat_storeRequired {executes : Bool} {record : Option DecisionRow} {change : Change}
    (hw : Ready t executes record change w) :
    DecisionSat t (storeRequired .pending executes record change)
      (fun _ w' => Recorded t w') w := by
  have hstore {w₁ : DecisionWorld} (h₁ : Ready t executes record change w₁) :
      DecisionSat t (Prog.perform (DecisionOp.store .pending executes record change))
        (fun _ w' => Recorded t w') w₁ := by
    refine Holds.perform fun w₂ hr hi hcond c r w₃ he => ?_
    cases he
    have hready := h₁.kept hr
    exact ⟨fun u hne => kept_store hcond hne, hi.store hready hcond, recorded_store hready hcond⟩
  refine sat_bind_perform (fun _ _ => Ready.kept) (o := .auditRequired) trivial hw
    fun fate w₁ h₁ => ?_
  cases fate with
  | committed => exact hstore h₁
  | leftover => exact Holds.bind (hstore h₁) (fun _ _ h => h) fun _ _ h => h
  | lost =>
      refine Holds.bind (M := fun _ w' => Recorded t w') ?_ (fun _ _ h => h) fun _ _ h => h
      refine Holds.perform fun w₂ hr hi hcond c r w₃ he => ?_
      cases he
      exact ⟨fun u _ => Kept.refl u _, hi, fun ht => absurd ht hcond⟩

/-- The session has not executed the operation. -/
def Unexecuted (t : ℕ) (w : DecisionWorld) : Prop := t ∉ w.executions

theorem Unexecuted.kept {w' : DecisionWorld} (h : Unexecuted t w) (hk : Kept t w w') :
    Unexecuted t w' := fun ht => h (hk.own.mp ht)

theorem Unexecuted.recorded (h : Unexecuted t w) : Recorded t w := fun ht => absurd ht h

/-- A change other than an execution, by a session that has executed nothing. -/
theorem ready_of_unexecuted {record : Option DecisionRow} {change : Change}
    (h : Unexecuted t w) (hseen : Seen record w) (hchange : change.status ≠ .executed)
    (happrover : ∀ a ∈ change.approver, a ≠ w.row.requesterId) : Ready t false record change w where
  seen := hseen
  approver := happrover
  executed hstatus := absurd hstatus hchange
  pending := nofun
  own ht := absurd ht h

theorem sat_expireIfStale {row : DecisionRow} (hw : Unexecuted t w ∧ Seen (some row) w) :
    DecisionSat t (expireIfStale row)
      (fun r w' => Recorded t w' ∧ (r = .ok () → Unexecuted t w')) w := by
  have hstable (w w' : DecisionWorld) (h : Unexecuted t w ∧ Seen (some row) w) (hk : Kept t w w') :
      Unexecuted t w' ∧ Seen (some row) w' := ⟨h.1.kept hk, h.2.kept hk⟩
  unfold expireIfStale
  split
  · exact ⟨hw.1.recorded, fun _ => hw.1⟩
  · next hpending =>
      rw [Decidable.not_not.mp hpending]
      refine sat_bind_perform hstable (o := .now) trivial hw fun checked w₁ h₁ => ?_
      split
      · exact ⟨h₁.1.recorded, fun _ => h₁.1⟩
      · refine sat_bind_perform hstable (o := .now) trivial h₁ fun decidedAt w₂ h₂ => ?_
        have hready : Ready t false (some row) (.expire decidedAt) w₂ :=
          ready_of_unexecuted h₂.1 h₂.2 nofun nofun
        exact Holds.bind (sat_storeRequired hready) (fun _ _ h => ⟨h, nofun⟩)
          fun _ _ h => ⟨h, nofun⟩

/-- The session has executed nothing, and `actor` has not made the request. -/
structure Reviewing (t : ℕ) (actor : ℤ) (w : DecisionWorld) : Prop where
  unexecuted : Unexecuted t w
  other : actor ≠ w.row.requesterId

theorem Reviewing.kept {actor : ℤ} {w' : DecisionWorld} (h : Reviewing t actor w)
    (hk : Kept t w w') : Reviewing t actor w' where
  unexecuted := h.unexecuted.kept hk
  other := by
    rw [hk.requester]
    exact h.other

/-- What is known of the row that a session goes on with. -/
def Found (t : ℕ) : Except DecisionError DecisionRow → DecisionWorld → Prop
  | .ok row, w => (Unexecuted t w ∧ row.requesterId = w.row.requesterId) ∧ row.status = .pending
  | .error _, w => Recorded t w

theorem sat_refuse {I : DecisionWorld → Prop} (hstable : ∀ w w', I w → Kept t w w' → I w')
    {message : String} {status : ℕ} {Q : Except DecisionError α → DecisionWorld → Prop} (hw : I w)
    (hQ : ∀ e w', I w' → Q (.error e) w') : DecisionSat t (refuse message status) Q w :=
  sat_bind_perform hstable (o := .commit) trivial hw fun _ w' h => hQ _ w' h

theorem sat_pendingRequestOrError (hw : Unexecuted t w) :
    DecisionSat t pendingRequestOrError (Found t) w := by
  refine sat_bind_get (fun _ _ => Unexecuted.kept) hw fun w₁ h₁ => ?_
  have hrely (v v' : DecisionWorld) (h : w₁.row.requesterId = v.row.requesterId)
      (hk : Kept t v v') : w₁.row.requesterId = v'.row.requesterId := h.trans hk.requester.symm
  have hguar (v v' : DecisionWorld) (h : w₁.row.requesterId = v.row.requesterId)
      (hg : ∀ u, u ≠ t → Kept u v v') : w₁.row.requesterId = v'.row.requesterId :=
    h.trans (hg (t + 1) (Nat.succ_ne_self t)).requester.symm
  have hexpire : DecisionSat t (expireIfStale w₁.row)
      (fun r w' => Recorded t w' ∧ (r = .ok () → Unexecuted t w')) w₁ :=
    sat_expireIfStale ⟨h₁, seen_row w₁⟩
  have hknown := Holds.with_stable (I := fun v => w₁.row.requesterId = v.row.requesterId)
    hrely hguar hexpire rfl
  refine Holds.bind hknown (fun _ w₂ h₂ => ?_) fun _ _ h => h.2.1
  obtain ⟨hrow, hrecorded, hunexecuted⟩ := h₂
  split
  · exact sat_refuse (fun _ _ => Recorded.kept) hrecorded fun _ _ h => h
  · next hpending => exact ⟨⟨hunexecuted rfl, hrow⟩, Decidable.not_not.mp hpending⟩

/-- The executor returns with the operation committed, or pending in the session. -/
def Executed (t : ℕ) (kind : OperationKind) (actor : ℤ) (row : DecisionRow) (w : DecisionWorld) :
    Prop :=
  actor ≠ w.row.requesterId ∧ Seen (some row) w ∧ (t ∈ w.executions ↔ commitsInside kind = true)

theorem Executed.kept {kind : OperationKind} {actor : ℤ} {row : DecisionRow} {w' : DecisionWorld}
    (h : Executed t kind actor row w) (hk : Kept t w w') : Executed t kind actor row w' := by
  obtain ⟨hother, hseen, hown⟩ := h
  refine ⟨?_, hseen.kept hk, hk.own.trans hown⟩
  rw [hk.requester]
  exact hother

theorem ready_of_executed {kind : OperationKind} {actor decidedAt : ℤ} {row : DecisionRow}
    {record : Option DecisionRow} (h : Executed t kind actor row w) (hseen : Seen record w) :
    Ready t (!commitsInside kind) record (.execute actor decidedAt) w where
  seen := hseen
  approver a ha := by
    cases ha
    exact h.1
  executed _ := by
    rw [h.2.2]
    cases commitsInside kind with
    | true => exact .inr rfl
    | false => exact .inl rfl
  pending hexecutes := by
    refine ⟨fun ht => ?_, rfl⟩
    rw [h.2.2.mp ht] at hexecutes
    cases hexecutes
  own _ := .inl rfl

theorem other_kept {actor : ℤ} (w w' : DecisionWorld) (h : actor ≠ w.row.requesterId)
    (hk : Kept t w w') : actor ≠ w'.row.requesterId := by
  rw [hk.requester]
  exact h

/-- The commit of an operation of its own. -/
theorem sat_execute {actor : ℤ} {row : DecisionRow} {kind : OperationKind}
    (hw : Reviewing t actor w ∧ Seen (some row) w) (hkind : commitsInside kind = true) :
    DecisionSat t (execute .pending) (fun _ w' => Executed t kind actor row w') w := by
  refine Holds.perform fun w₁ hr hi hcond c r w₂ he => ?_
  cases he
  have hreviewing := hw.1.kept hr
  have hnil : w₁.executions = [] := eq_nil_of_free hcond.free hreviewing.unexecuted
  have hseen : Seen (some row) w₁ := hw.2.kept hr
  refine ⟨fun u hne => ⟨rfl, fun _ => rfl, ?_⟩,
    ⟨?_, fun _ => ?_, fun _ => .inr hcond.free.1, hi.apart⟩, hreviewing.other, hseen, ?_⟩
  · simp [hne]
  · simp [hnil]
  · simp
  · simp [hkind]

theorem sat_executeAdminActionRequest {actor : ℤ} {row : DecisionRow} {kind : OperationKind}
    (hw : Reviewing t actor w ∧ Seen (some row) w) :
    DecisionSat t (executeAdminActionRequest .pending kind)
      (fun r w' => actor ≠ w'.row.requesterId ∧ (r = .ok () → Executed t kind actor row w')) w := by
  have hstable (w w' : DecisionWorld) (h : Reviewing t actor w ∧ Seen (some row) w)
      (hk : Kept t w w') : Reviewing t actor w' ∧ Seen (some row) w' := ⟨h.1.kept hk, h.2.kept hk⟩
  unfold executeAdminActionRequest
  split
  · exact ⟨hw.1.other, nofun⟩
  · refine sat_bind_perform hstable (o := .ask .operationRefused) trivial hw fun refused w₁ h₁ => ?_
    split
    · exact sat_refuse other_kept h₁.1.other fun _ _ h => ⟨h, nofun⟩
    · refine sat_bind_perform hstable (o := .ask .operationFails) trivial h₁ fun fails w₂ h₂ => ?_
      split
      · exact ⟨h₂.1.other, nofun⟩
      · split
        · next hkind =>
            refine Holds.bind (sat_execute h₂ hkind) (fun _ w₃ h₃ => ?_) fun _ _ h => ⟨h.1, nofun⟩
            refine sat_bind_perform (fun _ _ => Executed.kept)
              (o := .ask .operationFails) trivial h₃
              fun fails' w₄ h₄ => ?_
            split
            · exact ⟨h₄.1, nofun⟩
            · have hcommit : Prog.All Quiet commit := .perform trivial
              exact (sat_quiet (fun _ _ => Executed.kept) hcommit h₄).mono fun _ _ h =>
                ⟨h.1, fun _ => h⟩
        · next hkind =>
            refine ⟨h₂.1.other, fun _ => ⟨h₂.1.other, h₂.2, ?_⟩⟩
            exact ⟨fun ht => absurd ht h₂.1.unexecuted, fun h => absurd h hkind⟩

theorem sat_markExecutionFailed {actor : ℤ} (hw : actor ≠ w.row.requesterId) :
    DecisionSat t (markExecutionFailed .pending actor) (fun _ w' => Recorded t w') w := by
  refine sat_bind_get other_kept hw fun w₁ h₁ => ?_
  have hstable (v v' : DecisionWorld) (h : actor ≠ v.row.requesterId ∧ Seen (some w₁.row) v)
      (hk : Kept t v v') : actor ≠ v'.row.requesterId ∧ Seen (some w₁.row) v' :=
    ⟨other_kept v v' h.1 hk, h.2.kept hk⟩
  refine sat_bind_perform hstable (o := .now) trivial ⟨h₁, seen_row w₁⟩ fun decidedAt w₂ h₂ => ?_
  refine sat_storeRequired ⟨h₂.2, fun a ha => ?_, nofun, nofun, fun _ => .inr rfl⟩
  cases ha
  exact h₂.1

/-- The outcome of the execution, with the failure recorded. -/
def Attempted (t : ℕ) (kind : OperationKind) (actor : ℤ) (row : DecisionRow) :
    Except DecisionError Unit → DecisionWorld → Prop
  | .ok _, w => Executed t kind actor row w
  | .error _, w => Recorded t w

theorem sat_approveVerified {actor : ℤ} {kind : OperationKind} (hw : Reviewing t actor w) :
    DecisionSat t (approveVerified .pending kind actor) (fun _ w' => Recorded t w') w := by
  refine sat_bind_get (fun _ _ => Reviewing.kept) hw fun w₁ h₁ => ?_
  refine Holds.bind (M := Attempted t kind actor w₁.row) ?_ (fun _ w₂ h₂ => ?_) fun _ _ h => h
  · refine Holds.tryCatch (sat_executeAdminActionRequest ⟨h₁, seen_row w₁⟩)
      (fun _ _ h => h.2 rfl) fun e w₂ h₂ => ?_
    refine sat_bind_perform other_kept (o := .rollback) trivial h₂.1 fun _ w₃ h₃ => ?_
    exact Holds.bind (sat_markExecutionFailed h₃) (fun _ _ h => h) fun _ _ h => h
  · have hexecuted : Executed t kind actor w₁.row w₂ := h₂
    refine sat_bind_perform (fun _ _ => Executed.kept) (o := .now) trivial hexecuted
      fun decidedAt w₃ h₃ => ?_
    split
    · next hkind =>
        have hready : Ready t (!commitsInside kind) none (.execute actor decidedAt) w₃ :=
          ready_of_executed h₃ fun row hrow => absurd hrow (Option.not_mem_none row)
        rw [hkind] at hready
        exact sat_storeRequired hready
    · next hkind =>
        have hready : Ready t (!commitsInside kind) (some w₁.row) (.execute actor decidedAt) w₃ :=
          ready_of_executed h₃ h₃.2.1
        rw [Bool.not_eq_true] at hkind
        rw [hkind] at hready
        exact sat_storeRequired hready

/-- A quiet beginning. -/
theorem sat_bind_quiet {I : DecisionWorld → Prop} (hstable : ∀ w w', I w → Kept t w w' → I w')
    (hrecorded : ∀ w, I w → Recorded t w) {β : Type} {p : DecisionReq β} (hp : Prog.All Quiet p)
    {k : β → DecisionReq α} (hw : I w)
    (hk : ∀ a w', I w' → DecisionSat t (k a) (fun _ v => Recorded t v) w') :
    DecisionSat t (p.bind k) (fun _ v => Recorded t v) w :=
  Holds.bind (sat_quiet hstable hp hw) hk fun _ w' h => hrecorded w' h

/-- The beginning of every decision: the request is found pending. -/
theorem sat_bind_pending {k : DecisionRow → DecisionReq Unit} (hw : Unexecuted t w)
    (hk : ∀ row w', row.status = .pending →
      Unexecuted t w' ∧ row.requesterId = w'.row.requesterId →
        DecisionSat t (k row) (fun _ v => Recorded t v) w') :
    DecisionSat t (do
      requireActiveRootAdmin
      let row ← pendingRequestOrError
      k row) (fun _ v => Recorded t v) w := by
  refine sat_bind_quiet (fun _ _ => Unexecuted.kept) (fun _ => Unexecuted.recorded)
    (quiet_check _ _ _) hw fun _ w₁ h₁ => ?_
  exact Holds.bind (sat_pendingRequestOrError h₁) (fun row w₂ h₂ => hk row w₂ h₂.2 h₂.1)
    fun _ _ h => h

theorem found_kept {row : DecisionRow} (w w' : DecisionWorld)
    (h : Unexecuted t w ∧ row.requesterId = w.row.requesterId) (hk : Kept t w w') :
    Unexecuted t w' ∧ row.requesterId = w'.row.requesterId :=
  ⟨h.1.kept hk, h.2.trans hk.requester.symm⟩

theorem sat_approveAsRootAdmin {kind : OperationKind} {actor : ℤ} (hw : Unexecuted t w) :
    DecisionSat t (approveAsRootAdmin kind actor) (fun _ v => Recorded t v) w := by
  refine sat_bind_pending hw fun row w₁ hpending h₁ => ?_
  rw [hpending]
  refine sat_bind_quiet found_kept (fun _ h => h.1.recorded) (quiet_check _ _ _) h₁
    fun _ w₂ h₂ => ?_
  refine sat_bind_quiet found_kept (fun _ h => h.1.recorded) (quiet_check _ _ _) h₂
    fun _ w₃ h₃ => ?_
  split
  · exact sat_refuse (fun _ _ => Unexecuted.kept) h₃.1 fun _ _ h => h.recorded
  · next hother =>
      have hreviewing : Reviewing t actor w₃ :=
        ⟨h₃.1, fun heq => hother (h₃.2.trans heq.symm)⟩
      exact sat_bind_quiet (fun _ _ => Reviewing.kept) (fun _ h => h.unexecuted.recorded)
        quiet_requireFreshCode hreviewing fun _ _ h => sat_approveVerified h

theorem sat_rejectAsRootAdmin {actor : ℤ} (hw : Unexecuted t w) :
    DecisionSat t (rejectAsRootAdmin actor) (fun _ v => Recorded t v) w := by
  refine sat_bind_pending hw fun row w₁ hpending h₁ => ?_
  rw [hpending]
  refine sat_bind_quiet found_kept (fun _ h => h.1.recorded) (quiet_check _ _ _) h₁
    fun _ w₂ h₂ => ?_
  split
  · exact sat_refuse (fun _ _ => Unexecuted.kept) h₂.1 fun _ _ h => h.recorded
  · next hother =>
      have hreviewing : Reviewing t actor w₂ :=
        ⟨h₂.1, fun heq => hother (h₂.2.trans heq.symm)⟩
      refine sat_bind_quiet (fun _ _ => Reviewing.kept) (fun _ h => h.unexecuted.recorded)
        quiet_requireFreshCode hreviewing fun _ w₃ h₃ => ?_
      refine sat_bind_perform (fun _ _ => Reviewing.kept) (o := .now) trivial h₃
        fun decidedAt w₄ h₄ => ?_
      refine sat_storeRequired (ready_of_unexecuted h₄.unexecuted (fun row hrow => ?_)
        (fun h => by cases h) fun a ha => ?_)
      · exact absurd hrow (Option.not_mem_none row)
      · cases ha
        exact h₄.other

theorem sat_cancelAsRootAdmin {actor : ℤ} (hw : Unexecuted t w) :
    DecisionSat t (cancelAsRootAdmin actor) (fun _ v => Recorded t v) w := by
  refine sat_bind_pending hw fun row w₁ hpending h₁ => ?_
  rw [hpending]
  refine sat_bind_quiet found_kept (fun _ h => h.1.recorded) (quiet_check _ _ _) h₁
    fun _ w₂ h₂ => ?_
  split
  · exact sat_refuse (fun _ _ => Unexecuted.kept) h₂.1 fun _ _ h => h.recorded
  · refine sat_bind_quiet (fun _ _ => Unexecuted.kept) (fun _ => Unexecuted.recorded)
      quiet_requireFreshCode h₂.1 fun _ w₃ h₃ => ?_
    refine sat_bind_perform (fun _ _ => Unexecuted.kept) (o := .now) trivial h₃
      fun decidedAt w₄ h₄ => ?_
    refine sat_storeRequired (ready_of_unexecuted h₄ (fun row hrow => ?_) (fun h => by cases h)
      fun a ha => ?_)
    · exact absurd hrow (Option.not_mem_none row)
    · exact absurd ha (Option.not_mem_none a)

theorem sat_commit (hw : Recorded t w) :
    DecisionSat t commit (fun _ v => Recorded t v) w :=
  sat_quiet (fun _ _ => Recorded.kept) (.perform trivial) hw

theorem sat_reviewForAdmin (hw : Unexecuted t w) :
    DecisionSat t reviewForAdmin (fun _ v => Recorded t v) w := by
  refine sat_bind_quiet (fun _ _ => Unexecuted.kept) (fun _ => Unexecuted.recorded)
    (quiet_check _ _ _) hw fun _ w₁ h₁ => ?_
  refine sat_bind_perform (fun _ _ => Unexecuted.kept) (o := .now) trivial h₁
    fun checked w₂ h₂ => ?_
  refine sat_bind_get (fun _ _ => Unexecuted.kept) h₂ fun w₃ h₃ => ?_
  dsimp only
  split
  · next hstale =>
      have hready : Ready t false (some w₃.row) (.expire checked) w₃ :=
        ready_of_unexecuted h₃ (seen_row w₃) nofun nofun
      rw [hstale.1]
      exact Holds.bind (sat_storeRequired hready) (fun _ _ h => sat_commit h) fun _ _ h => h
  · exact sat_commit h₃.recorded

theorem sat_detailForAdmin (hw : Unexecuted t w) :
    DecisionSat t detailForAdmin (fun _ v => Recorded t v) w := by
  refine sat_bind_quiet (fun _ _ => Unexecuted.kept) (fun _ => Unexecuted.recorded)
    (quiet_check _ _ _) hw fun _ w₁ h₁ => ?_
  refine sat_bind_get (fun _ _ => Unexecuted.kept) h₁ fun w₂ h₂ => ?_
  exact Holds.bind (sat_expireIfStale ⟨h₂, seen_row w₂⟩) (fun _ _ h => sat_commit h.1)
    fun _ _ h => h.1

theorem sat_serve (kind : OperationKind) (request : DecisionRequest) (hw : Unexecuted t w) :
    DecisionSat t (request.serve kind) (fun _ v => Recorded t v) w := by
  cases request with
  | approve actor => exact sat_approveAsRootAdmin hw
  | reject actor => exact sat_rejectAsRootAdmin hw
  | cancel actor => exact sat_cancelAsRootAdmin hw
  | review => exact sat_reviewForAdmin hw
  | detail => exact sat_detailForAdmin hw

end Requests

/-! ### Runs -/

section Runs

variable {cfg : ActionConfig} {n : NewRequest} {requests : ℕ → DecisionRequest}
  {x y : DecisionConf}

theorem allEnd_decisionStart (cfg : ActionConfig) (n : NewRequest)
    (requests : ℕ → DecisionRequest) :
    AllEnd decisionExec decisionRules (fun t _ w => Recorded t w)
      (decisionStart cfg n requests) := by
  have hinitial : DecisionOk (decisionStart cfg n requests).world :=
    ⟨Nat.zero_le 1, nofun, fun h => absurd rfl h, nofun⟩
  exact ⟨hinitial, fun t => sat_serve _ (requests t) List.not_mem_nil⟩

/-- What one step leaves of a decision: the sessions other than the one that acts could
rely on it, so it stays. -/
theorem status_final (hx : AllHold decisionExec decisionRules x)
    (hdecided : x.world.row.status ≠ .pending) (h : Reach decisionExec undisturbed x y) :
    AllHold decisionExec decisionRules y ∧ y.world.row.status = x.world.row.status := by
  induction h with
  | refl => exact ⟨hx, rfl⟩
  | @step y z t c _ hm hs ih =>
      obtain ⟨hy, hstatus⟩ := ih
      obtain ⟨hguar, hz⟩ := step_holds decisionRules_sound hy hm hs
      have hkept : Kept (t + 1) y.world z.world := hguar (t + 1) (Nat.succ_ne_self t)
      exact ⟨hz, (hkept.decided (hstatus ▸ hdecided)).trans hstatus⟩

/-- The request is over. -/
def ended : DecisionReq Unit → Bool
  | .op .. => false
  | _ => true

/-- `agree` is about the sessions that are not between the operation and its record. -/
structure Decided (cond : ℕ → DecisionOp → DecisionWorld → Prop) (x : DecisionConf) : Prop where
  once : x.world.executions.length ≤ 1
  agree : (∀ t ∈ x.world.executions, ended (x.prog t) = true) →
    (x.world.executions ≠ [] ↔ x.world.row.status = .executed)
  apart : ∀ a ∈ x.world.row.approverId, a ≠ x.world.row.requesterId
  final : x.world.row.status ≠ .pending → ∀ y, Reach decisionExec cond x y →
    y.world.row.status = x.world.row.status

theorem recorded_of_ended {t : ℕ} {p : DecisionReq Unit} {w : DecisionWorld}
    (h : DecisionSat t p (fun _ v => Recorded t v) w) (hp : ended p = true) : Recorded t w := by
  cases p with
  | ret a => exact h
  | raise e => exact h
  | op o k => cases hp

/-- In every run in which the status is still what a session has tested, and what other
sessions have executed is recorded, when the session executes or writes, and in which a
session that has committed the operation neither fails nor loses what it has assigned,
the operation is executed at most once, and if and only if the request is marked as
executed; nobody approves a request of their own; and a decision is final. -/
theorem maker_checker (hx : Reach decisionExec undisturbed (decisionStart cfg n requests) x) :
    Decided undisturbed x := by
  have hstable (t : ℕ) (r : Except DecisionError Unit) (w w' : DecisionWorld) (h : Recorded t w)
      (hk : decisionRules.rely t w w') : Recorded t w' := h.kept hk
  obtain ⟨hok, hends⟩ :=
    reach_ends decisionRules_sound hstable (allEnd_decisionStart cfg n requests) hx
  have hholds : AllHold decisionExec decisionRules x :=
    ⟨hok, fun t => (hends t).mono fun _ _ _ => trivial⟩
  refine ⟨hok.once, fun hended => ⟨fun hne => ?_, hok.recorded⟩, hok.apart,
    fun hdecided y hy => (status_final hholds hdecided hy).2⟩
  obtain ⟨t, ht⟩ := List.exists_mem_of_ne_nil _ hne
  exact recorded_of_ended (hends t) (hended t ht) ht

end Runs

instance (t : ℕ) (tested : ActionStatus) (w : DecisionWorld) : Decidable (Unchanged t tested w) :=
  inferInstanceAs (Decidable (w.row.status = tested ∧
    ∀ u ∈ w.executions, u ≠ t → w.row.status = .executed))

instance (t : ℕ) (o : DecisionOp) (w : DecisionWorld) : Decidable (undisturbed t o w) :=
  match o with
  | .execute tested => inferInstanceAs (Decidable (Unchanged t tested w))
  | .store tested _ _ change => inferInstanceAs
      (Decidable (Unchanged t tested w ∧ (change.status = .executionFailed → t ∉ w.executions)))
  | .lose => inferInstanceAs (Decidable (t ∉ w.executions))
  | .ask _ => inferInstanceAs (Decidable True)
  | .now => inferInstanceAs (Decidable True)
  | .get => inferInstanceAs (Decidable True)
  | .auditRequired => inferInstanceAs (Decidable True)
  | .commit => inferInstanceAs (Decidable True)
  | .rollback => inferInstanceAs (Decidable True)

/-- One root administrator approves what another one rejects. -/
def twoReviewers (t : ℕ) : DecisionRequest := if t = 0 then .approve 3 else .reject 4

/-- Session `t` performs its next operations with these answers, at time 1. -/
def answers (t : ℕ) (yes : List Bool) : List (ℕ × DecisionChoice) :=
  yes.map fun b => (t, ⟨b, 1, .committed⟩)

/-- The check of the code, up to its commit. -/
def codeAccepted : List Bool := [true, false, true, false, true]

/-- The approval, from its beginning to its end. -/
def approval : List (ℕ × DecisionChoice) :=
  answers 0 ([true, true, true, true, true] ++ codeAccepted ++
    [true, false, false, true, true, true])

theorem maker_checker_approved :
    ∃ x, Reach decisionExec undisturbed
        (decisionStart sampleActionConfig deactivation twoReviewers) x ∧
      x.world.executions = [0] ∧ x.world.row.status = .executed ∧ Decided undisturbed x := by
  have hrun : (runChecked decisionExec (fun t o w => decide (undisturbed t o w))
      (decisionStart sampleActionConfig deactivation twoReviewers) approval).any
      (fun x => x.world.executions = [0] && x.world.row.status = .executed) = true := by
    decide +kernel
  obtain ⟨x, hx, hend⟩ := (Option.any_eq_true ..).mp hrun
  simp only [Bool.and_eq_true, decide_eq_true_eq] at hend
  have hreach := reach_of_runChecked decisionExec (fun _ _ _ => of_decide_eq_true) .refl hx
  exact ⟨x, hreach, hend.1, hend.2, maker_checker hreach⟩

/-- The request is approved and executed between the check of the code of the other
reviewer and that reviewer's commit. -/
theorem executed_request_rejected :
    ∃ x, Reach decisionExec (fun _ _ _ => True)
        (decisionStart sampleActionConfig deactivation twoReviewers) x ∧
      ¬Decided (fun _ _ _ => True) x := by
  have hrun : (run decisionExec (decisionStart sampleActionConfig deactivation twoReviewers)
      (answers 1 ([true, true, true, true] ++ codeAccepted) ++ approval ++
        answers 1 [true, true, true])).any
      (fun x => x.world.executions = [0] && ended (x.prog 0) &&
        x.world.row.status = .rejected) = true := by
    decide +kernel
  obtain ⟨x, hx, hend⟩ := (Option.any_eq_true ..).mp hrun
  simp only [Bool.and_eq_true, decide_eq_true_eq] at hend
  obtain ⟨⟨hexecutions, hended⟩, hstatus⟩ := hend
  refine ⟨x, reach_of_run _ .refl hx, fun hdecided => ?_⟩
  have hall : ∀ t ∈ x.world.executions, ended (x.prog t) = true := by
    intro t ht
    rw [hexecutions] at ht
    cases List.mem_singleton.mp ht
    exact hended
  have hne : x.world.executions ≠ [] := by
    rw [hexecutions]
    exact List.cons_ne_nil 0 []
  have hexecuted := (hdecided.agree hall).mp hne
  rw [hstatus] at hexecuted
  cases hexecuted

end SitBank.Admin.ActionDecisions
