import Mathlib.Data.List.Nodup
import SitBank.Banking.System

/-!
Top-up requests and the ledger.

A request is completed in the transaction that credits the account, under the
lock of the request. No write of a status looks at the row again, though: it is made
to an instance that was pending when it was loaded, and overwrites whatever has been
committed since. That holds for `failed` and `expired`, which are written without
the lock, and for `completed`: the commit of the accepted code releases the lock and
the owner brings the request back as an instance before it is locked again.
-/

namespace SitBank.Banking

open SitBank.Interaction SitBank.Orm

/-- A `TopUpCredit` for the request. -/
def isCreditFor (selector : String) : Ledger → Bool
  | .topUpCredit _ request => request = selector
  | _ => false

def isCreditWithRef (creditRef : String) : Ledger → Bool
  | .topUpCredit credit _ => credit.creditRef = creditRef
  | _ => false

/-- At most one credit exists for the request, and it is completed if and only
if exactly one credit has the reference that it stores. -/
structure ApprovalAgrees (log : List Ledger) (selector : String) (q : TopUpApprovalRequest) :
    Prop where
  once : (log.filter (isCreditFor selector)).length ≤ 1
  completed_iff : q.status = .completed ↔
    ∃ creditRef, q.creditRef = some creditRef ∧
      (log.filter (isCreditWithRef creditRef)).length = 1

/-- A status is written from an instance that is no older than the completion of the
request, and a request that is read again after its test has not been completed in
between. -/
def freshStatus : ℕ → Op bank Err → BankWorld → Prop :=
  stepCond (fun _ _ => True) (fun _ _ _ => True) True

/-- What a request is in the ledger: a completed one has one credit, whose
reference it stores, and any other has none and stores none. -/
structure RequestOk (log : List Ledger) (selector : String) (q : TopUpApprovalRequest) :
    Prop where
  completed : q.status = .completed → ∃ credit,
    log.filter (isCreditFor selector) = [.topUpCredit credit selector] ∧
      q.creditRef = some credit.creditRef
  other : q.status ≠ .completed →
    log.filter (isCreditFor selector) = [] ∧ q.creditRef = none

structure ApprovalsOk (d : BankDb) : Prop where
  refs : (topUpCreditRefs d.log).Nodup
  request : ∀ selector q, d.row (.topup selector) = some q → RequestOk d.log selector q

theorem length_filter_isCreditWithRef (creditRef : String) (log : List Ledger) :
    (log.filter (isCreditWithRef creditRef)).length = (topUpCreditRefs log).count creditRef := by
  induction log with
  | nil => rfl
  | cons e log ih =>
      cases e with
      | topUpCredit credit request =>
          by_cases h : credit.creditRef = creditRef
          · simp only [topUpCreditRefs, List.filterMap_cons] at ih ⊢
            simp [isCreditWithRef, h, ih]
          · simp only [topUpCreditRefs, List.filterMap_cons] at ih ⊢
            simp [isCreditWithRef, h, ih]
      | transaction txn k a => exact ih
      | registrationCredit credit => exact ih

theorem ApprovalsOk.agrees {d : BankDb} (h : ApprovalsOk d) {selector : String}
    {q : TopUpApprovalRequest} (hq : d.row (.topup selector) = some q) :
    ApprovalAgrees d.log selector q := by
  have hok := h.request selector q hq
  by_cases hs : q.status = .completed
  · obtain ⟨credit, hlog, href⟩ := hok.completed hs
    refine ⟨by rw [hlog]; exact le_rfl, fun _ => ⟨_, href, ?_⟩, fun _ => hs⟩
    have hmem : Ledger.topUpCredit credit selector ∈ d.log := by
      have : Ledger.topUpCredit credit selector ∈ d.log.filter (isCreditFor selector) := by
        rw [hlog]
        exact List.mem_singleton.mpr rfl
      exact (List.mem_filter.mp this).1
    rw [length_filter_isCreditWithRef]
    exact List.count_eq_one_of_mem h.refs (List.mem_filterMap.mpr ⟨_, hmem, rfl⟩)
  · obtain ⟨hlog, href⟩ := hok.other hs
    refine ⟨by rw [hlog]; exact Nat.zero_le 1, fun hc => absurd hc hs, ?_⟩
    rintro ⟨creditRef, hc, _⟩
    rw [href] at hc
    cases hc

section Steps

variable {P : User → User → Prop} {K : ℕ → BankDb → ℤ → Prop} {cfg : Config} {t : ℕ}
  {w : BankWorld} {d : BankDb}

/-- Steps that touch neither the requests nor the credits. -/
theorem ApprovalsOk.append (h : ApprovalsOk w.db) {l : List Ledger}
    (hlog : d.log = w.db.log ++ l) (hnew : ∀ credit request, .topUpCredit credit request ∉ l)
    (hrow : ∀ selector, d.row (.topup selector) = w.db.row (.topup selector)) :
    ApprovalsOk d := by
  have hfilter : ∀ selector, d.log.filter (isCreditFor selector) =
      w.db.log.filter (isCreditFor selector) := by
    intro selector
    rw [hlog, List.filter_append]
    refine (congrArg _ (List.filter_eq_nil_iff.mpr fun e he hc => ?_)).trans (List.append_nil _)
    cases e with
    | topUpCredit credit request => exact hnew _ _ he
    | transaction txn k a => cases hc
    | registrationCredit credit => cases hc
  have hrefs : topUpCreditRefs d.log = topUpCreditRefs w.db.log := by
    rw [hlog, topUpCreditRefs, List.filterMap_append]
    refine (congrArg _ (List.filterMap_eq_nil_iff.mpr fun e he => ?_)).trans (List.append_nil _)
    cases e with
    | topUpCredit credit request => exact absurd he (hnew _ _)
    | transaction txn k a => rfl
    | registrationCredit credit => rfl
  refine ⟨by rw [hrefs]; exact h.refs, fun selector q hq => ?_⟩
  obtain ⟨hc, ho⟩ := h.request selector q ((hrow selector).symm.trans hq)
  refine ⟨?_, ?_⟩ <;> rw [hfilter]
  · exact hc
  · exact ho

theorem ApprovalsOk.rewrites (h : ApprovalsOk w.db) {k : Key} {r r' : Row k}
    (hr : Rewrites w d k r r') (hk : ∀ selector, k ≠ .topup selector) : ApprovalsOk d :=
  h.append (l := []) (by rw [hr.log, List.append_nil]) (fun _ _ => nofun) fun selector =>
    hr.others _ (hk selector).symm

/-- The copy was pending and its row is not completed, so the row has no reference and
the reference of the credit is written. -/
theorem TopUpStep.completed_row (h : ApprovalsOk w.db) {credit : Credit} {selector : String}
    {l q : TopUpApprovalRequest} {n : ℤ} {c s : User}
    (hs : TopUpStep P True t w d credit selector l q n c s) :
    ∃ q', d.row (.topup selector) = some q' ∧ q'.status = .completed ∧
      q'.creditRef = some credit.creditRef := by
  have hnone : q.creditRef = none :=
    ((h.request selector q hs.request).other (hs.uncompleted trivial)).2
  have hcopy : l.creditRef = none := hs.copy.2.2.2.2.2 hnone
  refine ⟨_, hs.completed, ?_, ?_⟩ <;>
    rw [TopUpApprovalRequest.merge_complete l q hs.pending]
  dsimp only
  rw [hcopy, col_ne (Option.some_ne_none _)]

theorem ApprovalsOk.topUp (h : ApprovalsOk w.db) {credit : Credit} {selector : String}
    {l q : TopUpApprovalRequest} {n : ℤ} {c s : User}
    (hs : TopUpStep P True t w d credit selector l q n c s) : ApprovalsOk d := by
  refine ⟨?_, fun selector' q' hq' => ?_⟩
  · have hrefs : topUpCreditRefs d.log = topUpCreditRefs w.db.log ++ [credit.creditRef] := by
      rw [hs.log, topUpCreditRefs, List.filterMap_append]
      rfl
    rw [hrefs]
    refine List.nodup_append.mpr ⟨h.refs, by simp, ?_⟩
    rintro a ha b hb rfl
    cases List.mem_singleton.mp hb
    exact hs.fresh ha
  · by_cases hsel : selector' = selector
    · subst hsel
      obtain ⟨_, hrow, hstatus, href⟩ := hs.completed_row h
      cases hrow.symm.trans hq'
      have hnone := ((h.request selector' q hs.request).other (hs.uncompleted trivial)).1
      refine ⟨fun _ => ⟨credit, ?_, href⟩, fun hne => absurd hstatus hne⟩
      rw [hs.log, List.filter_append, hnone]
      simp [isCreditFor]
    · have hfilter : d.log.filter (isCreditFor selector') =
          w.db.log.filter (isCreditFor selector') := by
        rw [hs.log, List.filter_append]
        simp [isCreditFor, Ne.symm hsel]
      have hrow := hs.others (.topup selector') (by simp) (by simpa using hsel)
      obtain ⟨hc, ho⟩ := h.request selector' q' (hrow.symm.trans hq')
      refine ⟨?_, ?_⟩ <;> rw [hfilter]
      · exact hc
      · exact ho

theorem ApprovalsOk.close (h : ApprovalsOk w.db) {selector : String}
    {q q' : TopUpApprovalRequest} (hq : Closes True q q')
    (hr : Rewrites w d (.topup selector) q q') : ApprovalsOk d := by
  refine ⟨by rw [hr.log]; exact h.refs, fun selector' r hrow => ?_⟩
  by_cases hsel : selector' = selector
  · subst hsel
    cases hr.new.symm.trans hrow
    obtain ⟨hc, ho⟩ := h.request selector' q hr.row
    have href : q'.creditRef = q.creditRef := by rw [hq.same]
    have hiff : q'.status = .completed ↔ q.status = .completed := by
      rcases hq.status with hs | ⟨hs | hs, hR⟩
      · rw [hs]
      · rw [hs]
        exact iff_of_false nofun (hR trivial)
      · rw [hs]
        exact iff_of_false nofun (hR trivial)
    refine ⟨fun hs => ?_, fun hs => ?_⟩ <;> rw [hr.log, href]
    · exact hc (hiff.mp hs)
    · exact ho fun hs' => hs (hiff.mpr hs')
  · have hother := hr.others (.topup selector') (by simpa using hsel)
    rw [hr.log]
    exact h.request selector' r (hother.symm.trans hrow)

theorem ApprovalsOk.step (h : ApprovalsOk w.db)
    (hs : BankStep P K True cfg t w d) : ApprovalsOk d := by
  cases hs with
  | localTransfer txn token p q n c s c' s' hd hm hp =>
      exact h.append hm.log (by simp) fun _ => hm.others _ nofun nofun nofun
  | payupTransfer txn token p n a c s c' s' hd hm hp =>
      exact h.append hm.log (by simp) fun _ => hm.others _ nofun nofun nofun
  | topUp credit selector l q n c s ht => exact h.topUp ht
  | consume token p n hp hr => exact h.rewrites hr nofun
  | consumePayup token p n hp hr => exact h.rewrites hr nofun
  | close selector q q' hq hr => exact h.close hq hr
  | freeze id s s' hf hr => exact h.rewrites hr nofun
  | limits id s s' hl hr => exact h.rewrites hr nofun

/-- A completed request stays completed. -/
theorem completed_step {selector : String} {q : TopUpApprovalRequest}
    (hs : BankStep P K True cfg t w d)
    (hq : w.db.row (.topup selector) = some q) (hc : q.status = .completed) :
    ∃ q', d.row (.topup selector) = some q' ∧ q'.status = .completed := by
  have same : d.row (.topup selector) = w.db.row (.topup selector) →
      ∃ q', d.row (.topup selector) = some q' ∧ q'.status = .completed := fun h =>
    ⟨q, h.trans hq, hc⟩
  cases hs with
  | localTransfer txn token p q n c s c' s' hd hm hp =>
      exact same (hm.others _ nofun nofun nofun)
  | payupTransfer txn token p n a c s c' s' hd hm hp =>
      exact same (hm.others _ nofun nofun nofun)
  | topUp credit selector' l q' n c s ht =>
      by_cases hsel : selector = selector'
      · subst hsel
        refine ⟨_, ht.completed, ?_⟩
        rw [TopUpApprovalRequest.merge_complete l q' ht.pending]
      · exact same (ht.others _ nofun (by simpa using hsel))
  | close selector' r r' hr hw =>
      by_cases hsel : selector = selector'
      · subst hsel
        cases hw.row.symm.trans hq
        refine ⟨r', hw.new, ?_⟩
        rcases hr.status with hs | ⟨_, hR⟩
        · exact hs.trans hc
        · exact absurd hc (hR trivial)
      · exact same (hw.others _ (by simpa using hsel))
  | consume token p n hp hr => exact same (hr.others _ nofun)
  | consumePayup token p n hp hr => exact same (hr.others _ nofun)
  | freeze id s s' hf hr => exact same (hr.others _ nofun)
  | limits id s s' hl hr => exact same (hr.others _ nofun)

end Steps

/-! ### Runs -/

/-- In every run in which statuses are not written from instances that are older than
the completion of the request, every request agrees with the ledger in every
committed state, and a completed request stays completed. -/
theorem approval_agrees_of_freshStatus (cfg : Config) (before : ℕ → List Before)
    (requests : ℕ → Request) (db : BankDb) (clock : ℤ) (h₀ : ApprovalsOk db) (x : BankConf)
    (hx : Reach exec freshStatus (start cfg before requests db clock) x) (selector : String)
    (q : TopUpApprovalRequest) (hq : x.world.db.row (.topup selector) = some q) :
    ApprovalAgrees x.world.db.log selector q ∧
    (q.status = .completed → ∀ t c y, Meets freshStatus x t → step exec x t c = some y →
      ∃ q', y.world.db.row (.topup selector) = some q' ∧ q'.status = .completed) := by
  have hok : ApprovalsOk x.world.db :=
    reach_preserves (fun _ _ _ hw hs => hw.step hs) h₀ hx
  refine ⟨hok.agrees hq, fun hc t c y hm hs => ?_⟩
  rcases step_commits hx hm hs with hsame | hstep
  · exact ⟨q, by rw [hsame]; exact hq, hc⟩
  · exact completed_step hstep hq hc

/-- One account with a pending request. -/
def pendingTopUpDb (expiresAt : ℤ) : BankDb where
  row
    | .user id => if id = 1 then some (sampleUser "100") else none
    | .topup selector =>
        if selector = "s" then some ⟨"v", 1, 5000, .pending, 0, expiresAt, none, none⟩ else none
    | _ => none
  log := []

/-- The approval of a request that expires after forty microseconds, and a status poll
of its owner. -/
def approvalAndPoll : BankConf :=
  start sampleConfig (fun _ => [])
    (fun t => if t = 0 then .topupApproveSubmit "s.v" else .topupStatus "s" 1)
    (pendingTopUpDb 40) 0

/-- Two approvals of one request. -/
def twoApprovals : BankConf :=
  start sampleConfig (fun _ => []) (fun _ => .topupApproveSubmit "s.v") (pendingTopUpDb 1000) 0

/-- The answers with which an approval gets to its last commit. -/
def approving (t : ℕ) (fresh : String) : List (ℕ × Choice) :=
  answered t fresh (List.replicate 14 true ++ [false, true, true, false, true, true, true, false,
    true, true, false] ++ List.replicate 27 true)

theorem pendingTopUpDb_ok (expiresAt : ℤ) : ApprovalsOk (pendingTopUpDb expiresAt) := by
  refine ⟨List.nodup_nil, fun selector q hq => ?_⟩
  simp only [pendingTopUpDb] at hq
  split at hq
  · cases hq
    exact ⟨nofun, fun _ => ⟨rfl, rfl⟩⟩
  · cases hq

/-- The approval alone completes the request. -/
theorem approval_agrees_of_freshStatus_approve :
    ApprovalsOk (pendingTopUpDb 40) ∧ ∃ x q, Reach exec freshStatus approvalAndPoll x ∧
      x.world.db.row (.topup "s") = some q ∧ q.status = .completed ∧
      ApprovalAgrees x.world.db.log "s" q := by
  refine ⟨pendingTopUpDb_ok 40, ?_⟩
  have hrun : (runChecked exec (stepCheck (fun _ _ => true) (fun _ _ _ => true)
      true) approvalAndPoll (approving 0 "x" ++ succeeds 0 1 "x")).any
      (fun x => (x.world.db.row (.topup "s")).any fun q => q.status = .completed) = true := by
    decide +kernel
  obtain ⟨x, hx, hrow⟩ := (Option.any_eq_true ..).mp hrun
  obtain ⟨q, hq, hc⟩ := (Option.any_eq_true ..).mp hrow
  have hreach : Reach exec freshStatus approvalAndPoll x := by
    refine reach_of_runChecked exec (fun t o w h => ?_) .refl hx
    simpa [freshStatus] using stepCond_of_check h
  exact ⟨x, q, hreach, hq, of_decide_eq_true hc,
    (approval_agrees_of_freshStatus _ _ _ _ _ (pendingTopUpDb_ok 40) x hreach "s" q hq).1⟩

/-- The poll reads the request while it is pending and finds it expired, the
approval commits, and the poll writes `expired` over `completed`. -/
theorem poll_overwrites_completed :
    ∃ x q, Reach exec (fun _ _ _ => True) approvalAndPoll x ∧
      x.world.db.row (.topup "s") = some q ∧ q.status = .expired ∧
      ¬ApprovalAgrees x.world.db.log "s" q := by
  have hrun : (run exec approvalAndPoll
      (approving 0 "x" ++ succeeds 1 4 "y" ++ succeeds 0 1 "x" ++ succeeds 1 2 "y")).any (fun x =>
        (x.world.db.row (.topup "s")).any fun q => q.status = .expired && q.creditRef = some "x" &&
          (x.world.db.log.filter (isCreditWithRef "x")).length = 1) = true := by decide +kernel
  obtain ⟨x, hx, hrow⟩ := (Option.any_eq_true ..).mp hrun
  obtain ⟨q, hq, hbad⟩ := (Option.any_eq_true ..).mp hrow
  simp only [Bool.and_eq_true, decide_eq_true_eq] at hbad
  obtain ⟨⟨hexpired, href⟩, hone⟩ := hbad
  refine ⟨x, q, reach_of_run exec .refl hx, hq, hexpired, fun h => ?_⟩
  have hc := h.completed_iff.mpr ⟨"x", href, hone⟩
  rw [hexpired] at hc
  cases hc

/-- The first approval has had its code accepted and has read the owner, which brings
the pending request along; the second completes; the first locks the request, is
given its instance back, and credits the account once more. -/
theorem approvals_credit_twice :
    ∃ x q, Reach exec (fun _ _ _ => True) twoApprovals x ∧
      x.world.db.row (.topup "s") = some q ∧ q.status = .completed ∧
      ¬ApprovalAgrees x.world.db.log "s" q := by
  have hrun : (run exec twoApprovals ((approving 0 "x").take 20 ++ approving 1 "y" ++
      succeeds 1 1 "y" ++ (approving 0 "x").drop 20 ++ succeeds 0 1 "x")).any (fun x =>
        (x.world.db.row (.topup "s")).any fun q => q.status = .completed &&
          (x.world.db.log.filter (isCreditFor "s")).length = 2) = true := by decide +kernel
  obtain ⟨x, hx, hrow⟩ := (Option.any_eq_true ..).mp hrun
  obtain ⟨q, hq, hbad⟩ := (Option.any_eq_true ..).mp hrow
  simp only [Bool.and_eq_true, decide_eq_true_eq] at hbad
  refine ⟨x, q, reach_of_run exec .refl hx, hq, hbad.1, fun h => ?_⟩
  have honce := h.once
  rw [hbad.2] at honce
  omega

/-- Both ways in which a request and the ledger come to disagree. -/
theorem completed_overwritten :
    (ApprovalsOk (pendingTopUpDb 40) ∧ ∃ x q, Reach exec (fun _ _ _ => True) approvalAndPoll x ∧
      x.world.db.row (.topup "s") = some q ∧ q.status = .expired ∧
      ¬ApprovalAgrees x.world.db.log "s" q) ∧
    ApprovalsOk (pendingTopUpDb 1000) ∧ ∃ x q, Reach exec (fun _ _ _ => True) twoApprovals x ∧
      x.world.db.row (.topup "s") = some q ∧ q.status = .completed ∧
      ¬ApprovalAgrees x.world.db.log "s" q :=
  ⟨⟨pendingTopUpDb_ok 40, poll_overwrites_completed⟩, pendingTopUpDb_ok 1000,
    approvals_credit_twice⟩

end SitBank.Banking
