import SitBank.Banking.AccountSpecs

/-!
The top-up routes commit nothing but a credited and completed request, or a
request that failed, expired or counted a wrong code.

A valid code ends the transaction, so the approval locks the request a second
time. Reading the user in between has brought the request along, unlocked, and the
lock returns that instance: like those of the other writes it may be older than the
row.
-/

namespace SitBank.Banking

open SitBank.Interaction SitBank.Orm SitBank.Python

variable {P : User → User → Prop} {K : ℕ → BankDb → ℤ → Prop} {R : Prop}
  {cfg : Config} {t : ℕ} {w : BankWorld}

/-- Rows keep evolving, whatever a program does. -/
theorem yields_evolved {α : Type} {p : BankReq α} {Post : α → BankWorld → Prop} {k : Key}
    {r : Row k} (h : Yields (bankSpec P K R cfg) t p Post w)
    (hr : ∃ d, w.db.row k = some d ∧ evolves k r d) :
    Yields (bankSpec P K R cfg) t p (fun a w' =>
      (∃ d, w'.db.row k = some d ∧ evolves k r d) ∧ Post a w') w := by
  refine Holds.mono (Holds.with_stable (I := fun w' : BankWorld =>
    ∃ d, w'.db.row k = some d ∧ evolves k r d) ?_ ?_ h hr) fun x w' hx => ?_
  · rintro w₁ w₂ ⟨d, hd, he⟩ hrely
    obtain ⟨d', hd', he'⟩ := hrely.2.row k d hd
    exact ⟨d', hd', evolves_trans k r d d' he he'⟩
  · rintro w₁ w₂ ⟨d, hd, he⟩ hguar
    rcases hguar.2 with hsame | hstep
    · exact ⟨d, by rw [hsame]; exact hd, he⟩
    · obtain ⟨d', hd', he'⟩ := hstep.evolves_row k d hd
      exact ⟨d', hd', evolves_trans k r d d' he he'⟩
  · cases x with
    | ok a => exact hx
    | error e => exact hx.2

/-! ### Closing a request -/

theorem TopUpApprovalRequest.merge_close (l d : TopUpApprovalRequest) (status : ApprovalStatus)
    (failureCount : ℕ) :
    l.merge { l with status := status, failureCount := failureCount } d =
      { d with status := col l.status status d.status,
               failureCount := col l.failureCount failureCount d.failureCount } := by
  simp [TopUpApprovalRequest.merge]

theorem settled_close {selector : String} {l : TopUpApprovalRequest} {status : ApprovalStatus}
    {failureCount : ℕ}
    (h : Touched t w (.topup selector) l { l with
      status := status, failureCount := failureCount })
    (hstatus : status = l.status ∨ status = .failed ∨ status = .expired)
    (hopen : status ≠ l.status → R → l.status ≠ .completed) :
    Settled (bankSpec P K R cfg) t w := by
  refine .inr fun w' hg hi hc _ => ?_
  have ht := h.grows hg
  obtain ⟨d, hd, _⟩ := hi.2 t (.topup selector) _ l ht.cache rfl
  have hr := ht.rewrites hd
  refine .close selector d _ ⟨?_, ?_⟩ hr
  · change l.merge _ d = _
    rw [TopUpApprovalRequest.merge_close]
    rfl
  · have hmerge : (mergeRow (.topup selector) l
        { l with status := status, failureCount := failureCount } d).status =
        col l.status status d.status := rfl
    rw [hmerge]
    by_cases hsame : status = l.status
    · rw [hsame, col_same]
      exact .inl rfl
    · rw [col_ne hsame]
      refine .inr ⟨hstatus.resolve_left hsame, fun hR hcompleted => hopen hsame hR ?_⟩
      exact hc hR selector l _ d ((ht.dirty _).mpr rfl) ht.cache hd hsame hcompleted

section Specs

variable (hσ : (bankSpec P K R cfg).Lawful)
include hσ

/-- The request is no longer pending. -/
def Closed (w : BankWorld) (selector : String) : Prop :=
  ∃ d, w.db.row (.topup selector) = some d ∧ d.status ≠ .pending

omit hσ in
theorem Closed.grows {w' : BankWorld} {selector : String} (h : Closed w selector)
    (hg : Grows (bankSpec P K R cfg) t w w') : Closed w' selector := by
  obtain ⟨d, hd, hs⟩ := h
  obtain ⟨d', hd', he⟩ := hg.ext.row _ d hd
  exact ⟨d', hd', he.2.2.2.2.1 hs⟩

theorem yields_lazilyExpire (hi : (bankSpec P K R cfg).inv w) (hidle : Idle t w)
    (selector : String) :
    Yields (bankSpec P K R cfg) t (lazilyExpire selector) (fun _ w' => Idle t w' ∧
      (Grows (bankSpec P K R cfg) t w w' ∨ (Clean t w' ∧ Closed w' selector))) w := by
  refine Yields.after hi (Finds.load_copy hσ (.inl hidle) (hidle.not_mem _))
    fun r w₁ hi₁ hg₁ hr => ?_
  refine Yields.after hi₁ (Finds.now hσ) fun n w₂ hi₂ hg₂ _ => ?_
  have hidle₂ := (hidle.grows hg₁).grows hg₂
  split
  swap
  · exact ⟨hidle₂, .inl (hg₁.trans hσ hg₂)⟩
  next hexpired =>
  refine Yields.assign_bind hσ hi₂ (hr.grows hg₂) fun w₃ hi₃ _ hs₃ => ?_
  have ht : Touched t w₃ (.topup selector) r { r with status := .expired } :=
    .of_put hidle₂ hs₃
  have hs : Settled (bankSpec P K R cfg) t w₃ :=
    settled_close ht (.inr (.inr rfl)) fun _ _ hc => by rw [hexpired.1] at hc; cases hc
  refine Sat.commit hσ (fun w₄ hr₄ hi₄ hc₄ _ hadm => hs.commits hσ (.rely hr₄) hi₄ hc₄ hadm)
    (fun w₄ w₅ hr₄ hi₄ hdb hclean => ⟨hclean.idle, .inr ⟨hclean, ?_⟩⟩) fun _ _ h => h.settled
  -- the instance was pending when it was loaded, so the column is written
  have ht₄ := ht.grows (Grows.rely hr₄)
  obtain ⟨d, hd, _⟩ := hi₄.2 t (.topup selector) _ r ht₄.cache rfl
  refine ⟨_, by rw [hdb]; exact (ht₄.rewrites hd).new, ?_⟩
  change col r.status .expired d.status ≠ .pending
  rw [hexpired.1, col_ne (by decide)]
  decide

/-! ### Finding a request -/

/-- The request `q` is locked, and the session has a copy of it that is pending. -/
structure RequestHeld (t : ℕ) (w : BankWorld) (selector : String) (l q : TopUpApprovalRequest) :
    Prop where
  copy : Copy (S := bank) t w (.topup selector) l
  lock : w.lock (.topup selector) = some t
  row : w.db.row (.topup selector) = some q
  pending : l.status = .pending
  evolved : evolves (.topup selector) l q

omit hσ in
theorem RequestHeld.grows {σ : StepSpec bank Err} {w' : BankWorld} {selector : String}
    {l q : TopUpApprovalRequest} (h : RequestHeld t w selector l q) (hg : Grows σ t w w') :
    RequestHeld t w' selector l q where
  copy := h.copy.grows hg
  lock := hg.lock _ h.lock
  row := (hg.row _ h.lock).trans h.row
  pending := h.pending
  evolved := h.evolved

omit hσ in
theorem topUpRequest_some {selector : String} {db : BankDb} {k : Key}
    (h : topUpRequest selector db = some k) : k = .topup selector := by
  unfold topUpRequest at h
  split at h
  · exact (Option.some.inj h).symm
  · cases h

theorem finds_topupRequestBySelector (selector : String) (lock : Bool) :
    Finds (bankSpec P K R cfg) t (topupRequestBySelector selector lock) (fun found w' =>
      lock = true → found.isNone = false → w'.lock (.topup selector) = some t) w := by
  unfold topupRequestBySelector
  split
  · refine (Finds.lockWhere hσ _).mono fun found w' _ h _ hfound => ?_
    cases found with
    | none => cases hfound
    | some k =>
        obtain ⟨hlock, hq, -⟩ := h k rfl
        cases topUpRequest_some hq
        exact hlock
  · next hlock => exact (Finds.select hσ _).mono fun _ _ _ _ h => absurd h hlock

/-- The selector in a scanned token. -/
def selectorOf (rawToken : String) : Option String := (splitTopupToken rawToken).map Prod.fst

theorem yields_loadTopupRequestForApproval (hi : (bankSpec P K R cfg).inv w) (hidle : Idle t w)
    (rawToken : String) (lock : Bool) :
    Yields (bankSpec P K R cfg) t (loadTopupRequestForApproval cfg rawToken lock)
      (fun x w' => Idle t w' ∧ ∀ selector l, x = some (selector, l) →
        selectorOf rawToken = some selector ∧
          (lock = true → ∃ q, RequestHeld t w' selector l q)) w := by
  unfold loadTopupRequestForApproval
  split
  · exact ⟨hidle, nofun⟩
  next selector verifier hsplit =>
  refine Yields.after hi (finds_topupRequestBySelector hσ selector lock)
    fun found w₁ hi₁ hg₁ hfound => ?_
  have hidle₁ := hidle.grows hg₁
  split
  · exact ⟨hidle₁, nofun⟩
  next hsome =>
  refine Yields.after hi₁ (Finds.load hσ (.inl hidle₁) _) fun r w₂ hi₂ hg₂ _ => ?_
  have hidle₂ := hidle₁.grows hg₂
  split
  · exact ⟨hidle₂, nofun⟩
  refine Yields.bind hi₂ (yields_lazilyExpire hσ hi₂ hidle₂ selector) fun _ w₃ hi₃ h₃ => ?_
  obtain ⟨hidle₃, h₃⟩ := h₃
  have hselector : selectorOf rawToken = some selector := by rw [selectorOf, hsplit]; rfl
  -- the request was still in time, or the expiry has just been committed
  rcases h₃ with hg₃ | ⟨hclean, hclosed⟩
  · refine Yields.after hi₃ (Finds.load_copy hσ (.inl hidle₃) (hidle₃.not_mem _))
      fun r' w₄ hi₄ hg₄ hr' => ⟨hidle₃.grows hg₄, fun selector' l hx => ?_⟩
    split at hx
    swap
    · cases hx
    next hpending =>
    cases hx
    refine ⟨hselector, fun hl => ?_⟩
    obtain ⟨q, hq, hevolved⟩ := Copy.row hi₄ hr'
    have hlock := hfound hl (Bool.eq_false_iff.mpr hsome)
    exact ⟨q, hr', ((hg₂.trans hσ hg₃).trans hσ hg₄).lock _ hlock, hq, hpending, hevolved⟩
  · -- the request has just expired, and what is read now is the row
    have hnone : (w₃.sess t).cache (.topup selector) = none := by rw [hclean]; rfl
    refine Yields.after hi₃ (Finds.load_fresh hσ (.inl hidle₃) hnone) fun r' w₄ hi₄ hg₄ hr' => ?_
    obtain ⟨d, hd, hstatus⟩ := hclosed.grows hg₄
    cases hd.symm.trans hr'
    refine ⟨hidle₃.grows hg₄, fun selector' l hx => ?_⟩
    rw [if_neg hstatus] at hx
    cases hx

/-! ### Crediting -/

omit hσ in
/-- The session once the account is credited; the request has its instance. -/
structure Credited (t : ℕ) (w : BankWorld) (credit : Credit) (selector : String)
    (c : User) (q : TopUpApprovalRequest) : Prop where
  account : (w.sess t).cache (.user credit.userId) =
    some ⟨some c, { c with balance := c.balance + credit.amount }⟩
  request : Copy (S := bank) t w (.topup selector) q
  dirty : ∀ j, j ∈ (w.sess t).dirty ↔ j = .user credit.userId
  new : (w.sess t).new = [.topUpCredit credit selector,
    .transaction (topUpTransaction credit) none true]

omit hσ in
theorem Credited.grows {σ : StepSpec bank Err} {w' : BankWorld} {credit : Credit}
    {selector : String} {c : User} {q : TopUpApprovalRequest}
    (h : Credited t w credit selector c q) (hg : Grows σ t w w') :
    Credited t w' credit selector c q where
  account := hg.keep _ _ h.account
  request := h.request.grows hg
  dirty j := by rw [hg.dirty]; exact h.dirty j
  new := hg.new.trans h.new

omit hσ in
theorem insOk_cons {log : List Ledger} {credit : Credit} {request : String} {rest : List Ledger}
    (h : insOk log (.topUpCredit credit request :: rest) = true) :
    withinBounds credit.amount = true ∧ credit.creditRef ∉ topUpCreditRefs log := by
  simp only [insOk, Bool.and_eq_true, List.all_cons, decide_eq_true_eq, topUpCreditRefs,
    List.filterMap_append, List.filterMap_cons, List.nodup_append] at h
  refine ⟨h.1.1.1, fun hm => ?_⟩
  exact h.2.2.2 _ hm _ (List.mem_cons_self ..) rfl

theorem reads_auditEventRequired (user : ℕ) :
    Reads (bankSpec P K R cfg) t (auditEventRequired (some user)) w := by
  have htouch : ∀ w', Reads (bankSpec P K R cfg) t (touchUser (some user)) w' := fun w' =>
    (Reads.load hσ _).bind hσ fun _ w'' => Grows.refl hσ w''
  have hinsert : ∀ w', Reads (bankSpec P K R cfg) t insertAuditEvent w' := fun w' =>
    (Reads.query hσ _).bind hσ fun _ _ => (Reads.check hσ _).bind hσ fun _ _ => Reads.query hσ _
  exact (htouch w).bind hσ fun _ w' => (hinsert w').tryCatch_raise _

/-- What the account was when it was credited. -/
structure Funded (P : User → User → Prop) (t : ℕ) (w : BankWorld) (credit : Credit)
    (selector : String) (c s : User) (q : TopUpApprovalRequest) : Prop where
  account : Held P t w credit.userId c s
  unfrozen : c.frozen = false
  session : Credited t w credit selector c q

theorem sat_creditAccountTopup (hi : (bankSpec P K R cfg).inv w) (hidle : Idle t w)
    {selector : String} {l q : TopUpApprovalRequest} (hq : RequestHeld t w selector l q)
    (user : ℕ) :
    Sat (bankSpec P K R cfg) t (creditAccountTopup user l.amount selector) (fun r w' =>
      match r with
      | .ok creditRef => Keeps (bankSpec P K R cfg) t w w' ∧ ∃ n c s,
          Funded P t w' ⟨creditRef, user, l.amount, n⟩ selector c s l
      | .error _ => True) w := by
  refine Finds.then_sat hi (Finds.load_copy hσ (.inl hidle) (hidle.not_mem _))
    (fun c w₁ hi₁ hg₁ hc => ?_) fun _ _ _ => trivial
  have hidle₁ := hidle.grows hg₁
  refine Finds.then_sat hi₁ (finds_lockAccounts hσ hi₁ _) (fun _ w₂ hi₂ hg₂ h₂ => ?_)
    fun _ _ _ => trivial
  have hidle₂ := hidle₁.grows hg₂
  obtain ⟨s, hs⟩ := h₂ user c (List.mem_singleton.mpr rfl) hc
  refine Finds.then_sat hi₂ (Finds.load_known hσ (.inl hidle₂) hs.copy)
    (fun u w₃ hi₃ hg₃ hu => ?_) fun _ _ _ => trivial
  subst hu
  have hidle₃ := hidle₂.grows hg₃
  refine Finds.then_sat hi₃ (finds_ensureAccountNotFrozen hσ (.inl hidle₃) u _)
    (fun _ w₃' hi₃' hg₃' hfrozen => ?_) fun _ _ _ => trivial
  refine Finds.then_sat hi₃' (Finds.uuid4 hσ) (fun creditRef w₄ hi₄ hg₄' _ => ?_)
    fun _ _ _ => trivial
  have hg₄ := hg₃'.trans hσ hg₄'
  refine Finds.then_sat hi₄ (Finds.now hσ) (fun n w₅ hi₅ hg₅ _ => ?_) fun _ _ _ => trivial
  have hidle₅ := (hidle₃.grows hg₄).grows hg₅
  refine Finds.then_sat hi₅ (Finds.check hσ (.inl hidle₅) _) (fun _ w₆ hi₆ hg₆ _ => ?_)
    fun _ _ _ => trivial
  have hidle₆ := hidle₅.grows hg₆
  refine Finds.then_sat hi₆ (Finds.check hσ (.inl hidle₆) _) (fun _ w₇ hi₇ hg₇ _ => ?_)
    fun _ _ _ => trivial
  have hidle₇ := hidle₆.grows hg₇
  have hg₂₇ := (((hg₃.trans hσ hg₄).trans hσ hg₅).trans hσ hg₆).trans hσ hg₇
  have hg₁₇ := (hg₁.trans hσ hg₂).trans hσ hg₂₇
  have hs₇ := hs.grows hg₂₇
  have hq₇ := hq.grows hg₁₇
  -- from here on a failure leaves a credited account behind; the caller rolls it back
  refine Sat.assign_bind hσ hi₇ hs₇.copy fun w₈ hi₈ hk₈ hs₈ => ?_
  refine Sat.add_bind hσ hi₈ fun w₉ hi₉ hk₉ hs₉ => ?_
  refine Sat.add_bind hσ hi₉ fun w₁₀ hi₁₀ hk₁₀ hs₁₀ => ?_
  rw [hs₉, hs₈] at hs₁₀
  have hne : Key.topup selector ≠ Key.user user := nofun
  have hcredited : Credited t w₁₀ ⟨creditRef, user, l.amount, n⟩ selector u l := by
    refine ⟨?_, ?_, fun j => ?_, ?_⟩
    · rw [hs₁₀]
      dsimp only
      rw [Session.put_cache_self]
    · rw [Copy, hs₁₀]
      dsimp only
      rw [Session.put_cache_ne _ hne]
      exact hq₇.copy
    · rw [hs₁₀]
      simp [hidle₇.dirty]
    · rw [hs₁₀]
      simp [hidle₇.new, topUpTransaction]
  have hk := (hk₈.trans hσ hk₉).trans hσ hk₁₀
  refine Holds.bind (Reads.check hσ _) (fun _ w₁₁ hg₁₁ => ?_) fun _ _ _ => trivial
  refine Holds.bind (reads_auditEventRequired hσ user) (fun _ w₁₂ hg₁₂ => ?_) fun _ _ _ => trivial
  have hg := Grows.trans hσ hg₁₁ hg₁₂
  exact ⟨(hg₁₇.toKeeps.trans hσ hk).trans hσ hg.toKeeps, n, u, s,
    (hs₇.toHeld.grows hk).grows hg.toKeeps, hfrozen, hcredited.grows hg⟩

/-- The credit, the ledger entries and the completed request are committed
together. -/
theorem sat_completeTopUp (hi : (bankSpec P K R cfg).inv w) (hidle : Idle t w)
    {selector : String} {l q : TopUpApprovalRequest} (hq : RequestHeld t w selector l q)
    {user : ℕ} (howner : user = l.userId) :
    Sat (bankSpec P K R cfg) t (completeTopUp selector user) (fun r w' =>
      match r with
      | .ok _ => Clean t w'
      | .error _ => True) w := by
  refine Finds.then_sat hi (finds_auditEventRequired hσ hi (.inl hidle) _)
    (fun _ w₁ hi₁ hg₁ _ => ?_) fun _ _ _ => trivial
  have hidle₁ := hidle.grows hg₁
  have hq₁ := hq.grows hg₁
  refine Finds.then_sat hi₁ (Finds.load_known hσ (.inl hidle₁) hq₁.copy)
    (fun r w₂ hi₂ hg₂ hr => ?_) fun _ _ _ => trivial
  subst hr
  have hq₂ := hq₁.grows hg₂
  refine Holds.bind (Holds.with_inv (sat_creditAccountTopup hσ hi₂ (hidle₁.grows hg₂) hq₂ user)
    hi₂) ?_ fun _ _ _ => trivial
  rintro creditRef w₃ ⟨hi₃, hk₃, n, c, s, hf⟩
  refine Holds.bind (Holds.with_inv (Reads.now hσ) hi₃) ?_ fun _ _ _ => trivial
  rintro n' w₄ ⟨hi₄, hg₄⟩
  have hsession := hf.session.grows hg₄
  refine Sat.assign_bind hσ hi₄ hsession.request fun w₅ hi₅ hk₅ hs₅ => ?_
  -- the commit writes the account, the request and the new transaction
  refine Sat.commit hσ (fun w₆ hr₆ hi₆ hc₆ _ hadm => .inr ?_)
    (fun _ _ _ _ _ h => h) fun _ _ _ => trivial
  have hk := (hg₄.toKeeps.trans hσ hk₅).trans hσ (Keeps.rely hr₆)
  have hs₆ : w₆.sess t = _ := hr₆.1.sess.trans hs₅
  have hlock := (hk₃.trans hσ hk).lock _ hq₂.lock
  have hrow : w₆.db.row (.topup selector) = some q :=
    ((hk₃.trans hσ hk).row _ hq₂.lock).trans hq₂.row
  have haccount := hf.account.grows hk
  have hins : insOk w₆.db.log (w₆.sess t).new = true := (Bool.and_eq_true_iff.mp hadm).2
  rw [hs₆, Session.put_new, hsession.new] at hins
  obtain ⟨hbounds, hfresh⟩ := insOk_cons hins
  have hpos := amount_pos hbounds
  -- nothing else is written
  have hdirty : ∀ j, j ∈ (w₆.sess t).dirty ↔ j = .topup selector ∨ j = .user user := by
    intro j
    rw [hs₆, Session.put_dirty, List.mem_cons, hsession.dirty]
  have hcache : (w₆.sess t).cache (.topup selector) = some ⟨some r, { r with
      status := .completed, approvedAt := some n', creditRef := some creditRef }⟩ := by
    rw [hs₆, Session.put_cache_self]
  have huncompleted : R → q.status ≠ .completed := by
    intro hR hcompleted
    have hstale := hc₆ hR selector r _ q ((hdirty _).mpr (.inl rfl)) hcache hrow
      (by rw [hq.pending]; exact nofun) hcompleted
    rw [hq.pending] at hstale
    cases hstale
  refine .topUp ⟨creditRef, user, r.amount, n⟩ selector r q n' c s ⟨haccount, hrow, hq.pending,
    hq.evolved, huncompleted, howner.trans hq.evolved.2.1.symm, hq.evolved.2.2.1.symm, hbounds,
    hf.unfrozen, ?_, ?_, hfresh, ?_, fun k hku hks => ?_⟩
  · have hne : Key.user user ≠ Key.topup selector := nofun
    have haccountCache := hsession.account
    rw [← Session.put_cache_ne _ hne, ← hs₆] at haccountCache
    rw [view_row_of_mem ((hdirty _).mpr (.inr rfl)) haccountCache haccount.row]
    change some (c.merge _ s) = _
    rw [User.merge_balance, col_ne (by dsimp only at hpos ⊢; omega)]
  · rw [view_row_of_mem ((hdirty _).mpr (.inl rfl)) hcache hrow]
    rfl
  · rw [view_log, hs₆, Session.put_new, hsession.new]
  · refine view_row_of_not_mem fun hm => ?_
    rcases (hdirty k).mp hm with h | h
    · exact hks h
    · exact hku h

/-! ### The routes -/

/-- A request that is read again and not tested again was not completed when it was
tested. -/
theorem finds_rereads {tested found : ApprovalStatus} (htested : tested ≠ .completed) :
    Finds (bankSpec P K R cfg) t (mark (.rereads tested found))
      (fun _ _ => R → found ≠ .completed) w := by
  refine (Finds.mark hσ _).mono fun _ _ _ hmark hR hfound => ?_
  obtain ⟨w₁, hcond⟩ := hmark
  exact htested (hcond hR hfound)

theorem yields_failTopUpRequest (hi : (bankSpec P K R cfg).inv w) (hidle : Idle t w)
    (selector : String) {tested : ApprovalStatus} (htested : tested ≠ .completed) :
    Yields (bankSpec P K R cfg) t (failTopUpRequest selector tested)
      (fun _ w' => Settled (bankSpec P K R cfg) t w') w := by
  refine Yields.after hi (Finds.lockRows hσ _) fun _ w₁ hi₁ hg₁ _ => ?_
  have hidle₁ := hidle.grows hg₁
  refine Yields.after hi₁ (Finds.load_copy hσ (.inl hidle₁) (hidle₁.not_mem _))
    fun l w₂ hi₂ hg₂ hl => ?_
  have hidle₂ := hidle₁.grows hg₂
  refine Yields.after hi₂ (finds_rereads hσ htested) fun _ w₃ hi₃ hg₃ hopen => ?_
  refine Yields.assign_bind hσ hi₃ (hl.grows hg₃) fun w₄ hi₄ _ hs₄ => ?_
  have hs : Settled (bankSpec P K R cfg) t w₄ :=
    settled_close (.of_put (hidle₂.grows hg₃) hs₄) (.inr (.inl rfl)) fun _ => hopen
  exact Yields.quiet (Quiet.commit hσ) hs

theorem yields_countWrongCode (hi : (bankSpec P K R cfg).inv w) (hidle : Idle t w)
    (selector : String) {tested : ApprovalStatus} (htested : tested ≠ .completed) (user : ℕ) :
    Yields (bankSpec P K R cfg) t (countWrongCode selector tested user)
      (fun _ w' => Settled (bankSpec P K R cfg) t w') w := by
  refine Yields.after hi (Finds.load_copy hσ (.inl hidle) (hidle.not_mem _))
    fun l w₁ hi₁ hg₁ hl => ?_
  refine Yields.assign_bind hσ hi₁ hl fun w₂ hi₂ _ hs₂ => ?_
  have ht : Touched t w₂ (.topup selector) l { l with failureCount := l.failureCount + 1 } :=
    .of_put (hidle.grows hg₁) hs₂
  split
  · refine Yields.after hi₂ (finds_rereads hσ htested) fun _ w₃ hi₃ hg₃ hopen => ?_
    have ht₃ := ht.grows hg₃
    refine Yields.assign_bind hσ hi₃ ht₃.cache fun w₄ hi₄ _ hs₄ => ?_
    have hs : Settled (bankSpec P K R cfg) t w₄ :=
      settled_close (ht₃.put hs₄) (.inr (.inl rfl)) fun _ => hopen
    exact Yields.quiet ((Quiet.commit hσ).bind fun _ => (passive_auditEvent _).quiet hσ) hs
  · have hs : Settled (bankSpec P K R cfg) t w₂ :=
      settled_close ht (.inl rfl) fun hne => absurd rfl hne
    refine Yields.quiet ((Quiet.commit hσ).bind fun _ => ?_) hs
    exact (Quiet.load hσ _).bind fun _ => (passive_auditEvent _).quiet hσ

theorem yields_approveTopUp (hi : (bankSpec P K R cfg).inv w) (hidle : Idle t w)
    (rawToken : String) {user : ℕ}
    (howner : ∀ selector, selectorOf rawToken = some selector →
      ∃ r d, w.db.row (.topup selector) = some d ∧ evolves (.topup selector) r d ∧
        r.userId = user) :
    Yields (bankSpec P K R cfg) t (approveTopUp cfg rawToken user)
      (fun _ w' => Settled (bankSpec P K R cfg) t w') w := by
  -- the owner of the selector never changes, so what is loaded belongs to this user
  have hload : Yields (bankSpec P K R cfg) t (loadTopupRequestForApproval cfg rawToken true)
      (fun x w' => Idle t w' ∧ ∀ selector l, x = some (selector, l) →
        ∃ q, RequestHeld t w' selector l q ∧ user = l.userId) w := by
    cases hsel : selectorOf rawToken with
    | none =>
        refine (yields_loadTopupRequestForApproval hσ hi hidle rawToken true).mono
          fun x w' hx => ⟨hx.1, fun selector l hs => ?_⟩
        have := (hx.2 selector l hs).1
        rw [hsel] at this
        cases this
    | some selector =>
        obtain ⟨r, d, hd, he, hr⟩ := howner selector hsel
        refine (yields_evolved (yields_loadTopupRequestForApproval hσ hi hidle rawToken true)
          ⟨d, hd, he⟩).mono fun x w' hx => ⟨hx.2.1, fun selector' l hs => ?_⟩
        obtain ⟨hsel', hheld⟩ := hx.2.2 selector' l hs
        cases hsel.symm.trans hsel'
        obtain ⟨q, hq⟩ := hheld rfl
        obtain ⟨d', hd', he'⟩ := hx.1
        cases hd'.symm.trans hq.row
        exact ⟨q, hq, hr.symm.trans (he'.2.1.symm.trans hq.evolved.2.1)⟩
  refine Yields.bind hi hload fun x w₁ hi₁ h₁ => ?_
  obtain ⟨hidle₁, hheld⟩ := h₁
  split
  · exact .inl hidle₁
  next selector l =>
  obtain ⟨q, hq, hu⟩ := hheld selector l rfl
  have hdone : Sat (bankSpec P K R cfg) t
      (Prog.bind (completeTopUp selector user) fun _ => pure true)
      (fun r w' => match r with
        | .ok _ => Clean t w'
        | .error _ => (bankSpec P K R cfg).inv w') w₁ := by
    refine Holds.bind (Holds.with_inv (sat_completeTopUp hσ hi₁ hidle₁ hq hu) hi₁)
      (fun _ w' h' => h'.2) fun _ _ h' => h'.1
  have htested : l.status ≠ .completed := by
    rw [hq.pending]
    decide
  refine Yields.bind hi₁ (P := fun _ w' => Settled (bankSpec P K R cfg) t w') ?_
    fun completed w₂ hi₂ h₂ => ?_
  -- whatever is raised, the handler first rolls back
  · refine Holds.tryCatch hdone (fun _ w' h' => Clean.settled h') fun e w' hi' => ?_
    split
    · refine Yields.bind hi' (Yields.rollback) fun _ w₂ hi₂ h₂ => ?_
      exact Yields.bind hi₂ (yields_failTopUpRequest hσ hi₂ h₂.idle selector htested)
        fun _ _ _ h' => h'
    · refine Yields.bind hi' (Yields.rollback) fun _ w₂ hi₂ h₂ => ?_
      exact Yields.quiet ((Quiet.load hσ _).bind fun _ => Quiet.ret false) (.inl h₂.idle)
  · split
    · refine Yields.quiet ((Quiet.load hσ _).bind fun _ => ?_) h₂
      exact quiet_safeSendNotification hσ (passive_sendTransferNotification user)
    · exact h₂

theorem yields_topupApproveSubmit (hi : (bankSpec P K R cfg).inv w) (hidle : Idle t w)
    (rawToken : String) :
    Yields (bankSpec P K R cfg) t (topupApproveSubmit cfg rawToken)
      (fun _ w' => Settled (bankSpec P K R cfg) t w') w := by
  refine Yields.bind hi (yields_loadTopupRequestForApproval hσ hi hidle rawToken true)
    fun x w₁ hi₁ h₁ => ?_
  obtain ⟨hidle₁, hsel⟩ := h₁
  split
  · exact .inl hidle₁
  next selector l =>
  obtain ⟨hselector, hheld⟩ := hsel selector l rfl
  obtain ⟨q, hq⟩ := hheld rfl
  have htested : l.status ≠ .completed := by
    rw [hq.pending]
    decide
  refine Yields.after hi₁ (Finds.ask hσ) fun formValid w₂ hi₂ hg₂ _ => ?_
  have hidle₂ := hidle₁.grows hg₂
  split
  · exact .inl hidle₂
  refine Yields.after hi₂ (Finds.load_known hσ (.inl hidle₂) (hq.copy.grows hg₂))
    fun r w₃ hi₃ hg₃ hr => ?_
  subst hr
  have hidle₃ := hidle₂.grows hg₃
  refine Yields.after hi₃ (Finds.load hσ (.inl hidle₃) _) fun u w₄ hi₄ hg₄ _ => ?_
  have hidle₄ := hidle₃.grows hg₄
  have hr₄ := ((hq.copy.grows hg₂).grows hg₃).grows hg₄
  split
  · refine Yields.assign_bind hσ hi₄ hr₄ fun w₅ hi₅ _ hs₅ => ?_
    have hs : Settled (bankSpec P K R cfg) t w₅ :=
      settled_close (.of_put hidle₄ hs₅) (.inr (.inl rfl)) fun _ _ => htested
    exact Yields.quiet (((passive_auditEvent _).quiet hσ).bind fun _ => Quiet.commit hσ) hs
  -- the code is checked in between, but the owner of a request does not change
  have hcode := Yields.bind hi₄ (yields_evolved
      (tame_verifyTotpForUser hσ r.userId t w₄ hi₄ hidle₄) (Copy.row hi₄ hr₄))
      (Q := fun x w' => ∃ b, x = some b ∧ Idle t w' ∧
        ∃ d, w'.db.row (.topup selector) = some d ∧ evolves (.topup selector) r d)
      (f := fun b => pure (some b)) fun b w' _ h' => ⟨b, rfl, h'.2, h'.1⟩
  refine Yields.bind hi₄ (Holds.tryCatch hcode (fun x w' h' => ?_) fun e w' h' => ?_)
    (P := fun x w' => (x = none → Settled (bankSpec P K R cfg) t w') ∧ ∀ b, x = some b →
      Idle t w' ∧ ∃ d, w'.db.row (.topup selector) = some d ∧ evolves (.topup selector) r d)
    fun verified w₅ hi₅ h₅ => ?_
  · obtain ⟨b, rfl, h'⟩ := h'
    refine ⟨fun heq => (by cases heq), fun b' heq => ?_⟩
    cases heq
    exact h'
  · split
    · exact ⟨fun _ => h', fun b heq => by cases heq⟩
    · exact h'
  split
  · exact h₅.1 rfl
  · exact yields_countWrongCode hσ hi₅ (h₅.2 false rfl).1 selector htested r.userId
  · obtain ⟨hidle₅, d, hd, he⟩ := h₅.2 true rfl
    refine yields_approveTopUp hσ hi₅ hidle₅ rawToken fun selector' hs => ?_
    cases hselector.symm.trans hs
    exact ⟨r, d, hd, he, rfl⟩

theorem yields_topupApprove (hi : (bankSpec P K R cfg).inv w) (hidle : Idle t w)
    (rawToken : String) :
    Yields (bankSpec P K R cfg) t (topupApprove cfg rawToken)
      (fun _ w' => Settled (bankSpec P K R cfg) t w') w :=
  Yields.bind hi (yields_loadTopupRequestForApproval hσ hi hidle rawToken false)
    fun _ _ _ h => .inl h.1

theorem yields_topupStatus (hi : (bankSpec P K R cfg).inv w) (hidle : Idle t w)
    (selector : String) (user : ℕ) :
    Yields (bankSpec P K R cfg) t (topupStatus selector user)
      (fun _ w' => Settled (bankSpec P K R cfg) t w') w := by
  refine Yields.bind hi (P := fun _ w' => Idle t w') ?_ fun _ _ _ h => .inl h
  refine Yields.after hi (finds_topupRequestBySelector hσ selector false)
    fun found w₁ hi₁ hg₁ _ => ?_
  have hidle₁ := hidle.grows hg₁
  split
  · exact hidle₁
  refine Yields.bind hi₁ (Tame.load hσ _ t w₁ hi₁ hidle₁) fun r w₂ hi₂ h₂ => ?_
  split
  · exact h₂
  refine Yields.bind hi₂ (yields_lazilyExpire hσ hi₂ h₂ selector) fun _ w₃ hi₃ h₃ => ?_
  exact Yields.bind hi₃ (Tame.load hσ _ t w₃ hi₃ h₃.1) fun _ _ _ h => h

end Specs

end SitBank.Banking
