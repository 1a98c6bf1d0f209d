import SitBank.Banking.TopUpSpecs

/-!
The system as a whole: any number of requests, interleaved in any order.

`reach_preserves` is the induction over runs. What a claim about runs still has
to show is that the commits of the requests, `BankStep`, keep its property.
-/

namespace SitBank.Banking

open SitBank.Interaction SitBank.Orm

variable {P : User → User → Prop} {K : ℕ → BankDb → ℤ → Prop} {R : Prop}
  {cfg : Config}

/-! ### Requests -/

section Requests

variable {t : ℕ} {w : BankWorld}

theorem yields_handler (hi : (bankSpec P K R cfg).inv w) (hidle : Idle t w)
    (request : Request) :
    Yields (bankSpec P K R cfg) t (handler cfg request)
      (fun _ w' => Settled (bankSpec P K R cfg) t w') w := by
  have hσ : (bankSpec P K R cfg).Lawful := bankSpec_lawful
  have settled : ∀ {α : Type} {p : BankReq α},
      Sat (bankSpec P K R cfg) t p (fun _ w' => Settled (bankSpec P K R cfg) t w') w →
      Yields (bankSpec P K R cfg) t (p.bind fun _ => pure ())
        (fun _ w' => Settled (bankSpec P K R cfg) t w') w := fun hp =>
    Holds.bind hp (fun _ _ h => h) fun _ _ h => h
  cases request with
  | executeLocalTransfer sender payee token =>
      exact settled (sat_executeLocalTransfer hσ hi hidle sender payee token)
  | executePayupTransfer session sender token authorized =>
      exact settled (sat_executePayupTransfer hσ hi hidle session sender token authorized)
  | topupApproveSubmit rawToken => exact yields_topupApproveSubmit hσ hi hidle rawToken
  | topupApprove rawToken => exact yields_topupApprove hσ hi hidle rawToken
  | topupStatus selector user => exact yields_topupStatus hσ hi hidle selector user
  | freezeOwnAccount user => exact yields_freezeOwnAccount hσ hi hidle user
  | freezeCustomerAsStaff actor target =>
      exact yields_freezeCustomerAsStaff hσ hi hidle actor target
  | lockUserAccount user reason =>
      exact (tame_lockUserAccount hσ user reason t w hi hidle).mono fun _ _ h => .inl h
  | transferLimitsSubmit user payupLimit localTransferLimit =>
      exact yields_transferLimitsSubmit hσ hi hidle user payupLimit localTransferLimit

theorem passive_before (before : List Before) : Passive (Prog.forEach Before.run before) := by
  refine Prog.All.forEach (fun b => ?_) before
  cases b with
  | load k => exact Prog.All.bind (.perform trivial) fun _ => trivial
  | commit => exact .perform trivial

theorem passive_commitQuietly : Passive commitQuietly := by
  refine Prog.All.tryCatch (.perform trivial) fun e => ?_
  split
  · exact .perform trivial
  · exact Prog.All.bind (.perform trivial) fun _ => trivial

theorem passive_saveSession : Passive saveSession := by
  refine Prog.All.bind (.perform trivial) fun session => ?_
  split
  · exact Prog.All.bind (.perform trivial) fun _ => passive_commitQuietly
  · trivial

/-- Whatever a handler leaves in the session, saving the browser session commits
nothing but a step of the handler. -/
theorem sat_serve {α : Type} (hi : (bankSpec P K R cfg).inv w) (hclean : Clean t w)
    (before : List Before) {handler : BankReq α}
    (hh : ∀ w', (bankSpec P K R cfg).inv w' → Idle t w' → Yields (bankSpec P K R cfg) t handler
      (fun _ w'' => Settled (bankSpec P K R cfg) t w'') w') :
    Sat (bankSpec P K R cfg) t (serve before handler) (fun _ _ => True) w := by
  have hσ : (bankSpec P K R cfg).Lawful := bankSpec_lawful
  have hbody : Yields (bankSpec P K R cfg) t
      (Prog.bind (Prog.forEach Before.run before) fun _ =>
        handler.bind fun a => pure (Except.ok a : Except (Exc Err) α))
      (fun _ w' => Settled (bankSpec P K R cfg) t w') w := by
    refine Yields.bind hi ((passive_before before).tame hσ t w hi hclean.idle)
      fun _ w₁ hi₁ h₁ => ?_
    exact Yields.bind hi₁ (hh w₁ hi₁ h₁) fun _ _ _ h => h
  refine Holds.bind (M := fun r w' => (∃ a, r = .ok a) ∧ Settled (bankSpec P K R cfg) t w')
    ?_ (fun r w₁ h₁ => ?_) fun _ _ _ => trivial
  · refine Holds.tryCatch hbody (fun _ _ h => ⟨⟨_, rfl⟩, h⟩) fun e w' h => ⟨⟨_, rfl⟩, h⟩
  · refine Holds.bind (Quiet.mark hσ _ t w₁ h₁.2) (fun _ w₂ h₂ => ?_) fun _ _ _ => trivial
    refine Holds.bind (Quiet.tryCatch (passive_saveSession.quiet hσ)
      (fun _ => Quiet.ret ()) t w₂ h₂)
      (fun _ w₃ _ => ?_) fun _ _ _ => trivial
    exact Holds.bind (Sat.rollback (Q := fun _ _ => True) fun _ _ => trivial)
      (fun _ _ _ => trivial) fun _ _ _ => trivial

end Requests

/-! ### Runs -/

theorem allHold_start (before : ℕ → List Before) (requests : ℕ → Request) (db : BankDb)
    (clock : ℤ) :
    AllHold exec (bankSpec P K R cfg).rules (start cfg before requests db clock) := by
  have hi : (bankSpec P K R cfg).inv (start cfg before requests db clock).world := by
    refine ⟨fun t k e he => ?_, fun t k e l he => ?_⟩
    · cases he
    · cases he
  exact ⟨hi, fun t => sat_serve hi rfl (before t) fun w' hi' hidle =>
    yields_handler hi' hidle (requests t)⟩

section Runs

variable {before : ℕ → List Before} {requests : ℕ → Request} {db : BankDb} {clock : ℤ}

/-- A step of a run commits nothing or one of the steps of `BankStep`. -/
theorem step_commits {x y : BankConf} {t : ℕ} {c : Choice}
    (hx : Reach exec (stepCond P K R) (start cfg before requests db clock) x)
    (hm : Meets (stepCond P K R) x t) (hs : step exec x t c = some y) :
    y.world.db = x.world.db ∨ BankStep P K R cfg t x.world y.world.db :=
  (step_holds bankSpec_lawful.sound (reach_holds bankSpec_lawful.sound
    (allHold_start before requests db clock) hx) hm hs).1.2

/-- An invariant of the commits is an invariant of the runs. -/
theorem reach_preserves {J : BankDb → Prop}
    (hJ : ∀ t w d, J w.db → BankStep P K R cfg t w d → J d) (h₀ : J db) {y : BankConf}
    (h : Reach exec (stepCond P K R) (start cfg before requests db clock) y) : J y.world.db := by
  induction h with
  | refl => exact h₀
  | step hr hm hs ih =>
      rcases step_commits hr hm hs with hsame | hstep
      · rw [hsame]
        exact ih
      · exact hJ _ _ _ ih hstep

end Runs

/-! ### Executable conditions and sample data -/

/-- `statusFresh`, as a test. -/
def statusFreshCheck (t : ℕ) (w : BankWorld) : Bool :=
  (w.sess t).dirty.all fun
    | .topup selector =>
        match (w.sess t).cache (.topup selector), w.db.row (.topup selector) with
        | some ⟨some l, c⟩, some d =>
            c.status = l.status || d.status ≠ .completed || l.status = .completed
        | _, _ => true
    | _ => true

theorem statusFresh_of_check {t : ℕ} {w : BankWorld} (h : statusFreshCheck t w = true) :
    statusFresh t w := by
  intro selector l c d hdirty hcache hrow hchanged hcompleted
  have := List.all_eq_true.mp h _ hdirty
  simp only [hcache, hrow] at this
  simpa [hchanged, hcompleted] using this

/-- `stepCond`, as a test. -/
def stepCheck (P : User → User → Bool) (K : ℕ → BankDb → ℤ → Bool) (R : Bool)
    (t : ℕ) (o : Op bank Err) (w : BankWorld) : Bool :=
  match o with
  | .lockRows ks => ks.all fun
      | .user id => (w.db.row (.user id)).all fun s => P (copyOf w t id s) s
      | _ => true
  | .now => K t w.db w.clock
  | .commit => !R || statusFreshCheck t w
  | .mark (.rereads tested found) => !R || found ≠ .completed || tested = .completed
  | _ => true

theorem stepCond_of_check {P : User → User → Bool} {K : ℕ → BankDb → ℤ → Bool}
    {R : Bool} {t : ℕ} {o : Op bank Err} {w : BankWorld}
    (h : stepCheck P K R t o w = true) :
    stepCond (fun c s => P c s = true) (fun t d n => K t d n = true) (R = true) t o w := by
  cases o with
  | lockRows ks =>
      intro id s hid hs
      have := List.all_eq_true.mp h _ hid
      simp only [hs, Option.all_some] at this
      exact this
  | now => exact h
  | commit =>
      intro hR
      simp only [stepCheck, hR, Bool.not_true, Bool.false_or] at h
      exact statusFresh_of_check h
  | mark p =>
      cases p with
      | rereads tested found =>
          intro hR hfound
          simpa [stepCheck, hR, hfound] using h
      | _ => trivial
  | load | select | selectAll | lockWhere | assign | addRow | add | query | rollback | uuid4
  | ask | check => trivial

def sampleUser (accountNumber : String) : User where
  accountType := .customer
  accountStatus := .active
  phoneNumber := some "+6590000000"
  payupNickname := some "sample"
  accountNumber := some accountNumber
  mfaEnabled := true
  balance := 10000
  payupDailyLimit := 100000
  payupEnabled := true
  transferActivityEmailEnabled := false
  localTransferDailyLimit := 100000
  isFrozen := false
  securityLockedAt := none
  securityLockReason := none

def sampleConfig : Config where
  payeeCooldownSeconds := 60
  payupQuickTransferCap := 10000
  payupQuickDailyCap := 20000
  payupQuickSessionMaxAgeSeconds := 3600
  localTransferTokenVerifier := id
  payupTransferTokenVerifier := id
  topupTokenHmac := id
  userIds := [1, 2]

/-- Two accounts with their registration credits; the first has the second as a
payee and two confirmed transfers of one dollar to it. -/
def sampleDb : BankDb where
  row
    | .user id =>
        if id = 1 then some (sampleUser "100")
        else if id = 2 then some (sampleUser "200") else none
    | .payee id => if id = 1 then some ⟨1, "200", -1000000000⟩ else none
    | .pending token =>
        if token = "a" ∨ token = "b" then
          some ⟨1, 1, 100000, "rent", 1000000000, none, none⟩
        else none
    | .payupPending _ => none
    | .topup _ => none
  log := [.registrationCredit ⟨"r1", 1, 10000, -5000000000⟩,
    .registrationCredit ⟨"r2", 2, 10000, -5000000000⟩]

/-- Nothing fails, and `uuid4` draws `fresh`. -/
def succeed (fresh : String) : Choice := ⟨false, 1, fresh, false⟩

/-- `n` operations of thread `t`, none of which fails. -/
def succeeds (t n : ℕ) (fresh : String) : List (ℕ × Choice) := List.replicate n (t, succeed fresh)

/-- Operations of thread `t`, none of which fails, with these answers. -/
def answered (t : ℕ) (fresh : String) (answers : List Bool) : List (ℕ × Choice) :=
  answers.map fun b => (t, ⟨false, 1, fresh, b⟩)

/-- Two requests that transfer one dollar each from the first account to the
second. -/
def twoTransfers : BankConf :=
  start sampleConfig (fun _ => [])
    (fun t => .executeLocalTransfer 1 1 (if t = 0 then "a" else "b")) sampleDb 0

end SitBank.Banking
