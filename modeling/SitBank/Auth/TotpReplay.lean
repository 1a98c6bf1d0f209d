import Mathlib.Algebra.Order.Ring.Int
import Mathlib.Data.List.Nodup
import SitBank.Auth.Totp

/-!
Time steps are accepted once, as long as the replay record is committed in time.

A replay record outlives the acceptance window of its step by the length of one
step, counted from the earliest moment at which the step can be accepted
(`deadline`). A verification that commits before that moment still finds every
earlier record of its step. One that was held up for longer does not: its time
step was tested when it started and is not tested again.
-/

namespace SitBank.Auth

open SitBank.Interaction SitBank.Python

/-! ### Which steps are accepted -/

theorem firstMatch_mem {totpAt : ℤ → String} {code : String} {candidates : List ℤ} {s : ℤ}
    (h : firstMatch totpAt code candidates = .ok (some s)) :
    s ∈ candidates ∧ totpAt (s * 30) = code := by
  induction candidates with
  | nil => cases h
  | cons c cs ih =>
      unfold firstMatch at h
      split at h
      · exact ⟨List.mem_cons_of_mem c (ih h).1, (ih h).2⟩
      split at h
      · cases h
      split at h
      · next hc =>
          cases h
          exact ⟨List.mem_cons_self .., hc⟩
      · exact ⟨List.mem_cons_of_mem c (ih h).1, (ih h).2⟩

theorem mem_candidateSteps {current w : ℕ} {s : ℤ} (h : s ∈ candidateSteps current w) :
    (current : ℤ) - w ≤ s ∧ s ≤ current + w := by
  obtain ⟨i, hi, rfl⟩ := List.mem_map.mp h
  have := List.mem_range.mp hi
  constructor <;> omega

theorem acceptedTotpStep_spec {cfg : TotpConfig} {secret code : String} {now w : ℕ} {s : ℤ}
    (h : acceptedTotpStep cfg secret code now w = .ok (some s)) :
    ((now / 30 : ℕ) : ℤ) - w ≤ s ∧ s ≤ (now / 30 : ℕ) + w ∧ cfg.totpAt secret (s * 30) = code := by
  obtain ⟨hmem, hcode⟩ := firstMatch_mem h
  obtain ⟨hlo, hhi⟩ := mem_candidateSteps hmem
  exact ⟨hlo, hhi, hcode⟩

/-! ### Lifetimes -/

/-- The window of a replay scope. -/
def window (cfg : TotpConfig) (replayScope : String) : ℕ := totpValidWindow cfg replayScope none

/-- One step after the end of the acceptance window, in microseconds. -/
def deadline (cfg : TotpConfig) (replayScope : String) (step : ℤ) : ℤ :=
  (step + window cfg replayScope + 2) * 30000000

theorem window_totpReplayScope (cfg : TotpConfig) {scope : String}
    (h : strip scope.toList = scope.toList) :
    window cfg (totpReplayScope scope) = totpValidWindow cfg scope none := by
  unfold window totpReplayScope
  rw [h, String.ofList_toList]
  dsimp only
  split
  · next hmem =>
      have hlogin : scope ≠ "mfa_login" := by
        rintro rfl
        exact absurd hmem (by decide)
      rw [totpValidWindow, totpValidWindow, if_neg (by decide), if_neg hlogin]
  · rfl

theorem deadline_le {instant instant' w : ℕ} {s : ℤ} (hle : instant ≤ instant')
    (hs : s ≤ (instant / 1000000 / 30 : ℕ) + w) :
    (s + w + 2) * 30000000 ≤ ((instant' + replayTtl w * 1000000 : ℕ) : ℤ) := by
  have httl : replayTtl w = (w * 2 + 2) * 30 := by
    unfold replayTtl
    omega
  rw [httl]
  omega

/-! ### What a step can do -/

/-- A record as a verification makes it: its digest is that of the code of its
step, and it expires after the deadline. -/
structure Proper (cfg : TotpConfig) (r : TotpReplayRecord) : Prop where
  digest : r.codeDigest = codeDigest cfg r.userId r.scope r.timeStep
    (cfg.totpAt (cfg.secret r.userId) (r.timeStep * 30))
  expires : deadline cfg r.scope r.timeStep ≤ r.expiresAt

/-- `T` holds of a record and the time of its commit. -/
inductive TotpStep (cfg : TotpConfig) (T : TotpReplayRecord → ℕ → Prop) :
    TotpWorld → TotpWorld → Prop
  | quiet {w : TotpWorld} {clock : ℕ} (hc : w.clock ≤ clock) :
      TotpStep cfg T w { w with clock := clock }
  | accept {w : TotpWorld} {clock : ℕ} {scope : String} {r : TotpReplayRecord}
      (hc : w.clock ≤ clock) (hscope : r.scope = totpReplayScope scope) (hr : Proper cfg r)
      (hfree : r.key ∉ w.records.map TotpReplayRecord.key) (hT : T r w.clock) :
      TotpStep cfg T w ⟨clock, w.records ++ [r], w.accepted ++ [⟨r.userId, scope, r.timeStep⟩]⟩
  | delete {w : TotpWorld} {clock : ℕ} {records : List TotpReplayRecord} (hc : w.clock ≤ clock)
      (hsub : ∀ r ∈ records, r ∈ w.records)
      (hkept : ∀ r ∈ w.records, r ∈ records ∨ r.expiresAt ≤ w.clock) :
      TotpStep cfg T w { w with clock := clock, records := records }

theorem TotpStep.clock_le {cfg : TotpConfig} {T : TotpReplayRecord → ℕ → Prop} {w w' : TotpWorld}
    (h : TotpStep cfg T w w') : w.clock ≤ w'.clock := by
  cases h with
  | quiet hc => exact hc
  | accept hc => exact hc
  | delete hc => exact hc

/-- The condition on the commit of a replay record. -/
def commitsWhen (T : TotpReplayRecord → ℕ → Prop) (_ : ℕ) (o : TotpOp) (w : TotpWorld) : Prop :=
  match o with
  | .commitReplay _ r => T r w.clock
  | _ => True

def totpRules (cfg : TotpConfig) (T : TotpReplayRecord → ℕ → Prop) : Rules TotpOp TotpWorld where
  rely _ w w' := w.clock ≤ w'.clock
  guar _ w w' := TotpStep cfg T w w'
  inv _ := True
  cond := commitsWhen T

theorem totpRules_sound (cfg : TotpConfig) (T : TotpReplayRecord → ℕ → Prop) :
    (totpRules cfg T).Sound where
  refl _ _ := le_rfl
  trans _ _ _ _ h h' := le_trans h h'
  others _ _ _ _ _ _ h := h.clock_le

theorem deleteExpired_sub {currentTime limit : ℕ} {records : List TotpReplayRecord}
    {r : TotpReplayRecord} (h : r ∈ deleteExpired currentTime limit records) : r ∈ records := by
  fun_induction deleteExpired currentTime limit records with
  | case1 => exact h
  | case2 => exact h
  | case3 limit a records _ ih => exact List.mem_cons_of_mem a (ih h)
  | case4 limit a records _ ih =>
      rcases List.mem_cons.mp h with rfl | h
      · exact List.mem_cons_self ..
      · exact List.mem_cons_of_mem a (ih h)

theorem deleteExpired_keeps {currentTime limit : ℕ} {records : List TotpReplayRecord}
    {r : TotpReplayRecord} (h : r ∈ records) :
    r ∈ deleteExpired currentTime limit records ∨ r.expiresAt ≤ currentTime := by
  fun_induction deleteExpired currentTime limit records with
  | case1 => exact .inl h
  | case2 => cases h
  | case3 limit a records hexp ih =>
      rcases List.mem_cons.mp h with rfl | h
      · exact .inr hexp
      · exact ih h
  | case4 limit a records hexp ih =>
      rcases List.mem_cons.mp h with rfl | h
      · exact .inl (List.mem_cons_self ..)
      · exact (ih h).imp (List.mem_cons_of_mem a) id

/-! ### The programs -/

section Programs

variable {cfg : TotpConfig} {T : TotpReplayRecord → ℕ → Prop} {t : ℕ} {w : TotpWorld}

/-- `Holds` for the rules above. -/
abbrev TotpSat (cfg : TotpConfig) (T : TotpReplayRecord → ℕ → Prop) (t : ℕ) {α : Type}
    (p : TotpReq α) (Q : Except TotpError α → TotpWorld → Prop) (w : TotpWorld) : Prop :=
  Holds totpExec (totpRules cfg T) t p Q w

theorem sat_time : TotpSat cfg T t time
    (fun r w' => ∃ n, r = .ok n ∧ w.clock ≤ n ∧ n ≤ w'.clock) w := by
  refine Holds.perform fun w₁ hr _ _ c r w' hx => ?_
  cases hx
  exact ⟨.quiet (Nat.le_add_right ..), trivial, w₁.clock, rfl, hr, Nat.le_add_right ..⟩

theorem sat_counters : TotpSat cfg T t counters (fun _ w' => w.clock ≤ w'.clock) w := by
  refine Holds.perform fun w₁ hr _ _ c r w' hx => ?_
  have hle := Nat.le_add_right w₁.clock c.tick
  simp only [totpExec, totpAct] at hx
  split at hx <;> cases hx <;> exact ⟨.quiet hle, trivial, le_trans hr hle⟩

theorem sat_whenTracking (trackFailures : Bool) :
    TotpSat cfg T t (whenTracking trackFailures) (fun _ w' => w.clock ≤ w'.clock) w := by
  unfold whenTracking
  split
  · exact sat_counters
  · exact le_rfl

theorem sat_invalidCode (trackFailures : Bool) :
    TotpSat cfg T t (invalidCode trackFailures) (fun _ _ => True) w :=
  Holds.bind (sat_whenTracking trackFailures) (fun _ _ _ => trivial) fun _ _ _ => trivial

theorem sat_commitReplayRecord {scope : String} {r : TotpReplayRecord} (trackFailures : Bool)
    (hscope : r.scope = totpReplayScope scope) (hr : Proper cfg r) :
    TotpSat cfg T t (commitReplayRecord scope r trackFailures) (fun _ _ => True) w := by
  intro w₁ _ _ hT c a w' hx
  have hle := Nat.le_add_right w₁.clock c.tick
  have hrest : ∀ w', TotpSat cfg T t ((whenTracking trackFailures).bind fun _ =>
      counters.bind fun _ => pure TotpVerificationOutcome.valid) (fun _ _ => True) w' := fun w' =>
    Holds.bind (sat_whenTracking trackFailures) (fun _ _ _ =>
      Holds.bind sat_counters (fun _ _ _ => trivial) fun _ _ _ => trivial) fun _ _ _ => trivial
  simp only [totpExec, totpAct] at hx
  split at hx
  · cases hx
    exact ⟨.quiet hle, trivial, trivial⟩
  split at hx
  · cases hx
    exact ⟨.quiet hle, trivial, trivial⟩
  · next hfree =>
      cases hx
      exact ⟨.accept hle hscope hr hfree hT, trivial, hrest _⟩

theorem sat_verify (v : Verification) :
    TotpSat cfg T t (verifyTotpSecretForUserOutcome cfg v.user (cfg.secret v.user) v.code v.scope
      none v.trackFailures) (fun _ _ => True) w := by
  unfold verifyTotpSecretForUserOutcome
  split
  · exact sat_invalidCode _
  refine Holds.bind (sat_whenTracking _) (fun _ w₁ _ => ?_) fun _ _ _ => trivial
  refine Holds.bind sat_time (fun instant w₂ h₂ => ?_) fun _ _ _ => trivial
  obtain ⟨_, hok, _, hinstant⟩ := h₂
  cases hok
  dsimp only
  split
  · trivial
  · exact sat_invalidCode _
  · next step haccepted =>
      obtain ⟨_, hhi, hcode⟩ := acceptedTotpStep_spec haccepted
      refine Holds.bind sat_time (fun instant' w₃ h₃ => ?_) fun _ _ _ => trivial
      obtain ⟨_, hok, hle, _⟩ := h₃
      cases hok
      refine sat_commitReplayRecord _ rfl ⟨?_, ?_⟩
      · dsimp only
        rw [hcode]
      · dsimp only
        unfold deadline
        rw [window_totpReplayScope cfg v.stripped]
        exact deadline_le (le_trans hinstant hle) hhi

theorem sat_cleanupReplayRecords (limit : ℕ) :
    TotpSat cfg T t (cleanupReplayRecords limit) (fun _ _ => True) w := by
  refine Holds.bind sat_time (fun currentTime w₁ h₁ => ?_) fun _ _ _ => trivial
  obtain ⟨_, hok, _, htime⟩ := h₁
  cases hok
  refine Holds.perform fun w₂ hr _ _ c r w' hx => ?_
  have hle := Nat.le_add_right w₂.clock c.tick
  simp only [totpExec, totpAct] at hx
  split at hx
  · cases hx
    exact ⟨.quiet hle, trivial, trivial⟩
  · cases hx
    refine ⟨.delete hle (fun _ => deleteExpired_sub) fun r hr' => ?_, trivial, trivial⟩
    exact (deleteExpired_keeps hr').imp id fun h => h.trans (htime.trans hr)

theorem allHold_totpStart (requests : ℕ → TotpRequest) (clock : ℕ) :
    AllHold totpExec (totpRules cfg T) (totpStart cfg requests clock) := by
  refine ⟨trivial, fun t => ?_⟩
  show TotpSat cfg T t ((requests t).run cfg) (fun _ _ => True) _
  cases requests t with
  | verify v => exact Holds.bind (sat_verify v) (fun _ _ _ => trivial) fun _ _ _ => trivial
  | cleanup limit => exact sat_cleanupReplayRecords limit

end Programs

/-! ### Runs -/

section Runs

variable {cfg : TotpConfig} {T : TotpReplayRecord → ℕ → Prop} {requests : ℕ → TotpRequest}
  {clock : ℕ} {x y : TotpConf}

theorem totpStep_of_reach {t : ℕ} {c : TotpChoice}
    (hx : Reach totpExec (commitsWhen T) (totpStart cfg requests clock) x)
    (hm : Meets (commitsWhen T) x t) (hs : step totpExec x t c = some y) :
    TotpStep cfg T x.world y.world :=
  (step_holds (totpRules_sound cfg T) (reach_holds (totpRules_sound cfg T)
    (allHold_totpStart requests clock) hx) hm hs).1

theorem proper_of_reach (hx : Reach totpExec (commitsWhen T) (totpStart cfg requests clock) x) :
    ∀ r ∈ x.world.records, Proper cfg r := by
  induction hx with
  | refl => exact fun r hr => (nomatch hr)
  | @step y z t c hy hm hs ih =>
      have hstep := totpStep_of_reach hy hm hs
      obtain ⟨zw, zp⟩ := z
      dsimp only at hstep ⊢
      cases hstep with
      | quiet => exact ih
      | accept _ _ hr =>
          intro r' hr'
          rcases List.mem_append.mp hr' with h | h
          · exact ih r' h
          · rw [List.mem_singleton.mp h]
            exact hr
      | delete _ hsub => exact fun r hr => ih r (hsub r hr)

/-- What has been accepted: a time step, under a replay scope. -/
def Acceptance.key (a : Acceptance) : ℕ × String × ℤ :=
  (a.userId, totpReplayScope a.scope, a.timeStep)

/-- The record of every accepted step is there until the deadline has passed. -/
def Remembered (cfg : TotpConfig) (w : TotpWorld) : Prop :=
  ∀ a ∈ w.accepted, (∃ r ∈ w.records, (r.userId, r.scope, r.timeStep) = a.key) ∨
    deadline cfg (totpReplayScope a.scope) a.timeStep ≤ w.clock

/-- A replay record is committed before its deadline. -/
def timely (cfg : TotpConfig) (r : TotpReplayRecord) (clock : ℕ) : Prop :=
  (clock : ℤ) < deadline cfg r.scope r.timeStep

theorem TotpStep.remembered {w w' : TotpWorld} (h : TotpStep cfg T w w')
    (hp : ∀ r ∈ w.records, Proper cfg r) (hw : Remembered cfg w) : Remembered cfg w' := by
  cases h with
  | @quiet clock hc =>
      intro a ha
      refine (hw a ha).imp id fun hd => le_trans hd ?_
      exact_mod_cast hc
  | @accept clock scope r hc hscope hr hfree hT =>
      intro a ha
      rcases List.mem_append.mp ha with ha | ha
      · refine (hw a ha).imp ?_ fun hd => le_trans hd (by exact_mod_cast hc)
        rintro ⟨r', hr', hkey⟩
        exact ⟨r', List.mem_append_left _ hr', hkey⟩
      · rw [List.mem_singleton.mp ha]
        exact .inl ⟨r, List.mem_append_right _ (List.mem_singleton.mpr rfl), by
          rw [hscope, Acceptance.key]⟩
  | @delete clock records hc hsub hkept =>
      intro a ha
      rcases hw a ha with ⟨r, hr, hkey⟩ | hd
      · rcases hkept r hr with hr' | hexp
        · exact .inl ⟨r, hr', hkey⟩
        · have hscope : r.scope = totpReplayScope a.scope := congrArg (·.2.1) hkey
          have hstep : r.timeStep = a.timeStep := congrArg (·.2.2) hkey
          have hdead := (hp r hr).expires
          rw [hscope, hstep] at hdead
          refine .inr (le_trans hdead ?_)
          exact_mod_cast hexp.trans hc
      · exact .inr (le_trans hd (by exact_mod_cast hc))

/-- A step that is accepted was not accepted before. -/
theorem TotpStep.nodup {w w' : TotpWorld} (h : TotpStep cfg (timely cfg) w w')
    (hp : ∀ r ∈ w.records, Proper cfg r) (hw : Remembered cfg w)
    (hn : (w.accepted.map Acceptance.key).Nodup) : (w'.accepted.map Acceptance.key).Nodup := by
  cases h with
  | quiet => exact hn
  | delete => exact hn
  | @accept clock scope r hc hscope hr hfree hT =>
      rw [List.map_append]
      refine List.nodup_append.mpr ⟨hn, by simp, ?_⟩
      rintro k hk k' hk' rfl
      obtain ⟨a, ha, hak⟩ := List.mem_map.mp hk
      have hkey : a.key = (r.userId, r.scope, r.timeStep) := by
        rw [hak, List.mem_singleton.mp hk', hscope]
        rfl
      rcases hw a ha with ⟨r', hr', hkey'⟩ | hd
      · -- the earlier record is still there, with the same digest
        rw [hkey] at hkey'
        have hu : r'.userId = r.userId := congrArg (·.1) hkey'
        have hs : r'.scope = r.scope := congrArg (·.2.1) hkey'
        have ht : r'.timeStep = r.timeStep := congrArg (·.2.2) hkey'
        refine hfree (List.mem_map.mpr ⟨r', hr', ?_⟩)
        unfold TotpReplayRecord.key
        rw [(hp r' hr').digest, hr.digest, hu, hs, ht]
      · have hs : totpReplayScope a.scope = r.scope := congrArg (·.2.1) hkey
        have ht : a.timeStep = r.timeStep := congrArg (·.2.2) hkey
        rw [hs, ht] at hd
        exact absurd hT (not_lt.mpr hd)

theorem remembered_of_reach
    (hx : Reach totpExec (commitsWhen T) (totpStart cfg requests clock) x) :
    Remembered cfg x.world := by
  induction hx with
  | refl => exact fun a ha => (nomatch ha)
  | step hy hm hs ih => exact (totpStep_of_reach hy hm hs).remembered (proper_of_reach hy) ih

/-- The time step of the clock. -/
def currentStep (clock : ℕ) : ℤ := (clock / 1000000 / 30 : ℕ)

/-- A clean-up removes only records whose step is out of its window. -/
theorem step_lt_of_removed {t : ℕ} {c : TotpChoice} {r : TotpReplayRecord}
    (hx : Reach totpExec (commitsWhen T) (totpStart cfg requests clock) x)
    (hm : Meets (commitsWhen T) x t) (hs : step totpExec x t c = some y)
    (hr : r ∈ x.world.records) (hgone : r ∉ y.world.records) :
    r.timeStep + window cfg r.scope < currentStep x.world.clock := by
  have hproper := proper_of_reach hx r hr
  have hstep := totpStep_of_reach hx hm hs
  obtain ⟨yw, yp⟩ := y
  dsimp only at hstep hgone
  cases hstep with
  | quiet => exact absurd hr hgone
  | accept => exact absurd (List.mem_append_left _ hr) hgone
  | delete _ _ hkept =>
      have hexp := (hkept r hr).resolve_left hgone
      have hdead := hproper.expires
      unfold deadline at hdead
      unfold currentStep
      omega

/-- In every run whose verifications commit before the deadline of their step,
each time step is accepted at most once for each user and replay scope; and no
replay record is removed while its step can still be accepted. -/
theorem totp_steps_single_use
    (hx : Reach totpExec (commitsWhen (timely cfg)) (totpStart cfg requests clock) x) :
    (x.world.accepted.map Acceptance.key).Nodup ∧
      ∀ t c y, Meets (commitsWhen (timely cfg)) x t → step totpExec x t c = some y →
        ∀ r ∈ x.world.records, r ∉ y.world.records →
          r.timeStep + window cfg r.scope < currentStep x.world.clock := by
  refine ⟨?_, fun t c y hm hs r hr hgone => step_lt_of_removed hx hm hs hr hgone⟩
  induction hx with
  | refl => exact List.nodup_nil
  | step hy hm hs ih =>
      exact (totpStep_of_reach hy hm hs).nodup (proper_of_reach hy) (remembered_of_reach hy) ih

end Runs

/-! ### Two high-risk actions with one code -/

def sampleTotpConfig : TotpConfig where
  totpLoginValidWindow := 1
  totpHighRiskValidWindow := 0
  secret _ := "JBSWY3DPEHPK3PXP"
  totpAt _ time := if time < 30 then "282760" else "996554"
  activeHmacHex text := text
  isDecimal := Char.isDigit

/-- A transfer, the addition of a payee and a clean-up. -/
def sampleRequests (t : ℕ) : TotpRequest :=
  if t = 0 then .verify ⟨1, "282760", "transfer", false, by decide⟩
  else if t = 1 then .verify ⟨1, "282760", "payee_add", false, by decide⟩
  else .cleanup 100

/-- `n` operations of thread `t`, after the last of which `tick` microseconds
pass. -/
def proceeds (t n tick : ℕ) : List (ℕ × TotpChoice) :=
  List.replicate n (t, ⟨false, 0⟩) ++ [(t, ⟨false, tick⟩)]

def timelyCheck (cfg : TotpConfig) (_ : ℕ) (o : TotpOp) (w : TotpWorld) : Bool :=
  match o with
  | .commitReplay _ r => (w.clock : ℤ) < deadline cfg r.scope r.timeStep
  | _ => true

theorem commitsWhen_of_timelyCheck {cfg : TotpConfig} (t : ℕ) (o : TotpOp) (w : TotpWorld)
    (h : timelyCheck cfg t o w = true) : commitsWhen (timely cfg) t o w := by
  cases o with
  | commitReplay scope r =>
      show (w.clock : ℤ) < deadline cfg r.scope r.timeStep
      exact of_decide_eq_true h
  | time | counters | deleteExpired => trivial

/-- Both actions are verified at once: the second one is a replay. -/
theorem totp_steps_single_use_payee :
    ∃ x, Reach totpExec (commitsWhen (timely sampleTotpConfig))
        (totpStart sampleTotpConfig sampleRequests 0) x ∧
      x.world.accepted.length = 1 ∧ (x.world.accepted.map Acceptance.key).Nodup := by
  have hrun : (runChecked totpExec (timelyCheck sampleTotpConfig)
      (totpStart sampleTotpConfig sampleRequests 0)
      (proceeds 0 1 0 ++ proceeds 1 2 0 ++ proceeds 0 0 0)).any
      (fun x => x.world.accepted.length = 1) = true := by decide +kernel
  obtain ⟨x, hx, hlength⟩ := (Option.any_eq_true ..).mp hrun
  have hreach := reach_of_runChecked totpExec commitsWhen_of_timelyCheck .refl hx
  exact ⟨x, hreach, of_decide_eq_true hlength, (totp_steps_single_use hreach).1⟩

/-- The second action reads the clock and is held up for a minute, until the
record of the first one has been removed. -/
theorem delayed_code_accepted_twice :
    ∃ x, Reach totpExec (fun _ _ _ => True) (totpStart sampleTotpConfig sampleRequests 0) x ∧
      ¬(x.world.accepted.map Acceptance.key).Nodup := by
  have hrun : (run totpExec (totpStart sampleTotpConfig sampleRequests 0)
      (proceeds 1 0 0 ++ proceeds 0 2 0 ++ proceeds 1 0 60000000 ++ proceeds 2 1 0 ++
        proceeds 1 0 0)).any
      (fun x => ¬(x.world.accepted.map Acceptance.key).Nodup) = true := by decide +kernel
  obtain ⟨x, hx, hdup⟩ := (Option.any_eq_true ..).mp hrun
  exact ⟨x, reach_of_run totpExec .refl hx, of_decide_eq_true hdup⟩

end SitBank.Auth
