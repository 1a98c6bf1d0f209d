import Mathlib.Data.Int.Order.Basic
import Mathlib.Logic.Relation
import SitBank.Admin.RequestIntegrity
import SitBank.Security.Alerts

/-!
Deduplication loses no alert, as long as what is marked as seen is also sent.

The dedupe records are committed before the webhook is called. If the request then
fails, or the process ends, the alert counts as seen although nobody has received it,
and the runs of the next `dedupeTtl` leave it out. So do they with the alerts of a run
from the eleventh on, which a body for Discord does not describe. In histories in which every run
with something to deliver gets its records stored and its request accepted
(`losesAlerts` is false), each record stands for an accepted request (`Covered`).
-/

namespace SitBank.Security

open SitBank.Interaction SitBank.Python

variable {cfg : AlertConfig} {w w' : AlertWorld} {run : AlertRun}

/-! ### The loop -/

/-- What the loop has done after the alerts `seen`: a record is an old one with its
time, or belongs to an alert that will be delivered; and every alert will be
delivered, or has a record that has not expired. -/
structure LoopOk (cfg : AlertConfig) (now : ℤ) (before : List SecurityAlertDedupe)
    (seen : List Alert) (s : DedupeState) : Prop where
  origin : ∀ r ∈ s.records,
    (∃ r₀ ∈ before, r₀.dedupeKeyHash = r.dedupeKeyHash ∧ r₀.expiresAt = r.expiresAt) ∨
      ∃ b ∈ s.deliverable, alertDedupeKeyHash cfg b = r.dedupeKeyHash ∧
        r.expiresAt = now + cfg.dedupeTtl
  accounted : ∀ a ∈ seen, a ∈ s.deliverable ∨
    ∃ r ∈ s.records, r.dedupeKeyHash = alertDedupeKeyHash cfg a ∧ now < r.expiresAt

theorem dedupeTtl_pos (cfg : AlertConfig) : 0 < cfg.dedupeTtl := by
  have hvalid := cfg.ttl_valid.1
  unfold AlertConfig.dedupeTtl
  omega

/-- An alert with a live record is counted. -/
theorem LoopOk.suppress {now : ℤ} {before : List SecurityAlertDedupe} {seen : List Alert}
    {s : DedupeState} (h : LoopOk cfg now before seen s) {a : Alert} {r : SecurityAlertDedupe}
    (hr : r ∈ s.records) (hkey : r.dedupeKeyHash = alertDedupeKeyHash cfg a)
    (hlive : now < r.expiresAt) :
    LoopOk cfg now before (seen ++ [a]) { s with
      records := updateRecord (alertDedupeKeyHash cfg a)
        (fun r => { r with count := r.count + 1, lastSeenAt := now }) s.records
      suppressed := s.suppressed + 1 } := by
  have hrow : ∀ x ∈ s.records, ∃ y ∈ updateRecord (alertDedupeKeyHash cfg a)
      (fun r => { r with count := r.count + 1, lastSeenAt := now }) s.records,
        y.dedupeKeyHash = x.dedupeKeyHash ∧ y.expiresAt = x.expiresAt := by
    intro x hx
    refine ⟨_, List.mem_map_of_mem hx, ?_⟩
    split <;> exact ⟨rfl, rfl⟩
  refine ⟨fun y hy => ?_, fun b hb => ?_⟩
  · obtain ⟨x, hx, rfl⟩ := List.mem_map.mp hy
    have horigin := h.origin x hx
    split <;> exact horigin
  · have hcase : b ∈ s.deliverable ∨
        ∃ r ∈ s.records, r.dedupeKeyHash = alertDedupeKeyHash cfg b ∧ now < r.expiresAt := by
      rcases List.mem_append.mp hb with hb | hb
      · exact h.accounted b hb
      · rw [List.mem_singleton.mp hb]
        exact .inr ⟨r, hr, hkey, hlive⟩
    refine hcase.imp id ?_
    rintro ⟨x, hx, hxkey, hxlive⟩
    obtain ⟨y, hy, hykey, hyexp⟩ := hrow x hx
    exact ⟨y, hy, hykey.trans hxkey, hyexp ▸ hxlive⟩

/-- An alert whose record has expired gets a new time. -/
theorem LoopOk.renew {now : ℤ} {before : List SecurityAlertDedupe} {seen : List Alert}
    {s : DedupeState} (h : LoopOk cfg now before seen s) (a : Alert)
    {f : SecurityAlertDedupe → SecurityAlertDedupe}
    (hkey : ∀ r, (f r).dedupeKeyHash = r.dedupeKeyHash)
    (htime : ∀ r, (f r).expiresAt = now + cfg.dedupeTtl) :
    LoopOk cfg now before (seen ++ [a]) { s with
      records := updateRecord (alertDedupeKeyHash cfg a) f s.records
      deliverable := s.deliverable ++ [a] } := by
  refine ⟨fun y hy => ?_, fun b hb => ?_⟩
  · obtain ⟨x, hx, rfl⟩ := List.mem_map.mp hy
    split
    · next hxkey =>
        refine .inr ⟨a, List.mem_append_right _ (List.mem_singleton.mpr rfl), ?_, htime x⟩
        rw [hkey, hxkey]
    · refine (h.origin x hx).imp id ?_
      rintro ⟨b, hb, hbkey⟩
      exact ⟨b, List.mem_append_left _ hb, hbkey⟩
  · rcases List.mem_append.mp hb with hb | hb
    · rcases h.accounted b hb with hb | ⟨x, hx, hxkey, hxlive⟩
      · exact .inl (List.mem_append_left _ hb)
      · refine .inr ⟨_, List.mem_map_of_mem hx, ?_⟩
        split
        · have hpos := dedupeTtl_pos cfg
          rw [hkey, htime]
          exact ⟨hxkey, by omega⟩
        · exact ⟨hxkey, hxlive⟩
    · exact .inl (List.mem_append_right _ hb)

/-- An alert without a record gets one. -/
theorem LoopOk.insert {now : ℤ} {before : List SecurityAlertDedupe} {seen : List Alert}
    {s : DedupeState} (h : LoopOk cfg now before seen s) (a : Alert) {r : SecurityAlertDedupe}
    (hkey : r.dedupeKeyHash = alertDedupeKeyHash cfg a)
    (htime : r.expiresAt = now + cfg.dedupeTtl) :
    LoopOk cfg now before (seen ++ [a]) { s with
      records := s.records ++ [r]
      deliverable := s.deliverable ++ [a] } := by
  refine ⟨fun y hy => ?_, fun b hb => ?_⟩
  · rcases List.mem_append.mp hy with hy | hy
    · refine (h.origin y hy).imp id ?_
      rintro ⟨b, hb, hbkey⟩
      exact ⟨b, List.mem_append_left _ hb, hbkey⟩
    · rw [List.mem_singleton.mp hy]
      exact .inr ⟨a, List.mem_append_right _ (List.mem_singleton.mpr rfl), hkey.symm, htime⟩
  · rcases List.mem_append.mp hb with hb | hb
    · rcases h.accounted b hb with hb | ⟨x, hx, hxlive⟩
      · exact .inl (List.mem_append_left _ hb)
      · exact .inr ⟨x, List.mem_append_left _ hx, hxlive⟩
    · exact .inl (List.mem_append_right _ hb)

theorem LoopOk.step {now : ℤ} {before : List SecurityAlertDedupe} {seen : List Alert}
    {s : DedupeState} (h : LoopOk cfg now before seen s) (a : Alert) :
    LoopOk cfg now before (seen ++ [a]) (dedupeAlert cfg now s a) := by
  unfold dedupeAlert
  dsimp only
  split
  · next r hfind =>
      have hkey : r.dedupeKeyHash = alertDedupeKeyHash cfg a := by
        simpa using List.find?_some hfind
      split
      · next hlive => exact h.suppress (List.mem_of_find?_eq_some hfind) hkey hlive
      · exact h.renew a (fun _ => rfl) fun _ => rfl
  · exact h.insert a rfl rfl

theorem LoopOk.foldl {now : ℤ} {before : List SecurityAlertDedupe} (alerts : List Alert) :
    ∀ {seen : List Alert} {s : DedupeState}, LoopOk cfg now before seen s →
      LoopOk cfg now before (seen ++ alerts) (alerts.foldl (dedupeAlert cfg now) s) := by
  induction alerts with
  | nil =>
      intro seen s h
      rw [List.append_nil]
      exact h
  | cons a alerts ih =>
      intro seen s h
      have hrest := ih (h.step a)
      rw [List.append_assoc] at hrest
      exact hrest

theorem loopOk_dedupeState (cfg : AlertConfig) (w : AlertWorld) (alerts : List Alert) :
    LoopOk cfg w.clock w.records alerts (dedupeState cfg w alerts) := by
  have hstart : LoopOk cfg w.clock w.records [] ⟨w.records, [], 0⟩ :=
    ⟨fun r hr => .inl ⟨r, hr, rfl, rfl⟩, fun a ha => (nomatch ha)⟩
  exact hstart.foldl alerts

/-! ### Requests that were accepted -/

/-- Each record stands for a request that was accepted after the record was set. -/
def Covered (cfg : AlertConfig) (w : AlertWorld) : Prop :=
  ∀ r ∈ w.records, ∃ request ∈ w.sent, r.expiresAt - cfg.dedupeTtl ≤ request.time ∧
    ∃ b ∈ request.body.listed, alertDedupeKeyHash cfg b = r.dedupeKeyHash

/-- The run has sent the alert, or an alert with the same hash was sent within the
dedupe time. -/
def Reached (cfg : AlertConfig) (w w' : AlertWorld) (a : Alert) : Prop :=
  (∃ request, w'.sent = w.sent ++ [request] ∧ a ∈ request.body.listed) ∨
    ∃ request ∈ w'.sent, w.clock - cfg.dedupeTtl < request.time ∧
      ∃ b ∈ request.body.listed, alertDedupeKeyHash cfg b = alertDedupeKeyHash cfg a

/-- There are more alerts than a body for Discord describes. -/
def tooMany (cfg : AlertConfig) (batch : List Alert) : Bool :=
  cfg.provider = .discord && discordEmbedFieldLimit < batch.length

/-- The run marks alerts as seen, or reports them, without having sent them: the
commit of the records fails, the process ends before the answer, the answer is not
2xx, or there are too many of them. -/
def losesAlerts (cfg : AlertConfig) (w : AlertWorld) (run : AlertRun) : Bool :=
  let deliverable := (dedupeState cfg w (reportedAlerts cfg run.found)).deliverable
  run.deliver && cfg.enabled && !run.misconfigured && run.exit ≠ some .beforeCommit &&
    !deliverable.isEmpty &&
    if run.commitFails then run.exit ≠ some .beforeReport
    else run.exit = some .beforeAnswer || !run.answer.accepted || tooMany cfg deliverable

theorem listed_alertWebhookBody {batch : List Alert} (h : tooMany cfg batch = false) :
    (alertWebhookBody cfg batch).listed = batch := by
  unfold alertWebhookBody
  split
  · next hprovider =>
      have hlength : batch.length ≤ discordEmbedFieldLimit := by
        simpa [tooMany, hprovider] using h
      exact List.take_of_length_le hlength
  · rfl

theorem reached_of_record (h : Covered cfg w) {a : Alert} {r : SecurityAlertDedupe}
    (hr : r ∈ w.records) (hkey : r.dedupeKeyHash = alertDedupeKeyHash cfg a)
    (hlive : w.clock < r.expiresAt) : Reached cfg w w a := by
  obtain ⟨request, hrequest, htime, b, hb, hbkey⟩ := h r hr
  exact .inr ⟨request, hrequest, by omega, b, hb, hbkey.trans hkey⟩

section Delivery

variable {alerts : List Alert}

/-- Nothing is new: every alert has a record, which stands for a request. -/
theorem reached_of_suppressed (h : Covered cfg w)
    (hnone : (dedupeState cfg w alerts).deliverable = []) {a : Alert} (ha : a ∈ alerts) :
    Reached cfg w w a := by
  have hloop := loopOk_dedupeState cfg w alerts
  rcases hloop.accounted a ha with hnew | ⟨r, hr, hkey, hlive⟩
  · rw [hnone] at hnew
    exact (nomatch hnew)
  · rcases hloop.origin r hr with ⟨r₀, hr₀, hkey₀, htime₀⟩ | ⟨b, hb, -⟩
    · exact reached_of_record h hr₀ (hkey₀.trans hkey) (htime₀ ▸ hlive)
    · rw [hnone] at hb
      exact (nomatch hb)

/-- The world after the records are stored, and a request for the new alerts is
accepted. -/
theorem covered_sent (h : Covered cfg w)
    (hlisted : tooMany cfg (dedupeState cfg w alerts).deliverable = false) (delay : ℕ) :
    Covered cfg
      { clock := w.clock + delay
        records := (dedupeState cfg w alerts).records
        sent := w.sent ++ [⟨w.clock + delay,
          alertWebhookBody cfg (dedupeState cfg w alerts).deliverable⟩] } := by
  intro r hr
  rcases (loopOk_dedupeState cfg w alerts).origin r hr with
    ⟨r₀, hr₀, hkey₀, htime₀⟩ | ⟨b, hb, hkey, htime⟩
  · obtain ⟨request, hrequest, htime, b, hb, hbkey⟩ := h r₀ hr₀
    refine ⟨request, List.mem_append_left _ hrequest, ?_, b, hb, hbkey.trans hkey₀⟩
    omega
  · refine ⟨_, List.mem_append_right _ (List.mem_singleton.mpr rfl), ?_, b, ?_, hkey⟩
    · show r.expiresAt - cfg.dedupeTtl ≤ w.clock + delay
      omega
    · dsimp only
      rw [listed_alertWebhookBody hlisted]
      exact hb

theorem covered_suppressed (h : Covered cfg w)
    (hnone : (dedupeState cfg w alerts).deliverable = []) :
    Covered cfg { w with records := (dedupeState cfg w alerts).records } := by
  intro r hr
  rcases (loopOk_dedupeState cfg w alerts).origin r hr with ⟨r₀, hr₀, hkey₀, htime₀⟩ | ⟨b, hb, -⟩
  · obtain ⟨request, hrequest, htime, b, hb, hbkey⟩ := h r₀ hr₀
    exact ⟨request, hrequest, htime₀ ▸ htime, b, hb, hbkey.trans hkey₀⟩
  · rw [hnone] at hb
    exact (nomatch hb)

theorem reached_sent (h : Covered cfg w)
    (hlisted : tooMany cfg (dedupeState cfg w alerts).deliverable = false) (delay : ℕ) {a : Alert}
    (ha : a ∈ alerts) : Reached cfg w
      { clock := w.clock + delay
        records := (dedupeState cfg w alerts).records
        sent := w.sent ++ [⟨w.clock + delay,
          alertWebhookBody cfg (dedupeState cfg w alerts).deliverable⟩] } a := by
  have hloop := loopOk_dedupeState cfg w alerts
  have hpos := dedupeTtl_pos cfg
  rcases hloop.accounted a ha with hnew | ⟨r, hr, hkey, hlive⟩
  · refine .inl ⟨_, rfl, ?_⟩
    rw [listed_alertWebhookBody hlisted]
    exact hnew
  · -- the record is set by another alert of this run, or stands for an earlier request
    obtain ⟨request, hrequest, htime, b, hb, hbkey⟩ := covered_sent h hlisted delay r hr
    exact .inr ⟨request, hrequest, by omega, b, hb, hbkey.trans hkey⟩

end Delivery

/-! ### One run -/

/-- What a run leaves, and what it owes when it returns. -/
def RunOk (cfg : AlertConfig) (w : AlertWorld) (run : AlertRun) (alerts : List Alert)
    {α : Type} (r : Except AlertError α) (w' : AlertWorld) : Prop :=
  Covered cfg w' ∧ ∀ result, r = .ok result → run.exit ≠ some .beforeReport →
    ∀ a ∈ alerts, Reached cfg w w' a

theorem RunOk.error {alerts : List Alert} {α : Type} (h : Covered cfg w') (e : AlertError) :
    RunOk (α := α) cfg w run alerts (.error e) w' :=
  ⟨h, fun _ heq => (nomatch heq)⟩

/-- A request that is accepted. -/
theorem run_deliverSecurityAlerts (hexit : run.exit ≠ some .beforeAnswer)
    (haccepted : run.answer.accepted = true) (batch : List Alert) (w : AlertWorld) :
    deliverSecurityAlerts cfg run batch w = .ok ⟨true, some true, false⟩
      { clock := w.clock + run.delay
        records := w.records
        sent := w.sent ++ [⟨w.clock + run.delay, alertWebhookBody cfg batch⟩] } := by
  refine Ends.eq_ok ?_
  refine Ends.raiseIf_bind (fun hexits => absurd (by simpa using hexits) hexit) fun _ =>
    Ends.modify_bind ?_
  cases hanswer : run.answer with
  | noUrl | raised =>
      rw [hanswer] at haccepted
      exact nomatch haccepted
  | status code =>
      rw [hanswer] at haccepted
      refine Ends.modify_bind (Ends.pure ?_)
      rw [if_pos haccepted, haccepted]
      exact ⟨rfl, rfl⟩

theorem ends_deliverFound (h : Covered cfg w) (alerts : List Alert)
    (hcond : (run.exit ≠ some .beforeCommit && !(dedupeState cfg w alerts).deliverable.isEmpty &&
      if run.commitFails then run.exit ≠ some .beforeReport
      else run.exit = some .beforeAnswer || !run.answer.accepted ||
        tooMany cfg (dedupeState cfg w alerts).deliverable) = false) :
    Ends (deliverFound cfg run alerts) (RunOk cfg w run alerts) w := by
  unfold deliverFound dedupeAlerts
  refine Ends.bind (M := fun r w' => match r with
    | .ok none => w' = w ∧ run.exit ≠ some .beforeCommit ∧ run.commitFails = true
    | .ok (some state) => state = dedupeState cfg w alerts ∧
        w' = { w with records := state.records } ∧ run.exit ≠ some .beforeCommit ∧
        run.commitFails = false
    | .error _ => w' = w) ?_ ?_ ?_
  -- the state is stored before anything is sent
  · refine Ends.raiseIf_bind (fun _ => rfl) fun hexit => Ends.get_bind ?_
    have hexit' : run.exit ≠ some .beforeCommit := by simpa using hexit
    dsimp only
    split
    · next hfails => exact ⟨rfl, hexit', hfails⟩
    · next hstored =>
        exact Ends.modify_bind (Ends.pure ⟨rfl, rfl, hexit', Bool.eq_false_iff.mpr hstored⟩)
  · rintro state w₁ hstate
    split
    · obtain ⟨rfl, hexit, hfails⟩ := hstate
      refine Ends.pure ⟨h, fun _ _ hreport a ha => ?_⟩
      refine reached_of_suppressed h ?_ ha
      rw [hfails] at hcond
      simpa [hexit, hreport] using hcond
    · next state =>
        obtain ⟨rfl, rfl, hexit, hstored⟩ := hstate
        split
        · next hempty =>
            have hnone : (dedupeState cfg w alerts).deliverable = [] := by simpa using hempty
            refine Ends.pure ⟨covered_suppressed h hnone, fun _ _ _ a ha => ?_⟩
            exact (reached_of_suppressed h hnone ha).imp id id
        · next hnew =>
            have hgood : (run.exit ≠ some .beforeAnswer ∧ run.answer.accepted = true) ∧
                tooMany cfg (dedupeState cfg w alerts).deliverable = false := by
              rw [hstored] at hcond
              have hnonempty : (dedupeState cfg w alerts).deliverable.isEmpty = false :=
                Bool.eq_false_iff.mpr hnew
              simpa [hexit, hnonempty] using hcond
            refine Ends.bind_ok (run_deliverSecurityAlerts hgood.1.1 hgood.1.2 _ _) (Ends.pure ?_)
            exact ⟨covered_sent h hgood.2 run.delay,
              fun _ _ _ a ha => reached_sent h hgood.2 run.delay ha⟩
  · rintro e _ rfl
    exact .error h e

theorem ends_buildSecurityAlertReport (h : Covered cfg w) (hcond : losesAlerts cfg w run = false) :
    Ends (buildSecurityAlertReport cfg run) (fun r w' => Covered cfg w' ∧
      ∀ report, r = .ok report → run.deliver = true → cfg.enabled = true →
        ∀ a ∈ reportedAlerts cfg run.found, Reached cfg w w' a) w := by
  refine Ends.raiseIf_bind (fun _ => ⟨h, fun _ heq => (nomatch heq)⟩) fun hconfigured => ?_
  dsimp only
  refine Ends.bind (M := fun r w₁ => Covered cfg w₁ ∧ ∀ result, r = .ok result →
    run.exit ≠ some .beforeReport → run.deliver = true → cfg.enabled = true →
      ∀ a ∈ reportedAlerts cfg run.found, Reached cfg w w₁ a) ?_ ?_ ?_
  · unfold deliverIfEnabled
    split
    · next hdeliver =>
        simp only [Bool.and_eq_true] at hdeliver
        refine (ends_deliverFound h (reportedAlerts cfg run.found) ?_).mono
          fun _ _ hr => ⟨hr.1, fun result heq hexit _ _ => hr.2 result heq hexit⟩
        unfold losesAlerts at hcond
        rw [hdeliver.1.1, hdeliver.2, hconfigured] at hcond
        exact hcond
    · next hskipped =>
        refine Ends.pure ⟨h, fun _ _ _ hdeliver henabled a ha => ?_⟩
        have hempty : (reportedAlerts cfg run.found).isEmpty = true := by
          simpa [hdeliver, henabled] using hskipped
        rw [List.isEmpty_iff.mp hempty] at ha
        exact (nomatch ha)
  · rintro ⟨delivery, count, suppressed⟩ w₁ ⟨hcovered, hreached⟩
    refine Ends.raiseIf_bind (fun _ => ⟨hcovered, fun _ heq => (nomatch heq)⟩) fun hexit => ?_
    refine Ends.pure ⟨hcovered, fun _ _ hdeliver henabled => ?_⟩
    exact hreached _ rfl (by simpa using hexit) hdeliver henabled
  · rintro e w₁ ⟨hcovered, -⟩
    exact ⟨hcovered, fun _ heq => (nomatch heq)⟩

/-! ### Histories -/

/-- A run that loses nothing, or time passes. -/
def AlertStep (cfg : AlertConfig) (w w' : AlertWorld) : Prop :=
  (∃ run, losesAlerts cfg w run = false ∧ w' = after (buildSecurityAlertReport cfg run) w) ∨
    ∃ time : ℕ, w' = { w with clock := w.clock + time }

abbrev AlertHistory (cfg : AlertConfig) : AlertWorld → AlertWorld → Prop :=
  Relation.ReflTransGen (AlertStep cfg)

def noAlerts (clock : ℤ) : AlertWorld := ⟨clock, [], []⟩

theorem covered_history {w₀ : AlertWorld} (h : AlertHistory cfg w₀ w) (h₀ : Covered cfg w₀) :
    Covered cfg w := by
  induction h with
  | refl => exact h₀
  | tail _ hstep ih =>
      rcases hstep with ⟨run, hcond, rfl⟩ | ⟨time, rfl⟩
      · exact ((ends_buildSecurityAlertReport ih hcond).mono fun _ _ hr => hr.1).after
      · exact ih

/-- In a history in which no run marks alerts that it does not send, each run that
returns has sent the alerts it has found in the body of its request, or they were sent,
under the same dedupe key, within the dedupe time before. The hashes are taken to tell
keys apart. -/
theorem no_alert_lost (cfg : AlertConfig) (henabled : cfg.enabled = true)
    (hhash : ∀ key key', cfg.activeHmacHex key = cfg.activeHmacHex key' → key = key')
    {clock : ℤ} {w : AlertWorld} (hhistory : AlertHistory cfg (noAlerts clock) w) (run : AlertRun)
    (hdeliver : run.deliver = true) (hcond : losesAlerts cfg w run = false) :
    Ends (buildSecurityAlertReport cfg run) (fun r w' => ∀ report, r = .ok report →
      ∀ a ∈ run.found, cfg.minSeverity.rank ≤ a.severity.rank →
        (∃ request, w'.sent = w.sent ++ [request] ∧ a ∈ request.body.listed) ∨
        ∃ request ∈ w'.sent, w.clock - cfg.dedupeTtl < request.time ∧
          ∃ b ∈ request.body.listed,
            alertDedupeKey cfg.toTextOps b = alertDedupeKey cfg.toTextOps a) w := by
  have hcovered := covered_history hhistory fun r hr => (nomatch hr)
  refine (ends_buildSecurityAlertReport hcovered hcond).mono ?_
  rintro r w' ⟨-, hreached⟩ report hreturns a ha hsevere
  have hreported : a ∈ reportedAlerts cfg run.found := by
    refine (List.mem_insertionSort _).mpr (List.mem_filter.mpr ⟨ha, ?_⟩)
    simpa using hsevere
  rcases hreached report hreturns hdeliver henabled a hreported with
    hsent | ⟨request, hrequest, htime, b, hb, hkey⟩
  · exact .inl hsent
  · exact .inr ⟨request, hrequest, htime, b, hb, hhash _ _ hkey⟩

/-! ### An alert that nobody receives -/

def sampleAlertConfig : AlertConfig where
  toTextOps := Admin.sampleTextOps
  enabled := true
  minSeverity := .high
  dedupeTtlSeconds := 300
  ttl_valid := by decide
  provider := .generic
  activeHmacHex := String.ofList

def lockAlert : Alert where
  alertType := .ofString "account_lock"
  severity := .critical
  source := .ofString "ip:198.51.100.90"
  windowSeconds := 900
  count := 1

/-- A run that finds the alert. -/
def alertRun (answer : Answer) : AlertRun where
  deliver := true
  misconfigured := false
  found := [lockAlert]
  exit := none
  commitFails := false
  answer := answer
  delay := 0

/-- The state after a run whose request got this answer, and a minute more. -/
def afterAlertRun (answer : Answer) : AlertWorld :=
  let w := after (buildSecurityAlertReport sampleAlertConfig (alertRun answer)) (noAlerts 0)
  { w with clock := w.clock + (60000000 : ℕ) }

theorem alertHistory_accepted :
    AlertHistory sampleAlertConfig (noAlerts 0) (afterAlertRun (.status 204)) := by
  refine .tail (.tail .refl (.inl ⟨alertRun (.status 204), ?_, rfl⟩)) (.inr ⟨60000000, rfl⟩)
  decide +kernel

/-- The second run leaves out the alert that the first one has sent. -/
theorem no_alert_lost_suppressed :
    Ends (buildSecurityAlertReport sampleAlertConfig (alertRun .raised)) (fun r w' =>
      ∀ report, r = .ok report →
        (∃ request, w'.sent = (afterAlertRun (.status 204)).sent ++ [request] ∧
          lockAlert ∈ request.body.listed) ∨
        ∃ request ∈ w'.sent,
          (afterAlertRun (.status 204)).clock - sampleAlertConfig.dedupeTtl < request.time ∧
          ∃ b ∈ request.body.listed, alertDedupeKey sampleAlertConfig.toTextOps b =
            alertDedupeKey sampleAlertConfig.toTextOps lockAlert)
              (afterAlertRun (.status 204)) := by
  refine (no_alert_lost sampleAlertConfig rfl (fun _ _ h => String.ofList_inj.mp h)
    alertHistory_accepted (alertRun .raised) rfl (by decide +kernel)).mono fun r w' hr => ?_
  exact fun report hreturns => hr report hreturns lockAlert (List.mem_singleton.mpr rfl) (by decide)

/-- The report of a run that returns. -/
def reportOf (cfg : AlertConfig) (run : AlertRun) (w : AlertWorld) : Option AlertReport :=
  match buildSecurityAlertReport cfg run w with
  | .ok report _ => some report
  | .error _ _ => none

def discordConfig : AlertConfig := { sampleAlertConfig with provider := .discord }

/-- The lock of another account. -/
def lockAlertOf (account : ℕ) : Alert := { lockAlert with source := [97 + account] }

/-- Eleven accounts are locked, and Discord accepts the request. -/
def afterCrowdedRun : AlertWorld :=
  let run := { alertRun (.status 204) with found := (List.range 11).map lockAlertOf }
  let w := after (buildSecurityAlertReport discordConfig run) (noAlerts 0)
  { w with clock := w.clock + (60000000 : ℕ) }

/-- The webhook answers the first request with 500. The next run reports the alert as
delivered and deduplicated, and no request with it was ever accepted. Of eleven alerts
for Discord the last one has the same fate, although the request is accepted. -/
theorem failed_alert_suppressed :
    ((afterAlertRun (.status 500)).sent = [] ∧
      reportOf sampleAlertConfig (alertRun (.status 204)) (afterAlertRun (.status 500)) =
        some ⟨[lockAlert], 0, 1, ⟨false, some true, true⟩⟩ ∧
      (after (buildSecurityAlertReport sampleAlertConfig (alertRun (.status 204)))
        (afterAlertRun (.status 500))).sent = []) ∧
    (afterCrowdedRun.sent = [⟨0, ⟨(List.range 10).map lockAlertOf, 1⟩⟩] ∧
      reportOf discordConfig { alertRun (.status 204) with found := [lockAlertOf 10] }
        afterCrowdedRun = some ⟨[lockAlertOf 10], 0, 1, ⟨false, some true, true⟩⟩ ∧
      (after (buildSecurityAlertReport discordConfig
        { alertRun (.status 204) with found := [lockAlertOf 10] }) afterCrowdedRun).sent =
          afterCrowdedRun.sent) := by
  refine ⟨?_, ?_⟩ <;> decide +kernel

end SitBank.Security
