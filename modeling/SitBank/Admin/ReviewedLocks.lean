import SitBank.Admin.LockReviews
import SitBank.Admin.ReviewQueues
import SitBank.Python.IsoDates

/-!
An unlock lifts the lock that was reviewed.

The execution of an unlock request holds the row from its comparison on, and the
texts it compares determine the reason and the time of the lock. An unfreeze tests
the row once; it lifts a voluntary freeze as long as nobody else ends that freeze,
or puts a lock on top of it, before the unfreeze is committed.
-/

namespace SitBank.Admin.LockReviews

open SitBank.Interaction SitBank.Python

/-! ### The texts of a lock -/

theorem lowerCode_injective {m n : ℕ} (hm : m < 97) (hn : n < 97)
    (h : lowerCode m = lowerCode n) : m = n := by
  unfold lowerCode at h
  split at h <;> split at h <;> omega

theorem map_lowerCode_injective {s s' : PyStr} (hs : ∀ n ∈ s, n < 97) (hs' : ∀ n ∈ s', n < 97)
    (h : s.map lowerCode = s'.map lowerCode) : s = s' := by
  induction s generalizing s' with
  | nil =>
      cases s' with
      | nil => rfl
      | cons n s' => cases h
  | cons n s ih =>
      cases s' with
      | nil => cases h
      | cons n' s' =>
          obtain ⟨hhead, htail⟩ := List.cons.inj h
          have hn : n = n' :=
            lowerCode_injective (hs n (List.mem_cons_self ..))
              (hs' n' (List.mem_cons_self ..)) hhead
          rw [hn, ih (fun m hm => hs m (List.mem_cons_of_mem _ hm))
            (fun m hm => hs' m (List.mem_cons_of_mem _ hm)) htail]

theorem isoOffset_injective {a b : ℤ} (ha : 0 ≤ a) (hb : 0 ≤ b) (h : isoOffset a = isoOffset b) :
    a = b := by
  have hlist := congrArg String.toList h
  unfold isoOffset at hlist
  rw [String.toList_append, String.toList_append] at hlist
  exact isoFormat_append_inj ha hb hlist

section Texts

variable (ops : TextOps)

theorem casefold_isoOffset (instant : ℤ) : ops.casefold (.ofString (isoOffset instant)) =
    (PyStr.ofString (isoOffset instant)).map lowerCode :=
  ops.casefold_ascii _ (ascii_isoOffset instant)

theorem isoOffset_of_casefold {a b : ℤ} (ha : 0 ≤ a) (hb : 0 ≤ b)
    (h : ops.casefold (.ofString (isoOffset a)) = ops.casefold (.ofString (isoOffset b))) :
    a = b := by
  have hcode (instant : ℤ) : ∀ n ∈ PyStr.ofString (isoOffset instant), n < 97 := by
    intro n hn
    have := lt_of_isoCode (isoCode_isoOffset instant n hn)
    omega
  rw [casefold_isoOffset, casefold_isoOffset] at h
  exact isoOffset_injective ha hb
    (ofString_injective (map_lowerCode_injective (hcode a) (hcode b) h))

theorem lockReason_of_casefold {reason reason' : LockReason}
    (h : ops.casefold (.ofString reason.text) = ops.casefold (.ofString reason'.text)) :
    reason = reason' := by
  have hascii (reason : LockReason) : (PyStr.ofString reason.text).Ascii := by
    cases reason <;> decide
  rw [ops.casefold_ascii _ (hascii reason), ops.casefold_ascii _ (hascii reason')] at h
  revert h
  cases reason <;> cases reason' <;> decide

theorem lockReason_ne_none {reason : LockReason} :
    ops.casefold (.ofString reason.text) ≠ normalText ops (.ofString (lockReasonText none)) := by
  have hascii (reason : LockReason) : (PyStr.ofString reason.text).Ascii := by
    cases reason <;> decide
  unfold normalText
  rw [ops.casefold_ascii _ (hascii reason), ops.casefold_ascii _ (by decide)]
  cases reason <;> decide

end Texts

/-- The lock that was recorded is the one in force. -/
theorem recorded_of_texts {cfg : LockConfig} {u : LockUser} {n : NewRequest}
    {lockReason : Option LockReason} {lockedAt : Option ℤ}
    (hn : n.operation = .securityUnlock lockReason lockedAt) (hat : ∀ i ∈ lockedAt, 0 ≤ i)
    (hu : ∀ i ∈ u.securityLockedAt, 0 ≤ i) (hlocked : isLockedCustomer u = true)
    (htexts : currentLockTexts cfg.toTextOps u =
      (payloadText cfg.toTextOps (createAdminActionRequest cfg.toActionConfig n) lockReasonKey,
        payloadText cfg.toTextOps (createAdminActionRequest cfg.toActionConfig n) lockedAtKey)) :
    n.operation = .securityUnlock u.securityLockReason u.securityLockedAt := by
  have hreasonText : payloadText cfg.toTextOps (createAdminActionRequest cfg.toActionConfig n)
      lockReasonKey = normalText cfg.toTextOps (.ofString (lockReasonText lockReason)) := by
    refine payloadText_of_lookup _ n (by decide) ?_
    rw [hn]
    rfl
  have htimeText : payloadText cfg.toTextOps (createAdminActionRequest cfg.toActionConfig n)
      lockedAtKey = normalText cfg.toTextOps (.ofString (lockedAtText lockedAt)) := by
    refine payloadText_of_lookup _ n (by decide) ?_
    rw [hn]
    rfl
  rw [hreasonText, htimeText] at htexts
  obtain ⟨hreason, htime⟩ := Prod.mk.inj htexts
  simp only [isLockedCustomer, Bool.and_eq_true] at hlocked
  obtain ⟨⟨-, hsome⟩, hany⟩ := hlocked
  obtain ⟨reason, hr, -⟩ := (Option.any_eq_true ..).mp hany
  obtain ⟨instant, hi⟩ := Option.isSome_iff_exists.mp hsome
  rw [hr] at hreason
  rw [hi] at htime
  rw [hn, hr, hi]
  -- a reason is told by its text, also after folding
  have hreason : lockReason = some reason := by
    cases lockReason with
    | none => exact absurd hreason (lockReason_ne_none cfg.toTextOps)
    | some reason' =>
        have hstrip : (PyStr.ofString reason'.text).strip = PyStr.ofString reason'.text := by
          cases reason' <;> decide
        unfold normalText lockReasonText at hreason
        rw [hstrip] at hreason
        rw [lockReason_of_casefold cfg.toTextOps hreason]
  -- and an instant by its ISO form
  have htime : lockedAt = some instant := by
    cases lockedAt with
    | none =>
        unfold normalText lockedAtText at htime
        rw [casefold_isoOffset, show (PyStr.ofString "").strip = [] from rfl,
          cfg.casefold_ascii [] nofun] at htime
        have hlength := congrArg List.length htime
        simp [PyStr.ofString, isoOffset] at hlength
    | some instant' =>
        unfold normalText lockedAtText at htime
        rw [strip_isoOffset] at htime
        rw [isoOffset_of_casefold cfg.toTextOps (hu _ hi) (hat _ rfl) htime]
  rw [hreason, htime]

/-! ### Commits of the row -/

/-- The row has changed from `first` to `last` by these commits and not otherwise. -/
def Chained (first last : LockUser) : List RowCommit → Prop
  | [] => first = last
  | e :: commits => e.before = first ∧ Chained e.after last commits

theorem Chained.append {first last : LockUser} {commits : List RowCommit}
    (h : Chained first last commits) (t : ℕ) (row : LockUser) :
    Chained first row (commits ++ [⟨t, last, row⟩]) := by
  induction commits generalizing first with
  | nil => exact ⟨h.symm, rfl⟩
  | cons e commits ih => exact ⟨h.1, ih h.2⟩

/-- What was reviewed is in force when the commit of a request takes it away. -/
def Reviewed (made : List NewRequest) (before : LockUser) : ReviewRequest → Prop
  | .unfreeze => isVoluntaryCustomerSelfFreeze before = true
  | .approve number => ∃ n, made[number]? = some n ∧
      n.operation = .securityUnlock before.securityLockReason before.securityLockedAt
  | _ => True

/-- A review that does not raise an error has changed the row. -/
def Finished (t : ℕ) (w : ReviewWorld) : ReviewRequest → Prop
  | .unfreeze => ∃ e ∈ w.commits, e.session = t
  | .approve _ => ∃ e ∈ w.commits, e.session = t
  | _ => True

/-- While other unfreezes are under way, the row is left in a voluntary freeze. -/
def undisturbed (t : ℕ) (o : ReviewOp) (w : ReviewWorld) : Prop :=
  match o with
  | .update record change => ∀ u ∈ w.reviewing, u ≠ t →
      isVoluntaryCustomerSelfFreeze (change.write record w.row) = true
  | _ => True

section Rules

variable (first : LockUser) (requests : ℕ → ReviewRequest)

structure ReviewOk (w : ReviewWorld) : Prop where
  chained : Chained first w.row w.commits
  reviewed : ∀ e ∈ w.commits, Reviewed w.requests e.before (requests e.session)
  selfFrozen : ∀ u ∈ w.reviewing, isVoluntaryCustomerSelfFreeze w.row = true
  times : ∀ i ∈ w.row.securityLockedAt, 0 ≤ i
  recorded : ∀ n ∈ w.requests, ∃ lockReason lockedAt,
    n.operation = .securityUnlock lockReason lockedAt ∧ ∀ i ∈ lockedAt, 0 ≤ i

/-- What the other sessions leave to session `t`. -/
structure Left (t : ℕ) (w w' : ReviewWorld) : Prop where
  reviewing : t ∈ w.reviewing → t ∈ w'.reviewing
  held : w.holder = some t → w'.holder = some t ∧ w'.row = w.row
  requests : ∀ (i : ℕ) (n : NewRequest), w.requests[i]? = some n → w'.requests[i]? = some n
  commits : ∀ e ∈ w.commits, e ∈ w'.commits

def reviewRules : Rules ReviewOp ReviewWorld where
  rely := Left
  guar t w w' := ∀ u, u ≠ t → Left u w w'
  inv := ReviewOk first requests
  cond := undisturbed

variable {first requests}

theorem Left.refl (t : ℕ) (w : ReviewWorld) : Left t w w :=
  ⟨id, fun h => ⟨h, rfl⟩, fun _ _ h => h, fun _ h => h⟩

theorem Left.trans {t : ℕ} {w₁ w₂ w₃ : ReviewWorld} (h : Left t w₁ w₂) (h' : Left t w₂ w₃) :
    Left t w₁ w₃ where
  reviewing hm := h'.reviewing (h.reviewing hm)
  held hm := by
    obtain ⟨hholder, hrow⟩ := h.held hm
    obtain ⟨hholder', hrow'⟩ := h'.held hholder
    exact ⟨hholder', hrow'.trans hrow⟩
  requests i n hn := h'.requests i n (h.requests i n hn)
  commits e he := h'.commits e (h.commits e he)

theorem reviewRules_sound : (reviewRules first requests).Sound where
  refl := Left.refl
  trans _ _ _ _ h h' := h.trans h'
  others t _ _ _ hne _ h := h t hne.symm

end Rules

/-! ### Operations -/

section Operations

variable {cfg : LockConfig} {first : LockUser} {requests : ℕ → ReviewRequest}
variable {w w' : ReviewWorld} {t : ℕ}

theorem released_of_ne {holder : Option ℕ} {u : ℕ} (hne : u ≠ t) (h : holder = some u) :
    released holder t = some u := by
  unfold released
  rw [if_neg, h]
  rw [h]
  exact fun heq => hne (Option.some.inj heq)

theorem holder_ne {u : ℕ} (hwaits : waits w.holder t = false) (hne : u ≠ t) :
    w.holder ≠ some u := by
  intro h
  rw [h] at hwaits
  simp [waits, hne] at hwaits

theorem Left.release (t : ℕ) {u : ℕ} (hne : u ≠ t) : Left u w (w.release t) :=
  ⟨id, fun h => ⟨released_of_ne hne h, rfl⟩, fun _ _ h => h, fun _ h => h⟩

theorem ReviewOk.release (h : ReviewOk first requests w) : ReviewOk first requests (w.release t) :=
  ⟨h.chained, h.reviewed, h.selfFrozen, h.times, h.recorded⟩

theorem Left.lockRow {u : ℕ} (unfreeze : Bool) (hwaits : waits w.holder t = false) (hne : u ≠ t) :
    Left u w (w.lockRow t unfreeze) := by
  refine ⟨fun h => ?_, fun h => absurd h (holder_ne hwaits hne), fun _ _ h => h, fun _ h => h⟩
  show u ∈ (if _ then _ else _)
  split
  · exact List.mem_append_left _ h
  · exact h

theorem ReviewOk.lockRow (h : ReviewOk first requests w) (unfreeze : Bool) :
    ReviewOk first requests (w.lockRow t unfreeze) := by
  refine ⟨h.chained, h.reviewed, fun u hu => ?_, h.times, h.recorded⟩
  have hu : u ∈ (if unfreeze && isVoluntaryCustomerSelfFreeze w.row then w.reviewing ++ [t]
    else w.reviewing) := hu
  split at hu
  · next hfrozen => exact ((Bool.and_eq_true ..).mp hfrozen).2
  · exact h.selfFrozen u hu

theorem getElem?_append_of {made : List NewRequest} {n : NewRequest} {i : ℕ} (l : List NewRequest)
    (h : made[i]? = some n) : (made ++ l)[i]? = some n := by
  obtain ⟨hi, -⟩ := List.getElem?_eq_some_iff.mp h
  rw [List.getElem?_append_left hi, h]

theorem Reviewed.append {made : List NewRequest} {before : LockUser} {request : ReviewRequest}
    (h : Reviewed made before request) (l : List NewRequest) :
    Reviewed (made ++ l) before request := by
  cases request with
  | approve number =>
      obtain ⟨n, hn, hop⟩ := h
      exact ⟨n, getElem?_append_of l hn, hop⟩
  | failure | selfFreeze | staffFreeze | requestUnlock => trivial
  | unfreeze => exact h

theorem Left.addRequest {u : ℕ} (actorId : ℤ) (reason : String) (target : LockUser) (now : ℕ)
    (hne : u ≠ t) : Left u w (w.addRequest t actorId reason target now) :=
  ⟨id, fun h => ⟨released_of_ne hne h, rfl⟩, fun _ _ h => getElem?_append_of _ h, fun _ h => h⟩

theorem ReviewOk.addRequest (h : ReviewOk first requests w) (actorId : ℤ) (reason : String)
    {target : LockUser} (now : ℕ) (htarget : ∀ i ∈ target.securityLockedAt, 0 ≤ i) :
    ReviewOk first requests (w.addRequest t actorId reason target now) := by
  refine ⟨h.chained, fun e he => (h.reviewed e he).append _, h.selfFrozen, h.times, ?_⟩
  intro n hn
  rcases List.mem_append.mp hn with hn | hn
  · exact h.recorded n hn
  · rw [List.mem_singleton.mp hn]
    exact ⟨_, _, rfl, htarget⟩

theorem Left.store {u : ℕ} (record : Option LockUser) (change : Change)
    (hwaits : waits w.holder t = false) (hne : u ≠ t) : Left u w (w.store t record change) := by
  refine ⟨fun h => List.mem_filter.mpr ⟨h, by simpa using hne⟩,
    fun h => absurd h (holder_ne hwaits hne), fun _ _ h => h, fun e he => ?_⟩
  exact List.mem_append_left _ he

theorem written_loaded {α : Type} [DecidableEq α] (loaded stored : α) :
    written loaded loaded stored = stored := if_pos rfl

/-- Lock times are never before the epoch. -/
theorem nonneg_write {record : Option LockUser} {change : Change} {row : LockUser}
    (hrow : ∀ i ∈ row.securityLockedAt, 0 ≤ i) :
    ∀ i ∈ (change.write record row).securityLockedAt, 0 ≤ i := by
  have hlock (lockedAt : ℕ) : ∀ i ∈ some (lockedAt : ℤ), 0 ≤ i := by
    rintro i ⟨⟩
    exact Int.natCast_nonneg lockedAt
  have hwritten (old : LockUser) (assigned : Option ℤ) (h : ∀ i ∈ assigned, 0 ≤ i) :
      ∀ i ∈ written old.securityLockedAt assigned row.securityLockedAt, 0 ≤ i := by
    unfold written
    split
    · exact hrow
    · exact h
  cases record with
  | none =>
      cases change with
      | lock reason lockedAt => exact hlock lockedAt
      | freeze | unfreeze => exact hrow
      | unlock => exact nofun
  | some old =>
      cases change with
      | lock reason lockedAt => exact hwritten old _ (hlock lockedAt)
      | freeze | unfreeze =>
          show ∀ i ∈ written old.securityLockedAt old.securityLockedAt row.securityLockedAt, 0 ≤ i
          rw [written_loaded]
          exact hrow
      | unlock => exact hwritten old none nofun

theorem ReviewOk.store (h : ReviewOk first requests w) {record : Option LockUser}
    {change : Change} (hcond : undisturbed t (.update record change) w)
    (hreviewed : Reviewed w.requests w.row (requests t)) :
    ReviewOk first requests (w.store t record change) := by
  refine ⟨h.chained.append t _, fun e he => ?_, fun u hu => ?_, nonneg_write h.times,
    h.recorded⟩
  · rcases List.mem_append.mp he with he | he
    · exact h.reviewed e he
    · rw [List.mem_singleton.mp he]
      exact hreviewed
  · obtain ⟨hmem, hne⟩ := List.mem_filter.mp hu
    exact hcond u hmem (by simpa using hne)

end Operations

/-! ### Programs that review nothing -/

section Programs

variable {cfg : LockConfig} {first : LockUser} {requests : ℕ → ReviewRequest}
variable {w w' : ReviewWorld} {t : ℕ}

abbrev ReviewSat (cfg : LockConfig) (first : LockUser) (requests : ℕ → ReviewRequest) (t : ℕ)
    {α : Type} (p : ReviewReq α) (Q : Except ReviewError α → ReviewWorld → Prop)
    (w : ReviewWorld) : Prop :=
  Holds (reviewExec cfg) (reviewRules first requests) t p Q w

/-- An operation that neither writes a row nor ends the request. -/
def Steady : ReviewOp → Prop
  | .update _ _ => False
  | .request _ _ _ _ => False
  | .close => False
  | _ => True

/-- An operation of a request that does not end a freeze or a lock. -/
def Plain : ReviewOp → Prop
  | .request _ _ _ _ => False
  | .close => False
  | _ => True

/-- What session `t` keeps of its own across operations that end its lock. -/
structure Goes (t : ℕ) (w w' : ReviewWorld) : Prop where
  reviewing : t ∈ w.reviewing → t ∈ w'.reviewing
  requests : ∀ (i : ℕ) (n : NewRequest), w.requests[i]? = some n → w'.requests[i]? = some n

theorem Left.goes (h : Left t w w') : Goes t w w' := ⟨h.reviewing, h.requests⟩

theorem steady_exec {o : ReviewOp} {c : ReviewChoice} {r : Except ReviewError (ReviewRes o)}
    (hsteady : Steady o) (h : ReviewOk first requests w)
    (he : reviewExec cfg t o c w = some (r, w')) :
    ReviewOk first requests w' ∧ (∀ u, u ≠ t → Left u w w') ∧ Goes t w w' := by
  have hrelease : ReviewOk first requests (w.release t) ∧ (∀ u, u ≠ t → Left u w (w.release t)) ∧
      Goes t w (w.release t) :=
    ⟨h.release, fun u hne => Left.release t hne, ⟨id, fun _ _ hn => hn⟩⟩
  cases o with
  | ask | get | load =>
      cases he
      exact ⟨h, fun u _ => Left.refl u w, (Left.refl t w).goes⟩
  | now =>
      cases he
      exact ⟨⟨h.chained, h.reviewed, h.selfFrozen, h.times, h.recorded⟩,
        fun u _ => ⟨id, fun hh => ⟨hh, rfl⟩, fun _ _ hn => hn, fun _ hm => hm⟩,
        ⟨id, fun _ _ hn => hn⟩⟩
  | lock unfreeze =>
      simp only [reviewExec] at he
      split at he
      · cases he
      · next hwaits =>
          cases he
          have hwaits : waits w.holder t = false := eq_false_of_ne_true hwaits
          refine ⟨h.lockRow unfreeze, fun u hne => Left.lockRow unfreeze hwaits hne, ?_,
            fun _ _ hn => hn⟩
          intro hm
          show t ∈ (if _ then _ else _)
          split
          · exact List.mem_append_left _ hm
          · exact hm
  | commit =>
      simp only [reviewExec] at he
      split at he <;> cases he <;> exact hrelease
  | rollback =>
      cases he
      exact hrelease
  -- what a review writes is no steady statement
  | request | update | close => exact hsteady.elim

theorem sat_steady {α : Type} {p : ReviewReq α} (hp : Prog.All Steady p) {I : ReviewWorld → Prop}
    (hI : ∀ w w', I w → Goes t w w' → I w') (hw : I w) :
    ReviewSat cfg first requests t p (fun _ w' => I w') w := by
  refine Holds.of_all (fun w w' h hr => hI w w' h (Left.goes hr)) ?_ hp hw
  intro o c r w w' ho h hi _ he
  obtain ⟨hok, hleft, hgoes⟩ := steady_exec ho hi he
  exact ⟨hleft, hok, hI w w' h hgoes⟩

theorem sat_of_steady {α : Type} {p : ReviewReq α} (hp : Prog.All Steady p) :
    ReviewSat cfg first requests t p (fun _ _ => True) w :=
  sat_steady hp (fun _ _ h _ => h) trivial

/-- The commit of a change of the row. -/
theorem update_exec {record : Option LockUser} {change : Change} {c : ReviewChoice}
    {r : Except ReviewError Unit} (h : ReviewOk first requests w)
    (hcond : undisturbed t (.update record change) w)
    (hreviewed : Reviewed w.requests w.row (requests t))
    (he : reviewExec cfg t (.update record change) c w = some (r, w')) :
    (∀ u, u ≠ t → Left u w w') ∧ ReviewOk first requests w' ∧
      (r = .ok () → ∃ e ∈ w'.commits, e.session = t) := by
  simp only [reviewExec] at he
  split at he
  · cases he
  next hwaits =>
    have hwaits : waits w.holder t = false := eq_false_of_ne_true hwaits
    have hstored := h.store hcond hreviewed
    have hleft (u : ℕ) (hne : u ≠ t) := Left.store (w := w) record change hwaits hne
    split at he
    · cases he
      refine ⟨hleft, hstored,
        fun _ => ⟨_, List.mem_append_right _ (List.mem_singleton.mpr rfl), rfl⟩⟩
    · cases he
      exact ⟨fun u hne => Left.release t hne, h.release, nofun⟩
    · cases he
      exact ⟨hleft, hstored, nofun⟩

/-- A request that ends no freeze and no lock may write the row at any time. -/
theorem sat_plain {α : Type} {p : ReviewReq α} (hp : Prog.All Plain p)
    (ht : ∀ made before, Reviewed made before (requests t)) :
    ReviewSat cfg first requests t p (fun _ _ => True) w := by
  refine Holds.of_all (fun _ _ _ _ => trivial) ?_ hp trivial
  intro o c r w w' ho _ hi hc he
  cases o with
  | update record change =>
      obtain ⟨hleft, hok, -⟩ := update_exec hi hc (ht _ _) he
      exact ⟨hleft, hok, trivial⟩
  | ask | now | get | lock | load | commit | rollback =>
      obtain ⟨hok, hleft, -⟩ := steady_exec (by trivial) hi he
      exact ⟨hleft, hok, trivial⟩
  | request | close => exact ho.elim

theorem plain_lockUserAccount (scope : FailureScope) : Prog.All Plain (lockUserAccount scope) := by
  have hloaded (user : Option LockUser) (reason : LockReason) : Prog.All Plain
      (now.bind fun lockedAt => update user (.lock reason lockedAt)) :=
    Prog.All.bind (.perform trivial) fun _ => .perform trivial
  cases scope with
  | password => exact Prog.All.bind (.perform trivial) fun user => hloaded (some user) _
  | mfa => exact hloaded none _
  | passwordChange => exact hloaded none _

theorem plain_failedAttempt (scope : FailureScope) : Prog.All Plain (failedAttempt scope) := by
  refine Prog.All.bind (Prog.All.bind (.perform trivial) fun _ =>
    Prog.All.bind (.perform trivial) fun reached => ?_) fun _ => trivial
  cases reached with
  | true => exact plain_lockUserAccount scope
  | false => trivial

theorem plain_ask_bind {α : Type} {q : Question} {p p' : ReviewReq α} (hp : Prog.All Plain p)
    (hp' : Prog.All Plain p') : Prog.All Plain ((ask q).bind fun b => if b then p else p') := by
  refine Prog.All.bind (.perform trivial) fun b => ?_
  cases b
  · exact hp'
  · exact hp

theorem steady_ask (q : Question) : Prog.All Steady (ask q) := .perform trivial

theorem steady_ask_bind {α : Type} {q : Question} {p p' : ReviewReq α} (hp : Prog.All Steady p)
    (hp' : Prog.All Steady p') : Prog.All Steady ((ask q).bind fun b => if b then p else p') := by
  refine (steady_ask q).bind fun b => ?_
  cases b
  · exact hp'
  · exact hp

theorem steady_requireFreshCode : Prog.All Steady requireFreshCode := by
  have hcommit : Prog.All Steady (commit.bind fun _ => (deny : ReviewReq Unit)) :=
    Prog.All.bind (.perform trivial) fun _ => trivial
  have hrollback : Prog.All Steady (rollback.bind fun _ => (deny : ReviewReq Unit)) :=
    Prog.All.bind (.perform trivial) fun _ => trivial
  refine steady_ask_bind (steady_ask_bind hcommit (steady_ask_bind ?_ hcommit)) trivial
  exact steady_ask_bind hrollback (.perform trivial)

theorem Plain.of_steady {o : ReviewOp} (h : Steady o) : Plain o := by
  cases o with
  | ask | now | get | lock | load | commit | rollback => trivial
  | request | update | close => exact h.elim

theorem plain_freezeOwnAccount : Prog.All Plain freezeOwnAccount := by
  refine Prog.All.bind (.perform trivial) fun user => ?_
  have hrollback : Prog.All Plain (rollback.bind fun _ => (deny : ReviewReq Unit)) :=
    Prog.All.bind (.perform trivial) fun _ => trivial
  have hverify : Prog.All Plain verifyHighRiskAuthorization := by
    refine plain_ask_bind (plain_ask_bind (plain_failedAttempt .mfa) (plain_ask_bind ?_
      (plain_failedAttempt .mfa))) trivial
    exact plain_ask_bind hrollback (.perform trivial)
  split
  · trivial
  · exact hverify.bind fun _ => .perform trivial

theorem plain_freezeCustomerAsStaff : Prog.All Plain freezeCustomerAsStaff := by
  refine plain_ask_bind trivial (Prog.All.bind (.perform trivial) fun target => ?_)
  split
  · refine plain_ask_bind trivial ?_
    refine (steady_requireFreshCode.mono fun _ => Plain.of_steady).bind fun _ => ?_
    exact Prog.All.bind (.perform trivial) fun _ => .perform trivial
  · trivial

/-! ### Reviews -/

theorem sat_ask {q : Question} {I : ReviewWorld → Prop} (hI : ∀ w w', I w → Left t w w' → I w')
    (hw : I w) : ReviewSat cfg first requests t (ask q) (fun _ w' => I w') w := by
  refine Holds.perform fun w₁ hr hi _ c r w₂ he => ?_
  obtain ⟨hok, hleft, -⟩ := steady_exec (by trivial) hi he
  cases he
  exact ⟨hleft, hok, hI w w₁ hw hr⟩

theorem sat_lock (unfreeze : Bool) {I : ReviewWorld → Prop}
    (hI : ∀ w w', I w → Goes t w w' → I w') (hw : I w) :
    ReviewSat cfg first requests t (lock unfreeze) (fun r w' => I w' ∧ ∀ target, r = .ok target →
      w'.holder = some t ∧ w'.row = target ∧
      (unfreeze = true → isVoluntaryCustomerSelfFreeze target = true → t ∈ w'.reviewing)) w := by
  refine Holds.perform fun w₁ hr hi _ c r w₂ he => ?_
  obtain ⟨hok, hleft, hgoes⟩ := steady_exec (by trivial) hi he
  refine ⟨hleft, hok, hI _ _ (hI _ _ hw (Left.goes hr)) hgoes, fun target htarget => ?_⟩
  simp only [reviewExec] at he
  split at he
  · cases he
  · cases he
    cases htarget
    refine ⟨rfl, rfl, fun hunfreeze hfrozen => ?_⟩
    show t ∈ (if _ then _ else _)
    rw [if_pos (by rw [hunfreeze, hfrozen]; rfl)]
    exact List.mem_append_right _ (List.mem_singleton.mpr rfl)

theorem sat_unfreeze (ht : requests t = .unfreeze) :
    ReviewSat cfg first requests t unfreezeCustomerAsStaff
      (fun r w' => r = .ok () → ∃ e ∈ w'.commits, e.session = t) w := by
  refine Holds.bind (sat_of_steady (.perform trivial)) (fun refused w₁ _ => ?_) fun _ _ _ => nofun
  cases refused with
  | true => exact nofun
  | false =>
      refine Holds.bind (sat_lock true (I := fun _ => True) (fun _ _ _ _ => trivial) trivial)
        (fun target w₂ h₂ => ?_) fun _ _ _ => nofun
      obtain ⟨-, -, hfound⟩ := h₂.2 target rfl
      show Holds _ _ t (if isVoluntaryCustomerSelfFreeze target = true then _ else _) _ w₂
      split
      · next hfrozen =>
          have hkeep {α : Type} {p : ReviewReq α} (hp : Prog.All Steady p) {w' : ReviewWorld}
              (hw' : t ∈ w'.reviewing) : ReviewSat cfg first requests t p
                (fun _ w'' => t ∈ w''.reviewing) w' :=
            sat_steady hp (fun _ _ h hgoes => hgoes.reviewing h) hw'
          refine Holds.bind (hkeep (steady_ask .selfAction) (hfound rfl hfrozen))
            (fun selfAction w₃ h₃ => ?_) fun _ _ _ => nofun
          cases selfAction with
          | true => exact nofun
          | false =>
              refine Holds.bind (hkeep steady_requireFreshCode h₃) (fun _ w₄ h₄ => ?_)
                fun _ _ _ => nofun
              refine Holds.perform fun w₅ hr hi hc c r w₆ he => ?_
              refine update_exec hi hc ?_ he
              rw [ht]
              exact hi.selfFrozen t (hr.reviewing h₄)
      · exact nofun

theorem sat_requestUnlock (actorId : ℤ) (reason : String) :
    ReviewSat cfg first requests t (requestCustomerSecurityUnlock actorId reason)
      (fun _ _ => True) w := by
  refine Holds.bind (sat_of_steady (.perform trivial)) (fun refused w₁ _ => ?_)
    fun _ _ _ => trivial
  cases refused with
  | true => trivial
  | false =>
      refine Holds.bind (sat_of_steady (.perform trivial)) (fun target w₂ _ => ?_)
        fun _ _ _ => trivial
      show Holds _ _ t (if isLockedCustomer target = true then _ else _) _ w₂
      split
      · refine Holds.bind (sat_of_steady (.perform trivial)) (fun selfAction w₃ _ => ?_)
          fun _ _ _ => trivial
        cases selfAction with
        | true => trivial
        | false =>
            refine Holds.bind (sat_of_steady steady_requireFreshCode) (fun _ w₄ _ => ?_)
              fun _ _ _ => trivial
            have hget : ReviewSat cfg first requests t get (fun r _ => ∀ target, r = .ok target →
                ∀ i ∈ target.securityLockedAt, 0 ≤ i) w₄ := by
              refine Holds.perform fun w₅ _ hi _ c r w₆ he => ?_
              obtain ⟨hok, hleft, -⟩ := steady_exec (by trivial) hi he
              cases he
              refine ⟨hleft, hok, ?_⟩
              rintro target ⟨⟩
              exact hi.times
            refine Holds.bind hget (fun target w₅ h₅ => ?_) fun _ _ _ => trivial
            refine Holds.bind (sat_of_steady (.perform trivial)) (fun createdAt w₆ _ => ?_)
              fun _ _ _ => trivial
            refine Holds.perform fun w₇ _ hi _ c r w₈ he => ?_
            have hadded := hi.addRequest (t := t) actorId reason createdAt (h₅ target rfl)
            have hleft (u : ℕ) (hne : u ≠ t) :=
              Left.addRequest (w := w₇) actorId reason target createdAt hne
            simp only [reviewExec] at he
            split at he
            · cases he
              exact ⟨hleft, hadded, trivial⟩
            · cases he
              exact ⟨fun u hne => Left.release t hne, hi.release, trivial⟩
            · cases he
              exact ⟨hleft, hadded, trivial⟩
      · trivial

/-- The lock is compared and lifted while the row is held. -/
theorem sat_executeUnlock {number : ℕ} {n : NewRequest} (ht : requests t = .approve number)
    (hn : w.requests[number]? = some n) :
    ReviewSat cfg first requests t (executeCustomerSecurityUnlock cfg.toTextOps
        (createAdminActionRequest cfg.toActionConfig n))
      (fun r w' => r = .ok () → ∃ e ∈ w'.commits, e.session = t) w := by
  refine Holds.bind (sat_lock false (I := fun w' => w'.requests[number]? = some n)
    (fun _ _ h hgoes => hgoes.requests _ _ h) hn) (fun target w₂ h₂ => ?_) fun _ _ _ => nofun
  obtain ⟨hn₂, hholder, hrow, -⟩ : _ ∧ w₂.holder = some t ∧ w₂.row = target ∧ _ :=
    ⟨h₂.1, h₂.2 target rfl⟩
  show Holds _ _ t (if isLockedCustomer target = true then _ else _) _ w₂
  split
  · next hlocked =>
      -- what this session holds and what it has read stays so
      have hstable (w w' : ReviewWorld) (h : (w.holder = some t ∧ w.row = target) ∧
          w.requests[number]? = some n) (hleft : Left t w w') :
          (w'.holder = some t ∧ w'.row = target) ∧ w'.requests[number]? = some n := by
        obtain ⟨hholder', hrow'⟩ := hleft.held h.1.1
        exact ⟨⟨hholder', hrow'.trans h.1.2⟩, hleft.requests _ _ h.2⟩
      refine Holds.bind (sat_ask hstable ⟨⟨hholder, hrow⟩, hn₂⟩) (fun selfAction w₃ h₃ => ?_)
        fun _ _ _ => nofun
      cases selfAction with
      | true => exact nofun
      | false =>
          simp only [Bool.false_eq_true, if_false]
          split
          · next htexts =>
              refine Holds.perform fun w₄ hr hi hc c r w₅ he => ?_
              obtain ⟨⟨-, hrow₄⟩, hn₄⟩ := hstable _ _ h₃ hr
              refine update_exec hi hc ?_ he
              obtain ⟨lockReason, lockedAt, hop, hat⟩ :=
                hi.recorded n (List.mem_of_getElem? hn₄)
              rw [ht]
              have htimes := hi.times
              rw [hrow₄] at htimes ⊢
              exact ⟨n, hn₄, recorded_of_texts hop hat htimes hlocked htexts⟩
          · exact nofun
  · exact nofun

theorem sat_approve {number : ℕ} (ht : requests t = .approve number) :
    ReviewSat cfg first requests t (approveUnlock cfg.toTextOps number)
      (fun r w' => r = .ok () → ∃ e ∈ w'.commits, e.session = t) w := by
  refine Holds.bind (sat_of_steady (.perform trivial)) (fun refused w₁ _ => ?_) fun _ _ _ => nofun
  cases refused with
  | true => exact nofun
  | false =>
      -- the request that is loaded is one that was created, and requests do not change
      have hload : ReviewSat cfg first requests t (load number) (fun r w' => ∀ found,
          r = .ok (some found) → ∃ n, w'.requests[number]? = some n ∧
            found = createAdminActionRequest cfg.toActionConfig n) w₁ := by
        refine Holds.perform fun w₂ _ hi _ c r w₃ he => ?_
        obtain ⟨hok, hleft, -⟩ := steady_exec (by trivial) hi he
        refine ⟨hleft, hok, fun found hfound => ?_⟩
        cases he
        obtain ⟨n, hn, hcreated⟩ := Option.map_eq_some_iff.mp (Except.ok.inj hfound)
        exact ⟨n, hn, hcreated.symm⟩
      refine Holds.bind hload (fun found w₂ h₂ => ?_) fun _ _ _ => nofun
      cases found with
      | none => exact nofun
      | some r =>
          obtain ⟨n, hn, rfl⟩ := h₂ r rfl
          have hkeep {α : Type} {p : ReviewReq α} (hp : Prog.All Steady p) {w' : ReviewWorld}
              (hw' : w'.requests[number]? = some n) : ReviewSat cfg first requests t p
                (fun _ w'' => w''.requests[number]? = some n) w' :=
            sat_steady hp (fun _ _ h hgoes => hgoes.requests _ _ h) hw'
          refine Holds.bind (hkeep (steady_ask .undecided) hn) (fun undecided w₃ h₃ => ?_)
            fun _ _ _ => nofun
          cases undecided with
          | false => exact nofun
          | true =>
              refine Holds.bind (hkeep steady_requireFreshCode h₃) (fun _ w₄ h₄ => ?_)
                fun _ _ _ => nofun
              -- a refusal is recorded and then raised
              refine Holds.tryCatch (sat_executeUnlock ht h₄) (fun _ _ h => h) fun e w₅ _ => ?_
              refine Holds.bind (sat_of_steady (.perform trivial)) (fun _ w₆ _ => ?_)
                fun _ _ _ => nofun
              exact Holds.bind (sat_of_steady (.perform trivial)) (fun _ _ _ => nofun)
                fun _ _ _ => nofun

theorem sat_handler : ReviewSat cfg first requests t ((requests t).handler cfg.toTextOps)
    (fun r w' => r = .ok () → Finished t w' (requests t)) w := by
  have htrue {p : ReviewReq Unit} (h : ReviewSat cfg first requests t p (fun _ _ => True) w)
      {request : ReviewRequest} (hfinished : ∀ w', Finished t w' request) :
      ReviewSat cfg first requests t p (fun r w' => r = .ok () → Finished t w' request) w :=
    h.mono fun _ w' _ _ => hfinished w'
  cases ht : requests t with
  | failure scope =>
      refine htrue (sat_plain (plain_failedAttempt scope) fun _ _ => ?_) fun _ => trivial
      rw [ht]
      trivial
  | selfFreeze =>
      refine htrue (sat_plain plain_freezeOwnAccount fun _ _ => ?_) fun _ => trivial
      rw [ht]
      trivial
  | staffFreeze =>
      refine htrue (sat_plain plain_freezeCustomerAsStaff fun _ _ => ?_) fun _ => trivial
      rw [ht]
      trivial
  | unfreeze => exact sat_unfreeze ht
  | requestUnlock actorId reason => exact htrue (sat_requestUnlock actorId reason) fun _ => trivial
  | approve number => exact sat_approve ht

theorem finished_of_left {request : ReviewRequest} (h : Finished t w request)
    (hleft : ∀ e ∈ w.commits, e ∈ w'.commits) : Finished t w' request := by
  cases request with
  | unfreeze | approve =>
      obtain ⟨e, he, hsession⟩ := h
      exact ⟨e, hleft e he, hsession⟩
  | failure | selfFreeze | staffFreeze | requestUnlock => trivial

theorem sat_close {request : ReviewRequest} (hw : Finished t w request) :
    ReviewSat cfg first requests t close (fun _ w' => Finished t w' request) w := by
  refine Holds.perform fun w₁ hr hi _ c r w₂ he => ?_
  cases he
  refine ⟨fun u hne => ⟨fun h => List.mem_filter.mpr ⟨h, by simpa using hne⟩,
    fun h => ⟨released_of_ne hne h, rfl⟩, fun _ _ h => h, fun _ h => h⟩, ?_,
    finished_of_left hw hr.commits⟩
  exact ⟨hi.chained, hi.reviewed, fun u hu => hi.selfFrozen u (List.mem_filter.mp hu).1, hi.times,
    hi.recorded⟩

theorem sat_serve : ReviewSat cfg first requests t ((requests t).serve cfg.toTextOps)
    (fun r w' => r = .ok () → Finished t w' (requests t)) w := by
  refine Holds.bind (Holds.tryCatch (Q := fun r w' => r = .ok () → Finished t w' (requests t))
    sat_handler (fun _ _ h => h) fun e w₁ _ => ?_) (fun _ w₁ h₁ => ?_) fun _ _ _ => nofun
  · have hfinished : Finished t w₁ .selfFreeze := trivial
    have hclose : ReviewSat cfg first requests t close (fun _ _ => True) w₁ := sat_close hfinished
    exact Holds.bind hclose (fun _ _ _ => nofun) fun _ _ _ => nofun
  · exact (sat_close (h₁ rfl)).mono fun _ _ h _ => h

end Programs

/-! ### Runs -/

theorem allEnd_reviewStart (cfg : LockConfig) (user : LockUser) (requests : ℕ → ReviewRequest) :
    AllEnd (reviewExec cfg) (reviewRules (unlockFields user) requests)
      (fun t r w => r = .ok () → Finished t w (requests t)) (reviewStart cfg user requests) := by
  have hinitial : ReviewOk (unlockFields user) requests (reviewStart cfg user requests).world := by
    refine ⟨rfl, fun e he => ?_, fun u hu => ?_, fun i hi => ?_, fun n hn => ?_⟩
    · exact (List.not_mem_nil he).elim
    · exact (List.not_mem_nil hu).elim
    · exact (Option.not_mem_none i hi).elim
    · exact (List.not_mem_nil hn).elim
  exact ⟨hinitial, fun t => sat_serve⟩

/-- In every run in which nobody else takes the customer out of a voluntary freeze
while an unfreeze is under way, the row changes only by commits; those of an
unfreeze find a voluntary freeze, those of the execution of an unlock request find
the lock that the request has recorded; and a review that commits nothing ends with
an error. -/
theorem unlock_lifts_reviewed_lock {cfg : LockConfig} {user : LockUser}
    {requests : ℕ → ReviewRequest} {x : ReviewConf}
    (hx : Reach (reviewExec cfg) undisturbed (reviewStart cfg user requests) x) :
    Chained (unlockFields user) x.world.row x.world.commits ∧
      (∀ e ∈ x.world.commits, Reviewed x.world.requests e.before (requests e.session)) ∧
      ∀ t, x.prog t = .ret () → Finished t x.world (requests t) := by
  have hstable (t : ℕ) (r : Except ReviewError Unit) (w w' : ReviewWorld)
      (h : r = .ok () → Finished t w (requests t))
      (hleft : (reviewRules (unlockFields user) requests).rely t w w') :
      r = .ok () → Finished t w' (requests t) :=
    fun hr => finished_of_left (h hr) hleft.commits
  obtain ⟨hok, hends⟩ :=
    reach_ends reviewRules_sound hstable (allEnd_reviewStart cfg user requests) hx
  refine ⟨hok.chained, hok.reviewed, fun t ht => ?_⟩
  have hend := hends t
  rw [ht] at hend
  exact hend rfl

instance (t : ℕ) (o : ReviewOp) (w : ReviewWorld) : Decidable (undisturbed t o w) :=
  match o with
  | .update record change => inferInstanceAs (Decidable (∀ u ∈ w.reviewing, u ≠ t →
      isVoluntaryCustomerSelfFreeze (change.write record w.row) = true))
  | .ask _ => inferInstanceAs (Decidable True)
  | .now => inferInstanceAs (Decidable True)
  | .get => inferInstanceAs (Decidable True)
  | .lock _ => inferInstanceAs (Decidable True)
  | .load _ => inferInstanceAs (Decidable True)
  | .request _ _ _ _ => inferInstanceAs (Decidable True)
  | .commit => inferInstanceAs (Decidable True)
  | .rollback => inferInstanceAs (Decidable True)
  | .close => inferInstanceAs (Decidable True)

def sampleReviewUser : LockUser where
  id := 7
  email := "customer"
  staffPersonalEmail := ""
  accountType := .customer
  accountStatus := .active
  mfaEnabled := true
  isFrozen := false
  securityLockedAt := none
  securityLockReason := none

/-- A freeze and its end, and a lockout and its end. -/
def sampleReviews (t : ℕ) : ReviewRequest :=
  if t = 0 then .selfFreeze else if t = 1 then .unfreeze else if t = 2 then .failure .mfa
  else if t = 3 then .requestUnlock 2 "" else .approve 0

/-- Session `t` performs its next operations with these answers. -/
def answers (t : ℕ) (yes : List Bool) : List (ℕ × ReviewChoice) :=
  yes.map fun b => (t, ⟨b, 1, .committed⟩)

/-- The code is right. -/
def codeAccepted : List Bool := [true, false, true, false, true]

/-- The customer freezes the account. -/
def freezes : List (ℕ × ReviewChoice) := answers 0 ([true] ++ codeAccepted ++ [true, true])

/-- An unfreeze, up to its commit. -/
def unfreezes : List (ℕ × ReviewChoice) := answers 1 ([false, true, false] ++ codeAccepted)

/-- A failure that locks the account. -/
def locksOut : List (ℕ × ReviewChoice) := answers 2 [true, true, true, true, true]

/-- The freeze is ended; so is the lockout, by a request and its approval. -/
theorem unlock_lifts_reviewed_lock_unlocked :
    ∃ x, Reach (reviewExec sampleLockConfig) undisturbed
        (reviewStart sampleLockConfig sampleReviewUser sampleReviews) x ∧
      x.world.commits.map (·.session) = [0, 1, 2, 4] ∧
      (Chained (unlockFields sampleReviewUser) x.world.row x.world.commits ∧
        (∀ e ∈ x.world.commits, Reviewed x.world.requests e.before (sampleReviews e.session)) ∧
        ∀ t, x.prog t = .ret () → Finished t x.world (sampleReviews t)) := by
  have hrun : (runChecked (reviewExec sampleLockConfig) (fun t o w => decide (undisturbed t o w))
      (reviewStart sampleLockConfig sampleReviewUser sampleReviews)
      (freezes ++ unfreezes ++ answers 1 [true, true] ++ locksOut ++
        answers 3 ([false, true, false] ++ codeAccepted ++ [true, true, true, true]) ++
        answers 4 ([false, true, true] ++ codeAccepted ++ [true, false, true, true]))).any
      (fun x => x.world.commits.map (·.session) = [0, 1, 2, 4]) = true := by decide +kernel
  obtain ⟨x, hx, hend⟩ := (Option.any_eq_true ..).mp hrun
  have hreach := reach_of_runChecked (reviewExec sampleLockConfig)
    (fun _ _ _ => of_decide_eq_true) .refl hx
  exact ⟨x, hreach, of_decide_eq_true hend, unlock_lifts_reviewed_lock hreach⟩

/-- A failure locks the account between the check of the reviewer's code and the
commit of the unfreeze, which lifts the freeze of that lock. -/
theorem lockout_lifted_by_unfreeze :
    ∃ x, Reach (reviewExec sampleLockConfig) (fun _ _ _ => True)
        (reviewStart sampleLockConfig sampleReviewUser sampleReviews) x ∧
      ¬∀ e ∈ x.world.commits, Reviewed x.world.requests e.before (sampleReviews e.session) := by
  have hrun : (run (reviewExec sampleLockConfig)
      (reviewStart sampleLockConfig sampleReviewUser sampleReviews)
      (freezes ++ unfreezes ++ locksOut ++ answers 1 [true])).any (fun x =>
        x.world.commits.any fun e => e.session = 1 && !isVoluntaryCustomerSelfFreeze e.before &&
          e.before.isFrozen && !e.after.isFrozen) = true := by decide +kernel
  obtain ⟨x, hx, hlifted⟩ := (Option.any_eq_true ..).mp hrun
  obtain ⟨e, he, hcommit⟩ := List.any_eq_true.mp hlifted
  simp only [Bool.and_eq_true, Bool.not_eq_true', decide_eq_true_eq] at hcommit
  refine ⟨x, reach_of_run _ .refl hx, fun hall => ?_⟩
  have hreviewed := hall e he
  rw [hcommit.1.1.1] at hreviewed
  have hfrozen : isVoluntaryCustomerSelfFreeze e.before = true := hreviewed
  rw [hcommit.1.1.2] at hfrozen
  cases hfrozen

end SitBank.Admin.LockReviews
