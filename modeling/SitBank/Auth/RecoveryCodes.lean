import Mathlib.Data.List.Nodup
import SitBank.Interaction.Machine
import SitBank.Interaction.RowLock

/-!
Recovery codes of one user (`app/auth/recovery_codes.py`), with any number of sessions.

A generation marks the unused codes as used and inserts new ones in one transaction.
Its `UPDATE` finds the rows that are committed when it starts; a row that is locked by
another session is tested again once the lock is gone, but rows that were committed in
the meantime are not looked for. Two generations that overlap therefore leave two sets
of codes. When no generation starts during another one, the codes that are not used are
always those of the last set.

Every statement is about the rows of one user and one purpose, and so is the model. A
code is known by its HMAC, which is unique. A transaction can fail at any statement.
-/

namespace SitBank.Auth.RecoveryCodes

open SitBank.Interaction

/-! ### The table -/

/-- `used` says that the committed `used_at` is set, `marked` that the session that holds
the lock has set it. `set` is the number of the generation, in the order of commits. -/
structure RecoveryCode where
  hmac : ℕ
  hmacVersion : ℕ
  used : Bool
  set : ℕ
  holder : Option ℕ
  marked : Bool
  deriving DecidableEq, Repr

/-- A code was accepted; `latest` is the number of the last generation then. -/
structure Acceptance where
  hmac : ℕ
  set : ℕ
  latest : ℕ
  deriving DecidableEq, Repr

/-- `generating` lists the sessions whose generation has started and is not over. -/
structure World where
  rows : List RecoveryCode
  latest : ℕ
  generating : List ℕ
  accepted : List Acceptance
  deriving DecidableEq, Repr

namespace World

variable (w : World) (t : ℕ)

def mapRows (f : RecoveryCode → RecoveryCode) : World := { w with rows := w.rows.map f }

/-- Another session has the row locked. -/
def blocked (hmac : ℕ) : Bool := w.rows.any fun r => r.hmac = hmac && waits r.holder t

def unused : List ℕ := (w.rows.filter fun r => !r.used).map RecoveryCode.hmac

def usable (hmac : ℕ) : Bool :=
  w.rows.any fun r => r.hmac = hmac && !r.used && 2 ≤ r.hmacVersion

end World

/-- The row after an `UPDATE` that sets `used_at` where it is not set. -/
def markRow (t hmac : ℕ) (r : RecoveryCode) : RecoveryCode :=
  if r.hmac = hmac ∧ r.used = false then { r with holder := some t, marked := true } else r

/-- The row after `SELECT … FOR UPDATE`. -/
def lockRow (t hmac : ℕ) (r : RecoveryCode) : RecoveryCode :=
  if r.hmac = hmac ∧ r.used = false ∧ 2 ≤ r.hmacVersion then { r with holder := some t } else r

/-- The end of the transaction: the locks are gone, and with a commit what was written is
there for all. -/
def endRow (t : ℕ) (committed : Bool) (r : RecoveryCode) : RecoveryCode :=
  if r.holder = some t then
    { r with used := r.used || (committed && r.marked), holder := none, marked := false }
  else r

def newRow (set hmac : ℕ) : RecoveryCode := ⟨hmac, 2, false, set, none, false⟩

/-! ### Statements -/

inductive RecoveryError
  | value
  | integrity
  | operational
  deriving DecidableEq, Repr

inductive RecoveryOp
  /-- The statement `UPDATE` starts: the rows it finds. -/
  | startUpdate
  | updateRow (hmac : ℕ)
  /-- The new rows are flushed, and the transaction is committed. -/
  | commitCodes (codes : List ℕ)
  | find (hmac : ℕ)
  | selectForUpdate (hmac : ℕ)
  /-- `used_at` is flushed, and the transaction is committed. -/
  | commitUsed (hmac : ℕ)
  | rollback

def RecoveryRes : RecoveryOp → Type
  | .startUpdate => List ℕ
  | .find _ => Bool
  | .selectForUpdate _ => Bool
  | _ => Unit

abbrev RecoveryReq (α : Type) := Prog RecoveryOp RecoveryRes RecoveryError α

namespace World

variable (w : World) (t : ℕ)

def rollback : World :=
  { w.mapRows (endRow t false) with generating := w.generating.filter (· ≠ t) }

def fresh (codes : List ℕ) : Bool :=
  codes.Nodup && codes.all fun hmac => hmac ∉ w.rows.map RecoveryCode.hmac

/-- The HMAC of a code is unique. -/
def commitCodes (codes : List ℕ) : Except RecoveryError Unit × World :=
  if w.fresh codes then
    (.ok (), { w with
      rows := w.rows.map (endRow t true) ++ codes.map (newRow (w.latest + 1))
      latest := w.latest + 1
      generating := w.generating.filter (· ≠ t) })
  else (.error .integrity, w)

/-- The row of the record, before the transaction is committed. -/
def markHeld (hmac : ℕ) : World :=
  w.mapRows fun r => if r.hmac = hmac ∧ r.holder = some t then { r with marked := true } else r

def commitUsed (hmac : ℕ) : World :=
  { (w.markHeld t hmac).mapRows (endRow t true) with
    accepted := w.accepted ++ (w.rows.filter fun r => r.hmac = hmac).map fun r =>
      ⟨r.hmac, r.set, w.latest⟩ }

end World

/-- The choice is whether the statement fails. -/
def recoveryExec : Exec RecoveryOp RecoveryRes RecoveryError World Bool := fun t o fail w =>
  match o with
  | .rollback => some (.ok (), w.rollback t)
  | .startUpdate =>
      if fail then some (.error .operational, w)
      else some (.ok w.unused, { w with generating := w.generating ++ [t] })
  | .updateRow hmac =>
      if fail then some (.error .operational, w)
      else if w.blocked t hmac then none
      else some (.ok (), w.mapRows (markRow t hmac))
  | .commitCodes codes =>
      if fail then some (.error .operational, w) else some (w.commitCodes t codes)
  | .find hmac =>
      if fail then some (.error .operational, w) else some (.ok (w.usable hmac), w)
  | .selectForUpdate hmac =>
      if fail then some (.error .operational, w)
      else if w.blocked t hmac then none
      else some (.ok (w.usable hmac), w.mapRows (lockRow t hmac))
  | .commitUsed hmac =>
      if fail then some (.error .operational, w) else some (.ok (), w.commitUsed t hmac)

def startUpdate : RecoveryReq (List ℕ) := Prog.perform RecoveryOp.startUpdate

def updateRow (hmac : ℕ) : RecoveryReq Unit := Prog.perform (RecoveryOp.updateRow hmac)

def commitCodes (codes : List ℕ) : RecoveryReq Unit := Prog.perform (RecoveryOp.commitCodes codes)

def find (hmac : ℕ) : RecoveryReq Bool := Prog.perform (RecoveryOp.find hmac)

def selectForUpdate (hmac : ℕ) : RecoveryReq Bool :=
  Prog.perform (RecoveryOp.selectForUpdate hmac)

def commitUsed (hmac : ℕ) : RecoveryReq Unit := Prog.perform (RecoveryOp.commitUsed hmac)

def rollback : RecoveryReq Unit := Prog.perform RecoveryOp.rollback

/-! ### Requests -/

/-- The caller commits after its audit event where `commit` is false. -/
def generateRecoveryCodesForUser (codes : List ℕ) : RecoveryReq Unit := do
  if codes.length < 1 ∨ 20 < codes.length then .raise .value
  else
    let old ← startUpdate
    Prog.forEach updateRow old
    commitCodes codes

/-- `SELECT … FOR UPDATE`: a row is found, waited for and tested again. -/
def selectCode (hmac : ℕ) : RecoveryReq Bool := do
  if ← find hmac then selectForUpdate hmac else pure false

def consumeRecoveryCode (hmac : ℕ) (commit : Bool) : RecoveryReq Bool := do
  if ← selectCode hmac then
    commitUsed hmac
    pure true
  else if commit then
    rollback
    pure false
  else pure false

inductive RecoveryRequest
  | generate (codes : List ℕ)
  | consume (hmac : ℕ) (commit : Bool)
  deriving DecidableEq, Repr

def RecoveryRequest.handler : RecoveryRequest → RecoveryReq Unit
  | .generate codes => generateRecoveryCodesForUser codes
  | .consume hmac commit => do
      let _ ← consumeRecoveryCode hmac commit
      pure ()

/-- The session is closed at the end of the request. -/
def RecoveryRequest.serve (request : RecoveryRequest) : RecoveryReq Unit := do
  request.handler.tryCatch fun e => do
    rollback
    .raise e
  rollback

abbrev RecoveryConf := Conf RecoveryOp RecoveryRes RecoveryError Unit World

/-- A table with the codes of earlier times, and any requests. -/
def recoveryStart (rows : List RecoveryCode) (requests : ℕ → RecoveryRequest) : RecoveryConf where
  world := ⟨rows, 0, [], []⟩
  prog t := (requests t).serve

/-! ### Generations one at a time -/

/-- A generation starts while no other one is under way. -/
def alone (_ : ℕ) (o : RecoveryOp) (w : World) : Prop :=
  match o with
  | .startUpdate => w.generating = []
  | _ => True

/-- What no statement changes about a row, and what it never takes back. -/
structure Steady (r r' : RecoveryCode) : Prop where
  hmac : r'.hmac = r.hmac
  set : r'.set = r.set
  used : r.used = true → r'.used = true

structure RecoveryOk (w : World) : Prop where
  distinct : (w.rows.map RecoveryCode.hmac).Nodup
  single : w.generating.length ≤ 1
  current : ∀ r ∈ w.rows, r.used = false → r.set = w.latest
  spent : ∀ a ∈ w.accepted, ∃ r ∈ w.rows, r.hmac = a.hmac ∧ r.used = true
  once : (w.accepted.map Acceptance.hmac).Nodup
  inTime : ∀ a ∈ w.accepted, a.set = a.latest

/-- What session `t` can rely on: the rows it has locked stay as they are, and while it
generates codes no row becomes unused. -/
structure Kept (t : ℕ) (w w' : World) : Prop where
  held : ∀ r ∈ w.rows, r.holder = some t → r ∈ w'.rows
  generating : t ∈ w.generating → t ∈ w'.generating
  known : t ∈ w.generating → ∀ r' ∈ w'.rows, r'.used = false →
    ∃ r ∈ w.rows, r.hmac = r'.hmac ∧ r.used = false ∧ (r.holder = some t → r' = r)

def recoveryRules : Rules RecoveryOp World where
  rely := Kept
  guar t w w' := ∀ u, u ≠ t → Kept u w w'
  inv := RecoveryOk
  cond := alone

theorem Kept.refl (t : ℕ) (w : World) : Kept t w w where
  held _ hr _ := hr
  generating h := h
  known _ r hr hused := ⟨r, hr, rfl, hused, fun _ => rfl⟩

theorem Kept.trans {t : ℕ} {w₁ w₂ w₃ : World} (h : Kept t w₁ w₂) (h' : Kept t w₂ w₃) :
    Kept t w₁ w₃ where
  held r hr hholder := h'.held r (h.held r hr hholder) hholder
  generating ht := h'.generating (h.generating ht)
  known ht r₃ hr₃ hused₃ := by
    obtain ⟨r₂, hr₂, hhmac₂, hused₂, hsame₂⟩ := h'.known (h.generating ht) r₃ hr₃ hused₃
    obtain ⟨r₁, hr₁, hhmac₁, hused₁, hsame₁⟩ := h.known ht r₂ hr₂ hused₂
    refine ⟨r₁, hr₁, hhmac₁.trans hhmac₂, hused₁, fun hholder => ?_⟩
    have heq := hsame₁ hholder
    rw [hsame₂ (heq ▸ hholder), heq]

theorem recoveryRules_sound : recoveryRules.Sound where
  refl := Kept.refl
  trans _ _ _ _ := Kept.trans
  others _ _ _ _ hne _ hg := hg _ (Ne.symm hne)

/-! ### One statement -/

section Statements

variable {w : World} {t : ℕ} {f : RecoveryCode → RecoveryCode}

theorem RecoveryOk.mapRows (h : RecoveryOk w) (hf : ∀ r ∈ w.rows, Steady r (f r)) :
    RecoveryOk (w.mapRows f) where
  distinct := by
    have hkeys : (w.rows.map f).map RecoveryCode.hmac = w.rows.map RecoveryCode.hmac := by
      rw [List.map_map]
      exact List.map_congr_left fun r hr => (hf r hr).hmac
    show ((w.rows.map f).map RecoveryCode.hmac).Nodup
    rw [hkeys]
    exact h.distinct
  single := h.single
  current := by
    intro r' hr' hused
    obtain ⟨r, hr, rfl⟩ := List.mem_map.mp hr'
    have hunused : r.used = false := by
      cases hr₀ : r.used with
      | false => rfl
      | true => rw [(hf r hr).used hr₀] at hused; cases hused
    rw [(hf r hr).set]
    exact h.current r hr hunused
  spent := by
    intro a ha
    obtain ⟨r, hr, hhmac, hused⟩ := h.spent a ha
    exact ⟨f r, List.mem_map_of_mem hr, (hf r hr).hmac.trans hhmac, (hf r hr).used hused⟩
  once := h.once
  inTime := h.inTime

theorem kept_mapRows {u : ℕ} (hf : ∀ r ∈ w.rows, Steady r (f r))
    (hother : ∀ r ∈ w.rows, r.holder = some u → f r = r) : Kept u w (w.mapRows f) where
  held r hr hholder := by
    have hmem := List.mem_map_of_mem (f := f) hr
    rw [hother r hr hholder] at hmem
    exact hmem
  generating h := h
  known _ r' hr' hused := by
    obtain ⟨r, hr, rfl⟩ := List.mem_map.mp hr'
    refine ⟨r, hr, (hf r hr).hmac.symm, ?_, hother r hr⟩
    cases hr₀ : r.used with
    | false => rfl
    | true => rw [(hf r hr).used hr₀] at hused; cases hused

theorem steady_markRow (t hmac : ℕ) (r : RecoveryCode) : Steady r (markRow t hmac r) := by
  unfold markRow
  split <;> exact ⟨rfl, rfl, id⟩

theorem steady_lockRow (t hmac : ℕ) (r : RecoveryCode) : Steady r (lockRow t hmac r) := by
  unfold lockRow
  split <;> exact ⟨rfl, rfl, id⟩

theorem steady_endRow (t : ℕ) (committed : Bool) (r : RecoveryCode) :
    Steady r (endRow t committed r) := by
  unfold endRow
  split
  · exact ⟨rfl, rfl, fun h => by simp [h]⟩
  · exact ⟨rfl, rfl, id⟩

theorem endRow_other {u : ℕ} (hne : u ≠ t) (committed : Bool) {r : RecoveryCode}
    (h : r.holder = some u) : endRow t committed r = r := by
  have hother : r.holder ≠ some t := by
    rw [h]
    exact fun heq => hne (Option.some.inj heq)
  exact if_neg hother

/-- A row that is not blocked is locked by nobody else. -/
theorem not_held_of_not_blocked {hmac u : ℕ} (h : w.blocked t hmac ≠ true) (hne : u ≠ t)
    {r : RecoveryCode} (hr : r ∈ w.rows) (hholder : r.holder = some u) : r.hmac ≠ hmac := by
  intro heq
  apply h
  refine List.any_eq_true.mpr ⟨r, hr, ?_⟩
  simp [heq, hholder, waits, hne]

theorem eq_of_hmac_eq (h : RecoveryOk w) {r r' : RecoveryCode} (hr : r ∈ w.rows)
    (hr' : r' ∈ w.rows) (heq : r.hmac = r'.hmac) : r = r' :=
  List.inj_on_of_nodup_map h.distinct hr hr' heq

/-- Session `t` has marked the unused rows, up to those that are still to be marked. -/
structure Marking (t : ℕ) (todo : List ℕ) (w : World) : Prop where
  generating : t ∈ w.generating
  rows : ∀ r ∈ w.rows, r.used = false → r.hmac ∈ todo ∨ r.holder = some t ∧ r.marked = true

theorem Marking.kept {todo : List ℕ} {w' : World} (h : Marking t todo w) (hk : Kept t w w') :
    Marking t todo w' where
  generating := hk.generating h.generating
  rows r' hr' hused := by
    obtain ⟨r, hr, hhmac, hunused, hsame⟩ := hk.known h.generating r' hr' hused
    rcases h.rows r hr hunused with htodo | ⟨hholder, hmarked⟩
    · exact .inl (hhmac ▸ htodo)
    · rw [hsame hholder]
      exact .inr ⟨hholder, hmarked⟩

theorem Marking.markRow {hmac : ℕ} {todo : List ℕ} (h : Marking t (hmac :: todo) w) :
    Marking t todo (w.mapRows (markRow t hmac)) where
  generating := h.generating
  rows r' hr' hused := by
    obtain ⟨r, hr, rfl⟩ := List.mem_map.mp hr'
    unfold RecoveryCodes.markRow at hused ⊢
    split
    · exact .inr ⟨rfl, rfl⟩
    · next hother =>
        rw [if_neg hother] at hused
        rcases h.rows r hr hused with htodo | hmarked
        · rcases List.mem_cons.mp htodo with heq | htodo
          · exact absurd ⟨heq, hused⟩ hother
          · exact .inl htodo
        · exact .inr hmarked

/-- After the commit only the new codes are unused. -/
theorem RecoveryOk.commitCodes (h : RecoveryOk w) (hmarking : Marking t [] w) (codes : List ℕ) :
    RecoveryOk (w.commitCodes t codes).2 := by
  unfold World.commitCodes
  split
  · next hfresh =>
      unfold World.fresh at hfresh
      simp only [Bool.and_eq_true, decide_eq_true_eq, List.all_eq_true] at hfresh
      obtain ⟨hnodup, hnew⟩ := hfresh
      have hended := h.mapRows fun r _ => steady_endRow t true r
      have hcodes : (codes.map (newRow (w.latest + 1))).map RecoveryCode.hmac = codes := by
        rw [List.map_map]
        exact List.map_id'' (fun _ => rfl) codes
      have hrows : (w.rows.map (endRow t true)).map RecoveryCode.hmac =
          w.rows.map RecoveryCode.hmac := by
        rw [List.map_map]
        exact List.map_congr_left fun r _ => (steady_endRow t true r).hmac
      -- the old rows end here, and the new ones carry the next generation
      exact {
        distinct := by
          show ((w.rows.map (endRow t true) ++ codes.map (newRow (w.latest + 1))).map
            RecoveryCode.hmac).Nodup
          rw [List.map_append, hcodes, hrows]
          exact h.distinct.append hnodup fun hmac hold hmem => hnew hmac hmem hold
        single := Nat.le_trans (List.length_filter_le _ _) h.single
        current := by
          intro r' hr' hused
          -- only the new rows are unused
          rcases List.mem_append.mp hr' with hr' | hr'
          · obtain ⟨r, hr, rfl⟩ := List.mem_map.mp hr'
            exfalso
            unfold endRow at hused
            split at hused
            · next hholder =>
                simp only [Bool.true_and, Bool.or_eq_false_iff] at hused
                rcases hmarking.rows r hr hused.1 with hnil | ⟨-, hmarked⟩
                · exact List.not_mem_nil hnil
                · rw [hmarked] at hused
                  cases hused.2
            · next hother =>
                rcases hmarking.rows r hr hused with hnil | ⟨hholder, -⟩
                · exact List.not_mem_nil hnil
                · exact hother hholder
          · obtain ⟨hmac, -, rfl⟩ := List.mem_map.mp hr'
            rfl
        spent := by
          intro a ha
          obtain ⟨r, hr, hspent⟩ := hended.spent a ha
          exact ⟨r, List.mem_append_left _ hr, hspent⟩
        once := h.once
        inTime := h.inTime }
  · exact h

theorem kept_commitCodes (h : RecoveryOk w) (hmarking : Marking t [] w) (codes : List ℕ) {u : ℕ}
    (hne : u ≠ t) : Kept u w (w.commitCodes t codes).2 := by
  have hidle : u ∉ w.generating := by
    intro hu
    have ht := hmarking.generating
    have hsingle := h.single
    cases hlist : w.generating with
    | nil => rw [hlist] at hu; cases hu
    | cons v l =>
        rw [hlist] at hu ht hsingle
        have hnil : l = [] := List.eq_nil_of_length_eq_zero (by simpa using hsingle)
        subst hnil
        rw [List.mem_singleton] at hu ht
        exact hne (hu.trans ht.symm)
  unfold World.commitCodes
  split
  · exact {
      held := by
        intro r hr hholder
        have hmem := List.mem_map_of_mem (f := endRow t true) hr
        rw [endRow_other hne true hholder] at hmem
        exact List.mem_append_left _ hmem
      generating := fun hu => absurd hu hidle
      known := fun hu => absurd hu hidle }
  · exact .refl u w

/-- Session `t` has locked the row of the code, which is not used. -/
def Held (t hmac : ℕ) (w : World) : Prop :=
  ∃ r ∈ w.rows, r.hmac = hmac ∧ r.holder = some t ∧ r.used = false

theorem Held.kept {hmac : ℕ} {w' : World} (h : Held t hmac w) (hk : Kept t w w') :
    Held t hmac w' := by
  obtain ⟨r, hr, hhmac, hholder, hused⟩ := h
  exact ⟨r, hk.held r hr hholder, hhmac, hholder, hused⟩

theorem steady_markHeld (t hmac : ℕ) (r : RecoveryCode) :
    Steady r (if r.hmac = hmac ∧ r.holder = some t then { r with marked := true } else r) := by
  split <;> exact ⟨rfl, rfl, id⟩

theorem RecoveryOk.commitUsed {hmac : ℕ} (h : RecoveryOk w) (hheld : Held t hmac w) :
    RecoveryOk (w.commitUsed t hmac) := by
  obtain ⟨r, hr, hhmac, hholder, hunused⟩ := hheld
  have hmarked := h.mapRows fun r _ => steady_markHeld t hmac r
  have hended := RecoveryOk.mapRows hmarked fun r _ => steady_endRow t true r
  -- The code is that of one row, and it was not accepted before.
  have honly : ∀ r' ∈ w.rows.filter fun r => r.hmac = hmac, r' = r := by
    intro r' hr'
    obtain ⟨hmem, heq⟩ := List.mem_filter.mp hr'
    exact eq_of_hmac_eq h hmem hr (by simpa [hhmac] using heq)
  have hused : ∃ r' ∈ ((w.markHeld t hmac).mapRows (endRow t true)).rows,
      r'.hmac = hmac ∧ r'.used = true := by
    refine ⟨_, List.mem_map_of_mem (List.mem_map_of_mem hr), ?_⟩
    simp [hhmac, hholder, endRow]
  exact {
    distinct := hended.distinct
    single := hended.single
    current := hended.current
    spent := by
      intro a ha
      rcases List.mem_append.mp ha with ha | ha
      · exact hended.spent a ha
      · obtain ⟨r', hr', rfl⟩ := List.mem_map.mp ha
        rw [honly r' hr']
        obtain ⟨r'', hr'', hsame, hspent⟩ := hused
        exact ⟨r'', hr'', hsame.trans hhmac.symm, hspent⟩
    once := by
      show ((w.accepted ++ (w.rows.filter fun r => r.hmac = hmac).map fun r =>
        Acceptance.mk r.hmac r.set w.latest).map Acceptance.hmac).Nodup
      rw [List.map_append, List.map_map]
      refine h.once.append ?_ ?_
      · exact h.distinct.sublist (List.filter_sublist.map RecoveryCode.hmac)
      · intro hmac' hold hnew
        obtain ⟨a, ha, rfl⟩ := List.mem_map.mp hold
        obtain ⟨r', hr', heq⟩ := List.mem_map.mp hnew
        obtain ⟨spent, hspent, hspentHmac, hspentUsed⟩ := h.spent a ha
        rw [honly r' hr'] at heq
        have hsame := eq_of_hmac_eq h hspent hr (hspentHmac.trans heq.symm)
        rw [hsame, hunused] at hspentUsed
        cases hspentUsed
    inTime := by
      intro a ha
      rcases List.mem_append.mp ha with ha | ha
      · exact h.inTime a ha
      · obtain ⟨r', hr', rfl⟩ := List.mem_map.mp ha
        rw [honly r' hr']
        exact h.current r hr hunused }

theorem kept_commitUsed (hmac : ℕ) {u : ℕ} (hne : u ≠ t) : Kept u w (w.commitUsed t hmac) := by
  have hmark : Kept u w (w.markHeld t hmac) := by
    refine kept_mapRows (fun r _ => steady_markHeld t hmac r) fun r _ hholder => if_neg ?_
    rintro ⟨-, hheld⟩
    exact hne (Option.some.inj (hholder.symm.trans hheld))
  have hend : Kept u (w.markHeld t hmac) ((w.markHeld t hmac).mapRows (endRow t true)) :=
    kept_mapRows (fun r _ => steady_endRow t true r) fun r _ hholder =>
      endRow_other hne true hholder
  exact { held := (hmark.trans hend).held
          generating := (hmark.trans hend).generating
          known := (hmark.trans hend).known }

theorem RecoveryOk.rollback (h : RecoveryOk w) (t : ℕ) : RecoveryOk (w.rollback t) := by
  have hended := h.mapRows fun r _ => steady_endRow t false r
  exact { hended with single := Nat.le_trans (List.length_filter_le _ _) h.single }

theorem kept_rollback {u : ℕ} (hne : u ≠ t) : Kept u w (w.rollback t) := by
  have hend : Kept u w (w.mapRows (endRow t false)) :=
    kept_mapRows (fun r _ => steady_endRow t false r) fun r _ hholder =>
      endRow_other hne false hholder
  exact {
    held := hend.held
    generating := fun hu => List.mem_filter.mpr ⟨hu, by simpa using hne⟩
    known := hend.known }

end Statements

/-! ### Requests keep the rules -/

abbrev RecoverySat {α : Type} (t : ℕ) (p : RecoveryReq α)
    (Q : Except RecoveryError α → World → Prop)
    (w : World) : Prop :=
  Holds recoveryExec recoveryRules t p Q w

section Programs

variable {w : World} {t : ℕ}

theorem sat_startUpdate :
    RecoverySat t startUpdate (fun r w' => ∀ old, r = .ok old → Marking t old w') w := by
  refine Holds.perform fun w₁ _ hi hc fail r w₂ he => ?_
  simp only [recoveryExec] at he
  split at he
  · cases he
    exact ⟨fun u _ => .refl u w₁, hi, nofun⟩
  · cases he
    have hidle : w₁.generating = [] := hc
    refine ⟨fun u _ => ?_, ?_, ?_⟩
    · exact {
        held := fun _ hr _ => hr
        generating := fun hu => List.mem_append_left _ hu
        known := fun _ r hr hused => ⟨r, hr, rfl, hused, fun _ => rfl⟩ }
    · exact { hi with single := by simp [hidle] }
    · rintro old hold
      obtain rfl := Except.ok.inj hold
      refine ⟨List.mem_append_right _ (List.mem_singleton_self t), fun r hr hused => .inl ?_⟩
      exact List.mem_map_of_mem (List.mem_filter.mpr ⟨hr, by simp [hused]⟩)

theorem sat_updateRow {hmac : ℕ} {todo : List ℕ} (hw : Marking t (hmac :: todo) w) :
    RecoverySat t (updateRow hmac) (fun r w' => r = .ok () → Marking t todo w') w := by
  refine Holds.perform fun w₁ hr hi _ fail r w₂ he => ?_
  have hw₁ := hw.kept hr
  simp only [recoveryExec] at he
  split at he
  · cases he
    exact ⟨fun u _ => .refl u w₁, hi, nofun⟩
  split at he
  · cases he
  next hfree =>
    cases he
    refine ⟨fun u hne => ?_, hi.mapRows fun r _ => steady_markRow t hmac r, fun _ => hw₁.markRow⟩
    refine kept_mapRows (fun r _ => steady_markRow t hmac r) fun r hr hholder => if_neg ?_
    exact fun h => not_held_of_not_blocked hfree hne hr hholder h.1

theorem sat_updateRows {todo : List ℕ} (hw : Marking t todo w) :
    RecoverySat t (Prog.forEach updateRow todo) (fun r w' => r = .ok () → Marking t [] w') w := by
  induction todo generalizing w with
  | nil => exact fun _ => hw
  | cons hmac todo ih =>
      exact Holds.bind (sat_updateRow hw) (fun _ w₁ h₁ => ih (h₁ rfl)) fun e w₁ _ => nofun

theorem sat_commitCodes (hw : Marking t [] w) (codes : List ℕ) :
    RecoverySat t (commitCodes codes) (fun _ _ => True) w := by
  refine Holds.perform fun w₁ hr hi _ fail r w₂ he => ?_
  have hw₁ := hw.kept hr
  simp only [recoveryExec] at he
  split at he
  · cases he
    exact ⟨fun u _ => .refl u w₁, hi, trivial⟩
  · have hworld : (w₁.commitCodes t codes).2 = w₂ := congrArg Prod.snd (Option.some.inj he)
    rw [← hworld]
    exact ⟨fun u hne => kept_commitCodes hi hw₁ codes hne, hi.commitCodes hw₁ codes, trivial⟩

theorem sat_generate (codes : List ℕ) :
    RecoverySat t (generateRecoveryCodesForUser codes) (fun _ _ => True) w := by
  unfold generateRecoveryCodesForUser
  split
  · trivial
  · refine Holds.bind sat_startUpdate (fun old w₁ h₁ => ?_) fun _ _ _ => trivial
    refine Holds.bind (sat_updateRows (h₁ old rfl)) (fun _ w₂ h₂ => ?_) fun _ _ _ => trivial
    exact sat_commitCodes (h₂ rfl) codes

theorem sat_find (hmac : ℕ) : RecoverySat t (find hmac) (fun _ _ => True) w := by
  refine Holds.perform fun w₁ _ hi _ fail r w₂ he => ?_
  simp only [recoveryExec] at he
  split at he <;> cases he <;> exact ⟨fun u _ => .refl u w₁, hi, trivial⟩

theorem held_lockRow {hmac : ℕ} (h : w.usable hmac = true) :
    Held t hmac (w.mapRows (lockRow t hmac)) := by
  obtain ⟨r, hr, hrow⟩ := List.any_eq_true.mp h
  simp only [Bool.and_eq_true, decide_eq_true_eq, Bool.not_eq_true'] at hrow
  obtain ⟨⟨hhmac, hused⟩, hversion⟩ := hrow
  refine ⟨lockRow t hmac r, List.mem_map_of_mem hr, ?_⟩
  rw [lockRow, if_pos ⟨hhmac, hused, hversion⟩]
  exact ⟨hhmac, rfl, hused⟩

theorem sat_selectForUpdate (hmac : ℕ) :
    RecoverySat t (selectForUpdate hmac) (fun r w' => r = .ok true → Held t hmac w') w := by
  refine Holds.perform fun w₁ _ hi _ fail r w₂ he => ?_
  simp only [recoveryExec] at he
  split at he
  · cases he
    exact ⟨fun u _ => .refl u w₁, hi, nofun⟩
  split at he
  · cases he
  next hfree =>
    cases he
    refine ⟨fun u hne => ?_, hi.mapRows fun r _ => steady_lockRow t hmac r, fun hlocked => ?_⟩
    · refine kept_mapRows (fun r _ => steady_lockRow t hmac r) fun r hr hholder => if_neg ?_
      exact fun h => not_held_of_not_blocked hfree hne hr hholder h.1
    · exact held_lockRow (Except.ok.inj hlocked)

theorem sat_commitUsed {hmac : ℕ} (hw : Held t hmac w) :
    RecoverySat t (commitUsed hmac) (fun _ _ => True) w := by
  refine Holds.perform fun w₁ hr hi _ fail r w₂ he => ?_
  simp only [recoveryExec] at he
  split at he
  · cases he
    exact ⟨fun u _ => .refl u w₁, hi, trivial⟩
  · cases he
    exact ⟨fun u hne => kept_commitUsed hmac hne, hi.commitUsed (hw.kept hr), trivial⟩

theorem sat_rollback : RecoverySat t rollback (fun _ _ => True) w := by
  refine Holds.perform fun w₁ _ hi _ fail r w₂ he => ?_
  cases he
  exact ⟨fun u hne => kept_rollback hne, hi.rollback t, trivial⟩

theorem sat_selectCode (hmac : ℕ) :
    RecoverySat t (selectCode hmac) (fun r w' => r = .ok true → Held t hmac w') w := by
  refine Holds.bind (sat_find hmac) (fun found w₁ _ => ?_) fun _ _ _ => nofun
  cases found with
  | false => exact nofun
  | true => exact sat_selectForUpdate hmac

theorem sat_consume (hmac : ℕ) (commit : Bool) :
    RecoverySat t (consumeRecoveryCode hmac commit) (fun _ _ => True) w := by
  refine Holds.bind (sat_selectCode hmac) (fun locked w₁ h₁ => ?_) fun _ _ _ => trivial
  cases locked with
  | true => exact Holds.bind (sat_commitUsed (h₁ rfl)) (fun _ _ _ => trivial) fun _ _ _ => trivial
  | false =>
      cases commit with
      | true => exact Holds.bind sat_rollback (fun _ _ _ => trivial) fun _ _ _ => trivial
      | false => trivial

theorem sat_serve (request : RecoveryRequest) :
    RecoverySat t request.serve (fun _ _ => True) w := by
  have hhandler : RecoverySat t request.handler (fun _ _ => True) w := by
    cases request with
    | generate codes => exact sat_generate codes
    | consume hmac commit =>
        exact Holds.bind (sat_consume hmac commit) (fun _ _ _ => trivial) fun _ _ _ => trivial
  refine Holds.bind (Holds.tryCatch (Q := fun _ _ => True) hhandler (fun _ _ _ => trivial)
    fun e w' _ => ?_) (fun _ w' _ => sat_rollback) fun _ _ _ => trivial
  exact Holds.bind sat_rollback (fun _ _ _ => trivial) fun _ _ _ => trivial

end Programs

/-! ### Runs -/

/-- Each code is accepted at most once, only codes of the last set are accepted, and the
codes that can be used are those of one set. -/
structure Superseded (w : World) : Prop where
  once : (w.accepted.map Acceptance.hmac).Nodup
  inTime : ∀ a ∈ w.accepted, a.set = a.latest
  oneSet : ∀ r ∈ w.rows, ∀ r' ∈ w.rows, r.used = false → r'.used = false → r.set = r'.set

/-- In every run in which no generation starts during another one. -/
theorem recovery_codes_superseded {rows : List RecoveryCode} {requests : ℕ → RecoveryRequest}
    (hdistinct : (rows.map RecoveryCode.hmac).Nodup) (hfirst : ∀ r ∈ rows, r.set = 0)
    {x : RecoveryConf} (hx : Reach recoveryExec alone (recoveryStart rows requests) x) :
    Superseded x.world := by
  have hstart : AllHold recoveryExec recoveryRules (recoveryStart rows requests) :=
    ⟨⟨hdistinct, Nat.zero_le 1, fun r hr _ => hfirst r hr, nofun, List.nodup_nil, nofun⟩,
      fun t => sat_serve (requests t)⟩
  have hok : RecoveryOk x.world := (reach_holds recoveryRules_sound hstart hx).1
  refine ⟨hok.once, hok.inTime, fun r hr r' hr' hused hused' => ?_⟩
  rw [hok.current r hr hused, hok.current r' hr' hused']

instance (t : ℕ) (o : RecoveryOp) (w : World) : Decidable (alone t o w) :=
  match o with
  | .startUpdate => inferInstanceAs (Decidable (w.generating = []))
  | .updateRow _ => inferInstanceAs (Decidable True)
  | .commitCodes _ => inferInstanceAs (Decidable True)
  | .find _ => inferInstanceAs (Decidable True)
  | .selectForUpdate _ => inferInstanceAs (Decidable True)
  | .commitUsed _ => inferInstanceAs (Decidable True)
  | .rollback => inferInstanceAs (Decidable True)

/-- The code 1 is there; two sessions generate codes, the others use the codes 1, 2 and 3. -/
def sampleRequests (t : ℕ) : RecoveryRequest :=
  if t = 0 then .generate [2] else if t = 1 then .generate [3]
  else .consume (t - 1) false

def sampleRows : List RecoveryCode := [⟨1, 2, false, 0, none, false⟩]

/-- Session `t` performs `n` statements. -/
def goes (t n : ℕ) : List (ℕ × Bool) := List.replicate n (t, false)

/-- One generation, and the new code is accepted while the old one is not. -/
theorem recovery_codes_superseded_once :
    ∃ x, Reach recoveryExec alone (recoveryStart sampleRows sampleRequests) x ∧
      x.world.accepted = [⟨2, 1, 1⟩] ∧ Superseded x.world := by
  have hrun : (runChecked recoveryExec (fun t o w => decide (alone t o w))
      (recoveryStart sampleRows sampleRequests)
      (goes 0 2 ++ goes 2 1 ++ goes 0 2 ++ goes 2 2 ++ goes 3 4)).any
      (fun x => x.world.accepted = [⟨2, 1, 1⟩]) = true := by decide +kernel
  obtain ⟨x, hx, hend⟩ := (Option.any_eq_true ..).mp hrun
  have hreach := reach_of_runChecked recoveryExec (fun _ _ _ => of_decide_eq_true) .refl hx
  exact ⟨x, hreach, of_decide_eq_true hend,
    recovery_codes_superseded (by decide) (by decide) hreach⟩

/-- Two generations at once: the second waits for the row of the old code and does not
see the code that the first has inserted, which is accepted after both. -/
theorem overlapping_sets_accepted :
    ∃ x, Reach recoveryExec (fun _ _ _ => True) (recoveryStart sampleRows sampleRequests) x ∧
      x.world.accepted = [⟨2, 1, 2⟩, ⟨3, 2, 2⟩] ∧ ¬Superseded x.world := by
  have hrun : (run recoveryExec (recoveryStart sampleRows sampleRequests)
      (goes 0 1 ++ goes 1 1 ++ goes 0 2 ++ goes 1 2 ++ goes 3 4 ++ goes 4 4)).any
      (fun x => x.world.accepted = [⟨2, 1, 2⟩, ⟨3, 2, 2⟩]) = true := by decide +kernel
  obtain ⟨x, hx, hend⟩ := (Option.any_eq_true ..).mp hrun
  have haccepted : x.world.accepted = [⟨2, 1, 2⟩, ⟨3, 2, 2⟩] := of_decide_eq_true hend
  refine ⟨x, reach_of_run recoveryExec .refl hx, haccepted, fun h => ?_⟩
  have hlate := h.inTime ⟨2, 1, 2⟩ (haccepted ▸ List.mem_cons_self ..)
  cases hlate

end SitBank.Auth.RecoveryCodes
