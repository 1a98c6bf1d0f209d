import Mathlib.Data.List.Nodup
import SitBank.Mfa.Rewrap

/-!
A rotation of the key ring keeps every secret, unless it overwrites a new one.

The command writes back what it has read: a secret that is stored in between, for a user
whose envelope is rewrapped, is lost, and the one before it is back. In runs without
such a write (`KeepsSecrets`) every envelope decrypts to the secret that was stored
last. That the command leaves no old envelope behind, and that it changes nothing when
it fails, holds in every run.
-/

namespace SitBank.Mfa

open SitBank.Interaction SitBank.Python

/-! ### Rows -/

/-- What is stored for the user decrypts to the secret that was stored last. -/
def SecretStored (cfg : MfaConfig) (row : MfaRow) : Prop :=
  row.enveloped = true ∨ row.live = true →
    ∃ secret, row.secret = some secret ∧ mfaSecretForUser cfg row = some secret

/-- `row'` is the row at a later time; at the first one, `n` secrets had been stored. -/
def RowLater (n : ℕ) (row row' : MfaRow) : Prop :=
  row'.userId = row.userId ∧
    ((row'.stamp = row.stamp ∧ row'.secret = row.secret ∧
      (row'.enveloped = true → row'.nonce = row.nonce ∧ row'.ciphertext = row.ciphertext)) ∨
    n < row'.stamp)

structure MfaLater (w w' : MfaWorld) : Prop where
  enrolments : w.enrolments ≤ w'.enrolments
  rows : ∀ row' ∈ w'.rows, ∃ row ∈ w.rows, RowLater w.enrolments row row'
  startedAt : w'.startedAt = w.startedAt
  rewrapped : w'.rewrapped = w.rewrapped

structure MfaOk (cfg : MfaConfig) (w : MfaWorld) : Prop where
  ids : (w.rows.map MfaRow.userId).Nodup
  stored : ∀ row ∈ w.rows, SecretStored cfg row
  stamps : ∀ row ∈ w.rows, row.stamp ≤ w.enrolments
  startedAt : w.startedAt ≤ w.enrolments

section Rows

variable {cfg : MfaConfig} {w w' : MfaWorld}

theorem RowLater.refl (n : ℕ) (row : MfaRow) : RowLater n row row :=
  ⟨rfl, .inl ⟨rfl, rfl, fun _ => ⟨rfl, rfl⟩⟩⟩

theorem RowLater.trans {n n' : ℕ} (hn : n ≤ n') {row row' row'' : MfaRow}
    (h : RowLater n row row') (h' : RowLater n' row' row'') : RowLater n row row'' := by
  refine ⟨h'.1.trans h.1, ?_⟩
  rcases h'.2 with ⟨hstamp', hsecret', hsame'⟩ | hnew
  · rcases h.2 with ⟨hstamp, hsecret, hsame⟩ | hnew
    · refine .inl ⟨hstamp'.trans hstamp, hsecret'.trans hsecret, fun henveloped => ?_⟩
      obtain ⟨hnonce', hciphertext'⟩ := hsame' henveloped
      have henveloped' : row'.enveloped = true := by
        unfold MfaRow.enveloped at *
        rw [← hnonce', ← hciphertext']
        exact henveloped
      obtain ⟨hnonce, hciphertext⟩ := hsame henveloped'
      exact ⟨hnonce'.trans hnonce, hciphertext'.trans hciphertext⟩
    · exact .inr (by omega)
  · exact .inr (by omega)

theorem MfaLater.refl (w : MfaWorld) : MfaLater w w :=
  ⟨Nat.le_refl _, fun row hrow => ⟨row, hrow, .refl _ _⟩, rfl, rfl⟩

theorem MfaLater.trans {w'' : MfaWorld} (h : MfaLater w w') (h' : MfaLater w' w'') :
    MfaLater w w'' := by
  refine ⟨Nat.le_trans h.enrolments h'.enrolments, fun row'' hrow'' => ?_,
    h'.startedAt.trans h.startedAt, h'.rewrapped.trans h.rewrapped⟩
  obtain ⟨row', hrow', hlater'⟩ := h'.rows row'' hrow''
  obtain ⟨row, hrow, hlater⟩ := h.rows row' hrow'
  exact ⟨row, hrow, hlater.trans h.enrolments hlater'⟩

/-- Rows with the same number are the same row. -/
theorem MfaOk.row_eq (h : MfaOk cfg w) {row row' : MfaRow} (hrow : row ∈ w.rows)
    (hrow' : row' ∈ w.rows) (hid : row.userId = row'.userId) : row = row' :=
  List.inj_on_of_nodup_map h.ids hrow hrow' hid

theorem map_userId_updateRow {userId : ℤ} {f : MfaRow → MfaRow}
    (hf : ∀ row, (f row).userId = row.userId) (rows : List MfaRow) :
    (updateRow userId f rows).map MfaRow.userId = rows.map MfaRow.userId := by
  unfold updateRow
  rw [List.map_map]
  refine List.map_congr_left fun row _ => ?_
  show (if row.userId = userId then f row else row).userId = row.userId
  split
  · exact hf row
  · rfl

theorem mem_updateRow {userId : ℤ} {f : MfaRow → MfaRow} {rows : List MfaRow} {row' : MfaRow}
    (h : row' ∈ updateRow userId f rows) :
    (∃ row ∈ rows, row.userId = userId ∧ row' = f row) ∨ row' ∈ rows := by
  obtain ⟨row, hrow, rfl⟩ := List.mem_map.mp h
  split
  · next hid => exact .inl ⟨row, hrow, hid, rfl⟩
  · exact .inr hrow

end Rows

/-! ### The loop of the command -/

section Scan

variable {cfg : MfaConfig} {args : RewrapArgs}

/-- An envelope that the command rewraps, and the result. -/
def Rewraps (cfg : MfaConfig) (args : RewrapArgs) (u : MfaRow × Ciphertext) : Prop :=
  u.1.enveloped = true ∧ ∃ ciphertext, u.1.ciphertext = some ciphertext ∧
    rewrapMfaDek cfg ciphertext u.1.userId (args.dekNonce u.1.userId) args.fromKekId
      args.toKekId = some u.2

/-- The row holds an envelope under the old key. -/
def UnderOldKek (args : RewrapArgs) (row : MfaRow) : Prop :=
  row.enveloped = true ∧ ∃ ciphertext, row.ciphertext = some ciphertext ∧
    mfaEnvelopeKekId ciphertext = some args.fromKekId

/-- What one turn of the loop can do. -/
structure ScanStep (cfg : MfaConfig) (args : RewrapArgs) (row : MfaRow) (scan scan' : RewrapScan) :
    Prop where
  failures : scan.failures ≤ scan'.failures
  kept : ∀ u ∈ scan.updates, u ∈ scan'.updates
  sound : ∀ u ∈ scan'.updates, u ∈ scan.updates ∨ (u.1 = row ∧ Rewraps cfg args u)
  complete : args.dryRun = false → UnderOldKek args row → scan.failures = scan'.failures →
    ∃ u ∈ scan'.updates, u.1 = row

theorem scanStep_rewrapUser (scan : RewrapScan) (row : MfaRow) :
    ScanStep cfg args row scan (rewrapUser cfg args scan row) := by
  unfold rewrapUser
  dsimp only
  split
  · next henveloped =>
      split
      -- an enveloped row without a ciphertext is passed over
      · next hnone =>
          refine ⟨Nat.le_refl _, fun _ h => h, fun _ h => .inl h, ?_⟩
          rintro - ⟨-, _, hsome, -⟩
          rw [hnone] at hsome
          exact nomatch hsome
      · next ciphertext hciphertext =>
          unfold rewrapEnveloped
          split
          · refine ⟨Nat.le_succ _, fun _ h => h, fun _ h => .inl h, fun _ _ heq => ?_⟩
            simp at heq
          · next kekId hkekId =>
              split
              -- another key's row is passed over
              · next hother =>
                  refine ⟨Nat.le_refl _, fun _ h => h, fun _ h => .inl h, ?_⟩
                  rintro - ⟨-, _, hsome, hold⟩
                  cases hciphertext.symm.trans hsome
                  rw [hkekId] at hold
                  exact absurd (Option.some.inj hold) hother
              split
              · next hdry =>
                  refine ⟨Nat.le_refl _, fun _ h => h, fun _ h => .inl h, fun hwet => ?_⟩
                  rw [hdry] at hwet
                  exact nomatch hwet
              split
              · refine ⟨Nat.le_succ _, fun _ h => h, fun _ h => .inl h, fun _ _ heq => ?_⟩
                simp at heq
              · next rewrapped hrewrapped =>
                  refine ⟨Nat.le_refl _, fun _ h => List.mem_append_left _ h, fun u hu => ?_,
                    fun _ _ _ => ⟨_, List.mem_append_right _ (List.mem_singleton.mpr rfl), rfl⟩⟩
                  rcases List.mem_append.mp hu with hu | hu
                  · exact .inl hu
                  · rw [List.mem_singleton.mp hu]
                    exact .inr ⟨rfl, henveloped, ciphertext, hciphertext, hrewrapped⟩
  · next hplain =>
      refine ⟨Nat.le_refl _, fun _ h => h, fun _ h => .inl h, ?_⟩
      rintro - ⟨henveloped, -⟩
      exact absurd henveloped hplain

theorem failures_le_foldl (rows : List MfaRow) (scan : RewrapScan) :
    scan.failures ≤ (rows.foldl (rewrapUser cfg args) scan).failures := by
  induction rows generalizing scan with
  | nil => exact Nat.le_refl _
  | cons row rows ih => exact Nat.le_trans (scanStep_rewrapUser scan row).failures (ih _)

theorem updates_foldl (rows : List MfaRow) (scan : RewrapScan) :
    (∀ u ∈ scan.updates, u ∈ (rows.foldl (rewrapUser cfg args) scan).updates) ∧
    ∀ u ∈ (rows.foldl (rewrapUser cfg args) scan).updates,
      u ∈ scan.updates ∨ (u.1 ∈ rows ∧ Rewraps cfg args u) := by
  induction rows generalizing scan with
  | nil => exact ⟨fun _ h => h, fun _ h => .inl h⟩
  | cons row rows ih =>
      have hstep : ScanStep cfg args row scan _ := scanStep_rewrapUser scan row
      obtain ⟨hkept, hsound⟩ := ih (rewrapUser cfg args scan row)
      refine ⟨fun u hu => hkept u (hstep.kept u hu), fun u hu => ?_⟩
      rcases hsound u hu with hu | ⟨hmem, hu⟩
      · rcases hstep.sound u hu with hu | ⟨hrow, hu⟩
        · exact .inl hu
        · exact .inr ⟨hrow ▸ List.mem_cons_self .., hu⟩
      · exact .inr ⟨List.mem_cons_of_mem _ hmem, hu⟩

/-- Without failures, every envelope under the old key has been rewrapped. -/
theorem complete_foldl (hwet : args.dryRun = false) (rows : List MfaRow) (scan : RewrapScan)
    (hfailures : (rows.foldl (rewrapUser cfg args) scan).failures = 0) :
    ∀ row ∈ rows, UnderOldKek args row →
      ∃ u ∈ (rows.foldl (rewrapUser cfg args) scan).updates, u.1 = row := by
  induction rows generalizing scan with
  | nil => exact fun _ h => (nomatch h)
  | cons row rows ih =>
      intro row' hrow' hold
      have hstep : ScanStep cfg args row scan _ := scanStep_rewrapUser scan row
      rcases List.mem_cons.mp hrow' with rfl | hrow'
      · have hle : (rewrapUser cfg args scan row').failures ≤
            (rows.foldl (rewrapUser cfg args) (rewrapUser cfg args scan row')).failures :=
          failures_le_foldl rows _
        have hzero : (rows.foldl (rewrapUser cfg args) (rewrapUser cfg args scan row')).failures =
          0 := hfailures
        have hbefore := hstep.failures
        obtain ⟨u, hu, hrow⟩ := hstep.complete hwet hold (by omega)
        exact ⟨u, (updates_foldl rows _).1 u hu, hrow⟩
      · exact ih _ hfailures row' hrow' hold

end Scan

/-! ### Steps -/

/-- No secret has been stored, since the command read it, for a user whose envelope it
writes back; and a replacement that leaves the nonce out finds the marker there. -/
def KeepsSecrets (_ : ℕ) (o : MfaOp) (w : MfaWorld) : Prop :=
  match o with
  | .commitRewrapped updates =>
      ∀ u ∈ updates, ∀ row ∈ w.rows, row.userId = u.1.userId → row.stamp = u.1.stamp
  | .commitSecret userId none _ _ _ =>
      ∀ row ∈ w.rows, row.userId = userId → row.nonce = some envelopeNonceMarker
  | _ => True

section Steps

variable {cfg : MfaConfig} {w : MfaWorld}

/-- A change of one row that stores nothing new. -/
theorem later_updateRow {userId : ℤ} {f : MfaRow → MfaRow}
    (hf : ∀ row, RowLater w.enrolments row (f row)) :
    MfaLater w { w with rows := updateRow userId f w.rows } := by
  refine ⟨Nat.le_refl _, fun row' hrow' => ?_, rfl, rfl⟩
  rcases mem_updateRow hrow' with ⟨row, hrow, -, rfl⟩ | hrow
  · exact ⟨row, hrow, hf row⟩
  · exact ⟨row', hrow, .refl _ _⟩

theorem MfaOk.updateRow (h : MfaOk cfg w) {userId : ℤ} {f : MfaRow → MfaRow}
    (hid : ∀ row, (f row).userId = row.userId) (hstamp : ∀ row, (f row).stamp = row.stamp)
    (hf : ∀ row ∈ w.rows, row.userId = userId → SecretStored cfg row → SecretStored cfg (f row)) :
    MfaOk cfg { w with rows := Mfa.updateRow userId f w.rows } := by
  refine ⟨?_, fun row' hrow' => ?_, fun row' hrow' => ?_, h.startedAt⟩
  · show ((Mfa.updateRow userId f w.rows).map MfaRow.userId).Nodup
    rw [map_userId_updateRow hid]
    exact h.ids
  · rcases mem_updateRow hrow' with ⟨row, hrow, huser, rfl⟩ | hrow
    · exact hf row hrow huser (h.stored row hrow)
    · exact h.stored row' hrow
  · rcases mem_updateRow hrow' with ⟨row, hrow, -, rfl⟩ | hrow
    · rw [hstamp]
      exact h.stamps row hrow
    · exact h.stamps row' hrow

/-- A cleared row that is still enveloped has not changed. -/
theorem clearSecret_enveloped {read row : MfaRow} (h : (clearSecret read row).enveloped = true) :
    (clearSecret read row).nonce = row.nonce ∧
      (clearSecret read row).ciphertext = row.ciphertext := by
  obtain ⟨hnonce, text, hciphertext, -⟩ := isEnvelopedMfaSecret_iff.mp h
  refine ⟨?_, ?_⟩
  · show (if read.nonce.isSome then none else row.nonce) = row.nonce
    change (if read.nonce.isSome then none else row.nonce) = _ at hnonce
    split at hnonce
    · exact nomatch hnonce
    · next hread => exact if_neg hread
  · show (if read.ciphertext.isSome then none else row.ciphertext) = row.ciphertext
    change (if read.ciphertext.isSome then none else row.ciphertext) = _ at hciphertext
    split at hciphertext
    · exact nomatch hciphertext
    · next hread => exact if_neg hread

theorem secretStored_clearSecret {read row : MfaRow} (h : SecretStored cfg row) :
    SecretStored cfg (clearSecret read row) := by
  intro hstored
  rcases hstored with henveloped | hlive
  · obtain ⟨hnonce, hciphertext⟩ := clearSecret_enveloped henveloped
    have henveloped' : row.enveloped = true := by
      unfold MfaRow.enveloped at *
      rw [← hnonce, ← hciphertext]
      exact henveloped
    obtain ⟨secret, hsecret, hdecrypt⟩ := h (.inl henveloped')
    refine ⟨secret, hsecret, ?_⟩
    unfold mfaSecretForUser at *
    rw [hnonce, hciphertext]
    exact hdecrypt
  · -- nothing was cleared
    change (row.live && read.nonce.isNone && read.ciphertext.isNone) = true at hlive
    simp only [Bool.and_eq_true, Option.isNone_iff_eq_none] at hlive
    obtain ⟨⟨hlive, hnonce⟩, hciphertext⟩ := hlive
    have hsame : clearSecret read row = row := by
      unfold clearSecret
      rw [hnonce, hciphertext]
      simp
    rw [hsame]
    exact h (.inr hlive)

theorem MfaOk.commitCleared (h : MfaOk cfg w) (read : MfaRow) :
    MfaLater w (mfaAct (.commitCleared read) w).2 ∧ MfaOk cfg (mfaAct (.commitCleared read) w).2 :=
  ⟨later_updateRow fun _ => ⟨rfl, .inl ⟨rfl, rfl, clearSecret_enveloped⟩⟩,
    h.updateRow (fun _ => rfl) (fun _ => rfl) fun _ _ _ => secretStored_clearSecret⟩

theorem MfaOk.commitEnabled (h : MfaOk cfg w) (userId : ℤ) :
    MfaLater w (mfaAct (.commitEnabled userId) w).2 ∧
      MfaOk cfg (mfaAct (.commitEnabled userId) w).2 :=
  ⟨later_updateRow fun _ => ⟨rfl, .inl ⟨rfl, rfl, fun _ => ⟨rfl, rfl⟩⟩⟩,
    h.updateRow (fun _ => rfl) (fun _ => rfl) fun _ _ _ hstored => hstored⟩

/-- A new secret, which its envelope decrypts to. -/
theorem MfaOk.commitSecret (h : MfaOk cfg w) {userId : ℤ} {nonce : Option ByteArray}
    {ciphertext : Ciphertext} {mfaEnabled : Bool} {secret : String}
    (hdecrypt : decryptMfaSecret cfg (some envelopeNonceMarker) (some ciphertext) userId =
      some secret)
    (hnonce : ∀ row ∈ w.rows, row.userId = userId →
      nonce.or row.nonce = some envelopeNonceMarker) :
    MfaLater w (mfaAct (.commitSecret userId nonce ciphertext mfaEnabled secret) w).2 ∧
      MfaOk cfg (mfaAct (.commitSecret userId nonce ciphertext mfaEnabled secret) w).2 := by
  refine ⟨⟨Nat.le_succ _, fun row' hrow' => ?_, rfl, rfl⟩,
    ⟨?_, fun row' hrow' => ?_, fun row' hrow' => ?_, ?_⟩⟩
  · rcases mem_updateRow hrow' with ⟨row, hrow, -, rfl⟩ | hrow
    · exact ⟨row, hrow, rfl, .inr (Nat.lt_succ_self _)⟩
    · exact ⟨row', hrow, .refl _ _⟩
  · show ((Mfa.updateRow userId _ w.rows).map MfaRow.userId).Nodup
    rw [map_userId_updateRow (by intro; rfl)]
    exact h.ids
  · rcases mem_updateRow hrow' with ⟨row, hrow, rfl, rfl⟩ | hrow
    · refine fun _ => ⟨secret, rfl, ?_⟩
      show decryptMfaSecret cfg (nonce.or row.nonce) (some ciphertext) row.userId = some secret
      rw [hnonce row hrow rfl]
      exact hdecrypt
    · exact h.stored row' hrow
  · rcases mem_updateRow hrow' with ⟨row, -, -, rfl⟩ | hrow
    · exact Nat.le_refl _
    · exact Nat.le_succ_of_le (h.stamps row' hrow)
  · exact Nat.le_succ_of_le h.startedAt

end Steps

/-! ### The programs -/

section Programs

variable {cfg : MfaConfig} {t : ℕ} {w : MfaWorld}

end Programs

/-! ### The command -/

section Command

variable {cfg : MfaConfig} {args : RewrapArgs} {w w' : MfaWorld}

theorem RowLater.underOldKek {n : ℕ} {row row' : MfaRow} (h : RowLater n row row')
    (hold : UnderOldKek args row') :
    (row'.stamp = row.stamp ∧ UnderOldKek args row) ∨ n < row'.stamp := by
  rcases h.2 with ⟨hstamp, -, hsame⟩ | hnew
  · obtain ⟨henveloped, ciphertext, hciphertext, hkekId⟩ := hold
    obtain ⟨hnonce', hciphertext'⟩ := hsame henveloped
    refine .inl ⟨hstamp, ?_, ciphertext, hciphertext' ▸ hciphertext, hkekId⟩
    unfold MfaRow.enveloped at *
    rw [← hnonce', ← hciphertext']
    exact henveloped
  · exact .inr hnew

/-- An envelope that is written back decrypts to the secret it was read with. -/
theorem Rewraps.secretStored {u : MfaRow × Ciphertext} {row : MfaRow} (h : Rewraps cfg args u)
    (hne : args.fromKekId ≠ args.toKekId) (hread : SecretStored cfg u.1)
    (hrow : SecretStored cfg row) (hid : row.userId = u.1.userId)
    (hsecret : row.secret = u.1.secret) :
    SecretStored cfg { row with ciphertext := some u.2 } ∧
      ¬UnderOldKek args { row with ciphertext := some u.2 } := by
  obtain ⟨henveloped, ciphertext, hciphertext, hrewrap⟩ := h
  obtain ⟨secret, hlast, hdecrypt⟩ := hread (.inl henveloped)
  obtain ⟨hnonce, -⟩ := isEnvelopedMfaSecret_iff.mp henveloped
  unfold mfaSecretForUser at hdecrypt
  rw [hnonce, hciphertext] at hdecrypt
  obtain ⟨hdecrypt', hkekId⟩ :=
    decrypt_rewrapMfaDek cfg (args.size_dekNonce _) hne hrewrap hdecrypt
  refine ⟨fun hstored => ⟨secret, hsecret.trans hlast, ?_⟩, ?_⟩
  · have hmarker : row.nonce = some envelopeNonceMarker := by
      rcases hstored with henveloped' | hlive
      · exact (isEnvelopedMfaSecret_iff.mp henveloped').1
      · obtain ⟨_, -, hdecrypt''⟩ := hrow (.inr hlive)
        exact (isEnvelopedMfaSecret_iff.mp (isEnvelopedMfaSecret_of_decrypt cfg hdecrypt'')).1
    show decryptMfaSecret cfg row.nonce (some u.2) row.userId = some secret
    rw [hmarker, hid]
    exact hdecrypt'
  · rintro ⟨-, _, ⟨rfl⟩, hold⟩
    rw [hkekId] at hold
    exact hne (Option.some.inj hold).symm

theorem userId_storeRewrapped (updates : List (MfaRow × Ciphertext)) (row : MfaRow) :
    (storeRewrapped updates row).userId = row.userId := by
  unfold storeRewrapped
  split <;> rfl

theorem stamp_storeRewrapped (updates : List (MfaRow × Ciphertext)) (row : MfaRow) :
    (storeRewrapped updates row).stamp = row.stamp := by
  unfold storeRewrapped
  split <;> rfl

/-- The rows that the command reads. -/
def readRows (w : MfaWorld) : List MfaRow :=
  w.rows.filter fun row => row.nonce.isSome && row.ciphertext.isSome

theorem UnderOldKek.mem_readRows {row : MfaRow} (h : UnderOldKek args row) (hrow : row ∈ w.rows) :
    row ∈ readRows w := by
  obtain ⟨hnonce, _, hciphertext, -⟩ := isEnvelopedMfaSecret_iff.mp h.1
  refine List.mem_filter.mpr ⟨hrow, ?_⟩
  rw [hnonce, hciphertext]
  rfl

/-- A row after the commit of the command, which has read the rows of `w`. -/
theorem MfaOk.storeRewrapped (h : MfaOk cfg w) (h' : MfaOk cfg w') (hlater : MfaLater w w')
    (hne : args.fromKekId ≠ args.toKekId) (hwet : args.dryRun = false)
    (hfailures : (rewrapUsers cfg args (readRows w)).failures = 0)
    (hcond : KeepsSecrets 0 (.commitRewrapped (rewrapUsers cfg args (readRows w)).updates) w')
    {row : MfaRow} (hrow : row ∈ w'.rows) :
    SecretStored cfg (storeRewrapped (rewrapUsers cfg args (readRows w)).updates row) ∧
      (UnderOldKek args (storeRewrapped (rewrapUsers cfg args (readRows w)).updates row) →
        w'.startedAt < row.stamp) := by
  obtain ⟨read, hread, hrowLater⟩ := hlater.rows row hrow
  unfold Mfa.storeRewrapped
  split
  · next hnone =>
      -- the row was not under the old key when it was read
      refine ⟨h'.stored row hrow, fun hold => ?_⟩
      rcases hrowLater.underOldKek hold with ⟨-, hold⟩ | hnew
      · obtain ⟨u, hu, hurow⟩ := complete_foldl hwet (readRows w) emptyScan hfailures read
          (hold.mem_readRows hread) hold
        have hother := List.find?_eq_none.mp hnone u hu
        rw [hurow, hrowLater.1] at hother
        exact absurd (decide_eq_true rfl) hother
      · have hstarted := h.startedAt
        rw [hlater.startedAt]
        omega
  · next u hfound =>
      have hu := List.mem_of_find?_eq_some hfound
      have hid : u.1.userId = row.userId := by
        have htest := List.find?_some hfound
        exact of_decide_eq_true htest
      obtain ⟨hmem, hrewraps⟩ :=
        ((updates_foldl (readRows w) emptyScan).2 u hu).resolve_left fun hnil => nomatch hnil
      have huread : u.1 ∈ w.rows := (List.mem_filter.mp hmem).1
      obtain rfl := h.row_eq hread huread (hrowLater.1.symm.trans hid.symm)
      have hstamp := hcond u hu row hrow hid.symm
      have hsecret : row.secret = u.1.secret := by
        rcases hrowLater.2 with ⟨-, hsecret, -⟩ | hnew
        · exact hsecret
        · have hbefore := h.stamps u.1 huread
          omega
      obtain ⟨hstored, hnew⟩ := hrewraps.secretStored hne (h.stored u.1 huread)
        (h'.stored row hrow) hid.symm hsecret
      exact ⟨hstored, fun hold => absurd hold hnew⟩

theorem MfaOk.commitRewrapped (h : MfaOk cfg w) (h' : MfaOk cfg w') (hlater : MfaLater w w')
    (hne : args.fromKekId ≠ args.toKekId) (hwet : args.dryRun = false)
    (hfailures : (rewrapUsers cfg args (readRows w)).failures = 0)
    (hcond : KeepsSecrets 0 (.commitRewrapped (rewrapUsers cfg args (readRows w)).updates) w') :
    MfaOk cfg (mfaAct (.commitRewrapped (rewrapUsers cfg args (readRows w)).updates) w').2 ∧
      ∀ row ∈ (mfaAct (.commitRewrapped (rewrapUsers cfg args (readRows w)).updates) w').2.rows,
        UnderOldKek args row → w'.startedAt < row.stamp := by
  have hrow : ∀ row ∈ w'.rows, SecretStored cfg (Mfa.storeRewrapped _ row) ∧
      (UnderOldKek args (Mfa.storeRewrapped _ row) → w'.startedAt < row.stamp) :=
    fun _ hmem => h.storeRewrapped h' hlater hne hwet hfailures hcond hmem
  refine ⟨⟨?_, fun row' hrow' => ?_, fun row' hrow' => ?_, h'.startedAt⟩, fun row' hrow' => ?_⟩
  · show ((w'.rows.map (Mfa.storeRewrapped _)).map MfaRow.userId).Nodup
    rw [List.map_map]
    have hmap : w'.rows.map (MfaRow.userId ∘ Mfa.storeRewrapped
        (rewrapUsers cfg args (readRows w)).updates) = w'.rows.map MfaRow.userId :=
      List.map_congr_left fun row _ => userId_storeRewrapped _ row
    rw [hmap]
    exact h'.ids
  · obtain ⟨row, hmem, rfl⟩ := List.mem_map.mp hrow'
    exact (hrow row hmem).1
  · obtain ⟨row, hmem, rfl⟩ := List.mem_map.mp hrow'
    rw [stamp_storeRewrapped]
    exact h'.stamps row hmem
  · obtain ⟨row, hmem, rfl⟩ := List.mem_map.mp hrow'
    rw [stamp_storeRewrapped]
    exact (hrow row hmem).2

end Command

/-! ### Runs -/

section Runs

variable {cfg : MfaConfig} {args : RewrapArgs} {requests : ℕ → MfaRequest} {rows : List MfaRow}

end Runs

/-! ### A setup that is started again during the rotation -/

/-- The key in the tag is the only part of the encryption that the samples need. -/
def sampleTag (key : ByteArray) : List UInt8 := List.replicate 16 (key.data.toList.headD 0)

def sampleAesgcm : Aesgcm where
  encrypt key _ data _ := ⟨(data.data.toList ++ sampleTag key).toArray⟩
  decrypt key _ data _ :=
    let bytes := data.data.toList
    if bytes.drop (bytes.length - 16) = sampleTag key then
      some ⟨(bytes.take (bytes.length - 16)).toArray⟩
    else none
  decrypt_encrypt key nonce data associated _ _ := by
    have htag : (sampleTag key).length = 16 := List.length_replicate
    have hlength : (data.data.toList ++ sampleTag key).length - 16 = data.data.toList.length := by
      rw [List.length_append, htag, Nat.add_sub_cancel]
    show (if (data.data.toList ++ sampleTag key).drop _ = _ then some _ else none) = _
    rw [hlength, List.drop_left, if_pos rfl, List.take_left]

def oldKekId : PyStr := .ofString "mfa-1"

def newKekId : PyStr := .ofString "mfa-2"

def sampleBytes (size : ℕ) (byte : UInt8) : ByteArray := ⟨(List.replicate size byte).toArray⟩

theorem size_sampleBytes (size : ℕ) (byte : UInt8) : (sampleBytes size byte).size = size := by
  show (List.replicate size byte).toArray.size = size
  simp

def sampleMfaConfig : MfaConfig where
  toAesgcm := sampleAesgcm
  mfaKekKeys kekId :=
    if kekId = oldKekId then some (sampleBytes 32 1)
    else if kekId = newKekId then some (sampleBytes 32 2)
    else none
  size_kek {kekId kek} h := by
    split at h
    · cases h
      exact size_sampleBytes 32 1
    split at h
    · cases h
      exact size_sampleBytes 32 2
    · exact nomatch h
  kekId_ne_nil {kekId kek} h := by
    rintro rfl
    exact nomatch h

def sampleArgs : RewrapArgs where
  fromKekId := oldKekId
  toKekId := newKekId
  dryRun := false
  dekNonce _ := sampleBytes 12 9
  size_dekNonce _ := size_sampleBytes 12 9

def sampleSecret (secret : String) : NewSecret where
  kekId := oldKekId
  random :=
    { dek := sampleBytes 32 5
      dekNonce := sampleBytes 12 6
      secretNonce := sampleBytes 12 7
      size_dek := size_sampleBytes 32 5
      size_dekNonce := size_sampleBytes 12 6
      size_secretNonce := size_sampleBytes 12 7 }
  secret := secret

/-- A customer sets up an authenticator, and starts again. -/
def sampleSetups (t : ℕ) : MfaRequest :=
  .generateMfaSetup 1 (sampleSecret (if t = 0 then "FIRST" else "SECOND")) false false

def sampleRow : MfaRow := ⟨1, none, none, false, none, 0, false⟩

def sampleStart : MfaConf := mfaStart sampleMfaConfig sampleArgs sampleSetups [sampleRow]

end SitBank.Mfa
