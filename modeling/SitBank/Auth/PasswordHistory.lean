import Mathlib.Data.Int.Notation
import Mathlib.Data.List.Sort
import SitBank.Python.Base64

/-!
Password hashes (`app/security/passwords.py`), the history of replaced ones
(`app/security/password_history.py`) and the flows that change passwords:
`assert_password_not_reused`, `validate_password_policy`, `replace_user_password`.

The history of a user is read newest first, by time and then by row. Rows are
inserted with rising numbers and times that do not fall, so that is the order of
insertion, read backwards, and pruning leaves its beginning.
-/

namespace SitBank.Auth.Passwords

/-! ### Hashes -/

/-- The configuration, and what comes from the libraries. -/
structure PasswordOps where
  /-- `password_max_chars()`. -/
  maxChars : ℕ
  /-- `_pbkdf2_iterations()`. -/
  iterations : ℕ
  iterations_le : 600000 ≤ iterations
  /-- `unicodedata.normalize("NFC", password)`. -/
  normalize : List Char → List Char
  /-- PBKDF2 over the normalised password and the pepper. -/
  pbkdf2 : List Char → List UInt8 → ℕ → List UInt8
  /-- `base64.urlsafe_b64encode`, without padding, and its inverse. -/
  b64encode : List UInt8 → List Char
  b64decode : List Char → Option (List UInt8)
  b64decode_b64encode : ∀ bytes, b64decode (b64encode bytes) = some bytes
  b64encode_alphabet : ∀ bytes, '$' ∉ b64encode bytes
  /-- `int(text)`. -/
  int : List Char → Option ℤ
  int_digits : ∀ n, int (Nat.toDigits 10 n) = some (n : ℤ)

section Hashes

variable (ops : PasswordOps)

/-- `_safe_normalized_password`. -/
def safeNormalizedPassword (password : List Char) : Option (List Char) :=
  if password.length ≤ ops.maxChars then
    if (ops.normalize password).length ≤ ops.maxChars then some (ops.normalize password) else none
  else none

def hashPassword (password : List Char) (salt : List UInt8) : List Char :=
  "osp-pbkdf2-sha256".toList ++ '$' :: ("v1".toList ++ '$' ::
    ("i=".toList ++ Nat.toDigits 10 ops.iterations ++ '$' ::
      ("s=".toList ++ ops.b64encode salt ++ '$' ::
        ("h=".toList ++
          ops.b64encode (ops.pbkdf2 (ops.normalize password) salt ops.iterations)))))

/-- `value.partition("=")`, when the label is the expected one. -/
def labelled (label : Char) (value : List Char) : Option (List Char) :=
  match value with
  | c :: '=' :: text => if c = label then some text else none
  | _ => none

/-- `_parse_iterations`. -/
def parseIterations (value : List Char) : Option ℕ :=
  match (labelled 'i' value).bind ops.int with
  | some n => if 600000 ≤ n then some n.toNat else none
  | none => none

/-- `_parse_b64_part`. -/
def parseB64Part (label : Char) (value : List Char) : Option (List UInt8) :=
  (labelled label value).bind ops.b64decode

def verifyPassword (password passwordHash : List Char) : Bool :=
  match passwordHash.splitOn '$' with
  | [algorithm, version, iterations, salt, digest] =>
      if algorithm = "osp-pbkdf2-sha256".toList ∧ version = "v1".toList then
        match parseIterations ops iterations, parseB64Part ops 's' salt,
            parseB64Part ops 'h' digest, safeNormalizedPassword ops password with
        | some i, some s, some expected, some normalized => ops.pbkdf2 normalized s i = expected
        | _, _, _, _ => false
      else false
  | _ => false

end Hashes

/-! ### The history -/

structure HistoryRow where
  id : ℕ
  userId : ℤ
  passwordHash : List Char
  createdAt : ℤ
  deriving DecidableEq, Repr

/-- A password and the salt of its hash. -/
abbrev Credential := List Char × List UInt8

/-- A password change that was made. -/
structure Replacement where
  userId : ℤ
  credential : Credential
  deriving DecidableEq, Repr

/-- `log` are the changes that were made. -/
structure PasswordWorld where
  hashes : ℤ → List Char
  rows : List HistoryRow
  nextId : ℕ
  log : List Replacement

/-- `ORDER BY created_at DESC, id DESC`. -/
def newestFirst (a b : HistoryRow) : Bool :=
  b.createdAt < a.createdAt || b.createdAt = a.createdAt && b.id ≤ a.id

def historyOf (userId : ℤ) (w : PasswordWorld) : List HistoryRow :=
  (w.rows.filter fun r => r.userId = userId).insertionSort fun a b => newestFirst a b = true

/-- `_history_entries`. -/
def historyEntries (userId : ℤ) (limit : ℕ) (w : PasswordWorld) : List HistoryRow :=
  (historyOf userId w).take limit

/-- `_retention_count`; `none` is a setting that is no number. -/
def retentionCount (configured : Option ℤ) : ℕ :=
  match configured with
  | some n => (max 3 n).toNat
  | none => 3

inductive PasswordReuseError
  | currentPassword
  | passwordHistory
  deriving DecidableEq, Repr

def assertPasswordNotReused (ops : PasswordOps) (retention : ℕ) (userId : ℤ) (candidate : List Char)
    (w : PasswordWorld) : Except PasswordReuseError Unit :=
  if verifyPassword ops candidate (w.hashes userId) then .error .currentPassword
  else if (historyEntries userId retention w).any fun r =>
      verifyPassword ops candidate r.passwordHash
  then .error .passwordHistory
  else .ok ()

/-- `_prune_password_history`. -/
def prunePasswordHistory (userId : ℤ) (retention : ℕ) (w : PasswordWorld) : PasswordWorld :=
  { w with rows := w.rows.filter fun r =>
      !((historyOf userId w).drop retention).any fun stale => stale.id = r.id }

/-- The hash that is replaced becomes a row. -/
def addHistory (userId : ℤ) (now : ℤ) (w : PasswordWorld) : PasswordWorld :=
  if (w.hashes userId).isEmpty then w
  else { w with
    rows := w.rows ++ [⟨w.nextId, userId, w.hashes userId, now⟩]
    nextId := w.nextId + 1 }

def replaceUserPassword (ops : PasswordOps) (retention : ℕ) (userId : ℤ) (credential : Credential)
    (now : ℤ) (w : PasswordWorld) : PasswordWorld :=
  let added := addHistory userId now w
  prunePasswordHistory userId retention
    { added with
      hashes := fun u =>
        if u = userId then hashPassword ops credential.1 credential.2 else added.hashes u
      log := added.log ++ [⟨userId, credential⟩] }

/-! ### Changes -/

/-- A request to change a password; `screened` is what the lists of known passwords
say. -/
structure PasswordChange where
  userId : ℤ
  credential : Credential
  now : ℤ
  screened : Bool

/-- `validate_password_policy`. -/
def validatePasswordPolicy (ops : PasswordOps) (password : List Char) (screened : Bool) : Bool :=
  (safeNormalizedPassword ops password).isSome && screened

def PasswordChange.apply (ops : PasswordOps) (retention : ℕ) (c : PasswordChange)
    (w : PasswordWorld) : PasswordWorld :=
  match assertPasswordNotReused ops retention c.userId c.credential.1 w with
  | .error _ => w
  | .ok () =>
      if validatePasswordPolicy ops c.credential.1 c.screened then
        replaceUserPassword ops retention c.userId c.credential c.now w
      else w

def runChanges (ops : PasswordOps) (retention : ℕ) (changes : List PasswordChange)
    (w : PasswordWorld) : PasswordWorld :=
  changes.foldl (fun w c => c.apply ops retention w) w

/-- Every account has been made with a password. -/
def firstWorld (ops : PasswordOps) (first : ℤ → Credential) : PasswordWorld where
  hashes u := hashPassword ops (first u).1 (first u).2
  rows := []
  nextId := 1
  log := []

/-- The passwords that a user has had, the newest first. -/
def passwordsOf (first : ℤ → Credential) (userId : ℤ) (log : List Replacement) : List Credential :=
  ((log.filter fun e => e.userId = userId).map (·.credential)).reverse ++ [first userId]

/-! ### Verification -/

section Verification

variable {ops : PasswordOps}

theorem splitOn_dollar {xs : List Char} (h : '$' ∉ xs) (rest : List Char) :
    (xs ++ '$' :: rest).splitOn '$' = xs :: rest.splitOn '$' := by
  rw [List.splitOn_eq_splitOnP, List.splitOn_eq_splitOnP]
  refine List.splitOnP_append_cons_of_forall_mem (fun c hc => ?_) '$' rfl rest
  simp only [beq_eq_false_iff_ne, ne_eq]
  exact fun heq => h (heq ▸ hc)

theorem splitOn_last {xs : List Char} (h : '$' ∉ xs) : xs.splitOn '$' = [xs] := by
  rw [List.splitOn_eq_splitOnP]
  refine List.splitOnP_eq_singleton fun c hc => ?_
  simp only [beq_eq_false_iff_ne, ne_eq]
  exact fun heq => h (heq ▸ hc)

theorem splitOn_hashPassword (password : List Char) (salt : List UInt8) :
    (hashPassword ops password salt).splitOn '$' =
      ["osp-pbkdf2-sha256".toList, "v1".toList, "i=".toList ++ Nat.toDigits 10 ops.iterations,
        "s=".toList ++ ops.b64encode salt,
        "h=".toList ++
          ops.b64encode (ops.pbkdf2 (ops.normalize password) salt ops.iterations)] := by
  have hdigits : '$' ∉ "i=".toList ++ Nat.toDigits 10 ops.iterations := by
    rw [List.mem_append]
    rintro (h | h)
    · revert h
      decide
    · exact absurd (Nat.isDigit_of_mem_toDigits (by decide) (by decide) h) (by decide)
  have hpart (label bytes) (hlabel : '$' ∉ label) : '$' ∉ label ++ ops.b64encode bytes := by
    rw [List.mem_append]
    rintro (h | h)
    · exact hlabel h
    · exact ops.b64encode_alphabet bytes h
  unfold hashPassword
  rw [splitOn_dollar (by decide), splitOn_dollar (by decide), splitOn_dollar hdigits,
    splitOn_dollar (hpart _ salt (by decide)), splitOn_last (hpart _ _ (by decide))]

/-- A password that can be hashed is recognised by its hash. -/
theorem verifyPassword_hashPassword {password normalized : List Char}
    (h : safeNormalizedPassword ops password = some normalized) (salt : List UInt8) :
    verifyPassword ops password (hashPassword ops password salt) = true := by
  have hnormalized : ops.normalize password = normalized := by
    unfold safeNormalizedPassword at h
    split at h
    · split at h
      · exact Option.some.inj h
      · cases h
    · cases h
  have hiterations : parseIterations ops ("i=".toList ++ Nat.toDigits 10 ops.iterations) =
      some ops.iterations := by
    have hlabel : labelled 'i' ("i=".toList ++ Nat.toDigits 10 ops.iterations) =
        some (Nat.toDigits 10 ops.iterations) := rfl
    have hlarge : (600000 : ℤ) ≤ ops.iterations := Int.ofNat_le.mpr ops.iterations_le
    unfold parseIterations
    rw [hlabel, Option.bind_some, ops.int_digits]
    simp only [hlarge, if_true, Int.toNat_natCast]
  have hsalt : parseB64Part ops 's' ("s=".toList ++ ops.b64encode salt) = some salt :=
    ops.b64decode_b64encode salt
  have hdigest (bytes) : parseB64Part ops 'h' ("h=".toList ++ ops.b64encode bytes) = some bytes :=
    ops.b64decode_b64encode bytes
  unfold verifyPassword
  rw [splitOn_hashPassword]
  simp only [and_self, if_true, hiterations, hsalt, hdigest, h, hnormalized, decide_true]

theorem hashPassword_ne_nil (password : List Char) (salt : List UInt8) :
    (hashPassword ops password salt).isEmpty = false := rfl

end Verification

/-! ### The table -/

section Table

variable {w : PasswordWorld}

/-- Rows are inserted with rising numbers, and for each user with times that do not
fall. -/
structure TableOk (w : PasswordWorld) : Prop where
  ordered : w.rows.Pairwise fun a b => a.id < b.id ∧
    (a.userId = b.userId → a.createdAt ≤ b.createdAt)
  numbered : ∀ r ∈ w.rows, r.id < w.nextId

theorem newestFirst_trans (a b c : HistoryRow) (h : newestFirst a b = true)
    (h' : newestFirst b c = true) : newestFirst a c = true := by
  simp only [newestFirst, Bool.or_eq_true, Bool.and_eq_true, decide_eq_true_eq] at h h' ⊢
  omega

theorem newestFirst_total (a b : HistoryRow) : (newestFirst a b || newestFirst b a) = true := by
  simp only [newestFirst, Bool.or_eq_true, Bool.and_eq_true, decide_eq_true_eq]
  omega

theorem TableOk.eq_of_id (h : TableOk w) {a b : HistoryRow} (ha : a ∈ w.rows) (hb : b ∈ w.rows)
    (hid : a.id = b.id) : a = b := by
  have hpair := List.pairwise_iff_getElem.mp h.ordered
  obtain ⟨i, hi, rfl⟩ := List.getElem_of_mem ha
  obtain ⟨j, hj, rfl⟩ := List.getElem_of_mem hb
  rcases Nat.lt_trichotomy i j with hij | rfl | hij
  · have := (hpair i j hi hj hij).1
    omega
  · rfl
  · have := (hpair j i hj hi hij).1
    omega

/-- The rows of a user in the order of insertion. -/
def rowsOf (userId : ℤ) (w : PasswordWorld) : List HistoryRow :=
  w.rows.filter fun r => r.userId = userId

theorem TableOk.pairwise_rowsOf (h : TableOk w) (userId : ℤ) :
    (rowsOf userId w).Pairwise fun a b => a.id < b.id ∧ a.createdAt ≤ b.createdAt := by
  refine List.Pairwise.imp_of_mem (fun {a b} ha hb hab => ?_) (h.ordered.filter _)
  have hmine {r : HistoryRow} (hr : r ∈ rowsOf userId w) : r.userId = userId := by
    simpa using (List.mem_filter.mp hr).2
  exact ⟨hab.1, hab.2 ((hmine ha).trans (hmine hb).symm)⟩

/-- Newest first is the order of insertion, read backwards. -/
theorem TableOk.historyOf (h : TableOk w) (userId : ℤ) :
    historyOf userId w = (rowsOf userId w).reverse := by
  have hsorted : (rowsOf userId w).reverse.Pairwise fun a b => newestFirst a b = true := by
    rw [List.pairwise_reverse]
    refine (h.pairwise_rowsOf userId).imp fun {a b} hab => ?_
    simp only [newestFirst, Bool.or_eq_true, Bool.and_eq_true, decide_eq_true_eq]
    omega
  have hids : ∀ a b, a ∈ Passwords.historyOf userId w → b ∈ (rowsOf userId w).reverse →
      newestFirst a b = true → newestFirst b a = true → a = b := by
    intro a b ha hb hab hba
    have hid : a.id = b.id := by
      simp only [newestFirst, Bool.or_eq_true, Bool.and_eq_true, decide_eq_true_eq] at hab hba
      omega
    have ha : a ∈ rowsOf userId w := (List.mem_insertionSort _).mp ha
    have hb : b ∈ rowsOf userId w := List.mem_reverse.mp hb
    exact h.eq_of_id (List.mem_filter.mp ha).1 (List.mem_filter.mp hb).1 hid
  have htotal : Std.Total fun a b => newestFirst a b = true :=
    ⟨fun a b => (Bool.or_eq_true ..).mp (newestFirst_total a b)⟩
  have htrans : IsTrans HistoryRow fun a b => newestFirst a b = true := ⟨newestFirst_trans⟩
  refine List.Perm.eq_of_pairwise hids (List.pairwise_insertionSort _ _) hsorted ?_
  exact (List.perm_insertionSort ..).trans (List.reverse_perm _).symm

theorem TableOk.addHistory (h : TableOk w) {userId now : ℤ}
    (hnow : ∀ r ∈ w.rows, r.userId = userId → r.createdAt ≤ now) :
    TableOk (addHistory userId now w) := by
  unfold Passwords.addHistory
  split
  · exact h
  · refine ⟨List.pairwise_append.mpr ⟨h.ordered, List.pairwise_singleton .., ?_⟩, fun r hr => ?_⟩
    · intro a ha b hb
      rw [List.mem_singleton.mp hb]
      exact ⟨h.numbered a ha, fun hsame => hnow a ha hsame⟩
    · rcases List.mem_append.mp hr with hr | hr
      · exact Nat.lt_succ_of_lt (h.numbered r hr)
      · rw [List.mem_singleton.mp hr]
        exact Nat.lt_succ_self _

theorem TableOk.prune (h : TableOk w) (userId : ℤ) (retention : ℕ) :
    TableOk (prunePasswordHistory userId retention w) :=
  ⟨h.ordered.filter _, fun r hr => h.numbered r (List.mem_filter.mp hr).1⟩

/-- A list whose numbers differ, less the numbers of its end. -/
theorem filter_not_in_end {l : List HistoryRow} (hids : l.Pairwise fun a b => a.id ≠ b.id) (n : ℕ) :
    (l.filter fun r => !(l.drop n).any fun stale => stale.id = r.id) = l.take n := by
  have hsplit : (l.take n ++ l.drop n).Pairwise fun a b => a.id ≠ b.id := by
    rw [List.take_append_drop]
    exact hids
  have hapart := (List.pairwise_append.mp hsplit).2.2
  have hkept : ((l.take n).filter fun r => !(l.drop n).any fun stale => stale.id = r.id) =
      l.take n := by
    refine List.filter_eq_self.mpr fun r hr => ?_
    simp only [Bool.not_eq_true', List.any_eq_false, decide_eq_true_eq]
    exact fun stale hstale heq => hapart r hr stale hstale heq.symm
  have hgone : ((l.drop n).filter fun r => !(l.drop n).any fun stale => stale.id = r.id) = [] := by
    refine List.filter_eq_nil_iff.mpr fun r hr => ?_
    simp only [Bool.not_eq_true', Bool.not_eq_false, List.any_eq_true, decide_eq_true_eq]
    exact ⟨r, hr, rfl⟩
  calc (l.filter fun r => !(l.drop n).any fun stale => stale.id = r.id)
      = (l.take n ++ l.drop n).filter fun r => !(l.drop n).any fun stale => stale.id = r.id := by
        rw [List.take_append_drop]
    _ = l.take n := by rw [List.filter_append, hkept, hgone, List.append_nil]

/-- Pruning leaves the newest rows of the user. -/
theorem TableOk.rowsOf_prune (h : TableOk w) (userId : ℤ) (retention : ℕ) :
    (rowsOf userId (prunePasswordHistory userId retention w)).reverse =
      (rowsOf userId w).reverse.take retention := by
  have hids : (rowsOf userId w).reverse.Pairwise fun a b => a.id ≠ b.id := by
    rw [List.pairwise_reverse]
    exact (h.pairwise_rowsOf userId).imp fun {a b} hab => (Nat.ne_of_lt hab.1).symm
  rw [← filter_not_in_end hids retention, List.filter_reverse, ← h.historyOf userId]
  unfold rowsOf prunePasswordHistory
  simp only [List.filter_filter, Bool.and_comm]

/-- Pruning leaves the rows of the other users. -/
theorem TableOk.rowsOf_prune_ne (h : TableOk w) {userId other : ℤ} (hne : other ≠ userId)
    (retention : ℕ) :
    rowsOf other (prunePasswordHistory userId retention w) = rowsOf other w := by
  unfold rowsOf prunePasswordHistory
  rw [List.filter_filter]
  refine List.filter_congr fun r hr => ?_
  by_cases hother : r.userId = other
  · simp only [hother, decide_true, Bool.true_and, Bool.not_eq_true', List.any_eq_false,
      decide_eq_true_eq]
    intro stale hstale hid
    have hstale : stale ∈ Passwords.historyOf userId w := List.mem_of_mem_drop hstale
    rw [h.historyOf, List.mem_reverse] at hstale
    obtain ⟨hmem, huser⟩ := List.mem_filter.mp hstale
    have huser : stale.userId = userId := by simpa using huser
    rw [h.eq_of_id hmem hr hid] at huser
    exact hne (hother.symm.trans huser)
  · simp [hother]

end Table

/-! ### Runs -/

section Runs

variable (ops : PasswordOps) (first : ℤ → Credential) (retention : ℕ)

def Credential.hash (p : Credential) : List Char := hashPassword ops p.1 p.2

/-- The first password of a user is the current one, and the history is the beginning
of the rest. -/
structure HistoryOk (w : PasswordWorld) : Prop extends TableOk w where
  history : ∀ u, ∃ replaced,
    (passwordsOf first u w.log).map (Credential.hash ops) = w.hashes u :: replaced ∧
      (rowsOf u w).reverse.map (·.passwordHash) = replaced.take retention

/-- A change was made with a password that is none of the last ones. -/
def Fresh (earlier : List Replacement) (e : Replacement) : Prop :=
  ∀ p ∈ (passwordsOf first e.userId earlier).take (retention + 1),
    verifyPassword ops e.credential.1 (Credential.hash ops p) = false ∧ e.credential.1 ≠ p.1

variable {ops first retention} {w : PasswordWorld}

theorem passwordsOf_append (u : ℤ) (log : List Replacement) (e : Replacement) :
    passwordsOf first u (log ++ [e]) =
      if e.userId = u then e.credential :: passwordsOf first u log
      else passwordsOf first u log := by
  unfold passwordsOf
  by_cases h : e.userId = u
  · simp [h]
  · simp [h]

theorem HistoryOk.rowsOf_added (h : HistoryOk ops first retention w) (userId now : ℤ) :
    (addHistory userId now w).rows = w.rows ++ [⟨w.nextId, userId, w.hashes userId, now⟩] := by
  obtain ⟨replaced, hhashes, -⟩ := h.history userId
  have hcurrent : (w.hashes userId).isEmpty = false := by
    cases hp : passwordsOf first userId w.log with
    | nil =>
        rw [hp] at hhashes
        cases hhashes
    | cons p rest =>
        rw [hp, List.map_cons] at hhashes
        rw [← (List.cons.inj hhashes).1]
        exact hashPassword_ne_nil p.1 p.2
  unfold addHistory
  rw [hcurrent]
  rfl

/-- One change. -/
theorem HistoryOk.replace (h : HistoryOk ops first retention w) (hretention : 0 < retention)
    {userId now : ℤ} (credential : Credential)
    (hnow : ∀ r ∈ w.rows, r.userId = userId → r.createdAt ≤ now) :
    HistoryOk ops first retention (replaceUserPassword ops retention userId credential now w) := by
  have hadded : TableOk { addHistory userId now w with
      hashes := fun u =>
        if u = userId then hashPassword ops credential.1 credential.2 else
          (addHistory userId now w).hashes u
      log := (addHistory userId now w).log ++ [⟨userId, credential⟩] } :=
    ⟨(h.toTableOk.addHistory hnow).ordered, (h.toTableOk.addHistory hnow).numbered⟩
  have hrows := h.rowsOf_added userId now
  have hlog : (addHistory userId now w).log = w.log := by
    unfold addHistory
    split <;> rfl
  have hhashes : (addHistory userId now w).hashes = w.hashes := by
    unfold addHistory
    split <;> rfl
  refine ⟨hadded.prune userId retention, fun u => ?_⟩
  obtain ⟨replaced, hpasswords, hhistory⟩ := h.history u
  by_cases hu : u = userId
  -- the old hash is pushed in front of the history, and the oldest row falls off
  · subst hu
    refine ⟨w.hashes u :: replaced, ?_, ?_⟩
    · show (passwordsOf first u ((addHistory u now w).log ++ [⟨u, credential⟩])).map _ =
        (if u = u then _ else _) :: _
      rw [hlog, passwordsOf_append, if_pos rfl, if_pos rfl, List.map_cons, hpasswords]
      rfl
    · have hpruned := hadded.rowsOf_prune u retention
      unfold replaceUserPassword
      rw [hpruned, List.map_take]
      unfold rowsOf
      rw [hrows, List.filter_append, List.reverse_append]
      have hold : (w.rows.filter fun r => decide (r.userId = u)).reverse.map (·.passwordHash) =
          replaced.take retention := hhistory
      simp only [decide_true, List.filter_cons_of_pos, List.filter_nil, List.reverse_singleton,
        List.singleton_append, List.map_cons, hold]
      obtain ⟨n, rfl⟩ := Nat.exists_eq_add_of_lt hretention
      simp only [Nat.zero_add, List.take_succ_cons, List.take_take]
      rw [Nat.min_eq_left (Nat.le_succ n)]
  · refine ⟨replaced, ?_, ?_⟩
    · show (passwordsOf first u ((addHistory userId now w).log ++ [⟨userId, credential⟩])).map _ =
        (if u = userId then _ else _) :: _
      rw [hlog, passwordsOf_append, if_neg (Ne.symm hu), if_neg hu, hhashes, hpasswords]
    · have hpruned := hadded.rowsOf_prune_ne hu retention
      unfold replaceUserPassword
      rw [hpruned]
      unfold rowsOf
      rw [hrows, List.filter_append]
      have hold : (w.rows.filter fun r => decide (r.userId = u)).reverse.map (·.passwordHash) =
          replaced.take retention := hhistory
      simp only [Ne.symm hu, decide_false, Bool.false_eq_true, not_false_eq_true,
        List.filter_cons_of_neg, List.filter_nil, List.append_nil, hold]

/-- What `assert_password_not_reused` has looked at. -/
theorem HistoryOk.fresh (h : HistoryOk ops first retention w) {userId : ℤ} {credential : Credential}
    (hunused : assertPasswordNotReused ops retention userId credential.1 w = .ok ())
    {normalized : List Char} (hsafe : safeNormalizedPassword ops credential.1 = some normalized) :
    Fresh ops first retention w.log ⟨userId, credential⟩ := by
  obtain ⟨replaced, hpasswords, hhistory⟩ := h.history userId
  have hentries : (historyEntries userId retention w).map (·.passwordHash) =
      replaced.take retention := by
    unfold historyEntries
    rw [h.toTableOk.historyOf, List.map_take, hhistory, List.take_take, Nat.min_self]
  unfold assertPasswordNotReused at hunused
  split at hunused
  · cases hunused
  next hcurrent =>
    split at hunused
    · cases hunused
    next hold =>
      -- neither the current hash nor one of the history verifies the password
      have hdiffers : ∀ hash ∈ w.hashes userId :: replaced.take retention,
          verifyPassword ops credential.1 hash = false := by
        intro hash hmem
        rcases List.mem_cons.mp hmem with rfl | hmem
        · exact eq_false_of_ne_true hcurrent
        · rw [← hentries] at hmem
          obtain ⟨r, hr, rfl⟩ := List.mem_map.mp hmem
          refine eq_false_of_ne_true fun hverified => hold ?_
          exact List.any_eq_true.mpr ⟨r, hr, hverified⟩
      intro p hp
      have hhash : Credential.hash ops p ∈ w.hashes userId :: replaced.take retention := by
        have hmem := List.mem_map_of_mem (f := Credential.hash ops) hp
        rw [List.map_take, hpasswords, List.take_succ_cons] at hmem
        exact hmem
      -- an equal password would verify against its own hash
      refine ⟨hdiffers _ hhash, fun hsame => ?_⟩
      have hverified := verifyPassword_hashPassword hsafe p.2
      rw [hsame] at hverified
      have hrefused := hdiffers _ hhash
      rw [hsame] at hrefused
      exact absurd (hverified.symm.trans hrefused) (by decide)

variable (ops first retention) in
/-- The history is kept, and every change was made with a fresh password. -/
structure RunOk (w : PasswordWorld) : Prop extends HistoryOk ops first retention w where
  fresh : ∀ l e l', w.log = l ++ e :: l' → Fresh ops first retention l e

/-- The times of the rows of each user come before those of the changes to come. -/
def Before (w : PasswordWorld) (changes : List PasswordChange) : Prop :=
  ∀ r ∈ w.rows, ∀ c ∈ changes, r.userId = c.userId → r.createdAt ≤ c.now

theorem log_replace (userId now : ℤ) (credential : Credential) :
    (replaceUserPassword ops retention userId credential now w).log =
      w.log ++ [⟨userId, credential⟩] := by
  show (addHistory userId now w).log ++ _ = _
  unfold addHistory
  split <;> rfl

theorem mem_rows_replace {userId now : ℤ} {credential : Credential} {r : HistoryRow}
    (hr : r ∈ (replaceUserPassword ops retention userId credential now w).rows) :
    r ∈ w.rows ∨ r.userId = userId ∧ r.createdAt = now := by
  have hr : r ∈ (addHistory userId now w).rows := (List.mem_filter.mp hr).1
  unfold addHistory at hr
  split at hr
  · exact .inl hr
  · rcases List.mem_append.mp hr with hr | hr
    · exact .inl hr
    · rw [List.mem_singleton.mp hr]
      exact .inr ⟨rfl, rfl⟩

theorem RunOk.apply (h : RunOk ops first retention w) (hretention : 0 < retention)
    {c : PasswordChange} {changes : List PasswordChange} (hbefore : Before w (c :: changes))
    (hordered : ∀ d ∈ changes, c.userId = d.userId → c.now ≤ d.now) :
    RunOk ops first retention (c.apply ops retention w) ∧
      Before (c.apply ops retention w) changes := by
  have hstay : RunOk ops first retention w ∧ Before w changes :=
    ⟨h, fun r hr d hd => hbefore r hr d (List.mem_cons_of_mem _ hd)⟩
  unfold PasswordChange.apply
  split
  · exact hstay
  next hunused =>
    split
    · next hvalid =>
        obtain ⟨normalized, hsafe⟩ :=
          Option.isSome_iff_exists.mp ((Bool.and_eq_true ..).mp hvalid).1
        have hnow : ∀ r ∈ w.rows, r.userId = c.userId → r.createdAt ≤ c.now :=
          fun r hr => hbefore r hr c (List.mem_cons_self ..)
        refine ⟨⟨h.toHistoryOk.replace hretention c.credential hnow, fun l e l' hlog => ?_⟩, ?_⟩
        · rw [log_replace] at hlog
          rcases List.eq_nil_or_concat l' with rfl | ⟨l'', e', rfl⟩
          · obtain ⟨rfl, he⟩ := List.append_inj' hlog rfl
            rw [← List.singleton_inj.mp he]
            exact h.toHistoryOk.fresh hunused hsafe
          · rw [List.concat_eq_append, ← List.cons_append, ← List.append_assoc] at hlog
            exact h.fresh l e l'' (List.append_inj' hlog rfl).1
        · intro r hr d hd huser
          rcases mem_rows_replace hr with hr | ⟨hmine, htime⟩
          · exact hbefore r hr d (List.mem_cons_of_mem _ hd) huser
          · rw [htime]
            exact hordered d hd (hmine.symm.trans huser)
    · exact hstay

theorem RunOk.run (h : RunOk ops first retention w) (hretention : 0 < retention)
    {changes : List PasswordChange} (hbefore : Before w changes)
    (hordered : changes.Pairwise fun c d => c.userId = d.userId → c.now ≤ d.now) :
    RunOk ops first retention (runChanges ops retention changes w) := by
  induction changes generalizing w with
  | nil => exact h
  | cons c changes ih =>
      obtain ⟨hfirst, hrest⟩ := List.pairwise_cons.mp hordered
      obtain ⟨hnext, hbefore'⟩ := h.apply hretention hbefore hfirst
      exact ih hnext hbefore' hrest

theorem runOk_firstWorld : RunOk ops first retention (firstWorld ops first) := by
  refine ⟨⟨⟨List.Pairwise.nil, nofun⟩, fun u => ⟨[], rfl, ?_⟩⟩, fun l e l' hlog => ?_⟩
  · rw [List.take_nil]
    rfl
  · cases l <;> cases hlog

end Runs

theorem retentionCount_pos (configured : Option ℤ) : 0 < retentionCount configured := by
  unfold retentionCount
  split
  · omega
  · decide

/-- After every sequence of changes whose times do not fall for any user, each change
was made with a password that is neither the one it replaces nor one of the `N`
before, and the history of each user is the `N` newest of the replaced hashes, each
of them once. -/
theorem password_history_enforced {ops : PasswordOps} {first : ℤ → Credential}
    {configured : Option ℤ} {changes : List PasswordChange}
    (hordered : changes.Pairwise fun c d => c.userId = d.userId → c.now ≤ d.now) :
    let retention := retentionCount configured
    let w := runChanges ops retention changes (firstWorld ops first)
    (∀ l e l', w.log = l ++ e :: l' → Fresh ops first retention l e) ∧
      ∀ u, w.hashes u :: (historyOf u w).map (·.passwordHash) =
          ((passwordsOf first u w.log).take (retention + 1)).map (Credential.hash ops) ∧
        (historyOf u w).length =
          min retention (w.log.filter fun e => e.userId = u).length := by
  intro retention w
  have hok : RunOk ops first retention w :=
    runOk_firstWorld.run (retentionCount_pos configured) nofun hordered
  refine ⟨hok.fresh, fun u => ?_⟩
  obtain ⟨replaced, hpasswords, hhistory⟩ := hok.history u
  rw [hok.toTableOk.historyOf]
  refine ⟨?_, ?_⟩
  · rw [List.map_take, hpasswords, hhistory, List.take_succ_cons]
  · have hlength := congrArg List.length hhistory
    have hcount := congrArg List.length hpasswords
    simp only [List.length_map, List.length_take, List.length_cons] at hlength hcount
    simp only [passwordsOf, List.length_append, List.length_reverse, List.length_map,
      List.length_cons, List.length_nil] at hcount
    omega

/-! ### A run -/

section Sample

open SitBank.Python

theorem b64encode_codes (bytes : List UInt8) :
    ∀ n ∈ Python.b64encode bytes, n < 128 ∧ n ≠ 36 :=
  Python.forall_mem_b64encode (by decide) (by decide) bytes

theorem toNat_ofNat {n : ℕ} (h : n < 128) : (Char.ofNat n).toNat = n :=
  Python.toNat_ofNat_of_valid (.inl (by omega))

def samplePasswordOps : PasswordOps where
  maxChars := 64
  iterations := 600000
  iterations_le := Nat.le_refl _
  normalize := id
  pbkdf2 password salt _ := password.map (fun c => UInt8.ofNat c.toNat) ++ salt
  b64encode bytes := (Python.b64encode bytes).map Char.ofNat
  b64decode text := Python.b64decode (text.map Char.toNat)
  b64decode_b64encode bytes := by
    have hcodes : ((Python.b64encode bytes).map Char.ofNat).map Char.toNat =
        Python.b64encode bytes := by
      rw [List.map_map]
      conv => rhs; rw [← List.map_id (Python.b64encode bytes)]
      exact List.map_congr_left fun n hn => toNat_ofNat (b64encode_codes bytes n hn).1
    rw [hcodes]
    exact Python.b64decode_b64encode bytes
  b64encode_alphabet bytes := by
    intro hmem
    obtain ⟨n, hn, hchar⟩ := List.mem_map.mp hmem
    obtain ⟨hascii, hdollar⟩ := b64encode_codes bytes n hn
    have hcode := congrArg Char.toNat hchar
    rw [toNat_ofNat hascii] at hcode
    exact hdollar hcode
  int text := if text.all Char.isDigit then some (Nat.ofDigitChars 10 text 0 : ℤ) else none
  int_digits n := by
    have hdigits : (Nat.toDigits 10 n).all Char.isDigit = true :=
      List.all_eq_true.mpr fun c hc => Nat.isDigit_of_mem_toDigits (by decide) (by decide) hc
    rw [if_pos hdigits, Nat.ofDigitChars_ten_toDigits]

/-- The user changes the password three times at one time and once later. The oldest
of the replaced ones has left the history then: the first password can be taken
again, and the second one cannot. -/
def sampleChanges : List PasswordChange :=
  [⟨1, ("one".toList, [1, 2, 3]), 5, true⟩, ⟨1, ("two".toList, [4, 5, 6]), 5, true⟩,
    ⟨1, ("three".toList, [7, 8, 9]), 5, true⟩, ⟨1, ("four".toList, [10, 11, 12]), 6, true⟩,
    ⟨1, ("one".toList, [13, 14, 15]), 7, true⟩, ⟨1, ("zero".toList, [16, 17, 18]), 7, true⟩]

theorem password_history_enforced_reused :
    let w := runChanges samplePasswordOps 3 sampleChanges
      (firstWorld samplePasswordOps fun _ => ("zero".toList, [0, 0, 0]))
    w.log.map (·.credential.1) =
        ["one".toList, "two".toList, "three".toList, "four".toList, "zero".toList] ∧
      (historyOf 1 w).map (·.id) = [5, 4, 3] ∧
      (∀ l e l', w.log = l ++ e :: l' →
        Fresh samplePasswordOps (fun _ => ("zero".toList, [0, 0, 0])) 3 l e) ∧
      ∀ u, w.hashes u :: (historyOf u w).map (·.passwordHash) =
          ((passwordsOf (fun _ => ("zero".toList, [0, 0, 0])) u w.log).take 4).map
            (Credential.hash samplePasswordOps) ∧
        (historyOf u w).length = min 3 (w.log.filter fun e => e.userId = u).length := by
  intro w
  refine ⟨by decide +kernel, by decide +kernel, ?_⟩
  exact @password_history_enforced samplePasswordOps _ (some 1) sampleChanges (by decide)

end Sample

end SitBank.Auth.Passwords
