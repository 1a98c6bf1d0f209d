import SitBank.Redaction.SensitiveUrls

/-!
No text that the sanitizers show holds a sensitive URL.

The scanner looks at the raw text, but what is shown is another one: control characters become
spaces, spaces are collapsed, and the end is cut off. A piece without spaces that is shown stands
in the raw text as well, and a word that ends before it there ends before it in what is shown
(`shown_piece`). So a sensitive URL that is shown was found.
-/

namespace SitBank.Redaction

open SitBank.Python SitBank.Security PyStr.strip

/-! ### Words -/

section Words

variable {α : Type} {sep : α → Bool}

/-- The first word starts the text, and the others follow a separator. -/
theorem splitOnP_words (s : List α) : ∃ first words, s.splitOnP sep = first :: words ∧
    (∃ after, s = first ++ after) ∧
    ∀ word ∈ words, ∃ before c after, s = before ++ c :: (word ++ after) ∧ sep c = true := by
  induction s with
  | nil => exact ⟨[], [], List.splitOnP_nil, ⟨[], rfl⟩, fun _ h => absurd h List.not_mem_nil⟩
  | cons c s ih =>
      obtain ⟨first, words, hsplit, ⟨after, hfirst⟩, hwords⟩ := ih
      have hlater : ∀ word ∈ words, ∃ before c' after,
          c :: s = before ++ c' :: (word ++ after) ∧ sep c' = true := by
        intro word hword
        obtain ⟨before, c', after, hs, hc'⟩ := hwords word hword
        exact ⟨c :: before, c', after, congrArg (c :: ·) hs, hc'⟩
      rw [List.splitOnP_cons_eq_if_modifyHead, hsplit]
      split
      · next hc =>
          refine ⟨[], first :: words, rfl, ⟨c :: s, rfl⟩, fun word hword => ?_⟩
          rcases List.mem_cons.mp hword with rfl | hword
          · exact ⟨[], c, after, congrArg (c :: ·) hfirst, hc⟩
          · exact hlater word hword
      · exact ⟨c :: first, words, rfl, ⟨after, congrArg (c :: ·) hfirst⟩, hlater⟩

/-- A piece without the separator is a piece of one word. -/
theorem piece_of_word {c : α} {piece : List α} (hne : piece ≠ []) (hpiece : c ∉ piece)
    {words : List (List α)} {a b : List α} (h : [c].intercalate words = a ++ (piece ++ b)) :
    ∃ word ∈ words, ∃ p q, word = p ++ (piece ++ q) ∧ (p = [] ∨ p.getLast? = a.getLast?) := by
  induction words generalizing a with
  | nil =>
      have hnil := (List.append_eq_nil_iff.mp h.symm).2
      exact absurd (List.append_eq_nil_iff.mp hnil).1 hne
  | cons word words ih =>
      cases words with
      | nil =>
          refine ⟨word, .head _, a, b, ?_, .inr rfl⟩
          rw [← h]
          simp [List.intercalate]
      | cons next words =>
          have hsplit : word ++ c :: [c].intercalate (next :: words) = a ++ (piece ++ b) := by
            rw [← h]
            simp [List.intercalate]
          rcases List.append_eq_append_iff.mp hsplit with ⟨a', rfl, hrest⟩ | ⟨b', rfl, hrest⟩
          · -- the piece begins after the separator
            cases a' with
            | nil =>
                obtain ⟨d, piece, rfl⟩ := List.exists_cons_of_ne_nil hne
                exact absurd (.head _) ((List.cons.inj hrest).1 ▸ hpiece)
            | cons d a' =>
                rw [List.cons_append, List.cons.injEq] at hrest
                obtain ⟨rfl, hrest⟩ := hrest
                obtain ⟨word', hmem, p, q, hword, hlast⟩ := ih hrest
                refine ⟨word', .tail _ hmem, p, q, hword, ?_⟩
                rcases hlast with hp | hlast
                · exact .inl hp
                · cases a' with
                  | nil => exact .inl (List.getLast?_eq_none_iff.mp hlast)
                  | cons e a' =>
                      refine .inr ?_
                      rw [hlast, List.getLast?_append_of_ne_nil _ (List.cons_ne_nil c _),
                        List.getLast?_cons_cons]
          · -- it begins in the first word, and does not reach beyond it
            rcases List.append_eq_append_iff.mp hrest with ⟨x, rfl, -⟩ | ⟨x, rfl, hx⟩
            · exact ⟨_, .head _, a, x, rfl, .inr rfl⟩
            · cases x with
              | nil => exact ⟨_, .head _, a, [], by simp, .inr rfl⟩
              | cons d x =>
                  obtain ⟨rfl, -⟩ := List.cons.inj hx
                  exact absurd (List.mem_append_right _ (.head _)) hpiece

end Words

/-! ### Cleaned texts -/

theorem solid_of_asciiLower {text : PyStr} (h : Solid (asciiLower text)) : Solid text := by
  intro c hc
  have hlower := h (lowerCode c) (List.mem_map_of_mem hc)
  unfold lowerCode at hlower
  split at hlower
  · next hrange =>
      have hletters : ∀ n < 91, 65 ≤ n → spaceCode n = false := by decide
      exact hletters c (by omega) hrange.1
  · exact hlower

theorem CredentialUrl.solid {url : PyStr} (h : CredentialUrl url) : Solid url := by
  obtain ⟨scheme, user, password, rfl, hscheme, hsolid, -, -⟩ := h
  have hschemes : ∀ s ∈ credentialSchemes, Solid s := by
    unfold Solid
    decide +kernel
  refine solid_append.mpr ⟨solid_of_asciiLower (hschemes _ hscheme), solid_append.mpr
    ⟨(solid_append.mp hsolid).1, solid_cons.mpr ⟨by decide, solid_append.mpr
      ⟨(solid_append.mp hsolid).2, ?_⟩⟩⟩⟩
  unfold Solid
  decide

theorem WebhookUrl.solid {url : PyStr} (h : WebhookUrl url) : Solid url := by
  obtain ⟨scheme, host, lead, part, secret, rfl, hscheme, hsolid, -, -, hlead, hpart, hsecret⟩ := h
  have hparts : ∀ s ∈ webhookPathPrefixes, Solid s := by
    unfold Solid
    decide +kernel
  have hlead' : Solid lead := by
    rcases hlead with rfl | hlead
    · exact fun _ h => absurd h List.not_mem_nil
    · refine solid_of_asciiLower ?_
      rw [hlead]
      unfold Solid
      decide +kernel
  have hscheme' : Solid scheme := by
    refine solid_of_asciiLower ?_
    rw [hscheme]
    unfold Solid
    decide +kernel
  refine solid_append.mpr ⟨hscheme', solid_append.mpr ⟨hsolid, solid_cons.mpr ⟨by decide,
    solid_append.mpr ⟨hlead', solid_append.mpr ⟨solid_of_asciiLower (hparts _ hpart), ?_⟩⟩⟩⟩⟩
  exact solid_cons.mpr ⟨hsecret, fun _ h => absurd h List.not_mem_nil⟩

/-- Every URL that is looked for has a colon or a slash. -/
theorem mark_of_url {url : PyStr} (h : CredentialUrl url ∨ WebhookUrl url) :
    58 ∈ url ∨ 47 ∈ url := by
  rcases h with ⟨scheme, user, password, rfl, -⟩ | ⟨scheme, host, lead, part, secret, rfl, -⟩
  · exact .inl (by simp)
  · exact .inr (by simp)

/-- What `_clean_audit_text` and `_safe_text` do to one character. -/
def cleanCode (n : ℕ) : ℕ := if n < 32 ∨ n = 127 then 32 else n

theorem cleanText_eq (text : PyStr) : cleanText text = [32].intercalate
    (((text.map cleanCode).splitOnP spaceCode).filter fun word => !word.isEmpty) := rfl

theorem cleanCode_word {t : Alphabet} {c : ℕ} (h : isWordCharacter t c = true) :
    cleanCode c = c := by
  unfold cleanCode
  split
  · next hcontrol =>
      have hlow : c < 128 := by omega
      rw [isWordCharacter, t.isalnum_ascii c hlow] at h
      simp only [Bool.or_eq_true, decide_eq_true_eq, Bool.and_eq_true] at h
      omega
  · rfl

theorem space_not_word {t : Alphabet} {c : ℕ} (h : spaceCode c = true) :
    isWordCharacter t c = false := by
  rw [isWordCharacter, t.isalnum_space c h, Bool.or_false, decide_eq_false_iff_not]
  rintro rfl
  exact absurd h (by decide)

theorem solid_of_cleanCode {piece raw : PyStr} (hsolid : Solid piece)
    (h : raw.map cleanCode = piece) : raw = piece := by
  subst h
  induction raw with
  | nil => rfl
  | cons c raw ih =>
      obtain ⟨hc, hraw⟩ := solid_cons.mp hsolid
      have hkept : cleanCode c = c := by
        unfold cleanCode at hc ⊢
        split
        · next hcontrol =>
            rw [if_pos hcontrol] at hc
            exact absurd hc (by decide)
        · rfl
      rw [List.map_cons, ← ih hraw, hkept]

/-- A piece without spaces that is shown stands in the raw text, and follows no word there that it
does not follow in what is shown. -/
theorem shown_piece {t : Alphabet} {text a piece b : PyStr} (hne : piece ≠ [])
    (hsolid : Solid piece) (h : cleanText text = a ++ (piece ++ b)) :
    ∃ before after, text = before ++ (piece ++ after) ∧ (EndsWord t before → EndsWord t a) := by
  have hspace : 32 ∉ piece := fun hmem => absurd (hsolid 32 hmem) (by decide)
  rw [cleanText_eq] at h
  obtain ⟨word, hword, p, q, rfl, hlast⟩ := piece_of_word hne hspace h
  obtain ⟨first, words, hsplit, hfirst, hwords⟩ :
      ∃ first words, (text.map cleanCode).splitOnP spaceCode = first :: words ∧ _ ∧ _ :=
    splitOnP_words _
  rw [hsplit] at hword
  -- what precedes the word is nothing, or ends in a space
  have hplace : ∃ x y, text.map cleanCode = x ++ (p ++ (piece ++ q) ++ y) ∧
      ∀ c, x.getLast? = some c → spaceCode c = true := by
    rcases List.mem_cons.mp (List.mem_of_mem_filter hword) with rfl | hword
    · obtain ⟨y, hy⟩ := hfirst
      exact ⟨[], y, hy, fun c hc => by cases hc⟩
    · obtain ⟨x, c, y, hy, hc⟩ := hwords _ hword
      refine ⟨x ++ [c], y, by simp [hy], fun c' hc' => ?_⟩
      rw [List.getLast?_concat] at hc'
      cases hc'
      exact hc
  obtain ⟨x, y, hxy, hx⟩ := hplace
  have hmap : text.map cleanCode = (x ++ p) ++ (piece ++ (q ++ y)) := by
    rw [hxy]
    simp
  obtain ⟨before, rest, rfl, hbefore, hrest⟩ := List.map_eq_append_iff.mp hmap
  obtain ⟨raw, after, rfl, hraw, -⟩ := List.map_eq_append_iff.mp hrest
  refine ⟨before, after, by rw [solid_of_cleanCode hsolid hraw], ?_⟩
  rintro ⟨c, hc, hc'⟩
  have hend : (x ++ p).getLast? = some c := by
    rw [← hbefore, List.getLast?_map, hc, Option.map_some, cleanCode_word hc']
  cases p using List.reverseRecOn with
  | nil =>
      rw [List.append_nil] at hend
      rw [space_not_word (hx c hend)] at hc'
      cases hc'
  | append_singleton p d =>
      rw [List.getLast?_append_of_ne_nil _ (by simp)] at hend
      rcases hlast with hp | hlast
      · exact absurd hp (by simp)
      · exact ⟨c, hlast ▸ hend, hc'⟩

/-- A sensitive URL that is shown stands in the raw text. -/
theorem sensitiveUrl_of_shown {t : Alphabet} {text : PyStr} {limit : ℕ}
    (h : SensitiveUrl t ((cleanText text).take limit)) : SensitiveUrl t text := by
  obtain ⟨a, url, rest, hshown, hurl⟩ := h
  have htext : cleanText text = a ++ (url ++ (rest ++ (cleanText text).drop limit)) := by
    rw [← List.append_assoc url, ← List.append_assoc a, ← hshown, List.take_append_drop]
  have hsolid : Solid url := hurl.elim (fun h => h.2.solid) fun h => h.solid
  have hne : url ≠ [] := by
    rintro rfl
    simpa using mark_of_url (hurl.imp And.right id)
  obtain ⟨before, after, hraw, hword⟩ := shown_piece (t := t) hne hsolid htext
  refine ⟨before, url, after, hraw, ?_⟩
  exact hurl.imp (fun h => ⟨fun hbefore => h.1 (hword hbefore), h.2⟩) id

theorem redactedValue_safe (t : Alphabet) : ¬SensitiveUrl t redactedValue := by
  rintro ⟨before, url, rest, htext, hurl⟩
  have hmem : ∀ c ∈ url, c ∈ redactedValue := by
    intro c hc
    rw [htext]
    exact List.mem_append_right _ (List.mem_append_left _ hc)
  rcases mark_of_url (hurl.imp And.right id) with h | h
  · exact absurd (hmem _ h) (by decide +kernel)
  · exact absurd (hmem _ h) (by decide +kernel)

/-! ### Sanitized data -/

section Walk

variable {Key : Type}

mutual

/-- The texts of a value that are not keys. -/
def valueTexts : Value Key → List PyStr
  | .scalar _ => []
  | .text s => [s]
  | .other s => [s]
  | .mapping entries => entriesTexts entries
  | .sequence _ items => itemsTexts items

def entriesTexts : List (Key × Value Key) → List PyStr
  | [] => []
  | (_, value) :: entries => valueTexts value ++ entriesTexts entries

def itemsTexts : List (Value Key) → List PyStr
  | [] => []
  | value :: items => valueTexts value ++ itemsTexts items

end

theorem mem_entriesTexts {text : PyStr} {entries : List (Key × Value Key)} :
    text ∈ entriesTexts entries ↔ ∃ p ∈ entries, text ∈ valueTexts p.2 := by
  induction entries with
  | nil => simp [entriesTexts]
  | cons p entries ih => simp [entriesTexts, ih]

/-- An assignment to a dictionary brings no other values. -/
theorem value_of_dictAfter {α : Type} {pairs : List (PyStr × α)} {p : PyStr × α}
    (h : p ∈ dictAfter pairs) : ∃ q ∈ pairs, q.2 = p.2 := by
  induction pairs generalizing p with
  | nil => cases h
  | cons q pairs ih =>
      rcases List.mem_cons.mp h with rfl | h
      · cases hlookup : (dictAfter pairs).lookup q.1 with
        | none => exact ⟨q, .head _, rfl⟩
        | some value =>
            obtain ⟨before, after, hpairs, -⟩ := List.lookup_eq_some_iff.mp hlookup
            obtain ⟨q', hq', hvalue⟩ := ih (hpairs ▸ List.mem_append_right _ (.head _))
            exact ⟨q', .tail _ hq', hvalue⟩
      · obtain ⟨q', hq', hvalue⟩ := ih (List.mem_of_mem_filter h)
        exact ⟨q', .tail _ hq', hvalue⟩

theorem entriesTexts_dictAfter {text : PyStr} {pairs : List (PyStr × Value PyStr)}
    (h : text ∈ entriesTexts (dictAfter pairs)) : text ∈ entriesTexts pairs := by
  obtain ⟨p, hp, htext⟩ := mem_entriesTexts.mp h
  obtain ⟨q, hq, hvalue⟩ := value_of_dictAfter hp
  exact mem_entriesTexts.mpr ⟨q, hq, hvalue ▸ htext⟩

variable {z : Sanitizer Key} {P : PyStr → Prop}

mutual

/-- What holds of every text that is shown holds of all texts of the result. -/
theorem sanitizeValue_texts (hredacted : P z.redactedValue)
    (hshown : ∀ keyLower value, P (z.shownText keyLower value)) (keyLower : PyStr) (depth : ℕ)
    (value : Value Key) : ∀ text ∈ valueTexts (sanitizeValue z keyLower depth value), P text := by
  intro text h
  cases value with
  | scalar s => exact absurd h List.not_mem_nil
  | text s => exact List.mem_singleton.mp h ▸ hshown _ _
  | other s => exact List.mem_singleton.mp h ▸ hshown _ _
  | mapping entries =>
      rw [sanitizeValue] at h
      split at h
      · exact sanitizeEntries_texts hredacted hshown (depth + 1) z.itemLimit entries text
          (entriesTexts_dictAfter h)
      · exact List.mem_singleton.mp h ▸ hshown _ _
  | sequence kind items =>
      rw [sanitizeValue] at h
      split at h
      · exact sanitizeItems_texts hredacted hshown keyLower (depth + 1) z.itemLimit items text h
      · exact List.mem_singleton.mp h ▸ hshown _ _

theorem sanitizeEntries_texts (hredacted : P z.redactedValue)
    (hshown : ∀ keyLower value, P (z.shownText keyLower value)) (depth n : ℕ)
    (entries : List (Key × Value Key)) :
    ∀ text ∈ entriesTexts (sanitizeEntries z depth n entries), P text := by
  intro text h
  cases entries with
  | nil =>
      rw [sanitizeEntries] at h
      exact absurd h List.not_mem_nil
  | cons p entries =>
      cases n with
      | zero =>
          rw [sanitizeEntries] at h
          exact absurd h List.not_mem_nil
      | succ n =>
          obtain ⟨key, value⟩ := p
          rw [sanitizeEntries, entriesTexts] at h
          rcases List.mem_append.mp h with h | h
          · split at h
            · exact List.mem_singleton.mp h ▸ hredacted
            · exact sanitizeValue_texts hredacted hshown _ depth value text h
          · exact sanitizeEntries_texts hredacted hshown depth n entries text h

theorem sanitizeItems_texts (hredacted : P z.redactedValue)
    (hshown : ∀ keyLower value, P (z.shownText keyLower value)) (keyLower : PyStr) (depth n : ℕ)
    (items : List (Value Key)) :
    ∀ text ∈ itemsTexts (sanitizeItems z keyLower depth n items), P text := by
  intro text h
  cases items with
  | nil =>
      rw [sanitizeItems] at h
      exact absurd h List.not_mem_nil
  | cons value items =>
      cases n with
      | zero =>
          rw [sanitizeItems] at h
          exact absurd h List.not_mem_nil
      | succ n =>
          rw [sanitizeItems, itemsTexts] at h
          rcases List.mem_append.mp h with h | h
          · exact sanitizeValue_texts hredacted hshown keyLower depth value text h
          · exact sanitizeItems_texts hredacted hshown keyLower depth n items text h

end

/-- What holds of every text that is shown holds of all texts of a sanitized dictionary. -/
theorem sanitizeDict_texts (hredacted : P z.redactedValue)
    (hshown : ∀ keyLower value, P (z.shownText keyLower value))
    (entries : List (Key × Value Key)) : ∀ text ∈ entriesTexts (sanitizeDict z entries), P text :=
  fun text h => sanitizeEntries_texts hredacted hshown 0 entries.length entries text
    (entriesTexts_dictAfter h)

/-! ### Shown texts -/

/-- The tests on texts with the scanner of the program. -/
def scanning (t : RedactionText Key) (u : Alphabet) : RedactionText Key :=
  { t with containsSensitiveUrl := containsSensitiveUrl u }

theorem safe_of_scan {u : Alphabet} {text : PyStr} (h : ¬containsSensitiveUrl u text = true)
    (limit : ℕ) : ¬SensitiveUrl u ((cleanText text).take limit) :=
  fun hshown => h (containsSensitiveUrl_iff.mpr (sensitiveUrl_of_shown hshown))

theorem shownAuditText_safe (t : RedactionText Key) (u : Alphabet) (keyLower : PyStr)
    (value : Value Key) : ¬SensitiveUrl u (shownAuditText (scanning t u) keyLower value) := by
  unfold shownAuditText
  dsimp only
  split
  · exact redactedValue_safe u
  · next hscan =>
      split
      · exact redactedValue_safe u
      · exact safe_of_scan hscan 256

theorem shownDeliveryText_safe (t : RedactionText Key) (u : Alphabet) (value : Value Key) :
    ¬SensitiveUrl u (shownDeliveryText (scanning t u) value) := by
  unfold shownDeliveryText
  dsimp only
  split
  · exact redactedValue_safe u
  · next hscan =>
      split
      · exact redactedValue_safe u
      · unfold safeText
        dsimp only
        split
        · exact redactedValue_safe u
        · exact safe_of_scan hscan 512

/-- The scanner finds exactly the texts with a sensitive URL, and none of these is among the
texts of audit metadata or of a delivered alert: what cleaning and cutting make of a text that
was not redacted has no sensitive URL either. -/
theorem sensitive_urls_hidden (t : RedactionText Key) (u : Alphabet)
    (entries : List (Key × Value Key)) :
    (∀ text, containsSensitiveUrl u text = true ↔ SensitiveUrl u text) ∧
      (∀ text ∈ entriesTexts (sanitizeMetadata (scanning t u) entries), ¬SensitiveUrl u text) ∧
      ∀ text ∈ entriesTexts (sanitizeAlertForDelivery (scanning t u) entries),
        ¬SensitiveUrl u text :=
  ⟨fun _ => containsSensitiveUrl_iff,
    sanitizeDict_texts (redactedValue_safe u) (shownAuditText_safe t u) entries,
    sanitizeDict_texts (redactedValue_safe u) (fun _ => shownDeliveryText_safe t u) entries⟩

end Walk

end SitBank.Redaction
