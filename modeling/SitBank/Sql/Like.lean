import Mathlib.Data.List.Infix
import Mathlib.Data.Nat.Notation

/-!
`LIKE` patterns, over characters of any type.

A pattern is read once: a percent sign stands for any text, an underscore for any character, and
the escape character makes a literal of what follows it. A text that is escaped is read as its own
characters, so that between percent signs it asks for a piece of the text.
-/

namespace SitBank.Sql

/-- The three characters with a meaning of their own. -/
structure LikeSyntax (α : Type) where
  percent : α
  underscore : α
  escape : α
  percent_ne : percent ≠ escape
  underscore_ne : underscore ≠ escape
  underscore_ne_percent : underscore ≠ percent

inductive Token (α : Type)
  | anyText
  | anyChar
  | char (c : α)
  deriving DecidableEq

namespace LikeSyntax

variable {α : Type} [DecidableEq α] (s : LikeSyntax α)

def token (c : α) : Token α :=
  if c = s.percent then .anyText else if c = s.underscore then .anyChar else .char c

/-- `none` where the pattern ends in the escape character. -/
def tokens : List α → Option (List (Token α))
  | [] => some []
  | c :: p =>
      if c = s.escape then
        match p with
        | [] => none
        | d :: p => (tokens p).map (.char d :: ·)
      else (tokens p).map (s.token c :: ·)

end LikeSyntax

section Matches

variable {α : Type} [DecidableEq α]

def Token.accepts : Token α → α → Bool
  | .char c, d => c = d
  | _, _ => true

def tokensMatch : List (Token α) → List α → Bool
  | [], text => text.isEmpty
  | .anyText :: ts, text => text.tails.any (tokensMatch ts)
  | t :: ts, text => text.head?.any t.accepts && tokensMatch ts text.tail

/-- `text LIKE pattern ESCAPE escape`, `none` where it raises. -/
def LikeSyntax.like (s : LikeSyntax α) (pattern text : List α) : Option Bool :=
  (s.tokens pattern).map (tokensMatch · text)

theorem tokensMatch_nil {text : List α} : tokensMatch [] text = text.isEmpty := rfl

theorem tokensMatch_chars {q : List α} {ts : List (Token α)} {text : List α} :
    tokensMatch (q.map Token.char ++ ts) text = true ↔
      ∃ rest, text = q ++ rest ∧ tokensMatch ts rest = true := by
  induction q generalizing text with
  | nil => simp
  | cons c q ih =>
      cases text with
      | nil => simp [tokensMatch]
      | cons d text =>
          simp only [List.map_cons, List.cons_append, tokensMatch, List.head?_cons, Option.any_some,
            Token.accepts, List.tail_cons, Bool.and_eq_true, decide_eq_true_eq, ih,
            List.cons.injEq]
          constructor
          · rintro ⟨rfl, rest, rfl, h⟩
            exact ⟨rest, ⟨rfl, rfl⟩, h⟩
          · rintro ⟨rest, ⟨rfl, rfl⟩, h⟩
            exact ⟨rfl, rest, rfl, h⟩

theorem tokensMatch_anyText {ts : List (Token α)} {text : List α} :
    tokensMatch (.anyText :: ts) text = true ↔
      ∃ before rest, text = before ++ rest ∧ tokensMatch ts rest = true := by
  simp only [tokensMatch, List.any_eq_true, List.mem_tails]
  constructor
  · rintro ⟨rest, ⟨before, rfl⟩, h⟩
    exact ⟨before, rest, rfl, h⟩
  · rintro ⟨before, rest, rfl, h⟩
    exact ⟨rest, ⟨before, rfl⟩, h⟩

/-- A piece of the text. -/
theorem tokensMatch_infix {q text : List α} :
    tokensMatch (.anyText :: (q.map Token.char ++ [.anyText])) text = true ↔ q <:+: text := by
  simp only [tokensMatch_anyText, tokensMatch_chars]
  constructor
  · rintro ⟨before, rest, rfl, after, rfl, -⟩
    exact ⟨before, after, List.append_assoc ..⟩
  · rintro ⟨before, after, rfl⟩
    exact ⟨before, q ++ after, List.append_assoc .., after, rfl, after, [],
      (List.append_nil _).symm, rfl⟩

/-- The end of the text. -/
theorem tokensMatch_suffix {q text : List α} :
    tokensMatch (.anyText :: q.map Token.char) text = true ↔ q <:+ text := by
  rw [← List.append_nil (q.map Token.char)]
  simp only [tokensMatch_anyText, tokensMatch_chars, tokensMatch_nil, List.isEmpty_iff]
  constructor
  · rintro ⟨before, rest, rfl, after, rfl, rfl⟩
    exact ⟨before, by rw [List.append_nil]⟩
  · rintro ⟨before, rfl⟩
    exact ⟨before, q, rfl, [], (List.append_nil q).symm, rfl⟩

end Matches

namespace LikeSyntax

variable {α : Type} [DecidableEq α] (s : LikeSyntax α)

/-- `value.replace(c, escape + c)`. -/
def guardChar (c : α) (value : List α) : List α :=
  value.flatMap fun d => if d = c then [s.escape, d] else [d]

/-- The escape characters first, then the others. -/
def likeEscape (value : List α) : List α :=
  s.guardChar s.underscore (s.guardChar s.percent (s.guardChar s.escape value))

def special (c : α) : Bool := c = s.escape || c = s.percent || c = s.underscore

theorem likeEscape_eq (value : List α) :
    s.likeEscape value = value.flatMap fun c => if s.special c then [s.escape, c] else [c] := by
  unfold likeEscape guardChar
  rw [List.flatMap_assoc, List.flatMap_assoc]
  refine congrArg (fun f => List.flatMap f value) (funext fun c => ?_)
  have h₁ := s.percent_ne.symm
  have h₂ := s.underscore_ne.symm
  have h₃ := s.underscore_ne_percent
  by_cases hc : c = s.escape
  · subst hc
    simp [special, h₁, h₂]
  · by_cases hp : c = s.percent
    · subst hp
      simp [special, hc, h₂, h₃.symm]
    · by_cases hu : c = s.underscore
      · subst hu
        simp [special, s.underscore_ne, h₃]
      · simp [special, hc, hp, hu]

/-- A map that keeps the special characters commutes with the escaping. -/
theorem likeEscape_map {f : α → α} (hspecial : ∀ c, s.special (f c) = s.special c)
    (hescape : f s.escape = s.escape) (value : List α) :
    (s.likeEscape value).map f = s.likeEscape (value.map f) := by
  rw [likeEscape_eq, likeEscape_eq, List.map_flatMap, List.flatMap_map]
  refine congrArg (fun g => List.flatMap g value) (funext fun c => ?_)
  by_cases hc : s.special c = true
  · rw [if_pos hc, if_pos (by rwa [hspecial])]
    simp [hescape]
  · rw [if_neg hc, if_neg (by rwa [hspecial])]
    rfl

theorem tokens_cons {c : α} (h : c ≠ s.escape) (pattern : List α) :
    s.tokens (c :: pattern) = (s.tokens pattern).map (s.token c :: ·) := by
  cases pattern with
  | nil => simp [tokens, h]
  | cons d pattern => simp [tokens, h]

/-- An escaped text is read as its characters. -/
theorem tokens_likeEscape (value pattern : List α) :
    s.tokens (s.likeEscape value ++ pattern) =
      (s.tokens pattern).map (value.map Token.char ++ ·) := by
  rw [likeEscape_eq]
  induction value with
  | nil => simp
  | cons c value ih =>
      rw [List.flatMap_cons]
      by_cases hc : s.special c = true
      · rw [if_pos hc]
        simp only [List.cons_append, List.nil_append, tokens, if_true, ih, Option.map_map]
        rfl
      · rw [if_neg hc]
        rw [special, Bool.or_eq_true, Bool.or_eq_true, not_or, not_or] at hc
        simp only [decide_eq_true_eq] at hc
        obtain ⟨⟨hescape, hpercent⟩, hunderscore⟩ := hc
        simp only [List.cons_append, List.nil_append, s.tokens_cons hescape, token,
          if_neg hpercent, if_neg hunderscore, ih, Option.map_map]
        rfl

theorem tokens_percent (pattern : List α) :
    s.tokens (s.percent :: pattern) = (s.tokens pattern).map (.anyText :: ·) := by
  rw [s.tokens_cons s.percent_ne, token, if_pos rfl]

/-- `f"%{_like_escape(value)}%"` asks for a piece of the text. -/
theorem like_contains (value text : List α) :
    s.like (s.percent :: (s.likeEscape value ++ [s.percent])) text =
      some (decide (value <:+: text)) := by
  have htokens : s.tokens (s.percent :: (s.likeEscape value ++ [s.percent])) =
      some (.anyText :: (value.map Token.char ++ [.anyText])) := by
    rw [tokens_percent, tokens_likeEscape, tokens_percent]
    rfl
  rw [like, htokens, Option.map_some, Option.some.injEq, Bool.eq_iff_iff, tokensMatch_infix,
    decide_eq_true_eq]

/-- `f"%{_like_escape(value)}"` asks for the end of the text. -/
theorem like_endsWith (value text : List α) :
    s.like (s.percent :: s.likeEscape value) text = some (decide (value <:+ text)) := by
  have htokens : s.tokens (s.percent :: s.likeEscape value) =
      some (.anyText :: value.map Token.char) := by
    rw [tokens_percent, ← List.append_nil (s.likeEscape value), tokens_likeEscape]
    simp [tokens]
  rw [like, htokens, Option.map_some, Option.some.injEq, Bool.eq_iff_iff, tokensMatch_suffix,
    decide_eq_true_eq]

end LikeSyntax

end SitBank.Sql
