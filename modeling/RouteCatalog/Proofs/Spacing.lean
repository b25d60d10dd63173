import RouteCatalog.Proofs.CommentFree
import RouteCatalog.Proofs.Text.Blank

/-!
# Tokens with blanks between them

`Spaced tokens text` says that the text is the tokens in sequence with any blanks before, between
and after them. A gap may be empty unless the tokens at its ends would run together. What is known
of the tokens carries over to the text: `Spaced.closed` for delimiters and `Spaced.stripped` for
comments. `Spaced.split` takes a text apart at one of its tokens.
-/

namespace RouteCatalog

/-- Would two texts, put together, make one word or a comment mark where they meet? -/
def runsTogether (front back : Text) : Bool :=
  (front.getLast?.any isWord && back.head?.any isWord) || opensComment front back

/-- The text is the tokens in sequence, with blanks before, between and after them. -/
inductive Spaced : List Text → Text → Prop where
  | done {gap : Text} (blank : gap.isBlankText = true) : Spaced [] gap
  | token {gap token text : Text} {tokens : List Text} (blank : gap.isBlankText = true)
      (apart : runsTogether token text = false) (rest : Spaced tokens text) :
      Spaced (token :: tokens) (gap ++ token ++ text)

/-- The tokens of one text after another, each group of delimiters around balanced tokens and every
other token closed. -/
inductive Balanced : List Text → Prop where
  | nil : Balanced []
  | token {token : Text} {tokens : List Text} (closed : isClosed token = true)
      (rest : Balanced tokens) : Balanced (token :: tokens)
  | group {inside tokens : List Text} (kind : Delimiter) (balanced : Balanced inside)
      (rest : Balanced tokens) :
      Balanced ([kind.opener] :: (inside ++ [kind.closer] :: tokens))

/-- Balanced tokens in sequence are balanced. -/
theorem Balanced.append {front back : List Text} (first : Balanced front) (second : Balanced back) :
    Balanced (front ++ back) := by
  induction first with
  | nil => exact second
  | token closed _ inductionHypothesis => exact .token closed inductionHypothesis
  | group kind balanced _ _ inductionHypothesis =>
    simpa using Balanced.group kind balanced inductionHypothesis

theorem Balanced.flatMap {α : Type} {items : List α} {tokensOf : α → List Text}
    (each : ∀ item ∈ items, Balanced (tokensOf item)) : Balanced (items.flatMap tokensOf) := by
  induction items with
  | nil => exact .nil
  | cons item rest inductionHypothesis =>
    rw [List.flatMap_cons]
    exact (each item (by simp)).append
      (inductionHypothesis fun other member => each other (List.mem_cons_of_mem _ member))

section Blank

/-- A character of a class is none of the marks if none of them is of the class. -/
theorem not_mem_of_any {inClass : Char → Bool} {character : Char} {marks : Text}
    (holds : inClass character = true) (none : marks.any inClass = false) : character ∉ marks :=
  fun member => List.any_eq_false.mp none character member holds

/-- A blank character is neither a quote nor a delimiter. -/
theorem isPlain_of_isBlank {character : Char} (blank : isBlank character = true) :
    isPlain character = true := by
  have other : character ∉ ['\'', '"', '(', '{', '[', ')', '}', ']'] :=
    not_mem_of_any blank (by decide)
  simp only [List.mem_cons, List.not_mem_nil, or_false, not_or] at other
  simp [isPlain, Quote.ofMark?, Delimiter.isOpener, Delimiter.isCloser, Delimiter.ofOpener?,
    Delimiter.ofCloser?, other]

variable {gap : Text}

/-- Blanks are closed. -/
theorem isClosed_of_blank (blank : gap.isBlankText = true) : isClosed gap = true :=
  isClosed_of_plain (List.all_eq_true.mpr fun character member =>
    isPlain_of_isBlank (List.all_eq_true.mp blank character member))

/-- Blanks hold no comment. -/
theorem isCommentFree_of_blank (blank : gap.isBlankText = true) : isCommentFree gap = true := by
  refine isCommentFree_of_closed (isClosed_of_blank blank) fun member => ?_
  have slash := List.all_eq_true.mp blank '/' member
  exact absurd slash (by decide)

/-- Blanks open no comment with what follows them. -/
theorem opensComment_of_blank (blank : gap.isBlankText = true) (back : Text) :
    opensComment gap back = false := by
  simp only [opensComment, Bool.and_eq_false_iff, beq_eq_false_iff_ne]
  left
  intro last
  have slash := List.all_eq_true.mp blank '/' (List.mem_of_getLast? last)
  exact absurd slash (by decide)

end Blank

namespace Spaced

variable {tokens : List Text} {text : Text}

/-- Nothing runs together with what begins like the text at which it stops. -/
theorem runsTogether_of_append {token front back : Text}
    (apart : runsTogether token (front ++ back) = false) : runsTogether token front = false := by
  cases front with
  | nil => simp [runsTogether, opensComment]
  | cons character rest => simpa [runsTogether, opensComment] using apart

/-- A text of tokens is the text of those before a token, that token, and the text of those behind
it. -/
theorem split {front back : List Text} {token : Text}
    (spaced : Spaced (front ++ token :: back) text) :
    ∃ before after, text = before ++ token ++ after ∧ Spaced front before ∧
      runsTogether token after = false ∧ Spaced back after := by
  induction front generalizing text with
  | nil =>
    cases spaced with
    | token blank apart rest => exact ⟨_, _, rfl, .done blank, apart, rest⟩
  | cons first front inductionHypothesis =>
    cases spaced with
    | token blank apart rest =>
      obtain ⟨before, after, rfl, spacedBefore, spacedAfter⟩ := inductionHypothesis rest
      refine ⟨_, after, ?_, .token blank ?_ spacedBefore, spacedAfter⟩
      · simp only [List.append_assoc]
      · rw [List.append_assoc] at apart
        exact runsTogether_of_append apart

/-- Behind its leading blanks, a text begins with its first token, whatever follows the text. -/
theorem trimStart_token {token : Text} (spaced : Spaced (token :: tokens) text)
    (begins : ∃ first rest, token = first :: rest ∧ isBlank first = false) :
    ∃ rest, Spaced tokens rest ∧
      ∀ behind, Text.trimStart (text ++ behind) = token ++ (rest ++ behind) := by
  obtain ⟨first, others, rfl, mark⟩ := begins
  cases spaced with
  | @token gap _ rest _ blank _ spacedRest =>
    refine ⟨rest, spacedRest, fun behind => ?_⟩
    rw [List.append_assoc, List.append_assoc, Text.trimStart_append_of_blank blank, List.cons_append,
      Text.trimStart_cons_of_not_blank mark]

/-- A text whose last token is a mark that is no slash opens no comment with what follows it. -/
theorem opensComment_eq_false {mark : Char} (spaced : Spaced (tokens ++ [[mark]]) text)
    (noSlash : mark ≠ '/') (following : Text) : opensComment text following = false := by
  obtain ⟨before, gap, rfl, -, -, spacedGap⟩ := spaced.split
  cases spacedGap with
  | done blank =>
    have blankEnd := opensComment_of_blank blank following
    cases last : gap.getLast? with
    | none => simp [opensComment, List.getLast?_eq_none_iff.mp last, noSlash]
    | some character =>
      simpa [opensComment, List.getLast?_append, List.getLast?_cons, last] using blankEnd

/-- A token that is trimmed is what trimming leaves of a text of it. -/
theorem trim_single {token text : Text} (spaced : Spaced [token] text)
    (trimmed : token.trim = token) : text.trim = token := by
  cases spaced with
  | token blank _ rest =>
    cases rest with
    | done blankBack => rw [Text.trim_between blank blankBack, trimmed]

/-- A text with a token that is not empty is not empty. -/
theorem ne_nil {token : Text} (spaced : Spaced (token :: tokens) text) (nonempty : token ≠ []) :
    text ≠ [] := by
  cases spaced with
  | token => simp [nonempty]

/-- A text of balanced tokens is closed. -/
theorem closed (spaced : Spaced tokens text) (balanced : Balanced tokens) :
    isClosed text = true := by
  induction balanced generalizing text with
  | nil =>
    cases spaced with
    | done blank => exact isClosed_of_blank blank
  | token closed _ inductionHypothesis =>
    cases spaced with
    | token blank _ rest =>
      exact isClosed_append (isClosed_append (isClosed_of_blank blank) closed)
        (inductionHypothesis rest)
  | @group inside tokens kind _ _ insideHypothesis inductionHypothesis =>
    cases spaced with
    | token blank _ rest =>
      obtain ⟨before, after, rfl, spacedInside, _, spacedAfter⟩ := rest.split
      have group := isClosed_group kind (insideHypothesis spacedInside)
      have parts := isClosed_append (isClosed_append (isClosed_of_blank blank) group)
        (inductionHypothesis spacedAfter)
      simpa using parts

/-- A text of tokens without comments keeps all its characters. -/
theorem stripped {scanner : Scanner} (spaced : Spaced tokens text)
    (free : ∀ token ∈ tokens, isCommentFree token = true) (outside : scanner.inString = false) :
    stripCommentsFrom .code scanner text = text := by
  induction spaced generalizing scanner with
  | @done gap blank =>
    have kept := stripCommentsFrom_of_commentFree outside (isCommentFree_of_blank blank)
      (opensComment_of_blank blank [])
    simpa [stripCommentsFrom] using kept
  | @token gap token text tokens blank apart rest inductionHypothesis =>
    have gapFree := isCommentFree_of_blank blank
    have tokenFree := free token (by simp)
    have beyondGap := inString_scan_of_commentFree outside gapFree
    have joint : opensComment token text = false := by
      simp only [runsTogether, Bool.or_eq_false_iff] at apart
      exact apart.2
    rw [List.append_assoc, stripCommentsFrom_of_commentFree outside gapFree
        (opensComment_of_blank blank _),
      stripCommentsFrom_of_commentFree beyondGap tokenFree joint,
      inductionHypothesis (fun other member => free other (by simp [member]))
        (inString_scan_of_commentFree beyondGap tokenFree)]

/-- More blanks may stand before the first token. -/
theorem blanks_append {gap : Text} (blank : gap.isBlankText = true) (spaced : Spaced tokens text) :
    Spaced tokens (gap ++ text) := by
  cases spaced with
  | done blankText => exact .done (by simp [blank, blankText])
  | @token between token text _ blankBetween apart rest =>
    have both : Text.isBlankText (gap ++ between) = true := by simp [blank, blankBetween]
    simpa using Spaced.token both apart rest

/-- The tokens are still the same where line ends are unified, if no token has a carriage return or
begins with a blank. -/
theorem unified (spaced : Spaced tokens text) (noReturn : ∀ token ∈ tokens, '\r' ∉ token)
    (begins : ∀ token ∈ tokens, ∃ first rest, token = first :: rest ∧ isBlank first = false) :
    Spaced tokens (Text.unifyLineEnds text) := by
  induction spaced with
  | @done gap blank =>
    have noFeed : ([] : Text).head? ≠ some '\n' := by simp
    obtain ⟨unified, unifiedBlank, same⟩ := Text.unifyLineEnds_of_blank blank noFeed
    rw [List.append_nil] at same
    rw [same]
    exact .done (by simp [unifiedBlank, Text.unifyLineEnds])
  | @token gap token text tokens blank apart rest inductionHypothesis =>
    have restUnified := inductionHypothesis
      (fun other member => noReturn other (List.mem_cons_of_mem _ member))
      (fun other member => begins other (List.mem_cons_of_mem _ member))
    obtain ⟨first, others, begin, mark⟩ := begins token (by simp)
    have start : (token ++ text).head? ≠ some '\n' := by
      rw [begin]
      rintro feed
      obtain rfl : first = '\n' := by simpa using feed
      exact absurd mark (by decide)
    obtain ⟨unified, unifiedBlank, same⟩ := Text.unifyLineEnds_of_blank blank start
    have stillApart : runsTogether token (Text.unifyLineEnds text) = false := by
      have feed : isWord '\n' = false := by decide
      simp only [runsTogether, opensComment, Text.head?_unifyLineEnds] at apart ⊢
      cases head : text.head? with
      | none => simp
      | some first =>
        by_cases carriage : first = '\r'
        · simp [carriage, feed]
        · simpa [carriage, head] using apart
    rw [List.append_assoc, same, Text.unifyLineEnds_append (noReturn token (by simp)),
      ← List.append_assoc]
    exact .token unifiedBlank stillApart restUnified

end Spaced

/-- The tokens with no blanks but those that keep them apart. -/
def compact : List Text → Text
  | [] => []
  | token :: tokens =>
    if runsTogether token (compact tokens) then token ++ ' ' :: compact tokens
    else token ++ compact tokens

/-- All tokens can be written. -/
theorem spaced_compact (tokens : List Text) : Spaced tokens (compact tokens) := by
  induction tokens with
  | nil => exact .done rfl
  | cons token tokens inductionHypothesis =>
    rw [compact]
    have noGap : Text.isBlankText [] = true := rfl
    split
    · have apart : runsTogether token (' ' :: compact tokens) = false := by
        have space : isWord ' ' = false := by decide
        simp [runsTogether, opensComment, space]
      have space : Text.isBlankText [' '] = true := by decide
      exact .token noGap apart (inductionHypothesis.blanks_append space)
    · rename_i apart
      exact .token noGap (by simpa using apart) inductionHypothesis

end RouteCatalog
