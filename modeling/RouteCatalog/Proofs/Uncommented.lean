import RouteCatalog.Proofs.CommentFree

/-!
# Nothing is left to strip

A text is left as it is exactly if no comment begins in it outside its literals
(`stripCommentsFrom_eq_self_iff`), and what stripping leaves is such a text
(`stripCommentsFrom_stripCommentsFrom`). Taking a comment out could only make a new one of a slash before
it and a mark behind it, but a slash that is code and stands before a comment begins a comment itself.
-/

namespace RouteCatalog

/-- No comment begins where a scan of the text, from `scanner` on, is outside every literal. -/
def HasNoComment (scanner : Scanner) (text : Text) : Prop :=
  ∀ front back, front ++ back = text → (scanner.scan front).inString = false →
    ¬['/', '/'] <+: back ∧ ¬['/', '*'] <+: back

section Opening

variable {scanner : Scanner} {character : Char} {rest text : Text}

/-- A comment opens at a character exactly if its mark stands there. -/
theorem opensComment_singleton_iff : opensComment [character] rest = true ↔
    ['/', '/'] <+: character :: rest ∨ ['/', '*'] <+: character :: rest := by
  cases rest with
  | nil => simp [opensComment]
  | cons next rest =>
    simp only [opensComment, List.getLast?_singleton, List.head?_cons, Bool.and_eq_true, Bool.or_eq_true,
      beq_iff_eq, Option.some.injEq, List.cons_prefix_cons, List.nil_prefix, and_true, ← and_or_left,
      @eq_comm _ character, @eq_comm _ next]

/-- There is no comment in a text exactly if none begins with its first character and none behind it. -/
theorem hasNoComment_cons_iff : HasNoComment scanner (character :: rest) ↔
    (scanner.inString = true ∨ opensComment [character] rest = false) ∧
      HasNoComment (scanner.feed character) rest := by
  have here : (scanner.inString = true ∨ opensComment [character] rest = false) ↔
      (scanner.inString = false →
        ¬['/', '/'] <+: character :: rest ∧ ¬['/', '*'] <+: character :: rest) := by
    rw [← Bool.not_eq_true (opensComment _ _), opensComment_singleton_iff, not_or]
    cases scanner.inString <;> simp
  rw [here]
  constructor
  · intro absent
    refine ⟨fun outside => absent [] _ rfl outside, fun front back parts outside => ?_⟩
    exact absent (character :: front) back (congrArg _ parts) outside
  · rintro ⟨begins, behind⟩ front back parts outside
    cases front with
    | nil =>
      obtain rfl : back = character :: rest := parts
      exact begins outside
    | cons first front =>
      obtain ⟨rfl, rfl⟩ := List.cons.inj parts
      exact behind front back rfl outside

/-- Stripping leaves a text as it is exactly if there is no comment in it. -/
theorem stripCommentsFrom_eq_self_iff :
    stripCommentsFrom .code scanner text = text ↔ HasNoComment scanner text := by
  induction text generalizing scanner with
  | nil => simp [stripCommentsFrom, HasNoComment]
  | cons character rest inductionHypothesis =>
    rw [stripCommentsFrom_cons_eq_iff, hasNoComment_cons_iff, inductionHypothesis]

end Opening

section Twice

variable {scanner : Scanner} {rest : Text}

/-- The first character stays if it is no slash. -/
theorem head?_stripCommentsFrom (noSlash : rest.head? ≠ some '/') :
    (stripCommentsFrom .code scanner rest).head? = rest.head? := by
  cases rest with
  | nil => rfl
  | cons first rest =>
    have apart : opensComment [first] rest = false := by
      simp only [List.head?_cons, ne_eq, Option.some.injEq] at noSlash
      simp [opensComment, noSlash]
    rw [stripCommentsFrom_cons (.inr apart)]
    rfl

/-- A character at which no comment opens is none at which one opens when the comments behind it are
stripped. -/
theorem opensComment_stripCommentsFrom {character : Char}
    (apart : opensComment [character] rest = false) (next : Scanner) :
    opensComment [character] (stripCommentsFrom .code next rest) = false := by
  by_cases slash : character = '/'
  · subst slash
    have noSlash : rest.head? ≠ some '/' := fun begins => by simp [opensComment, begins] at apart
    unfold opensComment at apart ⊢
    rwa [head?_stripCommentsFrom noSlash]
  · simp [opensComment, slash]

/-- What stripping leaves, it leaves when it is done again. -/
theorem stripCommentsFrom_stripCommentsFrom (state : CommentState) (scanner : Scanner) (text : Text) :
    stripCommentsFrom .code scanner (stripCommentsFrom state scanner text) =
      stripCommentsFrom state scanner text := by
  induction text generalizing state scanner with
  | nil => cases state <;> rfl
  | cons character rest inductionHypothesis =>
    cases state with
    | code =>
      rw [stripCommentsFrom]
      split
      · exact inductionHypothesis _ _
      · split
        · exact inductionHypothesis _ _
        · -- The character is kept, and no comment opens at it.
          have apart : scanner.inString = true ∨ opensComment [character] rest = false := by
            cases inside : scanner.inString <;> simp_all [opensComment]
          exact stripCommentsFrom_cons_eq_iff.mpr
            ⟨apart.imp_right fun apart => opensComment_stripCommentsFrom apart _, inductionHypothesis _ _⟩
    | lineComment =>
      rw [stripCommentsFrom]
      split
      · rename_i feed
        have apart : ∀ following, opensComment [character] following = false := by
          simp [opensComment, feed]
        exact stripCommentsFrom_cons_eq_iff.mpr ⟨.inr (apart _), inductionHypothesis _ _⟩
      · exact inductionHypothesis _ _
    | openingStar => exact inductionHypothesis _ _
    | blockComment =>
      rw [stripCommentsFrom]
      split
      · exact inductionHypothesis _ _
      · exact inductionHypothesis _ _
    | closingSlash => exact inductionHypothesis _ _

end Twice

/-- What stripping leaves stays as it is when it is stripped again, and there is no comment in it. No other
texts stay as they are but those without comments. -/
theorem stripComments_stripComments (text : Text) :
    stripComments (stripComments text) = stripComments text ∧
      HasNoComment .start (stripComments text) ∧
      (stripComments text = text ↔ HasNoComment .start text) := by
  have twice : stripComments (stripComments text) = stripComments text :=
    stripCommentsFrom_stripCommentsFrom .code .start text
  exact ⟨twice, stripCommentsFrom_eq_self_iff.mp twice, stripCommentsFrom_eq_self_iff⟩

/-- Comments next to each other and to a slash, one with a quote in it, and a literal that is not closed. -/
example : stripComments "/**//*'*/a/b/*/*//'//".toList = "a/b/'//".toList := by
  decide

end RouteCatalog
