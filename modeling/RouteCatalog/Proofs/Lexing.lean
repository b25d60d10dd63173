import RouteCatalog.Proofs.Commented
import RouteCatalog.Proofs.Text.Blank

/-!
# The parts of source text

`sourceParts` takes source text apart into characters of code, characters of string literals, and comments.
The parts in sequence are the text (`flatMap_sourceParts`), and those that are no comments are what is left
when comments are stripped (`stripComments_eq_flatMap`), so both draw the same borders. What reading one part
can be is stated once, as `ReadsPart`.
-/

namespace RouteCatalog

/-- A part of source text: a character outside comments, or a whole comment with its marks. -/
inductive SourcePart where
  | code (character : Char)
  /-- A character inside a string literal, or one of its marks. -/
  | literal (character : Char)
  | lineComment (text : Text)
  | blockComment (text : Text)
  deriving DecidableEq, Repr

namespace SourcePart

/-- The part as it stands in the source. -/
def text : SourcePart → Text
  | code character | literal character => [character]
  | lineComment text | blockComment text => text

def isComment : SourcePart → Bool
  | code _ | literal _ => false
  | lineComment _ | blockComment _ => true

end SourcePart

/-- A character outside comments belongs to a literal if one is open before or behind it. -/
def characterPart (scanner : Scanner) (character : Char) : SourcePart :=
  if scanner.inString || (scanner.feed character).inString then .literal character
  else .code character

/-- At most `fuel` parts of a text, where `scanner` has read the characters outside comments before it. -/
def partsWithin : (fuel : Nat) → Scanner → Text → List SourcePart
  | 0, _, _ => []
  | _ + 1, _, [] => []
  | fuel + 1, scanner, character :: rest =>
    if scanner.inString = false ∧ character = '/' ∧ rest.head? = some '/' then
      .lineComment (character :: rest.takeWhile (· ≠ '\n')) ::
        partsWithin fuel scanner (rest.dropWhile (· ≠ '\n'))
    else if scanner.inString = false ∧ character = '/' ∧ rest.head? = some '*' then
      match Text.breakAt? "*/".toList (rest.drop 1) with
      | some (body, following) =>
        .blockComment ("/*".toList ++ body ++ "*/".toList) :: partsWithin fuel scanner following
      | none => [.blockComment (character :: rest)]
    else characterPart scanner character :: partsWithin fuel (scanner.feed character) rest

/-- The parts of a text. Every part has a character or more, so the fuel lasts. -/
def sourceParts (source : Text) : List SourcePart :=
  partsWithin source.length .start source

section Closing

variable {text body following : Text}

/-- Before the first closing mark of a text that begins with one there is nothing. -/
theorem eq_nil_of_closing {behind : Text} (unclosed : ¬['*', '/'] <:+: body)
    (same : '*' :: '/' :: behind = body ++ '*' :: '/' :: following) : body = [] := by
  cases body with
  | nil => rfl
  | cons first body =>
    cases body with
    | nil => simp at same
    | cons second body =>
      simp only [List.cons_append, List.cons.injEq] at same
      obtain ⟨rfl, rfl, -⟩ := same
      exact absurd ⟨[], body, rfl⟩ unclosed

/-- A text is broken at the first closing mark of a comment. -/
theorem breakAt?_closing_iff : Text.breakAt? ['*', '/'] text = some (body, following) ↔
    text = body ++ '*' :: '/' :: following ∧ ¬['*', '/'] <:+: body := by
  induction text generalizing body with
  | nil => simp [Text.breakAt?]
  | cons character rest inductionHypothesis =>
    rw [Text.breakAt?]
    cases closed : Text.after? ['*', '/'] (character :: rest) with
    | some behind =>
      have shape : character :: rest = '*' :: '/' :: behind := Text.after?_eq_some_iff.mp closed
      simp only [shape, Option.some.injEq, Prod.mk.injEq]
      constructor
      · rintro ⟨rfl, rfl⟩
        simp
      · rintro ⟨same, unclosed⟩
        obtain rfl := eq_nil_of_closing unclosed same
        simpa using same
    | none =>
      have goesOn : ∀ behind, character :: rest ≠ '*' :: '/' :: behind := by
        intro behind same
        rw [Text.after?_eq_some_iff.mpr (show character :: rest = ['*', '/'] ++ behind from same)] at closed
        cases closed
      constructor
      · intro found
        obtain ⟨⟨inner, behind⟩, broken, same⟩ := Option.map_eq_some_iff.mp found
        obtain ⟨rfl, rfl⟩ := Prod.mk.inj same
        obtain ⟨rfl, unclosed⟩ := inductionHypothesis.mp broken
        refine ⟨rfl, fun inBody => ?_⟩
        rcases List.infix_cons_iff.mp inBody with ⟨others, here⟩ | further
        · exact goesOn (others ++ '*' :: '/' :: behind) (by rw [← List.cons_append, ← here]; rfl)
        · exact unclosed further
      · rintro ⟨same, unclosed⟩
        cases body with
        | nil => exact absurd same (goesOn following)
        | cons first body =>
          obtain ⟨rfl, rfl⟩ := List.cons.inj same
          have further : ¬['*', '/'] <:+: body :=
            fun inBody => unclosed (inBody.trans (List.suffix_cons _ _).isInfix)
          rw [inductionHypothesis.mpr ⟨rfl, further⟩]
          rfl

/-- A text that is not broken holds no closing mark. -/
theorem unclosed_of_breakAt?_eq_none (unbroken : Text.breakAt? ['*', '/'] text = none) :
    ¬['*', '/'] <:+: text := by
  induction text with
  | nil => simp
  | cons character rest inductionHypothesis =>
    rw [Text.breakAt?] at unbroken
    cases closed : Text.after? ['*', '/'] (character :: rest) with
    | some behind => simp [closed] at unbroken
    | none =>
      rw [closed] at unbroken
      intro inText
      rcases List.infix_cons_iff.mp inText with ⟨others, here⟩ | further
      · rw [Text.after?_eq_some_iff.mpr here.symm] at closed
        cases closed
      · exact inductionHypothesis (Option.map_eq_none_iff.mp unbroken) further

end Closing

/-- A comment that is not closed goes on to the end of the text. -/
theorem stripCommentsFrom_openComment {scanner : Scanner} {body : Text}
    (unclosed : ¬['*', '/'] <:+: body) : stripCommentsFrom .blockComment scanner body = [] := by
  induction body with
  | nil => rfl
  | cons character body inductionHypothesis =>
    have goesOn : ¬(character = '*' ∧ body.head? = some '/') := by
      rintro ⟨rfl, next⟩
      obtain ⟨following, rfl⟩ := List.head?_eq_some_iff.mp next
      exact unclosed ⟨[], following, rfl⟩
    rw [stripCommentsFrom, if_neg goesOn]
    exact inductionHypothesis fun inBody =>
      unclosed (inBody.trans (List.suffix_cons character body).isInfix)

/-- Reading one part of a text, and the scan and the text behind it. -/
inductive ReadsPart : Scanner → Text → SourcePart → Scanner → Text → Prop where
  | kept {scanner : Scanner} {character : Char} {rest : Text}
      (alone : ∀ mark, mark = '/' ∨ mark = '*' →
        ¬(scanner.inString = false ∧ character = '/' ∧ rest.head? = some mark)) :
      ReadsPart scanner (character :: rest) (characterPart scanner character)
        (scanner.feed character) rest
  | lineComment {scanner : Scanner} {body rest : Text} (outside : scanner.inString = false)
      (oneLine : '\n' ∉ body) (ends : ∀ character, rest.head? = some character → character = '\n') :
      ReadsPart scanner ('/' :: '/' :: (body ++ rest)) (.lineComment ('/' :: '/' :: body)) scanner rest
  | blockComment {scanner : Scanner} {body rest : Text} (outside : scanner.inString = false)
      (unclosed : ¬['*', '/'] <:+: body) :
      ReadsPart scanner ('/' :: '*' :: (body ++ '*' :: '/' :: rest))
        (.blockComment ('/' :: '*' :: (body ++ ['*', '/']))) scanner rest
  | openComment {scanner : Scanner} {body : Text} (outside : scanner.inString = false)
      (unclosed : ¬['*', '/'] <:+: body) :
      ReadsPart scanner ('/' :: '*' :: body) (.blockComment ('/' :: '*' :: body)) scanner []

namespace ReadsPart

variable {scanner next : Scanner} {text rest : Text} {part : SourcePart}

/-- The part is what stands before the rest. -/
theorem text_eq (reads : ReadsPart scanner text part next rest) : text = part.text ++ rest := by
  cases reads with
  | kept alone =>
    simp only [characterPart]
    split <;> rfl
  | lineComment => rfl
  | blockComment => simp [SourcePart.text]
  | openComment => simp [SourcePart.text]

/-- No part is empty. -/
theorem length_lt (reads : ReadsPart scanner text part next rest) : rest.length < text.length := by
  cases reads <;> simp only [List.length_cons, List.length_append, List.length_nil] <;> omega

/-- Stripping leaves out the part if it is a comment. -/
theorem stripCommentsFrom_eq (reads : ReadsPart scanner text part next rest) :
    stripCommentsFrom .code scanner text =
      (if part.isComment then [] else part.text) ++ stripCommentsFrom .code next rest := by
  cases reads with
  | @kept character _ alone =>
    have kept : (characterPart scanner character).isComment = false ∧
        (characterPart scanner character).text = [character] := by
      simp only [characterPart]
      split <;> exact ⟨rfl, rfl⟩
    rw [stripCommentsFrom, if_neg (alone '/' (.inl rfl)), if_neg (alone '*' (.inr rfl)), kept.1, kept.2]
    rfl
  | lineComment outside oneLine ends =>
    simpa [SourcePart.isComment, stripCommentsFrom, outside] using stripCommentsFrom_lineComment oneLine ends
  | blockComment outside unclosed =>
    simpa [SourcePart.isComment, stripCommentsFrom, outside] using stripCommentsFrom_blockComment unclosed
  | openComment outside unclosed =>
    simpa [SourcePart.isComment, stripCommentsFrom, outside] using
      stripCommentsFrom_openComment unclosed

end ReadsPart

/-- A text that is not empty begins with a part, and the other parts are those of the rest. -/
theorem exists_readsPart (scanner : Scanner) {text : Text} (nonempty : text ≠ []) :
    ∃ part next rest, ReadsPart scanner text part next rest ∧
      ∀ fuel, partsWithin (fuel + 1) scanner text = part :: partsWithin fuel next rest := by
  obtain ⟨character, rest, rfl⟩ := List.exists_cons_of_ne_nil nonempty
  by_cases line : scanner.inString = false ∧ character = '/' ∧ rest.head? = some '/'
  · obtain ⟨outside, rfl, begins⟩ := line
    obtain ⟨body, rfl⟩ := List.head?_eq_some_iff.mp begins
    have oneLine : '\n' ∉ body.takeWhile (· ≠ '\n') := fun member => by
      simpa using List.all_eq_true.mp List.all_takeWhile '\n' member
    have ends : ∀ character, (body.dropWhile (· ≠ '\n')).head? = some character → character = '\n' := by
      intro character first
      obtain ⟨others, found⟩ := List.head?_eq_some_iff.mp first
      simpa using Text.not_of_dropWhile_eq_cons found
    have reads := ReadsPart.lineComment outside oneLine ends
    rw [List.takeWhile_append_dropWhile] at reads
    exact ⟨_, _, _, reads, fun fuel => by simp [partsWithin, outside]⟩
  by_cases block : scanner.inString = false ∧ character = '/' ∧ rest.head? = some '*'
  · obtain ⟨outside, rfl, begins⟩ := block
    obtain ⟨body, rfl⟩ := List.head?_eq_some_iff.mp begins
    cases broken : Text.breakAt? ['*', '/'] body with
    | some found =>
      obtain ⟨inner, following⟩ := found
      obtain ⟨rfl, unclosed⟩ := breakAt?_closing_iff.mp broken
      exact ⟨_, _, _, .blockComment outside unclosed, fun fuel => by simp [partsWithin, outside, broken]⟩
    | none =>
      have unclosed := unclosed_of_breakAt?_eq_none broken
      refine ⟨_, _, _, .openComment outside unclosed, fun fuel => ?_⟩
      cases fuel <;> simp [partsWithin, outside, broken]
  · have alone : ∀ mark, mark = '/' ∨ mark = '*' →
        ¬(scanner.inString = false ∧ character = '/' ∧ rest.head? = some mark) := by
      rintro mark (rfl | rfl)
      · exact line
      · exact block
    exact ⟨_, _, _, .kept alone, fun fuel => by rw [partsWithin, if_neg line, if_neg block]⟩

section Parts

variable {fuel : Nat} {scanner : Scanner} {text : Text}

/-- A text is read part by part to its end. -/
theorem induction_partsWithin {property : Scanner → Text → List SourcePart → Prop}
    (done : ∀ scanner, property scanner [] [])
    (step : ∀ scanner text part next rest parts, ReadsPart scanner text part next rest →
      property next rest parts → property scanner text (part :: parts))
    (enough : text.length ≤ fuel) : property scanner text (partsWithin fuel scanner text) := by
  induction fuel generalizing scanner text with
  | zero =>
    obtain rfl := List.length_eq_zero_iff.mp (Nat.le_zero.mp enough)
    exact done scanner
  | succ fuel inductionHypothesis =>
    by_cases empty : text = []
    · subst empty
      exact done scanner
    · obtain ⟨part, next, rest, reads, parts⟩ := exists_readsPart scanner empty
      have shorter := reads.length_lt
      rw [parts]
      exact step _ _ _ _ _ _ reads (inductionHypothesis (by omega))

/-- The parts of a text in sequence are the text. -/
theorem flatMap_partsWithin (enough : text.length ≤ fuel) :
    (partsWithin fuel scanner text).flatMap SourcePart.text = text :=
  induction_partsWithin (fun _ => rfl)
    (fun _ text part _ rest parts reads (same : parts.flatMap SourcePart.text = rest) => by
      rw [reads.text_eq, List.flatMap_cons, same]) enough

/-- What stripping keeps are the parts that are no comments. -/
theorem stripCommentsFrom_eq_flatMap (enough : text.length ≤ fuel) :
    stripCommentsFrom .code scanner text =
      ((partsWithin fuel scanner text).filter fun part => !part.isComment).flatMap SourcePart.text := by
  let kept (parts : List SourcePart) : Text :=
    (parts.filter fun part => !part.isComment).flatMap SourcePart.text
  have step : ∀ scanner text part next rest parts, ReadsPart scanner text part next rest →
      stripCommentsFrom .code next rest = kept parts →
      stripCommentsFrom .code scanner text = kept (part :: parts) := by
    intro scanner text part next rest parts reads stripped
    rw [reads.stripCommentsFrom_eq, stripped]
    cases comment : part.isComment <;> simp [kept, comment]
  exact induction_partsWithin (fun _ => rfl) step enough

/-- Behind some of the parts of a text, the others are the parts of what is left of it. -/
theorem exists_partsWithin_behind {before parts : List SourcePart} (enough : text.length ≤ fuel)
    (split : partsWithin fuel scanner text = before ++ parts) :
    ∃ remaining next rest, rest.length ≤ remaining ∧ partsWithin remaining next rest = parts ∧
      text = before.flatMap SourcePart.text ++ rest := by
  induction before generalizing fuel scanner text with
  | nil => exact ⟨fuel, scanner, text, enough, split, rfl⟩
  | cons first before inductionHypothesis =>
    have nonempty : text ≠ [] := by
      rintro rfl
      cases fuel <;> simp [partsWithin] at split
    obtain ⟨part, next, rest, reads, allParts⟩ := exists_readsPart scanner nonempty
    have shorter := reads.length_lt
    cases fuel with
    | zero => omega
    | succ fuel =>
      rw [allParts, List.cons_append] at split
      obtain ⟨rfl, others⟩ := List.cons.inj split
      obtain ⟨remaining, last, ending, enoughLeft, same, rfl⟩ :=
        inductionHypothesis (by omega) others
      refine ⟨remaining, last, ending, enoughLeft, same, ?_⟩
      rw [reads.text_eq, List.flatMap_cons, List.append_assoc]

/-- Characters outside strings that neither quote nor mark a comment are code. -/
theorem partsWithin_code {front rest : Text}
    (outside : scanner.inString = false)
    (plain : ∀ character ∈ front, character ≠ '/' ∧ Quote.ofMark? character = none)
    (enough : (front ++ rest).length ≤ fuel) :
    ∃ remaining next, rest.length ≤ remaining ∧
      partsWithin fuel scanner (front ++ rest) = front.map .code ++ partsWithin remaining next rest := by
  induction front generalizing fuel scanner with
  | nil => exact ⟨fuel, scanner, enough, rfl⟩
  | cons character front inductionHypothesis =>
    obtain ⟨⟨noSlash, noMark⟩, plainRest⟩ := List.forall_mem_cons.mp plain
    have unquoted : ∀ other ∈ [character], Quote.ofMark? other = none :=
      List.forall_mem_singleton.mpr noMark
    have stillOutside : (scanner.feed character).inString = false :=
      inString_scan_of_unquoted outside unquoted
    simp only [List.cons_append, List.length_cons] at enough
    cases fuel with
    | zero => omega
    | succ fuel =>
      obtain ⟨remaining, next, enoughLeft, parts⟩ :=
        inductionHypothesis stillOutside plainRest (by omega : (front ++ rest).length ≤ fuel)
      refine ⟨remaining, next, enoughLeft, ?_⟩
      rw [List.cons_append, partsWithin, if_neg (by simp [noSlash]), if_neg (by simp [noSlash]), parts]
      simp [characterPart, outside, stillOutside]

end Parts

/-- The parts of a source in sequence are the source. -/
theorem flatMap_sourceParts (source : Text) :
    (sourceParts source).flatMap SourcePart.text = source :=
  flatMap_partsWithin le_rfl

/-- The parts that are no comments are the source without its comments. -/
theorem stripComments_eq_flatMap (source : Text) : stripComments source =
    ((sourceParts source).filter fun part => !part.isComment).flatMap SourcePart.text :=
  stripCommentsFrom_eq_flatMap le_rfl

end RouteCatalog
