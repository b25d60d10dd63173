import RouteCatalog.Handler.Description
import RouteCatalog.Proofs.Declaration
import RouteCatalog.Proofs.Lexing

/-!
# Where descriptions come from

A description documents `main` if it is the body of a documentation comment that stands directly above the
declaration, comments and code being told apart as for stripping (`DocumentsAt`). The search for a
description does not tell them apart: it takes the first `/**` of the source that fits. If a documentation
comment begins there, it is the one that documents `main` (`documentsAt_of_isFirstMatch`); the marks may as
well stand in a string, in a line comment or inside another comment (`not_describedByComment_string`).
-/

namespace RouteCatalog

/-- The declaration of `main` and the blanks before it. -/
def IsMainDeclaration (declaration : Text) : Prop :=
  ∃ gap first second : Text, gap.isBlankText = true ∧
    first ≠ [] ∧ first.isBlankText = true ∧ second ≠ [] ∧ second.isBlankText = true ∧
    declaration = gap ++ ("export".toList ++ first ++ "const".toList ++ second ++ "main".toList)

/-- The lines of a comment's body without the stars before them and the blanks around them, where something
is left of them, in one line. -/
def foldedLines (body : Text) : Text :=
  Text.join [' '] ((body.lines.map descriptionLine).filter (· ≠ []))

/-- The description is what the documentation comment behind `front` says, which stands directly above code
that declares `main`. -/
def DocumentsAt (source front description : Text) : Prop :=
  ∃ before body declaration after,
    sourceParts source = before ++
      .blockComment ("/**".toList ++ body ++ "*/".toList) :: (declaration.map .code ++ after) ∧
    before.flatMap SourcePart.text = front ∧ IsMainDeclaration declaration ∧
    endsWord (after.flatMap SourcePart.text) = true ∧ description = foldedLines body

/-- The description of a source, if it has one, is what a documentation comment says that stands directly above
`main`. -/
def DescribedByComment (source : Text) : Prop :=
  ∀ description, readDescription? source = some description → ∃ front, DocumentsAt source front description

/-- A documentation comment begins behind `front`, which is more than the four characters of an empty
comment. -/
def BeginsDocumentation (source front : Text) : Prop :=
  ∃ before comment after, sourceParts source = before ++ .blockComment comment :: after ∧
    before.flatMap SourcePart.text = front ∧ "/**".toList <+: comment ∧ 5 ≤ comment.length

/-- What documents `main` begins a documentation comment. -/
theorem DocumentsAt.begins {source front description : Text}
    (documents : DocumentsAt source front description) : BeginsDocumentation source front := by
  obtain ⟨before, body, declaration, after, parts, place, -⟩ := documents
  exact ⟨before, _, _, parts, place, by simp, by simp⟩

/-- A description is read from the lines of a comment, of which something is left. -/
theorem eq_foldedLines {body description : Text} (described : descriptionOfBody? body = some description) :
    description = foldedLines body := by
  simp only [descriptionOfBody?] at described
  split at described
  · cases described
  · rw [← Option.some.inj described, foldedLines]
    congr 2
    funext line
    cases line <;> rfl

/-- The body of a description stands between the marks of a comment and is followed by the declaration of
`main`. -/
theorem exists_of_descriptionBody? {text body : Text} (read : descriptionBody? text = some body) :
    ∃ declaration following, IsMainDeclaration declaration ∧ endsWord following = true ∧
      ¬['*', '/'] <:+: body ∧ text = "/**".toList ++ body ++ "*/".toList ++ (declaration ++ following) := by
  simp only [descriptionBody?, Option.bind_eq_bind, Option.bind_eq_some_iff, Text.after?_eq_some_iff] at read
  obtain ⟨opened, rfl, ⟨inner, behind⟩, broken, following, declared, read⟩ := read
  split at read
  · rename_i ends
    cases read
    obtain ⟨rfl, unclosed⟩ := breakAt?_closing_iff.mp broken
    obtain ⟨first, second, nonempty, blank, nonempty', blank', same⟩ := exists_of_afterConstant? declared
    obtain ⟨gap, gapBlank, start⟩ := Text.exists_trimStart behind
    refine ⟨gap ++ ("export".toList ++ first ++ "const".toList ++ second ++ "main".toList), following,
      ⟨gap, first, second, gapBlank, nonempty, blank, nonempty', blank', rfl⟩, ends, unclosed, ?_⟩
    have behindGap : behind = gap ++ behind.trimStart := start
    rw [behindGap, same]
    simp
  · cases read

/-- Texts of a class without slashes and quotes have neither. -/
theorem plain_of_all {inClass : Char → Bool} {text : Text} (all : text.all inClass = true)
    (apart : ['/', '\'', '"'].any inClass = false) :
    ∀ character ∈ text, character ≠ '/' ∧ Quote.ofMark? character = none := by
  intro character member
  have other := not_mem_of_any (List.all_eq_true.mp all character member) apart
  simp only [List.mem_cons, List.not_mem_nil, or_false, not_or] at other
  exact ⟨other.1, by simp [Quote.ofMark?, other]⟩

/-- The declaration of `main` neither quotes nor marks a comment. -/
theorem IsMainDeclaration.plain {declaration : Text} (declares : IsMainDeclaration declaration) :
    ∀ character ∈ declaration, character ≠ '/' ∧ Quote.ofMark? character = none := by
  obtain ⟨gap, first, second, blank, -, blank', -, blank'', rfl⟩ := declares
  have noBlank : ['/', '\'', '"'].any isBlank = false := by decide
  have noWord : ['/', '\'', '"'].any isWord = false := by decide
  have export' := plain_of_all (by decide : "export".toList.all isWord = true) noWord
  have const' := plain_of_all (by decide : "const".toList.all isWord = true) noWord
  have main' := plain_of_all (by decide : "main".toList.all isWord = true) noWord
  simp only [List.forall_mem_append]
  exact ⟨plain_of_all blank noBlank, ⟨⟨⟨export', plain_of_all blank' noBlank⟩, const'⟩,
    plain_of_all blank'' noBlank⟩, main'⟩

/-- A documentation comment that is read ends with the first closing mark behind its opening one, unless it
is the empty comment. -/
theorem ReadsPart.documentation {scanner next : Scanner} {body following comment rest : Text}
    (reads : ReadsPart scanner ("/**".toList ++ body ++ "*/".toList ++ following)
      (.blockComment comment) next rest)
    (marked : "/**".toList <+: comment) (least : 5 ≤ comment.length) (unclosed : ¬['*', '/'] <:+: body) :
    comment = "/**".toList ++ body ++ "*/".toList ∧ rest = following ∧ next.inString = false := by
  generalize partEq : SourcePart.blockComment comment = part at reads
  generalize textEq : "/**".toList ++ body ++ "*/".toList ++ following = text at reads
  cases reads with
  | kept =>
    simp only [characterPart] at partEq
    split at partEq <;> cases partEq
  | lineComment => cases partEq
  | @blockComment inner _ outside closedFirst =>
    cases partEq
    cases inner with
    | nil => simp at least
    | cons first inner =>
      obtain rfl : '*' = first := by simpa using marked
      have same : body ++ '*' :: '/' :: following = inner ++ '*' :: '/' :: rest := by
        simpa using textEq
      have innerUnclosed : ¬['*', '/'] <:+: inner :=
        fun inInner => closedFirst (inInner.trans (List.suffix_cons '*' inner).isInfix)
      -- Both bodies end with the first closing mark of the same text.
      have broken := breakAt?_closing_iff.mpr ⟨same, innerUnclosed⟩
      rw [breakAt?_closing_iff.mpr ⟨rfl, unclosed⟩] at broken
      cases broken
      exact ⟨by simp, rfl, outside⟩
  | @openComment inner outside neverClosed =>
    have same : inner = '*' :: body ++ '*' :: '/' :: following := by
      simpa using textEq.symm
    exact absurd ⟨'*' :: body, following, by simp [same]⟩ neverClosed

/-- A description that is read where a documentation comment begins documents `main`. -/
theorem documentsAt_of_isFirstMatch {source front body description : Text}
    (found : IsFirstMatch descriptionBody? source front body) (begins : BeginsDocumentation source front)
    (described : descriptionOfBody? body = some description) : DocumentsAt source front description := by
  obtain ⟨rest, source_eq, read, -⟩ := found
  obtain ⟨declaration, following, declares, ends, unclosed, rfl⟩ := exists_of_descriptionBody? read
  obtain ⟨before, comment, after, parts, rfl, marked, least⟩ := begins
  obtain ⟨fuel, scanner, rest, enough, partsOfRest, same⟩ := exists_partsWithin_behind le_rfl parts
  obtain rfl := List.append_cancel_left (source_eq.symm.trans same)
  have nonempty : "/**".toList ++ body ++ "*/".toList ++ (declaration ++ following) ≠ [] := by simp
  obtain ⟨part, next, behind, reads, partsBehind⟩ := exists_readsPart scanner nonempty
  cases fuel with
  | zero => simp at enough
  | succ fuel =>
    have shorter := reads.length_lt
    rw [partsBehind] at partsOfRest
    obtain ⟨rfl, others⟩ := List.cons.inj partsOfRest
    obtain ⟨rfl, rfl, outside⟩ := reads.documentation marked least unclosed
    have enoughBehind : (declaration ++ following).length ≤ fuel := by omega
    obtain ⟨remaining, last, enoughLeft, code⟩ :=
      partsWithin_code outside declares.plain enoughBehind
    refine ⟨before, body, declaration, partsWithin remaining last following, ?_, rfl, declares, ?_,
      eq_foldedLines described⟩
    · rw [parts, ← others, code]
    · rw [flatMap_partsWithin enoughLeft]
      exact ends

/-- A description documents `main` exactly if it is read where a documentation comment begins, unless another
comment happens to document `main` with the same text. -/
theorem describedByComment_iff (source : Text) : DescribedByComment source ↔
    ∀ front body description, IsFirstMatch descriptionBody? source front body →
      descriptionOfBody? body = some description →
      BeginsDocumentation source front ∨ ∃ other, other ≠ front ∧ DocumentsAt source other description := by
  have read_iff : ∀ description, readDescription? source = some description ↔
      ∃ front body, IsFirstMatch descriptionBody? source front body ∧
        descriptionOfBody? body = some description := by
    intro description
    simp only [readDescription?, Option.bind_eq_some_iff, firstMatch_eq_some_iff]
    exact ⟨fun ⟨body, ⟨front, found⟩, described⟩ => ⟨front, body, found, described⟩,
      fun ⟨front, body, found, described⟩ => ⟨body, ⟨front, found⟩, described⟩⟩
  constructor
  · intro holds front body description found described
    obtain ⟨place, documents⟩ := holds description ((read_iff description).mpr ⟨front, body, found, described⟩)
    by_cases here : place = front
    · exact .inl (here ▸ documents.begins)
    · exact .inr ⟨place, here, documents⟩
  · intro begins description read
    obtain ⟨front, body, found, described⟩ := (read_iff description).mp read
    rcases begins front body description found described with here | ⟨other, -, documents⟩
    · exact ⟨front, documentsAt_of_isFirstMatch found here described⟩
    · exact ⟨other, documents⟩

/-- A string that ends with `/**` begins no comment, but what follows it is read as a description up to the
end of the next comment, though that one is no documentation comment. -/
theorem not_describedByComment_string :
    ¬DescribedByComment "const p = 'src/**'; /* x */ export const main = 1;".toList := by
  intro holds
  obtain ⟨front, before, body, declaration, after, parts, -⟩ := holds "'; /* x".toList (by decide +kernel)
  have undocumented : ∀ part ∈ sourceParts "const p = 'src/**'; /* x */ export const main = 1;".toList,
      part.isComment = true → part = .blockComment "/* x */".toList := by
    decide +kernel
  have member : .blockComment ("/**".toList ++ body ++ "*/".toList) ∈
      sourceParts "const p = 'src/**'; /* x */ export const main = 1;".toList := by
    rw [parts]
    simp
  simpa using undocumented _ member rfl

end RouteCatalog
