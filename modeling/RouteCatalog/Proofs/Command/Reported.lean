import RouteCatalog.Proofs.Catalog.Bounded
import RouteCatalog.Proofs.Command.Preparation
import RouteCatalog.Proofs.Sample.Short
import RouteCatalog.Proofs.Text.Utf8

/-!
# What goes wrong with a catalog document is reported

A run that reads a catalog document should come to an end, or to one message and nothing else. It does
exactly if the bytes of the file are the document of a catalog and what is asked for can be shown:
`document_reported_iff`. Bytes that are no text, a text that is no document, and numbers or indents
that cannot be written break the run off: `not_isReported_document`.
-/

namespace RouteCatalog

/-- The run was all right, or it has status 1 and printed one message and nothing else. -/
def Outcome.IsReported (outcome : Outcome) : Prop :=
  outcome.ending.status = 0 ∨ outcome.ending.status = 1 ∧ outcome.output = [] ∧
    ∃ message, outcome.ending.errorOutput = Text.dropSequences ("Error: ".toList ++ message) ++ ['\n']

/-- The bytes of a file are the document of the catalog. -/
def IsDocument (bytes : List UInt8) (catalog : Catalog) : Prop :=
  ∃ text, Utf8.decode bytes = .ok text ∧ Catalog.read text.unifyLineEnds = .ok catalog

/-- The document that a command reads. -/
def Command.document? : Command → Option Path
  | .extract _ _ _ => none
  | .list document? => document?
  | .describe request => request.document?

/-- The first number in the version does not have too many digits. -/
def HasShortKey (version : Text) : Prop :=
  (leadingDigits (version.dropWhile fun character => !isDigit character)).length ≤ maxIntegerDigits

/-- Is the target one that the request asks for? -/
def ShowRequest.AsksFor (request : ShowRequest) (target : CallTarget) : Prop :=
  target.name = request.name ∧ ∀ version, request.version? = some version → target.version = version

/-- The versions of all signatures that the request asks for can be compared, and the latest of them,
if there is one, can be shown. -/
structure ShowRequest.CanAnswer {α : Type} (request : ShowRequest) (target : α → CallTarget)
    (signatures : List α) (canShow : α → Prop) : Prop where
  versions : ∀ signature ∈ signatures, request.AsksFor (target signature) →
    HasShortKey (target signature).version
  latest : ∀ signature, findLatest target request.name request.version? signatures =
    .ok (some signature) → canShow signature

/-- The shapes can be laid out with the indent, and there is an example payload. -/
structure Session.CanShow (session : Session) (settings : Settings) (seed? : Option Int)
    (input : Text) : Prop where
  inRange : indentFault? settings.indent = none
  payload : ∃ payload, session.payload seed? input = .ok payload

/-- What is asked of the catalog can be answered. A listing always can. -/
def Session.CanAnswer (session : Session) (settings : Settings) (catalog : Catalog) : Command → Prop
  | .extract _ _ _ | .list _ => True
  | .describe request =>
    if request.isBroadcast then
      request.CanAnswer Broadcast.target ((firstOf? catalog.broadcasts request.page).getD [])
        fun broadcast => session.CanShow settings request.seed? broadcast.clientInput
    else
      request.CanAnswer Endpoint.target ((firstOf? catalog.endpoints request.page).getD [])
        fun endpoint =>
          (endpoint.rateLimit = .unset → isTooLong settings.defaultRateLimit = false) ∧
            session.CanShow settings request.seed? endpoint.input

/-- No run of digits in the versions and the inputs of the catalog is too long. -/
structure Catalog.IsShort (catalog : Catalog) : Prop where
  endpoints : ∀ page ∈ catalog.endpoints, ∀ endpoint ∈ page.2,
    HasShortNumbers endpoint.version ∧ HasShortNumbers endpoint.input
  broadcasts : ∀ page ∈ catalog.broadcasts, ∀ broadcast ∈ page.2,
    HasShortNumbers broadcast.version ∧ HasShortNumbers broadcast.clientInput

section Latest

variable {α : Type} {target : α → CallTarget} {signatures : List α} {request : ShowRequest}
variable {version : Text}

theorem exists_ofVersion_iff :
    (∃ key, VersionKey.ofVersion version = .ok key) ↔ HasShortKey version := by
  unfold VersionKey.ofVersion HasShortKey
  dsimp only
  split <;> simp_all

theorem HasShortNumbers.hasShortKey (short : HasShortNumbers version) : HasShortKey version := by
  have within : ((version.dropWhile fun character => !isDigit character).takeWhile isDigit) <:+:
      version :=
    (List.takeWhile_prefix isDigit).isInfix.trans (List.dropWhile_suffix _).isInfix
  exact (List.length_filterMap_le _ _).trans
    (short _ within fun character member => List.all_eq_true.mp List.all_takeWhile character member)

/-- The latest of several signatures is one of them. -/
theorem exists_mem_of_latestOf? {items : List (VersionKey × α)} {signature : α}
    (found : latestOf? items = some signature) : ∃ key, (key, signature) ∈ items := by
  cases items with
  | nil => cases found
  | cons first rest =>
    obtain rfl := Option.some.inj found
    suffices member : ∀ first : VersionKey × α, rest.foldl (fun best item =>
        if item.1.precedesOrEq best.1 then best else item) first ∈ first :: rest from
      ⟨_, member first⟩
    clear found first
    induction rest with
    | nil => simp
    | cons second others inductionHypothesis =>
      intro first
      rw [List.foldl_cons]
      split
      · rcases List.mem_cons.mp (inductionHypothesis first) with same | member
        · rw [same]
          exact List.mem_cons_self
        · exact List.mem_cons_of_mem first (List.mem_cons_of_mem second member)
      · exact List.mem_cons_of_mem first (inductionHypothesis second)

theorem mem_of_findLatest {name : Text} {version? : Option Text} {signature : α}
    (found : findLatest target name version? signatures = .ok (some signature)) :
    signature ∈ signatures := by
  obtain ⟨keyed, ran, latest⟩ := bind_eq_ok_iff.mp found
  obtain ⟨key, member⟩ := exists_mem_of_latestOf? (pure_eq_ok_iff.mp latest)
  obtain ⟨candidate, inCandidates, made⟩ := exists_of_mem_mapM ran member
  obtain ⟨_, -, same⟩ := bind_eq_ok_iff.mp made
  obtain ⟨-, rfl⟩ := Prod.mk.inj (pure_eq_ok_iff.mp same)
  exact List.mem_of_mem_filter inCandidates

/-- The signatures of a page are in the catalog. -/
theorem exists_page_of_mem {pages : List (Text × List α)} {name : Text} {signature : α}
    (member : signature ∈ (firstOf? pages name).getD []) : ∃ page ∈ pages, signature ∈ page.2 := by
  cases found : firstOf? pages name with
  | none => simp [found] at member
  | some signatures =>
    obtain ⟨page, first, rfl⟩ := Option.map_eq_some_iff.mp found
    exact ⟨page, List.mem_of_find?_eq_some first, by simpa [found] using member⟩

/-- The candidates are the signatures that the request asks for. -/
theorem ShowRequest.asksFor_iff (request : ShowRequest) {target : CallTarget} :
    (target.name = request.name &&
      match request.version? with
      | none => true
      | some version => target.version = version) = true ↔ request.AsksFor target := by
  cases version : request.version? <;> simp [AsksFor, version]

/-- The latest signature is known, or that there is none, exactly if the versions of all candidates can
be compared. -/
theorem exists_findLatest_iff :
    (∃ found?, findLatest target request.name request.version? signatures = .ok found?) ↔
      ∀ signature ∈ signatures, request.AsksFor (target signature) →
        HasShortKey (target signature).version := by
  have each (signature : α) : (∃ result, (do
        return (← VersionKey.ofVersion (target signature).version, signature)) =
          (.ok result : Except NumberTooLong (VersionKey × α))) ↔
      HasShortKey (target signature).version := by
    rw [← exists_ofVersion_iff]
    cases VersionKey.ofVersion (target signature).version <;> simp [pure, Except.pure]
  simp only [findLatest, bind_eq_ok_iff, pure_eq_ok_iff]
  rw [exists_comm]
  simp only [exists_and_left, exists_eq', and_true, exists_mapM_iff, List.mem_filter, each, and_imp]
  exact forall_congr' fun signature => imp_congr_right fun _ => imp_congr_left request.asksFor_iff

/-- A request can be answered exactly if what it asks for is known, and can be shown if it is there. -/
theorem canAnswer_iff {canShow : α → Prop} : request.CanAnswer target signatures canShow ↔
    ∃ found?, findLatest target request.name request.version? signatures = .ok found? ∧
      ∀ signature, found? = some signature → canShow signature := by
  constructor
  · rintro ⟨versions, latest⟩
    obtain ⟨found?, found⟩ := exists_findLatest_iff.mpr versions
    exact ⟨found?, found, fun signature same => latest signature (same ▸ found)⟩
  · rintro ⟨found?, found, shown⟩
    refine ⟨exists_findLatest_iff.mp ⟨found?, found⟩, fun signature same => shown signature ?_⟩
    exact Except.ok.inj (found.symm.trans same)

end Latest

section Outcomes

variable {outcome : Outcome} {session : Session}

/-- A run that is broken off explains nothing. -/
theorem not_isReported_of_brokenOff {fault : RunFault} (broken : outcome.ending = .brokenOff fault) :
    ¬outcome.IsReported := by
  rintro (fine | ⟨-, -, message, printed⟩)
  · simp [broken, Ending.status] at fine
  · simp [broken, Ending.errorOutput] at printed

theorem isReported_of_done (done : outcome.ending = .done) : outcome.IsReported :=
  .inl (by rw [done]; rfl)

/-- A run that ends with a message that is not abridged, and printed nothing before, is reported. -/
theorem isReported_failed (session : Session) (message : Text) :
    (session.ended (.failed message false)).IsReported :=
  .inr ⟨rfl, rfl, message, rfl⟩

/-- A signature is shown exactly if its shapes can be laid out and there is an example. -/
theorem isReported_showSignature_iff {settings : Settings} {report : SignatureReport}
    {target : CallTarget} {input : Text} {seed? : Option Int} :
    (session.showSignature settings.indent report target input seed?).IsReported ↔
      session.CanShow settings seed? input := by
  unfold Session.showSignature
  cases inRange : indentFault? settings.indent with
  | some fault =>
    refine iff_of_false (not_isReported_of_brokenOff rfl) fun can => ?_
    cases inRange.symm.trans can.inRange
  | none =>
    cases made : session.payload seed? input with
    | error tooLong =>
      refine iff_of_false (not_isReported_of_brokenOff rfl) fun can => ?_
      obtain ⟨payload, found⟩ := can.payload
      rw [made] at found
      cases found
    | ok payload => exact iff_of_true (isReported_of_done rfl) ⟨inRange, payload, made⟩

/-- There is a report of an endpoint exactly if its rate limit can be written. -/
theorem exists_report_iff {endpoint : Endpoint} (bounded : endpoint.rateLimit.IsBounded)
    (default : Int) : (∃ report, endpoint.report default = .ok report) ↔
      (endpoint.rateLimit = .unset → isTooLong default = false) := by
  unfold Endpoint.report RateLimit.reported requestRate
  cases limit : endpoint.rateLimit with
  | unset => cases isTooLong default <;> simp [Except.map, pure, Except.pure]
  | disabled => simp [pure, Except.pure]
  | perMinute requests =>
    rw [limit] at bounded
    have short : isTooLong requests = false := bounded
    simp [short, pure, Except.pure]

/-- What the request asks for of a catalog is shown, or reported to be missing, exactly if it can be
answered. -/
theorem isReported_describe_iff {settings : Settings} {request : ShowRequest} {catalog : Catalog}
    (loaded : session.loadCatalog settings request.document? = .ok catalog)
    (bounded : ∀ page ∈ catalog.endpoints, ∀ endpoint ∈ page.2, endpoint.rateLimit.IsBounded) :
    (session.describe settings request).IsReported ↔
      session.CanAnswer settings catalog (.describe request) := by
  simp only [Session.describe, loaded, Session.CanAnswer, Catalog.findBroadcast,
    Catalog.findEndpoint]
  split
  · rw [canAnswer_iff]
    cases found : findLatest Broadcast.target request.name request.version?
        ((firstOf? catalog.broadcasts request.page).getD []) with
    | error tooLong => exact iff_of_false (not_isReported_of_brokenOff rfl) (by simp)
    | ok found? =>
      cases found? with
      | none => exact iff_of_true (isReported_failed _ _) ⟨none, rfl, nofun⟩
      | some broadcast => simp [isReported_showSignature_iff]
  · rw [canAnswer_iff]
    cases found : findLatest Endpoint.target request.name request.version?
        ((firstOf? catalog.endpoints request.page).getD []) with
    | error tooLong => exact iff_of_false (not_isReported_of_brokenOff rfl) (by simp)
    | ok found? =>
      cases found? with
      | none => exact iff_of_true (isReported_failed _ _) ⟨none, rfl, nofun⟩
      | some endpoint =>
        -- A limit of a document can be written, so only the default is in question.
        obtain ⟨page, inPages, inPage⟩ := exists_page_of_mem (mem_of_findLatest found)
        have written := exists_report_iff (bounded page inPages endpoint inPage)
          settings.defaultRateLimit
        simp only [Except.ok.injEq, exists_eq_left', Option.some.injEq, forall_eq', ← written]
        cases made : endpoint.report settings.defaultRateLimit with
        | error tooLong => exact iff_of_false (not_isReported_of_brokenOff rfl) (by simp)
        | ok report => simp [isReported_showSignature_iff]

end Outcomes

section Documents

variable {session : Session} {settings : Settings} {command : Command} {catalog : Catalog}
variable {path : Path} {location : Location} {bytes : List UInt8}

/-- The document in a file is the catalog that its bytes are the document of; if there is none, reading
it is broken off. -/
theorem readDocument_cases (found : session.workspace.find path = .ok (location, .file bytes)) :
    (∃ catalog, IsDocument bytes catalog ∧ session.readDocument path = .ok catalog) ∨
      (∀ catalog, ¬IsDocument bytes catalog) ∧
        ∃ fault, session.readDocument path = .error (.brokenOff fault) := by
  simp only [Session.readDocument, Workspace.readText, Workspace.readExact, Workspace.readBytes, found,
    IsDocument]
  cases Utf8.decode bytes with
  | error malformed => exact .inr ⟨by simp, _, rfl⟩
  | ok text =>
    simp only [Except.ok.injEq, exists_eq_left', Except.map]
    cases Catalog.read text.unifyLineEnds with
    | error issues => exact .inr ⟨by simp, _, rfl⟩
    | ok catalog => exact .inl ⟨catalog, rfl, rfl⟩

/-- A command that reads a document is reported exactly if there is one in the file, and what is asked
of its catalog can be answered. -/
theorem isReported_perform_iff (reads : command.document? = some path)
    (found : session.workspace.find path = .ok (location, .file bytes)) :
    (session.perform settings command).IsReported ↔
      ∃ catalog, IsDocument bytes catalog ∧ session.CanAnswer settings catalog command := by
  obtain ⟨catalog, document, read⟩ | ⟨none, fault, failed⟩ := readDocument_cases found
  · have only : ∀ other, IsDocument bytes other → other = catalog := by
      rintro other ⟨text, decoded, readOther⟩
      obtain ⟨same, decodedSame, readSame⟩ := document
      obtain rfl := Except.ok.inj (decoded.symm.trans decodedSame)
      exact Except.ok.inj (readOther.symm.trans readSame)
    have unique : (∃ catalog, IsDocument bytes catalog ∧ session.CanAnswer settings catalog command) ↔
        session.CanAnswer settings catalog command :=
      ⟨fun ⟨other, held, can⟩ => only other held ▸ can, fun can => ⟨catalog, document, can⟩⟩
    rw [unique]
    cases command with
    | extract registryPath? sourceRoot? output? => cases reads
    | list document? =>
      obtain rfl : document? = some path := reads
      have listed : session.perform settings (.list (some path)) =
          session.outcome catalog.listing .done := by
        simp only [Session.perform, Session.list, Session.loadCatalog, read]
      rw [listed]
      exact iff_of_true (isReported_of_done rfl) trivial
    | describe request =>
      have asked : request.document? = some path := reads
      obtain ⟨text, -, catalogRead⟩ := document
      exact isReported_describe_iff (by simp only [Session.loadCatalog, asked, read])
        (Catalog.isBounded_of_read catalogRead)
  · refine iff_of_false ?_ fun ⟨catalog, document, _⟩ => none catalog document
    have broken : (session.perform settings command).ending = .brokenOff fault := by
      cases command with
      | extract registryPath? sourceRoot? output? => cases reads
      | list document? =>
        obtain rfl : document? = some path := reads
        simp only [Session.perform, Session.list, Session.loadCatalog, failed]
        rfl
      | describe request =>
        have asked : request.document? = some path := reads
        simp only [Session.perform, Session.describe, Session.loadCatalog, asked, failed]
        rfl
    exact not_isReported_of_brokenOff broken

/-- Where numbers are short and the indent has 64 bits, everything can be answered. -/
theorem canAnswer_of_isShort (session : Session) (short : catalog.IsShort)
    (rate : isTooLong settings.defaultRateLimit = false)
    (inRange : indentFault? settings.indent = none) (command : Command) :
    session.CanAnswer settings catalog command := by
  have shows {input : Text} (shortInput : HasShortNumbers input) (seed? : Option Int) :
      session.CanShow settings seed? input := by
    have sampled : Sampling.Yields (sampleRecord session.now input : Sampling Twister.source Value)
        fun _ => True := yields_sampleRecord shortInput
    obtain ⟨payload, next, made, -⟩ := sampled { state := Twister.ofSeed (seed?.getD session.seed) }
    exact ⟨inRange, payload, congrArg Prod.fst made⟩
  cases command with
  | extract registryPath? sourceRoot? output? => trivial
  | list document? => trivial
  | describe request =>
    unfold Session.CanAnswer
    dsimp only
    split
    · refine ⟨fun broadcast member _ => ?_, fun broadcast found => ?_⟩
      · obtain ⟨page, inPages, inPage⟩ := exists_page_of_mem member
        exact (short.broadcasts page inPages broadcast inPage).1.hasShortKey
      · obtain ⟨page, inPages, inPage⟩ := exists_page_of_mem (mem_of_findLatest found)
        exact shows (short.broadcasts page inPages broadcast inPage).2 _
    · refine ⟨fun endpoint member _ => ?_, fun endpoint found => ⟨fun _ => rate, ?_⟩⟩
      · obtain ⟨page, inPages, inPage⟩ := exists_page_of_mem member
        exact (short.endpoints page inPages endpoint inPage).1.hasShortKey
      · obtain ⟨page, inPages, inPage⟩ := exists_page_of_mem (mem_of_findLatest found)
        exact shows (short.endpoints page inPages endpoint inPage).2 _

variable {group words : List Text} {given : List (Text × Text)} {name : CommandName}

end Documents

/-- A session in a folder with a catalog document. -/
def exampleDocumented (bytes : List UInt8) : Session where
  workspace := {
    here := ["work".toList]
    nodes := [
      (["work".toList], .folder),
      (["work".toList, "docs.json".toList], .file bytes)] }
  now := { year := 2024, month := 2, day := 3, hour := 4, minute := 5, second := 6, microsecond := 7 }

end RouteCatalog
