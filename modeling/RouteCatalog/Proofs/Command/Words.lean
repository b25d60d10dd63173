import RouteCatalog.Command
import RouteCatalog.Proofs.Fallible
import RouteCatalog.Proofs.Keyed

/-!
# Words of a command line in parts

The words of a command line can be sorted part by part: `readFrom_append` for the words of a command,
and `readFrom_group` for options with a command behind them. So an option that is put in where one can
stand is given besides the others and changes nothing else: `read_insert`.
-/

namespace RouteCatalog

/-- The sorted words of two parts of a command line. -/
def Arguments.append (before behind : Arguments) : Arguments :=
  { given := before.given ++ behind.given, positional := before.positional ++ behind.positional }

namespace CommandForm

variable {form : CommandForm} {awaited? : Option AwaitedOption} {front back : List Text}

/-- Can an option follow the words? Not if one of them is still without its value, nor if two hyphens
have ended the options. -/
def isOpenAfter (form : CommandForm) : (awaited? : Option AwaitedOption) → List Text → Bool
  | some _, [] => false
  | some _, _ :: rest => form.isOpenAfter none rest
  | none, [] => true
  | none, word :: rest =>
    if word = ['-', '-'] then false
    else if word.head? = some '-' ∧ word.length ≠ 1 then
      match form.readWord word with
      | .ok options => form.isOpenAfter options.awaited? rest
      | .error _ => true
    else form.isOpenAfter none rest

/-- Words that an option can follow are sorted apart from those behind them. -/
theorem readFrom_append (single : form.isGroup = false)
    (openAfter : form.isOpenAfter awaited? front = true) :
    form.readFrom awaited? (front ++ back) = do
      let before ← form.readFrom awaited? front
      let behind ← form.readFrom none back
      return before.append behind := by
  fun_induction form.isOpenAfter awaited? front with
  | case1 awaited => cases openAfter
  | case2 awaited value rest inductionHypothesis =>
    simp only [List.cons_append, readFrom, inductionHypothesis openAfter, bind_assoc, pure_bind]
    rfl
  | case3 => exact (bind_pure (form.readFrom none back)).symm
  | case4 rest => cases openAfter
  | case5 word rest noEnd hyphen options read inductionHypothesis =>
    simp only [List.cons_append, readFrom, if_neg noEnd, if_pos hyphen, read, ok_bind,
      inductionHypothesis openAfter, bind_assoc, pure_bind, Arguments.append, List.append_assoc]
  | case6 word rest noEnd hyphen fault read =>
    simp only [List.cons_append, readFrom, if_neg noEnd, if_pos hyphen, read]
    rfl
  | case7 word rest noEnd noHyphen inductionHypothesis =>
    simp only [List.cons_append, readFrom, if_neg noEnd, if_neg noHyphen, single,
      Bool.false_eq_true, if_false, inductionHypothesis openAfter, bind_assoc, pure_bind]
    rfl

/-- The options of a group are sorted alike if a command stands behind them. -/
theorem readFrom_group {command : Text} {given : List (Text × Text)} {words : List Text}
    (isGroup : form.isGroup = true) (named : command.head? ≠ some '-')
    (options : form.readFrom awaited? front = .ok { given }) :
    form.readFrom awaited? (front ++ command :: words) =
      .ok { given, positional := command :: words } := by
  fun_induction form.readFrom awaited? front generalizing given with
  | case1 awaited => cases options
  | case2 awaited value rest inductionHypothesis =>
    obtain ⟨⟨behind, positional⟩, sorted, same⟩ := bind_eq_ok_iff.mp options
    obtain ⟨rfl, rfl⟩ := Arguments.mk.inj (pure_eq_ok_iff.mp same)
    rw [List.cons_append, readFrom, inductionHypothesis sorted]
    rfl
  | case3 =>
    obtain ⟨rfl, -⟩ := Arguments.mk.inj (Except.ok.inj options)
    have noEnd : command ≠ ['-', '-'] := by
      rintro rfl
      exact named rfl
    rw [List.nil_append, readFrom, if_neg noEnd, if_neg fun hyphen => named hyphen.1, if_pos isGroup]
  | case4 rest =>
    obtain ⟨rfl, rfl⟩ := Arguments.mk.inj (Except.ok.inj options)
    rw [List.singleton_append, readFrom, if_pos rfl]
  | case5 word rest noEnd hyphen inductionHypothesis =>
    obtain ⟨inWord, read, options⟩ := bind_eq_ok_iff.mp options
    obtain ⟨⟨behind, positional⟩, sorted, same⟩ := bind_eq_ok_iff.mp options
    obtain ⟨rfl, rfl⟩ := Arguments.mk.inj (pure_eq_ok_iff.mp same)
    rw [List.cons_append, readFrom, if_neg noEnd, if_pos hyphen, read, ok_bind,
      inductionHypothesis inWord sorted]
    rfl
  | case6 word rest noEnd noHyphen =>
    obtain ⟨-, positional⟩ := Arguments.mk.inj (Except.ok.inj options)
    cases positional
  | case7 word rest noEnd noHyphen single =>
    exact absurd isGroup single

/-- The first results are the same fault, or the second has an option besides those of the first. -/
def Inserts {ε : Type} (entry : Text × Text) (without inserted : Except ε Arguments) : Prop :=
  (∃ fault, without = .error fault ∧ inserted = .error fault) ∨
  ∃ before behind positional, without = .ok ⟨before ++ behind, positional⟩ ∧
    inserted = .ok ⟨before ++ entry :: behind, positional⟩

/-- An option with its value, put in where an option can stand, is given besides the others. -/
theorem inserts_read {name value : Text} (single : form.isGroup = false)
    (openAfter : form.isOpenAfter none front = true) (noEnd : name ≠ ['-', '-'])
    (hyphen : name.head? = some '-' ∧ name.length ≠ 1)
    (takes : form.readWord name = .ok { awaited? := some ⟨name, name⟩ }) :
    Inserts (name, value) (form.read (front ++ back)) (form.read (front ++ name :: value :: back)) := by
  have put : form.readFrom none (name :: value :: back) = do
      let behind ← form.readFrom none back
      return { behind with given := (name, value) :: behind.given } := by
    simp only [readFrom, if_neg noEnd, if_pos hyphen, takes, ok_bind, bind_assoc, pure_bind,
      List.nil_append]
  rw [read, read, readFrom_append single openAfter, readFrom_append single openAfter, put]
  cases form.readFrom none front with
  | error fault => exact .inl ⟨fault, rfl, rfl⟩
  | ok before =>
    cases form.readFrom none back with
    | error fault => exact .inl ⟨fault, rfl, rfl⟩
    | ok behind =>
      exact .inr ⟨before.given, behind.given, before.positional ++ behind.positional, rfl, rfl⟩

section Checks

variable {workspace later : Workspace} {option : CommandOption} {value : Text}
  {before behind given : List (Text × Text)} {without inserted : Except UsageFault Arguments}

/-- An option that has not been given otherwise is checked besides the others. -/
theorem checkOptions_insert (absent : lastOf? (before ++ behind) option.name = none)
    (known : form.options.find? (·.name = option.name) = some option)
    (accepted : option.check workspace value = .ok ()) :
    form.checkOptions workspace (before ++ (option.name, value) :: behind) =
      form.checkOptions workspace (before ++ behind) := by
  obtain ⟨front, back, without, inserted⟩ := collapse_insert (option.name, value) absent
  rw [checkOptions, checkOptions, without, inserted, List.forM_eq_forM, List.forM_append,
    List.forM_append, List.forM_cons]
  simp only [known, accepted, ok_bind]

/-- Only a path that has to lead somewhere is checked against the workspace. -/
theorem check_of_ne_presentPath (other : option.kind ≠ .presentPath) :
    option.check later value = option.check workspace value := by
  simp only [CommandOption.check]
  cases kind : option.kind <;> simp_all

theorem check_eq_ok_iff (present : option.kind = .presentPath) :
    option.check workspace value = .ok () ↔ workspace.leadsSomewhere value = .ok true := by
  simp only [CommandOption.check, present]
  split <;> simp_all

/-- Options are checked alike where their values are. -/
theorem checkOptions_congr (agree : ∀ option ∈ form.options, ∀ value,
      lastOf? given option.name = some value →
        option.check later value = option.check workspace value) :
    form.checkOptions later given = form.checkOptions workspace given := by
  rw [checkOptions, checkOptions, List.forM_eq_forM]
  refine forM_congr_of_mem fun entry member => ?_
  split
  · rename_i option found
    have same : option.name = entry.1 := by simpa using List.find?_some found
    refine agree option (List.mem_of_find?_eq_some found) entry.2 ?_
    rw [same]
    exact lastOf?_of_mem_collapse member
  · rfl

/-- Options are accepted where their values are. -/
theorem checkOptions_of_accepted (accepted : form.checkOptions workspace given = .ok ())
    (still : ∀ option ∈ form.options, ∀ value, lastOf? given option.name = some value →
      option.check workspace value = .ok () → option.check later value = .ok ()) :
    form.checkOptions later given = .ok () := by
  rw [checkOptions, List.forM_eq_forM, forM_eq_ok_iff] at accepted ⊢
  intro entry member
  have checked := accepted entry member
  split at checked
  · rename_i option found
    have same : option.name = entry.1 := by simpa using List.find?_some found
    refine still option (List.mem_of_find?_eq_some found) entry.2 ?_ checked
    rw [same]
    exact lastOf?_of_mem_collapse member
  · rfl

theorem read_of_readOptions {words : List Text} {arguments : Arguments}
    (accepted : form.readOptions workspace words = .ok arguments) :
    form.read words = .ok arguments := by
  obtain ⟨sorted, read, accepted⟩ := bind_eq_ok_iff.mp accepted
  simp only at accepted
  split at accepted
  · cases accepted
  · obtain ⟨-, -, same⟩ := bind_eq_ok_iff.mp accepted
    rw [mapError_eq_ok_iff.mp read, pure_eq_ok_iff.mp same]

/-- Where the words are sorted alike but for an option that is accepted, they are accepted alike. -/
theorem inserts_readOptions {words wordsInserted : List Text}
    (sorted : Inserts (option.name, value) (form.read words) (form.read wordsInserted))
    (absent : ∀ arguments, form.read words = .ok arguments →
      arguments.value? option.name = none)
    (known : form.options.find? (·.name = option.name) = some option)
    (noHelp : option.name ≠ helpOption.name) (accepted : option.check workspace value = .ok ()) :
    Inserts (option.name, value) (form.readOptions workspace words)
      (form.readOptions workspace wordsInserted) := by
  obtain ⟨fault, without, inserted⟩ | ⟨before, behind, positional, without, inserted⟩ := sorted
  · exact .inl ⟨.misused fault, by rw [readOptions, without]; rfl, by rw [readOptions, inserted]; rfl⟩
  · have absent := absent _ without
    have checked := checkOptions_insert absent known accepted
    have help : Arguments.has ⟨before ++ (option.name, value) :: behind, positional⟩ helpOption.name =
        Arguments.has ⟨before ++ behind, positional⟩ helpOption.name :=
      congrArg Option.isSome (lastOf?_insert_of_ne noHelp)
    rw [readOptions, readOptions, without, inserted]
    simp only [mapError_ok, ok_bind, help, checked]
    split
    · exact .inl ⟨.helpWanted, rfl, rfl⟩
    · cases form.checkOptions workspace (before ++ behind) with
      | error fault => exact .inl ⟨fault, rfl, rfl⟩
      | ok _ => exact .inr ⟨before, behind, positional, rfl, rfl⟩

end Checks

end CommandForm

namespace Command

/-- The command reads a catalog, and not from a document. -/
def IsFresh : Command → Prop
  | .list document? => document? = none
  | .describe request => request.document? = none
  | .extract _ _ _ => False

/-- The command with a catalog document to read, if it reads any. -/
def withDocument (path : Path) : Command → Command
  | .list _ => .list (some path)
  | .describe request => .describe { request with document? := some path }
  | .extract registryPath? sourceRoot? output? => .extract registryPath? sourceRoot? output?

variable {workspace : Workspace} {name : CommandName} {front back : List Text} {file : Text}

/-- The only path that has to lead somewhere is that of a catalog document. -/
theorem eq_documentOption {option : CommandOption} (member : option ∈ name.form.options)
    (present : option.kind = .presentPath) : option = documentOption := by
  have all : ∀ option ∈ name.form.options, option.kind = .presentPath → option = documentOption := by
    cases name <;> decide
  exact all option member present

/-- Without a document, the command that words are read as does not depend on the workspace. -/
theorem read_of_noDocument {later : Workspace} {words : List Text}
    (noDocument : ∀ arguments, name.form.read words = .ok arguments →
      arguments.value? documentOption.name = none) :
    read later name words = read workspace name words := by
  have options : name.form.readOptions later words = name.form.readOptions workspace words := by
    rw [CommandForm.readOptions, CommandForm.readOptions]
    cases sorted : name.form.read words with
    | error fault => rfl
    | ok arguments =>
      have checked : name.form.checkOptions later arguments.given =
          name.form.checkOptions workspace arguments.given := by
        refine CommandForm.checkOptions_congr fun option member value given => ?_
        by_cases present : option.kind = .presentPath
        · obtain rfl := eq_documentOption member present
          exact absurd (given.symm.trans (noDocument arguments sorted)) (by simp)
        · exact CommandForm.check_of_ne_presentPath present
      simp only [mapError_ok, ok_bind, checked]
  rw [read, read, options]

/-- A command that reads catalogs reads a fresh one if it has no document. -/
theorem isFresh_of_read {words : List Text} {command : Command} (reads : name ≠ .extract)
    (noDocument : ∀ arguments, name.form.read words = .ok arguments →
      arguments.value? documentOption.name = none)
    (isRead : read workspace name words = .ok command) : command.IsFresh := by
  obtain ⟨arguments, accepted, isRead⟩ := bind_eq_ok_iff.mp isRead
  obtain ⟨-, -, isRead⟩ := bind_eq_ok_iff.mp isRead
  obtain rfl := pure_eq_ok_iff.mp isRead
  have absent := noDocument arguments (CommandForm.read_of_readOptions accepted)
  cases name with
  | extract => exact absurd rfl reads
  | _ => simp [ofArguments, IsFresh, Arguments.path?, absent]

/-- A document that is given makes for the same command with the document. -/
theorem ofArguments_insert {before behind : List (Text × Text)} {positional : List Text}
    (absent : lastOf? (before ++ behind) documentOption.name = none) :
    ofArguments name ⟨before ++ (documentOption.name, file) :: behind, positional⟩ =
      (ofArguments name ⟨before ++ behind, positional⟩).withDocument (.ofText file) := by
  have document : Arguments.value? ⟨before ++ (documentOption.name, file) :: behind, positional⟩
      documentOption.name = some file := lastOf?_insert absent
  have others : ∀ option, documentOption.name ≠ option →
      Arguments.value? ⟨before ++ (documentOption.name, file) :: behind, positional⟩ option =
        Arguments.value? ⟨before ++ behind, positional⟩ option :=
    fun _ other => lastOf?_insert_of_ne other
  cases name with
  | extract =>
    simp only [ofArguments, withDocument, Arguments.path?]
    rw [others _ (by decide), others _ (by decide), others _ (by decide)]
  | list => simp only [ofArguments, withDocument, Arguments.path?, document, Option.map_some]
  | describe =>
    simp only [ofArguments, withDocument, Arguments.path?, Arguments.has, document, Option.map_some]
    rw [others _ (by decide), others _ (by decide), others _ (by decide)]

/-- Where a document can be given to a command that has none, the words are those of the same command
with the document, or wrong in the same way. -/
theorem read_insert (reads : name ≠ .extract) (openAfter : name.form.isOpenAfter none front = true)
    (noDocument : ∀ arguments, name.form.read (front ++ back) = .ok arguments →
      arguments.value? documentOption.name = none)
    (accepted : documentOption.check workspace file = .ok ()) :
    read workspace name (front ++ documentOption.name :: file :: back) =
      (read workspace name (front ++ back)).map (withDocument (.ofText file)) := by
  have single : name.form.isGroup = false := by cases name <;> rfl
  have takes : name.form.readWord documentOption.name =
      .ok { awaited? := some ⟨documentOption.name, documentOption.name⟩ } := by
    cases name with
    | extract => exact absurd rfl reads
    | list => rfl
    | describe => rfl
  have known : name.form.options.find? (·.name = documentOption.name) = some documentOption := by
    cases name with
    | extract => exact absurd rfl reads
    | list => rfl
    | describe => rfl
  have sorted : CommandForm.Inserts (documentOption.name, file) (name.form.read (front ++ back))
      (name.form.read (front ++ documentOption.name :: file :: back)) :=
    CommandForm.inserts_read single openAfter (by decide) (by decide) takes
  obtain ⟨fault, without, inserted⟩ | ⟨before, behind, positional, without, inserted⟩ :=
    CommandForm.inserts_readOptions sorted noDocument known (by decide) accepted
  · rw [read, read, without, inserted]
    rfl
  · have absent : lastOf? (before ++ behind) documentOption.name = none :=
      noDocument _ (CommandForm.read_of_readOptions without)
    rw [read, read, without, inserted, ok_bind, ok_bind]
    cases name.form.checkCount positional with
    | error fault => rfl
    | ok _ =>
      rw [ok_bind, ok_bind, ofArguments_insert absent]
      rfl

end Command

end RouteCatalog
