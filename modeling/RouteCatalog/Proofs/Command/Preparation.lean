import RouteCatalog.Command.Run
import RouteCatalog.Proofs.Command.Words

/-!
# What a run prepares

Before a command is performed, the options in front of it are checked, the settings are loaded and the
words of the command are read, in this order: `prepare_append`. A run that is done has come through all
of it: `exists_of_run_done`.
-/

namespace RouteCatalog

namespace Session

variable {session : Session} {group words : List Text} {given : List (Text × Text)}
  {name : CommandName}

/-- Check the options before the name of a command. -/
def openGroup (session : Session) (given : List (Text × Text)) : Except Ending Unit :=
  if Arguments.has { given } helpOption.name then .error (.helped groupForm)
  else (groupForm.checkOptions session.workspace given).mapError (.ofArgumentFault groupForm)

/-- The settings and the command of options, the name of a command and the words behind it. -/
theorem prepare_append (options : groupForm.read group = .ok { given }) :
    session.prepare (group ++ name.text :: words) = do
      session.openGroup given
      let settings ← (Settings.load session.workspace session.environment
        (Arguments.path? { given } configOption)).mapError .ofSettingsFault
      let command ← (Command.read session.workspace name words).mapError
        (.ofArgumentFault name.form)
      return (settings, command) := by
  have named : name.text.head? ≠ some '-' := by cases name <;> decide
  have sorted : groupForm.read (group ++ name.text :: words) =
      .ok { given, positional := name.text :: words } :=
    CommandForm.readFrom_group rfl named options
  have opened : session.readGroup (group ++ name.text :: words) = do
      session.openGroup given
      return { given, positional := name.text :: words } := by
    have help : Arguments.has { given, positional := name.text :: words } helpOption.name =
        Arguments.has { given } helpOption.name := rfl
    rw [readGroup, CommandForm.readOptions, sorted, openGroup]
    simp only [mapError_ok, ok_bind, help]
    cases Arguments.has { given } helpOption.name with
    | true => rfl
    | false => cases groupForm.checkOptions session.workspace given <;> rfl
  have found : session.findCommand name.text words = .ok name := by
    simp only [findCommand, CommandName.ofText?_text]
    rfl
  rw [prepare, opened]
  cases session.openGroup given with
  | error ending => rfl
  | ok _ =>
    simp only [ok_bind, pure_bind, found]
    rfl

theorem ofArgumentFault_ne_done (form : CommandForm) (fault : ArgumentFault) :
    Ending.ofArgumentFault form fault ≠ .done := by
  cases fault <;> simp [Ending.ofArgumentFault]

theorem ofSettingsFault_ne_done (fault : SettingsFault) : Ending.ofSettingsFault fault ≠ .done := by
  unfold Ending.ofSettingsFault
  split
  · simp
  · split <;> simp

theorem openGroup_ne_done {ending : Ending} (failed : session.openGroup given = .error ending) :
    ending ≠ .done := by
  unfold openGroup at failed
  split at failed
  · obtain rfl := Except.error.inj failed
    simp
  · cases checked : groupForm.checkOptions session.workspace given with
    | ok _ => simp [checked] at failed
    | error fault =>
      rw [checked] at failed
      obtain rfl := Except.error.inj failed
      exact ofArgumentFault_ne_done groupForm fault

/-- A run that is done has performed a command under settings. -/
theorem exists_of_run_done (options : groupForm.read group = .ok { given })
    (done : (session.run (group ++ name.text :: words)).ending = .done) :
    ∃ settings command, session.openGroup given = .ok () ∧
      Settings.load session.workspace session.environment
        (Arguments.path? { given } configOption) = .ok settings ∧
      Command.read session.workspace name words = .ok command ∧
      session.run (group ++ name.text :: words) = session.perform settings command := by
  rw [run, prepare_append options] at done ⊢
  cases opened : session.openGroup given with
  | error ending =>
    rw [opened] at done
    exact absurd done (openGroup_ne_done opened)
  | ok _ =>
    cases loaded : Settings.load session.workspace session.environment
        (Arguments.path? { given } configOption) with
    | error fault =>
      rw [opened, loaded] at done
      exact absurd done (ofSettingsFault_ne_done fault)
    | ok settings =>
      cases read : Command.read session.workspace name words with
      | error fault =>
        rw [opened, loaded, read] at done
        exact absurd done (ofArgumentFault_ne_done _ fault)
      | ok command => exact ⟨settings, command, rfl, rfl, rfl, rfl⟩

end Session

end RouteCatalog
