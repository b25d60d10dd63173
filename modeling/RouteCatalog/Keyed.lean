import RouteCatalog.Text.Basic

/-!
# Entries with keys

Lists of keys with something attached, in the order in which the keys first appeared. `put` keeps
the place of a key that it overwrites, so `collapse` leaves each key once, at its first place and
with its last attachment. `addTo` collects several attachments under one key.
-/

namespace RouteCatalog

variable {α : Type}

/-- Entries with one more; a key that is already there keeps its place and takes the new value. -/
def put (key : Text) (value : α) : List (Text × α) → List (Text × α)
  | [] => [(key, value)]
  | (present, held) :: rest =>
    if present = key then (present, value) :: rest else (present, held) :: put key value rest

/-- The entries with each key once, at its first place and with its last value. -/
def collapse (entries : List (Text × α)) : List (Text × α) :=
  entries.foldl (fun settled entry => put entry.1 entry.2 settled) []

/-- The value of the first entry with a key. -/
def firstOf? (entries : List (Text × α)) (key : Text) : Option α :=
  (entries.find? (·.1 = key)).map Prod.snd

/-- The value of the last entry with a key. -/
def lastOf? (entries : List (Text × α)) (key : Text) : Option α :=
  firstOf? entries.reverse key

/-- Groups with one more member; a group that does not exist yet is opened at the end. -/
def addTo (key : Text) (member : α) : List (Text × List α) → List (Text × List α)
  | [] => [(key, [member])]
  | (present, members) :: rest =>
    if present = key then (present, members ++ [member]) :: rest
    else (present, members) :: addTo key member rest

/-- The members under their keys, groups in the order of their first members. -/
def grouped (members : List (Text × α)) : List (Text × List α) :=
  members.foldl (fun groups member => addTo member.1 member.2 groups) []

/-- The keys after putting an entry: the same, or one more at the end. -/
theorem keys_put (key : Text) (value : α) (entries : List (Text × α)) :
    (put key value entries).map Prod.fst =
      if key ∈ entries.map Prod.fst then entries.map Prod.fst
      else entries.map Prod.fst ++ [key] := by
  induction entries with
  | nil => simp [put]
  | cons entry rest inductionHypothesis =>
    obtain ⟨present, held⟩ := entry
    by_cases same : present = key
    · simp [put, same]
    · have different : key ≠ present := fun equal => same equal.symm
      simp only [put, same, if_false, List.map_cons, inductionHypothesis, List.mem_cons, different,
        false_or]
      split <;> simp

/-- The entry just put is the one found under its key. -/
theorem firstOf?_put (key : Text) (value : α) (entries : List (Text × α)) :
    firstOf? (put key value entries) key = some value := by
  induction entries with
  | nil => simp [put, firstOf?]
  | cons entry rest inductionHypothesis =>
    obtain ⟨present, held⟩ := entry
    by_cases same : present = key
    · simp [put, same, firstOf?]
    · simpa [put, same, firstOf?] using inductionHypothesis

end RouteCatalog
