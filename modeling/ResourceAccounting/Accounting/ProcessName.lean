import ResourceAccounting.Accounting.Server

/-!
# ProcessName — the process that measurement.py finds for a port

`getProcessName` reads the listing of `lsof -i :port`: a header line, then one row for each process
that has the port open.  The client is to be found among them, and the gps daemon and the shell that
started it are not.

- `client` — the first row of a listing that is neither the daemon's nor the shell's;
- `findProcess_eq_client` — the loop for long listings finds it;
- `getProcessName_eq_client_iff` — the path for short listings takes the only row there is.
-/

namespace ResourceAccounting
namespace Accounting

open Python

/-! ## Listings -/

/-- `['gpsd', 'bash']` -/
def daemons : List Text :=
  ["gpsd".toList, "bash".toList]

/-- The COMMAND column of a row. -/
def command (row : Text) : Text :=
  (split row)[0]?.getD []

/-- The PID column of a row. -/
def pid (row : Text) : Text :=
  (split row)[1]?.getD []

/-- The first row that is neither the daemon's nor the shell's; a pair of empty strings if there is
no such row. -/
def client (rows : List Text) : Text × Text :=
  match rows.find? (fun row => decide (command row ∉ daemons)) with
  | some row => (command row, pid row)
  | none => ([], [])

/-- The text is a header line and these rows, of at least two columns each. -/
structure IsListing (text : Text) (rows : List Text) : Prop where
  lines : ∃ header, splitlines text = header :: rows
  columns : ∀ row ∈ rows, 2 ≤ (split row).length

theorem client_cons_of_mem {row : Text} (hrow : command row ∈ daemons) (rows : List Text) :
    client (row :: rows) = client rows := by
  simp [client, hrow]

theorem client_cons_of_not_mem {row : Text} (hrow : command row ∉ daemons) (rows : List Text) :
    client (row :: rows) = (command row, pid row) := by
  simp [client, hrow]

theorem split_eq_cons {row : Text} (h : 2 ≤ (split row).length) :
    ∃ cols, split row = command row :: pid row :: cols := by
  cases hsplit : split row with
  | nil => simp [hsplit] at h
  | cons tname rest =>
      cases rest with
      | nil => simp [hsplit] at h
      | cons tid cols => exact ⟨cols, by simp [command, pid, hsplit]⟩

/-! ## Long listings -/

theorem mem_daemons {name : Text} :
    name ∈ daemons ↔ name = "gpsd".toList ∨ name = "bash".toList := by
  simp only [daemons, List.mem_cons, List.not_mem_nil, or_false]

theorem findProcess_cons {row : Text} (h : 2 ≤ (split row).length) (rows : List Text) :
    findProcess (row :: rows) =
      if command row ∈ daemons then findProcess rows else some (command row, pid row) := by
  rcases split_eq_cons h with ⟨cols, hcols⟩
  rw [findProcess, hcols]
  exact if_congr mem_daemons.symm rfl rfl

/-- The loop finds the client, wherever it stands in the listing. -/
theorem findProcess_eq_client {rows : List Text} (h : ∀ row ∈ rows, 2 ≤ (split row).length) :
    findProcess rows = some (client rows) := by
  induction rows with
  | nil => rfl
  | cons row rows ih =>
      have hrest := ih fun row hrow => h row (List.mem_cons_of_mem _ hrow)
      rw [findProcess_cons (h row List.mem_cons_self)]
      by_cases hrow : command row ∈ daemons
      · rw [if_pos hrow, client_cons_of_mem hrow, hrest]
      · rw [if_neg hrow, client_cons_of_not_mem hrow]

/-! ## Both paths -/

variable {lsof : Text → Text} {port : Text}

theorem getProcessName_of_long {row row' : Text} {rows : List Text}
    (h : IsListing (lsof port) (row :: row' :: rows)) :
    getProcessName lsof port = some (client (row :: row' :: rows)) := by
  rcases h.lines with ⟨header, hlines⟩
  rw [← findProcess_eq_client h.columns]
  simp [getProcessName, hlines]

/-- The path for short listings does not look at the command. -/
theorem getProcessName_of_single {row : Text} (h : IsListing (lsof port) [row]) :
    getProcessName lsof port = some (command row, pid row) := by
  rcases h.lines with ⟨header, hlines⟩
  rcases split_eq_cons (h.columns row List.mem_cons_self) with ⟨cols, hcols⟩
  simp [getProcessName, hlines, hcols]

theorem getProcessName_of_empty (h : IsListing (lsof port) []) :
    getProcessName lsof port = some (client []) := by
  rcases h.lines with ⟨header, hlines⟩
  simp [getProcessName, hlines, client]

theorem client_singleton_of_mem {row : Text} (hrow : command row ∈ daemons) :
    client [row] = ([], []) :=
  client_cons_of_mem hrow []

theorem nil_not_mem_daemons : ([] : Text) ∉ daemons := by
  decide

/-- The client is found in every listing but those whose only row is the daemon's or the shell's. -/
theorem getProcessName_eq_client_iff {rows : List Text} (h : IsListing (lsof port) rows) :
    getProcessName lsof port = some (client rows) ↔
      ¬ ∃ row, rows = [row] ∧ command row ∈ daemons := by
  cases rows with
  | nil => simp [getProcessName_of_empty h]
  | cons row rest =>
      cases rest with
      | nil =>
          rw [getProcessName_of_single h]
          by_cases hrow : command row ∈ daemons
          · -- its own name is returned, where nothing is to be found
            have hne : command row ≠ [] := fun hnil => nil_not_mem_daemons (hnil ▸ hrow)
            simp [client_singleton_of_mem hrow, hrow, hne]
          · simp [client_cons_of_not_mem hrow, hrow]
      | cons row' rows => simp [getProcessName_of_long h]

/-- A listing with the daemon above its client. -/
theorem getProcessName_eq_client_iff_two_rows :
    getProcessName (fun _ => "COMMAND PID\ngpsd 812\ncgps 977\n".toList) "2947".toList =
        some (client ["gpsd 812".toList, "cgps 977".toList]) ↔
      ¬ ∃ row, ["gpsd 812".toList, "cgps 977".toList] = [row] ∧ command row ∈ daemons :=
  getProcessName_eq_client_iff ⟨⟨"COMMAND PID".toList, by decide +kernel⟩, by decide +kernel⟩

/-- The daemon's row alone: the daemon is taken for a client. -/
theorem exists_daemon_returned :
    ¬ ∀ (lsof : Text → Text) (port : Text) (rows : List Text), IsListing (lsof port) rows →
      getProcessName lsof port = some (client rows) := by
  intro h
  have hlisting : IsListing "COMMAND PID\ngpsd 812\n".toList ["gpsd 812".toList] :=
    ⟨⟨"COMMAND PID".toList, by decide +kernel⟩, by decide +kernel⟩
  exact absurd (h (fun _ => "COMMAND PID\ngpsd 812\n".toList) [] _ hlisting) (by decide +kernel)

end Accounting
end ResourceAccounting
