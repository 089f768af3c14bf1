import ResourceAccounting.Android.BackgroundThread

/-!
# Sensors — the processes that are charged with a sensor

The framework gives for each pid the names of the sensors that the process uses, joined to one text.
`doInBackground` charges the process with a sensor if its name occurs anywhere in that text.

- `SensorUse` — the names for each pid, `SensorUse.map` — the map that the framework makes of them;
- `users` — the processes that use a sensor;
- `attributesAll_iff` — the rounds in which these processes are charged and no others;
- `infix_intercalate_iff` — what occurs in a joined text occurs in one of the names.
-/

namespace ResourceAccounting
namespace Android

open Python

/-! ## Joined names -/

/-- The names of the sensors that each pid uses, and a separator that occurs in none of them. -/
structure SensorUse where
  sep : Text
  entries : List (Text × List Text)
  nodup : (entries.map Prod.fst).Nodup
  pids : ∀ entry ∈ entries, (parseInt? entry.1).isSome = true
  sep_free : ∀ entry ∈ entries, ∀ name ∈ entry.2, ¬ sep <:+: name

namespace SensorUse

/-- The text for the sensors of a pid. -/
def joined (u : SensorUse) (entry : Text × List Text) : Text × Text :=
  (entry.1, u.sep.intercalate entry.2)

/-- The map of the framework. -/
def map (u : SensorUse) : PidSensorMap where
  entries := u.entries.map u.joined
  nodup := by
    have hkeys : (u.entries.map u.joined).map Prod.fst = u.entries.map Prod.fst := by
      rw [List.map_map]
      rfl
    rw [hkeys]
    exact u.nodup
  pids := by
    intro entry hentry
    rcases List.mem_map.1 hentry with ⟨entry, hmem, rfl⟩
    exact u.pids entry hmem

end SensorUse

/-- The name of the process of an entry; none if it has none. -/
def processOf (getProcessName : Int → Option Text) (entry : Text × List Text) : Option Text :=
  (parseInt? entry.1).bind getProcessName

/-- The names of the processes whose lists contain the sensor `log_name`. -/
def users (getProcessName : Int → Option Text) (log_name : Text) (u : SensorUse) : List Text :=
  (u.entries.filter (fun entry => decide (log_name ∈ entry.2))).filterMap
    (processOf getProcessName)

/-- The loop appends the names of the users of the sensor to the row, and nothing else.  Every call of
`getProcessName` returns. -/
def Attributes (u : SensorUse) (getProcessName : Int → Option Text) (oneRow : OutputTableRow) :
    Prop :=
  addProcesses (fun n => some (getProcessName n)) oneRow u.map.entries =
    .ok { oneRow with
      processName := oneRow.processName ++
        (users getProcessName oneRow.log_name u).flatMap (',' :: ·) }

/-- Where the name of the sensor occurs in the joined text of a process, it is one of the names. -/
def NamesWhole (u : SensorUse) (getProcessName : Int → Option Text) (log_name : Text) : Prop :=
  ∀ entry ∈ u.entries, (processOf getProcessName entry).isSome = true →
    log_name <:+: u.sep.intercalate entry.2 → log_name ∈ entry.2

/-! ## Two selections from one list -/

section Selections

variable {β : Type*} {p q : β → Bool} (g : β → Option Text)

/-- What the entries that `p` selects add to a text. -/
def added (p : β → Bool) (l : List β) : Text :=
  ((l.filter p).filterMap g).flatMap (',' :: ·)

theorem added_cons_of_neg {b : β} (h : p b = false) (l : List β) :
    added g p (b :: l) = added g p l := by
  simp [added, h]

theorem added_cons_of_pos {b : β} (h : p b = true) (l : List β) :
    added g p (b :: l) = (g b).elim [] (',' :: ·) ++ added g p l := by
  cases hg : g b <;> simp [added, h, hg]

theorem length_added_le (hpq : ∀ b, p b = true → q b = true) (l : List β) :
    (added g p l).length ≤ (added g q l).length := by
  induction l with
  | nil => exact Nat.le_refl _
  | cons b l ih =>
      cases hp : p b with
      | true =>
          rw [added_cons_of_pos g hp, added_cons_of_pos g (hpq b hp), List.length_append,
            List.length_append]
          omega
      | false =>
          rw [added_cons_of_neg g hp]
          cases hq : q b with
          | true =>
              rw [added_cons_of_pos g hq, List.length_append]
              omega
          | false => rwa [added_cons_of_neg g hq]

/-- A selection adds the same as a wider one if and only if it takes every entry of that which adds
anything. -/
theorem added_eq_added_iff (hpq : ∀ b, p b = true → q b = true) (l : List β) :
    added g q l = added g p l ↔
      ∀ b ∈ l, (g b).isSome = true → q b = true → p b = true := by
  induction l with
  | nil => simp [added]
  | cons b l ih =>
      rw [List.forall_mem_cons, ← ih]
      cases hq : q b with
      | false =>
          have hp : p b = false := by
            by_contra hp
            rw [hpq b (by simpa using hp)] at hq
            cases hq
          rw [added_cons_of_neg g hq, added_cons_of_neg g hp]
          simp
      | true =>
          rw [added_cons_of_pos g hq]
          cases hp : p b with
          | true =>
              rw [added_cons_of_pos g hp, List.append_cancel_left_eq]
              simp
          | false =>
              rw [added_cons_of_neg g hp]
              cases hg : g b with
              | none => simp
              | some name =>
                  -- the wider selection adds at least a comma more
                  refine iff_of_false (fun heq => ?_) (by simp)
                  have hlength := congrArg List.length heq
                  have hle := length_added_le g hpq l
                  simp only [Option.elim_some, List.length_append, List.length_cons] at hlength
                  omega

end Selections

/-! ## The charged processes -/

/-- A whole element of a list occurs in the joined text. -/
theorem infix_intercalate_of_mem {name sep : Text} {names : List Text} (h : name ∈ names) :
    name <:+: sep.intercalate names := by
  induction names with
  | nil => cases h
  | cons first names ih =>
      cases names with
      | nil =>
          have hname : name = first := List.mem_singleton.1 h
          rw [List.intercalate_singleton]
          exact hname ▸ List.infix_rfl
      | cons second names =>
          rw [List.intercalate_cons_cons]
          rcases List.mem_cons.1 h with rfl | h
          · exact List.infix_append_of_infix_left (List.infix_append_left)
          · exact List.infix_append_of_infix_right (ih h)

theorem flatMap_charged (u : SensorUse) (getProcessName : Int → Option Text) (log_name : Text) :
    (charged (fun n => some (getProcessName n)) log_name u.map.entries).flatMap (',' :: ·) =
      added (processOf getProcessName)
        (fun entry => decide (log_name <:+: u.sep.intercalate entry.2)) u.entries := by
  rw [charged, added, SensorUse.map, List.filter_map, List.filterMap_map]
  rfl

/-- The loop charges the users of a sensor and no others if and only if its name does not occur in
the text of any process, save as one of the names. -/
theorem attributes_iff (u : SensorUse) (getProcessName : Int → Option Text)
    (oneRow : OutputTableRow) :
    Attributes u getProcessName oneRow ↔ NamesWhole u getProcessName oneRow.log_name := by
  have hwhole : ∀ entry : Text × List Text, decide (oneRow.log_name ∈ entry.2) = true →
      decide (oneRow.log_name <:+: u.sep.intercalate entry.2) = true := by
    intro entry hmem
    simpa using infix_intercalate_of_mem (by simpa using hmem)
  have hselections := added_eq_added_iff (processOf getProcessName) hwhole u.entries
  have hnames : NamesReturn (fun n => some (getProcessName n)) oneRow.log_name u.map.entries :=
    fun _ _ _ _ _ => Option.some_ne_none _
  rw [Attributes, addProcesses_eq u.map.pids oneRow hnames, flatMap_charged, Except.ok.injEq]
  calc
    _ ↔ added (processOf getProcessName)
          (fun entry => decide (oneRow.log_name <:+: u.sep.intercalate entry.2)) u.entries =
        added (processOf getProcessName)
          (fun entry => decide (oneRow.log_name ∈ entry.2)) u.entries := by
      constructor
      · intro h
        exact List.append_cancel_left (congrArg OutputTableRow.processName h)
      · intro h
        rw [h]
        rfl
    _ ↔ NamesWhole u getProcessName oneRow.log_name := by
      rw [hselections]
      simp only [NamesWhole, decide_eq_true_eq]

/-- The loop does so for every device row. -/
def AttributesAll (u : SensorUse) (getProcessName : Int → Option Text)
    (getReading : Nat → OutputTableRow) (minors : List Nat) : Prop :=
  ∀ minor ∈ minors, Attributes u getProcessName { getReading minor with minor := minor }

/-- The sensors of the devices are charged to exactly their users if and only if none of their names
occurs in the joined text of a process that does not use the sensor. -/
theorem attributesAll_iff (u : SensorUse) (getProcessName : Int → Option Text)
    (getReading : Nat → OutputTableRow) (minors : List Nat) :
    AttributesAll u getProcessName getReading minors ↔
      ∀ minor ∈ minors, NamesWhole u getProcessName (getReading minor).log_name :=
  forall_congr' fun _ => forall_congr' fun _ => attributes_iff u getProcessName _

/-- A process that uses "accelerometer" is charged with the device "accel". -/
theorem exists_not_attributesAll :
    ¬ ∀ (u : SensorUse) (getProcessName : Int → Option Text) (getReading : Nat → OutputTableRow)
      (minors : List Nat), AttributesAll u getProcessName getReading minors := by
  intro h
  let u : SensorUse :=
    { sep := [','], entries := [("812".toList, ["accelerometer".toList])], nodup := by decide,
      pids := by decide +kernel, sep_free := by decide +kernel }
  let row : OutputTableRow :=
    { minor := 0, log_name := "accel".toList, time1 := [], log_event_generated_count := 7,
      log_event_dropped_count := 0, processName := "sensors".toList,
      log_event_consumed_count := 7, time2 := [] }
  have hrow : Attributes u (fun _ => some "cgps".toList) row :=
    h u (fun _ => some "cgps".toList) (fun _ => row) [0] 0 List.mem_cons_self
  have hloop : addProcesses (fun _ => some (some "cgps".toList)) row u.map.entries =
      .ok { row with processName := "sensors,cgps".toList } := by decide +kernel
  have hname := congrArg OutputTableRow.processName (Except.ok.inj (hloop.symm.trans hrow))
  exact absurd hname (by decide +kernel)

/-! ## Separators of one character -/

theorem eq_nil_of_append_eq_cons {c : Char} {w t r : Text} (hw : c ∉ w) (h : w ++ t = c :: r) :
    w = [] := by
  cases w with
  | nil => rfl
  | cons d w =>
      have hd : d = c := (List.cons.inj h).1
      exact absurd (hd ▸ List.mem_cons_self) hw

/-- What does not contain the separator lies on one side of it. -/
theorem infix_of_infix_append_cons {c : Char} {w l r : Text} (hw : c ∉ w)
    (h : w <:+: l ++ c :: r) : w <:+: l ∨ w <:+: r := by
  rcases h with ⟨s, t, h⟩
  rw [List.append_assoc, List.append_eq_append_iff] at h
  rcases h with ⟨a, rfl, h⟩ | ⟨a, rfl, h⟩
  · -- it starts on the left
    rcases List.append_eq_append_iff.1 h with ⟨b, rfl, -⟩ | ⟨b, rfl, hb⟩
    · exact Or.inl (List.infix_append' s w b)
    · have hnil := eq_nil_of_append_eq_cons (fun hc => hw (List.mem_append_right a hc)) hb.symm
      rw [hnil, List.append_nil]
      exact Or.inl List.infix_append_right
  · cases a with
    | nil =>
        rw [eq_nil_of_append_eq_cons hw h.symm]
        exact Or.inl List.nil_infix
    | cons d a =>
        rw [(List.cons.inj h).2]
        exact Or.inr (List.infix_append' a w t)

/-- What occurs in a joined text and does not contain the separator occurs in one of the names. -/
theorem infix_intercalate_iff {c : Char} {w : Text} {names : List Text} (hne : w ≠ [])
    (hw : c ∉ w) : w <:+: [c].intercalate names ↔ ∃ name ∈ names, w <:+: name := by
  constructor
  · intro h
    induction names with
    | nil => exact absurd (List.infix_nil.1 h) hne
    | cons first names ih =>
        cases names with
        | nil => exact ⟨first, List.mem_cons_self, by rwa [List.intercalate_singleton] at h⟩
        | cons second names =>
            rw [List.intercalate_cons_cons, List.append_assoc, List.singleton_append] at h
            rcases infix_of_infix_append_cons hw h with hfirst | hrest
            · exact ⟨first, List.mem_cons_self, hfirst⟩
            · rcases ih hrest with ⟨name, hname, hin⟩
              exact ⟨name, List.mem_cons_of_mem _ hname, hin⟩
  · rintro ⟨name, hname, hin⟩
    exact hin.trans (infix_intercalate_of_mem hname)

/-- The names are whole in the joined texts if no process with a name uses another sensor of whose
name the name of the sensor is a part. -/
theorem namesWhole_iff_of_singleton {u : SensorUse} {c : Char} (hsep : u.sep = [c])
    (getProcessName : Int → Option Text) {log_name : Text} (hne : log_name ≠ [])
    (hfree : c ∉ log_name) :
    NamesWhole u getProcessName log_name ↔
      ∀ entry ∈ u.entries, (processOf getProcessName entry).isSome = true →
        (∃ name ∈ entry.2, log_name <:+: name) → log_name ∈ entry.2 := by
  rw [NamesWhole, hsep]
  simp only [infix_intercalate_iff hne hfree]

end Android
end ResourceAccounting
