import ResourceAccounting.GraphScripts.Model
import ResourceAccounting.Intervals.Separated
import ResourceAccounting.Schedules.Exec

/-!
# Slots — when the slots of model.py stay apart

The merge loop of model.py visits each slot once, lets those that the session touches grow, and
removes none.  A session that touches two slots makes both of them hold its own time:

- `LeavesOne` — after an insertion one slot covers the session and all that it touched;
- `StaysApart` — the slots share no time point after any insertion of a run;
- `staysApart_iff` — the runs of which that is true.
-/

namespace ResourceAccounting
namespace GraphScripts

open Intervals Schedules

/-- The insertion leaves a single slot that covers the session and every slot that it touches. -/
def LeavesOne (slots : List Slot) (session : Slot) : Prop :=
  ∃ slot ∈ mergeSession slots session, session.points ⊆ slot.points ∧
    ∀ old ∈ slots, Touches session old → old.points ⊆ slot.points

/-- After every insertion no time point lies strictly inside two slots, and one slot covers what has
been merged. -/
def StaysApart (sessions : List Slot) : Prop :=
  ∀ front session, front ++ [session] <+: sessions →
    Separated (mergeSession (mergeSessions front) session) ∧ LeavesOne (mergeSessions front) session

/-- The session touches one slot at most. -/
def TouchesOne (slots : List Slot) (session : Slot) : Prop :=
  slots.countP (fun slot => decide (Touches session slot)) ≤ 1

instance (slots : List Slot) (session : Slot) : Decidable (TouchesOne slots session) :=
  inferInstanceAs (Decidable (_ ≤ 1))

theorem separated_mergeSession_iff {slots : List Slot} (h : Separated slots) (session : Slot) :
    Separated (mergeSession slots session) ↔ TouchesOne slots session := by
  rw [mergeSession_eq_absorb]
  exact separated_absorb_iff h

theorem leavesOne_of_touchesOne {slots : List Slot} {session : Slot}
    (h : TouchesOne slots session) : LeavesOne slots session := by
  rw [LeavesOne, mergeSession_eq_absorb]
  exact exists_covers_absorb h

/-- The slots stay apart if and only if every session, when it is inserted, touches at most one of
the slots. -/
theorem staysApart_iff (sessions : List Slot) :
    StaysApart sessions ↔
      Respects (fun slots session => some (mergeSession slots session)) TouchesOne [] sessions := by
  have hiff : ∀ slots session, Separated slots →
      ((Separated (mergeSession slots session) ∧ LeavesOne slots session) ↔
        TouchesOne slots session) := by
    intro slots session hslots
    rw [separated_mergeSession_iff hslots]
    exact and_iff_left_of_imp leavesOne_of_touchesOne
  exact forall_step_iff_respects hiff
    (fun slots session hslots hone => (separated_mergeSession_iff hslots session).2 hone)
    separated_nil

/-- Two slots and a session across the gap between them: both grow over it. -/
theorem exists_not_staysApart : ¬ ∀ sessions : List Slot, StaysApart sessions := by
  intro h
  have hseparated := (h [⟨1, 3, by decide⟩, ⟨5, 8, by decide⟩, ⟨2, 6, by decide⟩]
    [⟨1, 3, by decide⟩, ⟨5, 8, by decide⟩] ⟨2, 6, by decide⟩ (by simp)).1
  have hslots : mergeSession (mergeSessions [⟨1, 3, by decide⟩, ⟨5, 8, by decide⟩])
      ⟨2, 6, by decide⟩ = [⟨1, 6, by decide⟩, ⟨2, 8, by decide⟩] := by decide
  rw [hslots] at hseparated
  have hdisjoint := List.rel_of_pairwise_cons hseparated List.mem_cons_self
  have hfirst : (3 : ℚ) ∈ Set.Ioo 1 6 := by norm_num
  have hsecond : (3 : ℚ) ∈ Set.Ioo 2 8 := by norm_num
  exact Set.disjoint_left.1 hdisjoint hfirst hsecond

end GraphScripts
end ResourceAccounting
