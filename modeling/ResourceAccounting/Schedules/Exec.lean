import Mathlib.Data.List.Infix

/-!
# Exec — runs of a labelled system under a given schedule

A system is a partial step function `step : σ → ℓ → Option σ`: in state `s` the action `l` either
is not enabled or leads to one next state.  A schedule is a list of actions, so an interleaving of
several parties is a schedule of their actions.  The module gives:

- `exec` — the state that a schedule leads to;
- `Respects` — every action of a schedule meets a condition on the state it is taken in;
- the invariant rules, for all runs and for the runs that respect a condition, and the rules for a
  property that a step keeps, or has, only when it meets the condition (`iff_respects_of_exec`,
  `forall_step_iff_respects`);
- `Justified` — a correspondence property, which says of each event of a history what must have
  happened before it.
-/

namespace ResourceAccounting
namespace Schedules

variable {σ ℓ : Type*} (step : σ → ℓ → Option σ)

/-- Take the actions of a schedule one after the other. -/
def exec : σ → List ℓ → Option σ
  | s, [] => some s
  | s, l :: ls => (step s l).bind (fun s' => exec s' ls)

/-- Every action of the schedule is taken in a state where it meets `C`. -/
def Respects (C : σ → ℓ → Prop) : σ → List ℓ → Prop
  | _, [] => True
  | s, l :: ls => C s l ∧ ∀ s', step s l = some s' → Respects C s' ls

variable {step}

theorem exec_cons_eq_some {s t : σ} {l : ℓ} {ls : List ℓ} :
    exec step s (l :: ls) = some t ↔ ∃ s', step s l = some s' ∧ exec step s' ls = some t := by
  simp [exec, Option.bind_eq_some_iff]

theorem respects_cons {C : σ → ℓ → Prop} {s s' : σ} {l : ℓ} {ls : List ℓ}
    (hstep : step s l = some s') :
    Respects step C s (l :: ls) ↔ C s l ∧ Respects step C s' ls := by
  refine and_congr_right fun _ => ⟨fun h => h s' hstep, fun h t ht => ?_⟩
  cases hstep.symm.trans ht
  exact h

/-- An action that is not enabled ends the schedule. -/
theorem respects_cons_of_none {C : σ → ℓ → Prop} {s : σ} {l : ℓ} {ls : List ℓ}
    (hstep : step s l = none) : Respects step C s (l :: ls) ↔ C s l := by
  refine and_iff_left fun t ht => ?_
  cases hstep.symm.trans ht

instance decidableRespects {C : σ → ℓ → Prop} [∀ s l, Decidable (C s l)] :
    ∀ (s : σ) (ls : List ℓ), Decidable (Respects step C s ls)
  | _, [] => isTrue trivial
  | s, l :: ls =>
      match hstep : step s l with
      | none => decidable_of_iff (C s l) (respects_cons_of_none hstep).symm
      | some s' =>
          have := decidableRespects (C := C) s' ls
          decidable_of_iff (C s l ∧ Respects step C s' ls) (respects_cons hstep).symm

/-- The actions meet the condition wherever they are taken. -/
theorem respects_of_forall_mem {C : σ → ℓ → Prop} {s : σ} {ls : List ℓ} (h : ∀ l ∈ ls, ∀ s, C s l) :
    Respects step C s ls := by
  induction ls generalizing s with
  | nil => trivial
  | cons l ls ih =>
      exact ⟨h l List.mem_cons_self s, fun s' _ => ih fun l' hl' => h l' (List.mem_cons_of_mem l hl')⟩

/-- What every step that meets `C` keeps, every run that respects `C` keeps. -/
theorem exec_invariant_of_respects {C : σ → ℓ → Prop} {I : σ → Prop}
    (hstep : ∀ s l s', I s → C s l → step s l = some s' → I s') :
    ∀ {s t : σ} {ls : List ℓ}, I s → Respects step C s ls → exec step s ls = some t → I t := by
  intro s t ls
  induction ls generalizing s with
  | nil =>
      intro hI _ hrun
      cases hrun
      exact hI
  | cons l ls ih =>
      -- one step keeps `I`, and the rest of the schedule respects `C` from there on
      intro hI hC hrun
      rcases exec_cons_eq_some.1 hrun with ⟨s', hs', hrest⟩
      exact ih (hstep s l s' hI hC.1 hs') (hC.2 s' hs') hrest

/-- What every step keeps, every run keeps. -/
theorem exec_invariant {I : σ → Prop} (hstep : ∀ s l s', I s → step s l = some s' → I s')
    {s t : σ} {ls : List ℓ} (hI : I s) (hrun : exec step s ls = some t) : I t :=
  exec_invariant_of_respects (C := fun _ _ => True) (fun s l s' h _ => hstep s l s' h) hI
    (respects_of_forall_mem fun _ _ _ => trivial) hrun

/-- What a step keeps exactly when it meets `C` holds after a run exactly when the run respects
`C`. -/
theorem iff_respects_of_exec {C : σ → ℓ → Prop} {I P : σ → Prop}
    (hstep : ∀ s l s', I s → step s l = some s' → I s' ∧ (P s' ↔ P s ∧ C s l)) :
    ∀ {s t : σ} {ls : List ℓ}, I s → exec step s ls = some t →
      (P t ↔ P s ∧ Respects step C s ls) := by
  intro s t ls
  induction ls generalizing s with
  | nil =>
      intro _ hrun
      cases hrun
      simp [Respects]
  | cons l ls ih =>
      intro hI hrun
      rcases exec_cons_eq_some.1 hrun with ⟨s', hs', hrest⟩
      rcases hstep s l s' hI hs' with ⟨hI', hP⟩
      calc
        P t ↔ (P s ∧ C s l) ∧ Respects step C s' ls := by rw [ih hI' hrest, hP]
        _ ↔ P s ∧ Respects step C s (l :: ls) := by rw [and_assoc, respects_cons hs']

/-- A system without a disabled action: what a step does exactly when it meets `C`, every step of a
schedule does exactly when the schedule respects `C`, if the steps that meet `C` keep an invariant
under which this is so. -/
theorem forall_step_iff_respects {next : σ → ℓ → σ} {I : σ → Prop} {P C : σ → ℓ → Prop}
    (hiff : ∀ s l, I s → (P s l ↔ C s l)) (hkeep : ∀ s l, I s → C s l → I (next s l)) :
    ∀ {s : σ} {ls : List ℓ}, I s →
      ((∀ front l, front ++ [l] <+: ls → P (front.foldl next s) l) ↔
        Respects (fun s l => some (next s l)) C s ls) := by
  intro s ls
  induction ls generalizing s with
  | nil =>
      intro _
      exact iff_of_true (fun front l h => by simp at h) trivial
  | cons a ls ih =>
      intro hI
      rw [respects_cons rfl, ← hiff s a hI]
      constructor
      · intro hall
        have hhead : P s a := hall [] a (by simp)
        have hrest := ih (hkeep s a hI ((hiff s a hI).1 hhead))
        exact ⟨hhead, hrest.1 fun front l h => hall (a :: front) l (by simpa using h)⟩
      · rintro ⟨hhead, hrespects⟩ front l h
        have hrest := (ih (hkeep s a hI ((hiff s a hI).1 hhead))).2 hrespects
        cases front with
        | nil =>
            have hl : l = a := by simpa using h
            exact hl ▸ hhead
        | cons b front =>
            have hparts : b = a ∧ front ++ [l] <+: ls := by
              simpa [List.cons_prefix_cons] using h
            rw [hparts.1]
            exact hrest front l hparts.2

/-- Where `C` says which of the actions are enabled, a schedule of them is a run exactly if it respects
`C`. -/
theorem exec_ne_none_iff_respects {C : σ → ℓ → Prop} {D : ℓ → Prop}
    (hiff : ∀ s l, D l → (step s l ≠ none ↔ C s l)) :
    ∀ {s : σ} {ls : List ℓ}, (∀ l ∈ ls, D l) → (exec step s ls ≠ none ↔ Respects step C s ls) := by
  intro s ls
  induction ls generalizing s with
  | nil => exact fun _ => iff_of_true (Option.some_ne_none s) trivial
  | cons l ls ih =>
      intro hD
      have hhead := hiff s l (hD l List.mem_cons_self)
      cases hstep : step s l with
      | none =>
          rw [respects_cons_of_none hstep, ← hhead, exec, hstep]
          exact Iff.rfl
      | some s' =>
          have hC : C s l := hhead.1 (hstep ▸ Option.some_ne_none s')
          have hrest := ih (s := s') fun l' hl' => hD l' (List.mem_cons_of_mem l hl')
          rw [respects_cons hstep, and_iff_right hC, exec, hstep]
          exact hrest

/-- What holds of every front of a schedule holds before its first action and of every front that
has it. -/
theorem forall_front_cons {P : List ℓ → Prop} {l : ℓ} {ls : List ℓ} :
    (∀ front, front <+: l :: ls → P front) ↔ P [] ∧ ∀ front, front <+: ls → P (l :: front) := by
  constructor
  · intro h
    exact ⟨h [] List.nil_prefix, fun front hfront => h _ (List.cons_prefix_cons.2 ⟨rfl, hfront⟩)⟩
  · rintro ⟨hnil, hcons⟩ front hfront
    rcases List.prefix_cons_iff.1 hfront with rfl | ⟨rest, rfl, hrest⟩
    · exact hnil
    · exact hcons rest hrest

theorem forall_front_nil {P : List ℓ → Prop} : (∀ front, front <+: [] → P front) ↔ P [] := by
  simp

/-! ## Histories -/

section History

variable {ε : Type*}

/-- Every event of the history, the latest first, is justified by the events before it.  A history
only grows at its head, so an event that is not justified stays so. -/
def Justified (J : List ε → ε → Prop) : List ε → Prop
  | [] => True
  | e :: past => J past e ∧ Justified J past

variable {J : List ε → ε → Prop}

theorem justified_iff_forall_suffix {history : List ε} :
    Justified J history ↔ ∀ e past, e :: past <:+ history → J past e := by
  induction history with
  | nil => simp [Justified]
  | cons e history ih =>
      constructor
      · rintro ⟨he, hrest⟩ e' past hsuffix
        rcases List.suffix_cons_iff.1 hsuffix with heq | hsuffix
        · cases heq
          exact he
        · exact ih.1 hrest e' past hsuffix
      · intro h
        refine ⟨h e history (List.suffix_refl _), ih.2 fun e' past hsuffix => ?_⟩
        exact h e' past (hsuffix.trans (List.suffix_cons e history))

end History

end Schedules
end ResourceAccounting
