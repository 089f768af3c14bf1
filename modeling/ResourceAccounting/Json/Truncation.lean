import Mathlib.Data.List.Infix
import ResourceAccounting.Json.Fields

/-!
# Truncation — objects that are cut off

The loop of the reader ends without an error where the text ends, whatever its state is.  So an object
that is cut off is not told from a complete one: the values before the cut are stored, and the result
is 0.  This is for objects without arrays, as `json_read_array` does look for its bracket.

- `readFlat_append` — an error or a fault stays when the text goes on;
- `exists_done_of_prefix` — a reader that takes a text takes every front of it.
-/

namespace ResourceAccounting
namespace Json

open Python

variable {M R : Type} {host : Host R} {attrs : List (Attr Empty M R)} {parent : Parent}

/-- No `\u` escape is in the text, or begun before it. -/
def UFree (state : State Empty M R) (text : Text) : Prop :=
  ¬ ['\\', 'u'] <:+: text ∧
    ∀ cursor valbuf, state = .in_escape cursor valbuf → text.head? ≠ some 'u'

/-- The loop, as the array reader is never called. -/
abbrev runFlat (host : Host R) (attrs : List (Attr Empty M R)) (parent : Parent) :
    Nat → Text → Reader Empty M R → Outcome × M :=
  run (fun spec => spec.elim) host attrs parent

/-- One turn, as the array reader is never called. -/
abbrev stepFlat (host : Host R) (attrs : List (Attr Empty M R)) (parent : Parent) :
    Reader Empty M R → Char → Text → Turn Empty M R :=
  step (fun spec => spec.elim) host attrs parent

theorem isArray_eq_none (k : Kind Empty M R) : k.isArray = none := by
  cases k with
  | array spec => exact spec.elim
  | _ => rfl

/-- A turn looks ahead for a `\u` escape only. -/
theorem stepFlat_behind {r : Reader Empty M R} {c : Char} {text : Text}
    (hfree : UFree r.state (c :: text)) (behind : Text) :
    stepFlat host attrs parent r c behind = stepFlat host attrs parent r c [] := by
  unfold stepFlat step
  split
  all_goals try rfl
  · simp only [Reader.awaitValue, isArray_eq_none]
  · rename_i cursor valbuf hstate
    have hc : c ≠ 'u' := fun h => hfree.2 cursor valbuf hstate (congrArg some h)
    simp only [Reader.inEscape, if_neg hc]

/-- Nothing is skipped, and an escape is begun at a backslash only. -/
def Turn.Plain (c : Char) : Turn Empty M R → Prop
  | .next r skip => skip = 0 ∧ ∀ cursor valbuf, r.state = .in_escape cursor valbuf → c = '\\'
  | _ => True

namespace Reader

variable {r : Reader Empty M R}

theorem goto_plain {state : State Empty M R} (h : ∀ cursor valbuf, state ≠ .in_escape cursor valbuf)
    (c : Char) : (r.goto state).Plain c :=
  ⟨rfl, fun cursor valbuf heq => absurd heq (h cursor valbuf)⟩

theorem stay_plain (hr : ∀ cursor valbuf, r.state ≠ .in_escape cursor valbuf) (c : Char) :
    (Turn.next r 0).Plain c :=
  goto_plain hr c

theorem postArray_plain (hr : ∀ cursor valbuf, r.state ≠ .in_escape cursor valbuf) (c : Char) :
    (r.postArray c).Plain c := by
  unfold postArray
  split
  · exact stay_plain hr c
  · split
    · exact goto_plain (fun _ _ h => by cases h) c
    · split
      · trivial
      · trivial

theorem postVal_plain (r : Reader Empty M R) (cursor : Cursor Empty M R) (quoted : Bool)
    (valbuf : Text) (c : Char) : (r.postVal host parent cursor quoted valbuf c).Plain c := by
  simp only [postVal]
  split
  · trivial
  · exact postArray_plain (fun _ _ h => by cases h) c

theorem init_plain (hr : ∀ cursor valbuf, r.state ≠ .in_escape cursor valbuf) (c : Char) :
    (r.init c).Plain c := by
  unfold init
  split
  · exact stay_plain hr c
  · split
    · exact goto_plain (fun _ _ h => by cases h) c
    · trivial

theorem awaitAttr_plain (hr : ∀ cursor valbuf, r.state ≠ .in_escape cursor valbuf) (c : Char) :
    (r.awaitAttr c).Plain c := by
  unfold awaitAttr
  split
  · exact stay_plain hr c
  · split
    · exact goto_plain (fun _ _ h => by cases h) c
    · split
      · exact stay_plain hr c
      · trivial

theorem inAttr_plain (attrbuf : Text) (c : Char) : (r.inAttr attrs attrbuf c).Plain c := by
  unfold inAttr
  split
  · split
    · trivial
    · cases findAttr attrbuf attrs with
      | none => trivial
      | some cursor => exact ⟨rfl, fun _ _ h => by cases h⟩
  · split
    · trivial
    · split
      · trivial
      · exact goto_plain (fun _ _ h => by cases h) c

theorem awaitValue_plain {readArray : Empty → Text → M → Outcome × M}
    (hr : ∀ cursor valbuf, r.state ≠ .in_escape cursor valbuf) (cursor : Cursor Empty M R) (c : Char)
    (behind : Text) : (r.awaitValue readArray cursor c behind).Plain c := by
  simp only [awaitValue, isArray_eq_none]
  split
  · exact stay_plain hr c
  · split
    · trivial
    · split
      · exact goto_plain (fun _ _ h => by cases h) c
      · exact goto_plain (fun _ _ h => by cases h) c

theorem inValString_plain (cursor : Cursor Empty M R) (valbuf : Text) (c : Char) :
    (r.inValString cursor valbuf c).Plain c := by
  unfold inValString
  split
  · -- an escape begins
    exact ⟨rfl, fun _ _ _ => ‹_›⟩
  · split
    · split
      · trivial
      · exact goto_plain (fun _ _ h => by cases h) c
    · split
      · trivial
      · split
        · trivial
        · exact goto_plain (fun _ _ h => by cases h) c

theorem inEscape_plain (cursor : Cursor Empty M R) (valbuf : Text) {c : Char} (hc : c ≠ 'u')
    (behind : Text) : (r.inEscape host cursor valbuf c behind).Plain c := by
  rw [inEscape, if_neg hc]
  split
  · trivial
  · exact goto_plain (fun _ _ h => by cases h) c

theorem inValToken_plain (cursor : Cursor Empty M R) (valbuf : Text) (c : Char) :
    (r.inValToken host parent cursor valbuf c).Plain c := by
  unfold inValToken
  split
  · split
    · trivial
    · split
      · exact goto_plain (fun _ _ h => by cases h) c
      · exact postVal_plain r _ false _ c
  · split
    · trivial
    · split
      · trivial
      · exact goto_plain (fun _ _ h => by cases h) c

end Reader

theorem step_plain {r : Reader Empty M R} {c : Char}
    (hu : ∀ cursor valbuf, r.state = .in_escape cursor valbuf → c ≠ 'u') (behind : Text) :
    (stepFlat host attrs parent r c behind).Plain c := by
  unfold stepFlat step
  split
  all_goals rename_i hstate
  · exact Reader.init_plain (fun _ _ h => by cases hstate.symm.trans h) c
  · exact Reader.awaitAttr_plain (fun _ _ h => by cases hstate.symm.trans h) c
  · exact Reader.inAttr_plain _ c
  · exact Reader.awaitValue_plain (fun _ _ h => by cases hstate.symm.trans h) _ c behind
  · exact Reader.inValString_plain _ _ c
  · exact Reader.inEscape_plain _ _ (hu _ _ hstate) behind
  · exact Reader.inValToken_plain _ _ c
  · exact Reader.postVal_plain r _ _ _ c
  · exact Reader.postArray_plain (fun _ _ h => by cases hstate.symm.trans h) c

/-- What is left of the text stays free of `\u` escapes. -/
theorem ufree_of_next {r r' : Reader Empty M R} {c : Char} {text behind : Text} {skip : Nat}
    (hfree : UFree r.state (c :: text))
    (h : stepFlat host attrs parent r c behind = .next r' skip) :
    skip = 0 ∧ UFree r'.state text := by
  have hu : ∀ cursor valbuf, r.state = .in_escape cursor valbuf → c ≠ 'u' :=
    fun cursor valbuf hstate hc => hfree.2 cursor valbuf hstate (congrArg some hc)
  have hplain : (stepFlat host attrs parent r c behind).Plain c := step_plain hu behind
  rw [h] at hplain
  refine ⟨hplain.1, fun hin => hfree.1 (hin.trans (List.suffix_cons c text).isInfix), ?_⟩
  intro cursor valbuf hstate hhead
  -- the escape began at `c`, and a `u` follows
  have hc := hplain.2 cursor valbuf hstate
  rcases List.head?_eq_some_iff.1 hhead with ⟨rest, rfl⟩
  rw [hc] at hfree
  exact hfree.1 ⟨[], rest, rfl⟩

/-- What is wrong with the front of a text is wrong with the text. -/
theorem runFlat_append {text : Text} {r : Reader Empty M R} (hfree : UFree r.state text)
    (h : ∀ rest, (runFlat host attrs parent 0 text r).1 ≠ .done rest) (more : Text) :
    runFlat host attrs parent 0 (text ++ more) r = runFlat host attrs parent 0 text r := by
  induction text generalizing r with
  | nil => exact absurd rfl (h [])
  | cons c text ih =>
      have hcons : ∀ behind, runFlat host attrs parent 0 (c :: behind) r =
          resume (fun spec => spec.elim) host attrs parent behind
            (stepFlat host attrs parent r c behind) :=
        fun behind => run_cons _ host attrs parent c behind r
      have hstep : stepFlat host attrs parent r c (text ++ more) =
          stepFlat host attrs parent r c text := by
        rw [stepFlat_behind hfree, stepFlat_behind hfree text]
      rw [hcons] at h
      rw [List.cons_append, hcons, hcons, hstep]
      cases hturn : stepFlat host attrs parent r c text with
      | next r' skip =>
          rcases ufree_of_next hfree hturn with ⟨rfl, hfree'⟩
          rw [hturn] at h
          exact ih hfree' h
      | finish m =>
          rw [hturn] at h
          exact absurd rfl (h _)
      | error e m => rfl
      | fault m => rfl

/-- The reader of objects, likewise. -/
theorem readFlat_append {text : Text} (hfree : ¬ ['\\', 'u'] <:+: text) {m : M}
    (h : ∀ rest, (readFlat host attrs parent text m).1 ≠ .done rest) (more : Text) :
    readFlat host attrs parent (text ++ more) m = readFlat host attrs parent text m := by
  unfold readFlat internalReadObject at h ⊢
  cases hdefaults : setDefaults parent attrs m with
  | mk e m' =>
      rw [hdefaults] at h
      cases e with
      | some e => rfl
      | none => exact runFlat_append ⟨hfree, fun _ _ h => by cases h⟩ h more

/-- A reader that takes a text takes every front of it. -/
theorem exists_done_of_prefix {front text : Text} (hfront : front <+: text)
    (hfree : ¬ ['\\', 'u'] <:+: text) {m : M} {rest : Text}
    (h : (readFlat host attrs parent text m).1 = .done rest) :
    ∃ rest', (readFlat host attrs parent front m).1 = .done rest' := by
  by_contra hnone
  rcases hfront with ⟨more, rfl⟩
  have hfree' : ¬ ['\\', 'u'] <:+: front := fun hin =>
    hfree (hin.trans (List.prefix_append front more).isInfix)
  have hsame := readFlat_append hfree' (fun rest' h' => hnone ⟨rest', h'⟩) more
  rw [hsame] at h
  exact hnone ⟨rest, h⟩

theorem exists_done_of_prefix_number :
    ∃ rest, (readFlat (⟨fun _ => (), fun _ => (), '?'⟩ : Host Unit)
      [{ name := "n".toList, kind := .integer (fun n _ => n) 0 }] .none "\x7b\"n\":4".toList
      (7 : Int)).1 = .done rest :=
  exists_done_of_prefix
    (show "\x7b\"n\":4".toList <+: "\x7b\"n\":42\x7d".toList by decide) (by decide)
    (show _ = Outcome.done [] from rfl)

end Json
end ResourceAccounting
