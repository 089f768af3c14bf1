import Mathlib.Data.List.Sublists
import Mathlib.Order.MinMax

/-!
# Records — the items of a list that exceed everything before them

A collector that admits an item when its key exceeds the last admitted one admits the records of its
input, the items whose keys exceed all earlier ones.  Further items in the input, of which nobody
wants to know whether they are admitted, may keep wanted ones out:

- `records` — the items that exceed all before them and a given start;
- `filter_records_sublist` — further items never let a wanted one in;
- `Spares` — they let every wanted one in that is a record without them;
- `map_filter_records_eq_iff` — the wanted records are the same if and only if they do.
-/

namespace ResourceAccounting
namespace Streams

variable {α β κ : Type*} [LinearOrder κ]

/-- The items whose keys exceed `top` and the keys of all items before them. -/
def records (key : α → κ) : κ → List α → List α
  | _, [] => []
  | top, a :: l => if top < key a then a :: records key (key a) l else records key top l

variable {key : α → κ}

@[simp]
theorem records_nil (top : κ) : records key top [] = [] :=
  rfl

theorem records_cons_of_lt {top : κ} {a : α} (h : top < key a) (l : List α) :
    records key top (a :: l) = a :: records key (max top (key a)) l := by
  rw [records, if_pos h, max_eq_right h.le]

theorem records_cons_of_le {top : κ} {a : α} (h : key a ≤ top) (l : List α) :
    records key top (a :: l) = records key (max top (key a)) l := by
  rw [records, if_neg (not_lt.2 h), max_eq_left h]

/-! ## Two inputs -/

/-- Every wanted item that is a record among the items kept from the list is a record of the list.
The tops are those from which the two inputs start. -/
def Spares (key : α → κ) (kept wanted : α → Bool) (top top' : κ) (l : List α) : Prop :=
  ∀ front a rest, l = front ++ a :: rest → wanted a = true → top' < key a →
    (∀ b ∈ front, kept b = true → key b < key a) → top < key a ∧ ∀ b ∈ front, key b < key a

theorem spares_nil (key : α → κ) (kept wanted : α → Bool) (top top' : κ) :
    Spares key kept wanted top top' [] := by
  intro front a rest h
  simp at h

theorem spares_cons {kept wanted : α → Bool} {top top' : κ} {a : α} {l : List α} :
    Spares key kept wanted top top' (a :: l) ↔
      (wanted a = true → top' < key a → top < key a) ∧
        Spares key kept wanted (max top (key a)) (if kept a then max top' (key a) else top') l := by
  constructor
  · intro h
    refine ⟨fun hwanted hlt => (h [] a l rfl hwanted hlt (by simp)).1, ?_⟩
    intro front b rest hl hwanted hlt hkept
    -- put `a` before the front
    have hall : top < key b ∧ ∀ c ∈ a :: front, key c < key b := by
      refine h (a :: front) b rest (by simp [hl]) hwanted ?_ ?_
      · split at hlt
        · exact (max_lt_iff.1 hlt).1
        · exact hlt
      · intro c hc hkc
        rcases List.mem_cons.1 hc with rfl | hc
        · rw [if_pos hkc] at hlt
          exact (max_lt_iff.1 hlt).2
        · exact hkept c hc hkc
    exact ⟨max_lt hall.1 (hall.2 a List.mem_cons_self),
      fun c hc => hall.2 c (List.mem_cons_of_mem a hc)⟩
  · rintro ⟨hfirst, hrest⟩ front b rest hl hwanted hlt hkept
    cases front with
    | nil =>
        rw [List.nil_append] at hl
        rcases List.cons.inj hl with ⟨rfl, -⟩
        exact ⟨hfirst hwanted hlt, by simp⟩
    | cons c front =>
        rcases List.cons.inj hl with ⟨rfl, hl'⟩
        have htop : (if kept a then max top' (key a) else top') < key b := by
          split
          · rename_i hka
            exact max_lt hlt (hkept a List.mem_cons_self hka)
          · exact hlt
        rcases hrest front b rest hl' hwanted htop
          (fun d hd => hkept d (List.mem_cons_of_mem a hd)) with ⟨hmax, hall⟩
        refine ⟨(max_lt_iff.1 hmax).1, fun d hd => ?_⟩
        rcases List.mem_cons.1 hd with rfl | hd
        · exact (max_lt_iff.1 hmax).2
        · exact hall d hd

theorem wanted_eq_false {kept wanted : α → Bool} (hwanted : ∀ a, wanted a = true → kept a = true)
    {a : α} (hka : kept a = false) : wanted a = false := by
  by_contra hwa
  rw [hwanted a (by simpa using hwa)] at hka
  cases hka

/-- Further items raise the top, and so let no more wanted items in. -/
theorem filter_records_sublist {kept wanted : α → Bool}
    (hwanted : ∀ a, wanted a = true → kept a = true) (l : List α) {top top' : κ} (h : top' ≤ top) :
    ((records key top l).filter wanted).Sublist
      ((records key top' (l.filter kept)).filter wanted) := by
  induction l generalizing top top' with
  | nil => simp
  | cons a l ih =>
      cases hka : kept a with
      | false =>
          have hwa := wanted_eq_false hwanted hka
          have hrest := ih (h.trans (le_max_left top (key a)))
          rw [List.filter_cons_of_neg (by simp [hka])]
          rcases lt_or_ge top (key a) with hlt | hle
          · rwa [records_cons_of_lt hlt, List.filter_cons_of_neg (by simp [hwa])]
          · rwa [records_cons_of_le hle]
      | true =>
          have hrest := ih (max_le_max_right (key a) h)
          rw [List.filter_cons_of_pos hka]
          rcases lt_or_ge top (key a) with hlt | hle
          · -- admitted from both inputs
            rw [records_cons_of_lt hlt, records_cons_of_lt (h.trans_lt hlt)]
            cases hwa : wanted a with
            | false => simpa [hwa] using hrest
            | true => simpa [hwa] using hrest
          · rw [records_cons_of_le hle]
            rcases lt_or_ge top' (key a) with hlt' | hle'
            · rw [records_cons_of_lt hlt']
              cases hwa : wanted a with
              | false => simpa [hwa] using hrest
              | true =>
                  rw [List.filter_cons_of_pos hwa]
                  exact hrest.cons a
            · rwa [records_cons_of_le hle']

theorem filter_records_eq_iff {kept wanted : α → Bool}
    (hwanted : ∀ a, wanted a = true → kept a = true) (l : List α) {top top' : κ} (h : top' ≤ top) :
    (records key top l).filter wanted = (records key top' (l.filter kept)).filter wanted ↔
      Spares key kept wanted top top' l := by
  induction l generalizing top top' with
  | nil => simp [spares_nil]
  | cons a l ih =>
      rw [spares_cons]
      cases hka : kept a with
      | false =>
          have hwa := wanted_eq_false hwanted hka
          have hrest := ih (h.trans (le_max_left top (key a)))
          rw [List.filter_cons_of_neg (by simp [hka])]
          rcases lt_or_ge top (key a) with hlt | hle
          · rw [records_cons_of_lt hlt, List.filter_cons_of_neg (by simp [hwa])]
            simpa [hwa] using hrest
          · rw [records_cons_of_le hle]
            simpa [hwa] using hrest
      | true =>
          have hrest := ih (max_le_max_right (key a) h)
          rw [List.filter_cons_of_pos hka]
          rcases lt_or_ge top (key a) with hlt | hle
          · rw [records_cons_of_lt hlt, records_cons_of_lt (h.trans_lt hlt)]
            cases hwa : wanted a with
            | false => simpa [hwa] using hrest
            | true => simpa [hwa, hlt] using hrest
          · rw [records_cons_of_le hle]
            rcases lt_or_ge top' (key a) with hlt' | hle'
            · rw [records_cons_of_lt hlt']
              cases hwa : wanted a with
              | false => simpa [hwa] using hrest
              | true =>
                  -- `a` is kept out: the wanted records are fewer by one at least
                  have hshort := (@filter_records_sublist α κ _ key kept wanted hwanted l _ _
                    (max_le_max_right (key a) h)).length_le
                  rw [List.filter_cons_of_pos hwa]
                  constructor
                  · intro heq
                    rw [heq, List.length_cons] at hshort
                    omega
                  · rintro ⟨hfirst, -⟩
                    exact absurd (hfirst rfl hlt') (not_lt.2 hle)
            · rw [records_cons_of_le hle']
              simpa [not_lt.2 hle'] using hrest

/-- What is made of the wanted records tells as much as the records themselves. -/
theorem map_filter_records_eq_iff {kept wanted : α → Bool}
    (hwanted : ∀ a, wanted a = true → kept a = true) (f : α → β) (l : List α) {top top' : κ}
    (h : top' ≤ top) :
    ((records key top l).filter wanted).map f =
        ((records key top' (l.filter kept)).filter wanted).map f ↔
      Spares key kept wanted top top' l := by
  rw [← filter_records_eq_iff hwanted l h]
  constructor
  · intro heq
    have hlength := congrArg List.length heq
    simp only [List.length_map] at hlength
    exact (filter_records_sublist hwanted l h).eq_of_length hlength
  · intro heq
    rw [heq]

end Streams
end ResourceAccounting
