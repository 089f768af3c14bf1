import Mathlib.Data.List.Chain
import Mathlib.Order.Lattice

/-!
# HighWater — collecting a growing sequence from overlapping windows

A sequence is read through windows that overlap or at least touch.  A collector that keeps no
place in the sequence, only the items it has already taken, can tell new items from old ones by a
key: it admits an item when its key exceeds the key of the last admitted one.  The module gives:

- `slice`, `Window`, `seen` — windows of a list and the part of it that some window shows;
- `keepAbove` — one step of the collector;
- `collect_eq_seen_iff` — the collector takes exactly what was seen iff the keys of that part
  increase and no window reaches back behind the first one.
-/

namespace ResourceAccounting
namespace Streams

variable {α κ : Type*}

/-! ## Slices -/

/-- The items from place `a` up to place `b`. -/
def slice (l : List α) (a b : Nat) : List α :=
  (l.take b).drop a

theorem slice_eq_nil (l : List α) {a b : Nat} (h : b ≤ a) : slice l a b = [] := by
  apply List.drop_eq_nil_of_le
  rw [List.length_take]
  omega

theorem slice_succ {l : List α} {a b : Nat} (hab : a ≤ b) (hb : b < l.length) :
    slice l a (b + 1) = slice l a b ++ [l[b]] := by
  have hlen : a ≤ (l.take b).length := by
    rw [List.length_take]
    omega
  calc
    slice l a (b + 1) = (l.take b ++ [l[b]]).drop a := by
          rw [slice, List.take_succ_eq_append_getElem hb]
    _ = slice l a b ++ [l[b]] := List.drop_append_of_le_length hlen

theorem slice_eq_cons {l : List α} {a b : Nat} (hab : a < b) (hb : b ≤ l.length) :
    slice l a b = l[a] :: slice l (a + 1) b := by
  have hlen : a < (l.take b).length := by
    rw [List.length_take]
    omega
  have hcons := List.drop_eq_getElem_cons hlen
  rw [List.getElem_take] at hcons
  exact hcons

/-! ## Windows -/

/-- The places from `start` up to `stop` in a sequence of `n` items. -/
structure Window (n : Nat) where
  start : Nat
  stop : Nat
  start_le_stop : start ≤ stop
  stop_le : stop ≤ n
  deriving DecidableEq

/-- The window shows place `i`. -/
def Window.Covers {n : Nat} (w : Window n) (i : Nat) : Prop :=
  w.start ≤ i ∧ i < w.stop

instance {n : Nat} (w : Window n) (i : Nat) : Decidable (w.Covers i) := by
  unfold Window.Covers
  infer_instance

/-- What the window shows. -/
def Window.items (l : List α) (w : Window l.length) : List α :=
  slice l w.start w.stop

/-- No window starts behind the end of the one before it. -/
def Overlapping {n : Nat} (ws : List (Window n)) : Prop :=
  ws.IsChain (fun w v => v.start ≤ w.stop)

/-- No window with an item starts before the first window with an item. -/
def NoneBeforeFirst {n : Nat} : List (Window n) → Prop
  | [] => True
  | w :: ws =>
      if w.start < w.stop then
        ∀ v ∈ ws, v.start < v.stop → w.start ≤ v.start
      else
        NoneBeforeFirst ws

/-- The part of the sequence that some window shows. -/
def seen (l : List α) (ws : List (Window l.length)) : List α :=
  (l.zipIdx.filter (fun p => ws.any (fun w => decide (w.Covers p.2)))).map Prod.fst

theorem seen_sublist (l : List α) (ws : List (Window l.length)) : (seen l ws).Sublist l := by
  have hsub := (List.filter_sublist (l := l.zipIdx)
    (p := fun p => ws.any (fun w => decide (w.Covers p.2)))).map Prod.fst
  rw [List.zipIdx_map_fst] at hsub
  exact hsub

theorem getElem_mem_seen {l : List α} {ws : List (Window l.length)} {w : Window l.length}
    {i : Nat} (hw : w ∈ ws) (hi : w.Covers i) (hlen : i < l.length) : l[i] ∈ seen l ws := by
  refine List.mem_map.2 ⟨(l[i], i), List.mem_filter.2 ⟨?_, ?_⟩, rfl⟩
  · exact List.mk_mem_zipIdx_iff_getElem?.2 (by simp [hlen])
  · exact List.any_eq_true.2 ⟨w, hw, by simpa using hi⟩

theorem filter_zipIdx_eq_slice (l : List α) (k a b : Nat) :
    ((l.zipIdx k).filter (fun p => decide (a ≤ p.2 ∧ p.2 < b))).map Prod.fst =
      slice l (a - k) (b - k) := by
  induction l generalizing k with
  | nil => simp [slice]
  | cons x l ih =>
      rw [List.zipIdx_cons, List.filter_cons]
      by_cases hin : a ≤ k ∧ k < b
      · -- the item at `k` is inside
        have ha : a - k = 0 := by omega
        have ha' : a - (k + 1) = 0 := by omega
        have hb : b - k = (b - (k + 1)) + 1 := by omega
        rw [if_pos (by simpa using hin), List.map_cons, ih, ha, ha', hb]
        simp [slice]
      · rw [if_neg (by simpa using hin), ih]
        rcases Nat.lt_or_ge k b with hkb | hkb
        · -- the interval has not begun
          have ha : a - k = (a - (k + 1)) + 1 := by omega
          have hb : b - k = (b - (k + 1)) + 1 := by omega
          simp [slice, ha, hb]
        · -- the interval has ended
          have hb : b - k = 0 := by omega
          have hb' : b - (k + 1) = 0 := by omega
          simp [slice, hb, hb']

theorem seen_eq_slice {l : List α} {ws : List (Window l.length)} {a b : Nat}
    (h : ∀ i, (∃ w ∈ ws, w.Covers i) ↔ a ≤ i ∧ i < b) : seen l ws = slice l a b := by
  have hpred : ∀ p : α × Nat, ws.any (fun w => decide (w.Covers p.2)) =
      decide (a ≤ p.2 ∧ p.2 < b) := by
    intro p
    rw [Bool.eq_iff_iff]
    simpa using h p.2
  simp only [seen, hpred]
  exact filter_zipIdx_eq_slice l 0 a b

/-! ## The collector -/

section Collector

variable [LinearOrder κ] (key : α → κ)

/-- Take an item whose key exceeds the key of the last taken one. -/
def keepAbove (log : List α) (a : α) : List α :=
  match log.getLast? with
  | none => [a]
  | some b => if key b < key a then log ++ [a] else log

variable {key}

theorem keepAbove_nil (a : α) : keepAbove key [] a = [a] :=
  rfl

theorem keepAbove_concat (log : List α) (b a : α) :
    keepAbove key (log ++ [b]) a = if key b < key a then log ++ [b] ++ [a] else log ++ [b] := by
  simp [keepAbove]

theorem prefix_foldl_keepAbove (items log : List α) : log <+: items.foldl (keepAbove key) log := by
  induction items generalizing log with
  | nil => exact List.prefix_rfl
  | cons a items ih =>
      have hstep : log <+: keepAbove key log a := by
        rcases List.eq_nil_or_concat log with rfl | ⟨log, b, rfl⟩
        · exact List.nil_prefix
        · rw [List.concat_eq_append, keepAbove_concat]
          split
          · exact List.prefix_append _ _
          · exact List.prefix_rfl
      exact hstep.trans (ih _)

/-- Whatever comes in, the keys of what is taken increase. -/
theorem pairwise_foldl_keepAbove (items : List α) {log : List α}
    (hlog : log.Pairwise (fun a b => key a < key b)) :
    (items.foldl (keepAbove key) log).Pairwise (fun a b => key a < key b) := by
  induction items generalizing log with
  | nil => exact hlog
  | cons a items ih =>
      apply ih
      rcases List.eq_nil_or_concat log with rfl | ⟨log, b, rfl⟩
      · simp [keepAbove]
      · rw [List.concat_eq_append] at hlog ⊢
        rw [keepAbove_concat]
        split
        · rename_i hba
          refine List.pairwise_append.2 ⟨hlog, by simp, ?_⟩
          intro c hc d hd
          rcases List.mem_singleton.1 hd with rfl
          rcases List.mem_append.1 hc with hc | hc
          · exact ((List.pairwise_append.1 hlog).2.2 c hc b (by simp)).trans hba
          · rcases List.mem_singleton.1 hc with rfl
            exact hba
        · exact hlog

/-- The keys increase from place `a` up to place `c`. -/
def IncreasingOn (key : α → κ) (l : List α) (a c : Nat) : Prop :=
  ∀ i j, (hij : i < j) → (hj : j < l.length) → a ≤ i → j < c → key l[i] < key l[j]

theorem increasingOn_of_pairwise {l : List α} {a c : Nat}
    (h : (slice l a c).Pairwise (fun x y => key x < key y)) : IncreasingOn key l a c := by
  intro i j hij hj hai hjc
  have hj' : j - a < (slice l a c).length := by
    simp [slice]
    omega
  have hlt := List.pairwise_iff_getElem.1 h (i - a) (j - a) (by omega) hj' (by omega)
  have hi : a + (i - a) = i := by omega
  have hj : a + (j - a) = j := by omega
  simpa [slice, hi, hj] using hlt

/-- Having taken the places from `a` up to `b`, the collector skips a place in between and takes
the place `b`. -/
theorem keepAbove_slice {l : List α} {a b c i : Nat} (hinc : IncreasingOn key l a c)
    (hc : c ≤ l.length) (hab : a < b) (hai : a ≤ i) (hib : i ≤ b) (hbc : b ≤ c) (hic : i < c) :
    keepAbove key (slice l a b) l[i] = slice l a (max b (i + 1)) := by
  cases b with
  | zero => omega
  | succ m =>
      have hm : m < l.length := by omega
      rw [slice_succ (by omega) hm, keepAbove_concat]
      rcases Nat.lt_or_eq_of_le hib with hlt | rfl
      · -- an old place: its key does not exceed the key of the last one
        have hnot : ¬ key l[m] < key l[i] := by
          rcases Nat.lt_or_eq_of_le (Nat.le_of_lt_succ hlt) with him | rfl
          · exact lt_asymm (hinc i m him hm hai (by omega))
          · exact lt_irrefl _
        have hmax : max (m + 1) (i + 1) = m + 1 := by omega
        rw [if_neg hnot, hmax, slice_succ (by omega) hm]
      · -- the next place
        have hlt : key l[m] < key l[m + 1] :=
          hinc m (m + 1) (by omega) (by omega) (by omega) hic
        have hmax : max (m + 1) (m + 1 + 1) = m + 1 + 1 := by omega
        rw [if_pos hlt, hmax, slice_succ (by omega) (by omega), slice_succ (by omega) hm]

/-- A window that starts among the places already taken, or right after them, adds the rest. -/
theorem foldl_keepAbove_slice {l : List α} {a c t : Nat} (hinc : IncreasingOn key l a c)
    (hc : c ≤ l.length) (htc : t ≤ c) :
    ∀ n s b, t - s = n → a < b → b ≤ c → a ≤ s → s ≤ b →
      (slice l s t).foldl (keepAbove key) (slice l a b) = slice l a (max b t) := by
  intro n
  induction n with
  | zero =>
      intro s b hn hab hbc has hsb
      have hmax : max b t = b := by omega
      rw [slice_eq_nil l (show t ≤ s by omega), hmax]
      rfl
  | succ n ih =>
      intro s b hn hab hbc has hsb
      have hmax : max (max b (s + 1)) t = max b t := by omega
      rw [slice_eq_cons (show s < t by omega) (by omega), List.foldl_cons,
        keepAbove_slice hinc hc hab has hsb hbc (by omega),
        ih (s + 1) (max b (s + 1)) (by omega) (by omega) (by omega) (by omega) (by omega), hmax]

/-- The end of what has been taken after these windows. -/
def reach {n : Nat} (b : Nat) (ws : List (Window n)) : Nat :=
  ws.foldl (fun b w => max b w.stop) b

theorem le_reach {n : Nat} (ws : List (Window n)) (b : Nat) : b ≤ reach b ws := by
  induction ws generalizing b with
  | nil => exact le_refl b
  | cons w ws ih => exact (le_max_left _ _).trans (ih _)

theorem reach_le {n : Nat} (ws : List (Window n)) (b : Nat) (hb : b ≤ n) : reach b ws ≤ n := by
  induction ws generalizing b with
  | nil => exact hb
  | cons w ws ih => exact ih _ (max_le hb w.stop_le)

theorem stop_le_reach {n : Nat} (ws : List (Window n)) (b : Nat) {w : Window n} (hw : w ∈ ws) :
    w.stop ≤ reach b ws := by
  induction ws generalizing b with
  | nil => simp at hw
  | cons v ws ih =>
      rcases List.mem_cons.1 hw with rfl | hw
      · exact (le_max_right _ _).trans (le_reach ws _)
      · exact ih _ hw

/-- Windows that overlap leave no gap. -/
theorem covered_of_lt_reach {n : Nat} (ws : List (Window n)) (b : Nat) (hover : Overlapping ws)
    (hhead : ∀ w ∈ ws.head?, w.start ≤ b) {i : Nat} (hi : i < reach b ws) :
    i < b ∨ ∃ w ∈ ws, w.Covers i := by
  induction ws generalizing b with
  | nil => exact Or.inl hi
  | cons w ws ih =>
      have hchain := List.isChain_cons.1 hover
      have hstart : w.start ≤ b := hhead w (by simp)
      have hnext : ∀ v ∈ ws.head?, v.start ≤ max b w.stop :=
        fun v hv => (hchain.1 v hv).trans (le_max_right _ _)
      -- `i` lies before the end of this window or in a later one
      rcases ih (max b w.stop) hchain.2 hnext hi with hlt | ⟨v, hv, hcov⟩
      · rcases Nat.lt_or_ge i b with hib | hib
        · exact Or.inl hib
        · exact Or.inr ⟨w, by simp, by omega, by omega⟩
      · exact Or.inr ⟨v, List.mem_cons_of_mem _ hv, hcov⟩

/-- Once an item has been taken, the collector follows the windows. -/
theorem foldl_keepAbove_windows {l : List α} {a : Nat} (ws : List (Window l.length)) (b : Nat)
    (hab : a < b) (hb : b ≤ l.length) (hover : Overlapping ws)
    (hhead : ∀ w ∈ ws.head?, w.start ≤ b) (hstart : ∀ w ∈ ws, w.start < w.stop → a ≤ w.start)
    (hinc : IncreasingOn key l a (reach b ws)) :
    (ws.flatMap (Window.items l)).foldl (keepAbove key) (slice l a b) = slice l a (reach b ws) := by
  induction ws generalizing b with
  | nil => rfl
  | cons w ws ih =>
      have hchain := List.isChain_cons.1 hover
      have hnext : ∀ v ∈ ws.head?, v.start ≤ max b w.stop :=
        fun v hv => (hchain.1 v hv).trans (le_max_right _ _)
      have hstop := stop_le_reach (w :: ws) b List.mem_cons_self
      have hlen : reach b (w :: ws) ≤ l.length := reach_le (w :: ws) b hb
      have hfirst : (w.items l).foldl (keepAbove key) (slice l a b) = slice l a (max b w.stop) := by
        rcases Nat.lt_or_ge w.start w.stop with hne | hempty
        · exact foldl_keepAbove_slice hinc hlen hstop _ w.start b rfl hab (le_reach _ _)
            (hstart w List.mem_cons_self hne) (hhead w (by simp))
        · have hb : max b w.stop = b := by
            have := hhead w (by simp)
            omega
          simp [Window.items, slice_eq_nil l hempty, hb]
      rw [List.flatMap_cons, List.foldl_append, hfirst]
      exact ih (max b w.stop) (by omega) (max_le hb w.stop_le) hchain.2 hnext
        (fun v hv => hstart v (List.mem_cons_of_mem _ hv)) hinc

/-- Overlapping windows of which none reaches back behind the first one show an interval. -/
theorem exists_covers_iff {n : Nat} {w : Window n} {ws : List (Window n)}
    (hover : Overlapping (w :: ws)) (hstart : ∀ v ∈ ws, v.start < v.stop → w.start ≤ v.start)
    (i : Nat) : (∃ v ∈ w :: ws, v.Covers i) ↔ w.start ≤ i ∧ i < reach w.stop ws := by
  have hchain := List.isChain_cons.1 hover
  constructor
  · rintro ⟨v, hv, hvi⟩
    rcases List.mem_cons.1 hv with rfl | hv
    · exact ⟨hvi.1, hvi.2.trans_le (le_reach ws _)⟩
    · have hnonempty : v.start < v.stop := hvi.1.trans_lt hvi.2
      exact ⟨(hstart v hv hnonempty).trans hvi.1, hvi.2.trans_le (stop_le_reach ws _ hv)⟩
  · rintro ⟨hwi, hi⟩
    rcases covered_of_lt_reach ws w.stop hchain.2 hchain.1 hi with hlt | ⟨v, hv, hvi⟩
    · exact ⟨w, List.mem_cons_self, hwi, hlt⟩
    · exact ⟨v, List.mem_cons_of_mem _ hv, hvi⟩

/-- An empty window shows nothing. -/
theorem items_of_empty {l : List α} {w : Window l.length} (hempty : ¬ w.start < w.stop) :
    w.items l = [] :=
  slice_eq_nil l (Nat.le_of_not_lt hempty)

theorem seen_cons_of_empty {l : List α} {w : Window l.length} (hempty : ¬ w.start < w.stop)
    (ws : List (Window l.length)) : seen l (w :: ws) = seen l ws := by
  have hnone : ∀ i, ¬ w.Covers i := fun i hi => hempty (hi.1.trans_lt hi.2)
  simp [seen, hnone]

/-- The collector takes the interval when the keys increase there. -/
theorem collect_eq_seen {l : List α} (ws : List (Window l.length)) (hover : Overlapping ws)
    (hfirst : NoneBeforeFirst ws)
    (hkeys : (seen l ws).Pairwise (fun a b => key a < key b)) :
    (ws.flatMap (Window.items l)).foldl (keepAbove key) [] = seen l ws := by
  induction ws with
  | nil => simp [seen]
  | cons w ws ih =>
      have hchain := List.isChain_cons.1 hover
      by_cases hne : w.start < w.stop
      · -- the first window with an item
        have hstart : ∀ v ∈ ws, v.start < v.stop → w.start ≤ v.start := by
          simpa [NoneBeforeFirst, hne] using hfirst
        have hseen := seen_eq_slice (exists_covers_iff hover hstart)
        rw [hseen] at hkeys ⊢
        have hlen : w.start < l.length := hne.trans_le w.stop_le
        have hreach : reach w.stop ws ≤ l.length := reach_le ws w.stop w.stop_le
        have hinc := increasingOn_of_pairwise hkeys
        -- its first item is taken whatever its key, the rest of the window follows
        have hone : slice l w.start (w.start + 1) = [l[w.start]] := by
          rw [slice_succ (le_refl _) hlen, slice_eq_nil l (le_refl _), List.nil_append]
        have hitems : (w.items l).foldl (keepAbove key) [] = slice l w.start w.stop := by
          have hmax : max (w.start + 1) w.stop = w.stop := by omega
          have hrest := foldl_keepAbove_slice hinc hreach (le_reach ws w.stop) _ (w.start + 1)
            (w.start + 1) rfl (by omega) (le_trans hne (le_reach ws _)) (by omega) (le_refl _)
          rw [Window.items, slice_eq_cons hne w.stop_le, List.foldl_cons, keepAbove_nil, ← hone, hrest,
            hmax, slice_eq_cons hne w.stop_le]
        rw [List.flatMap_cons, List.foldl_append, hitems]
        exact foldl_keepAbove_windows ws w.stop hne w.stop_le hchain.2 hchain.1 hstart hinc
      · have hfirst : NoneBeforeFirst ws := by
          simpa [NoneBeforeFirst, hne] using hfirst
        rw [seen_cons_of_empty hne] at hkeys ⊢
        simpa [items_of_empty hne] using ih hchain.2 hfirst hkeys

/-- A window that reaches back behind the first one shows items that the collector cannot take. -/
theorem noneBeforeFirst_of_collect_eq_seen {l : List α} {rank : α → Nat}
    (hrank : l.Pairwise (fun a b => rank a < rank b)) (ws : List (Window l.length))
    (h : (ws.flatMap (Window.items l)).foldl (keepAbove key) [] = seen l ws) : NoneBeforeFirst ws := by
  induction ws with
  | nil => trivial
  | cons w ws ih =>
      by_cases hne : w.start < w.stop
      · simp only [NoneBeforeFirst, hne, if_true]
        intro v hv hnonempty
        by_contra hback
        have hwlen : w.start < l.length := hne.trans_le w.stop_le
        have hvlen : v.start < l.length := hnonempty.trans_le v.stop_le
        -- the first item taken is the first item of the window
        have hhead : ∃ rest, seen l (w :: ws) = l[w.start] :: rest := by
          rw [← h, List.flatMap_cons, Window.items, slice_eq_cons hne w.stop_le, List.cons_append,
            List.foldl_cons, keepAbove_nil]
          rcases @prefix_foldl_keepAbove _ _ _ key
            (slice l (w.start + 1) w.stop ++ ws.flatMap (Window.items l)) [l[w.start]] with
            ⟨rest, hrest⟩
          exact ⟨rest, hrest.symm⟩
        rcases hhead with ⟨rest, hrest⟩
        -- an item before it has been seen, but the part seen starts with it
        have hmem : l[v.start] ∈ seen l (w :: ws) :=
          getElem_mem_seen (List.mem_cons_of_mem _ hv) ⟨le_refl _, hnonempty⟩ hvlen
        have hsorted := hrank.sublist (seen_sublist l (w :: ws))
        have hlt : rank l[v.start] < rank l[w.start] :=
          List.pairwise_iff_getElem.1 hrank v.start w.start hvlen hwlen (by omega)
        rw [hrest] at hmem hsorted
        rcases List.mem_cons.1 hmem with heq | hmem
        · rw [heq] at hlt
          exact lt_irrefl _ hlt
        · exact lt_asymm hlt ((List.pairwise_cons.1 hsorted).1 _ hmem)
      · rw [seen_cons_of_empty hne] at h
        simpa [NoneBeforeFirst, hne] using ih (by simpa [items_of_empty hne] using h)

/-- The collector takes what was seen exactly when the keys of that part increase and no window
reaches back behind the first one. -/
theorem collect_eq_seen_iff {l : List α} {rank : α → Nat}
    (hrank : l.Pairwise (fun a b => rank a < rank b)) (ws : List (Window l.length))
    (hover : Overlapping ws) :
    (ws.flatMap (Window.items l)).foldl (keepAbove key) [] = seen l ws ↔
      (seen l ws).Pairwise (fun a b => key a < key b) ∧ NoneBeforeFirst ws := by
  constructor
  · intro h
    refine ⟨?_, noneBeforeFirst_of_collect_eq_seen hrank ws h⟩
    rw [← h]
    exact pairwise_foldl_keepAbove _ List.Pairwise.nil
  · rintro ⟨hkeys, hfirst⟩
    exact collect_eq_seen ws hover hfirst hkeys

end Collector

end Streams
end ResourceAccounting
