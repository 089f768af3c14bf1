import Mathlib.Data.List.Lex
import Mathlib.Data.List.DropRight

/-!
# Text — strings and text files of a Python 2 program

A `str` is a list of characters.  This module gives the string methods and the file iteration
that line-oriented scripts are made of:

- `strip`, `split`, `replace`, `splitlines` — the methods of the same names (C locale);
- `fileLines` — what `for line in f` yields: every line with its terminator.

The facts proved about them are the ones a reader of such a script needs: how `split` sees a text
glued from words and blanks, and how `fileLines` sees a text glued from lines.
-/

namespace ResourceAccounting
namespace Python

abbrev Text := List Char

instance : LawfulBEq Text :=
  inferInstance

/-! ## Blanks and words -/

/-- `isspace` of the C locale. -/
def isSpace (c : Char) : Bool :=
  c == ' ' || c == '\t' || c == '\n' || c == '\r' || c == '\x0b' || c == '\x0c'

/-- A text without blanks. -/
def IsWord (w : Text) : Prop :=
  ∀ c ∈ w, isSpace c = false

instance (w : Text) : Decidable (IsWord w) :=
  List.decidableBAll _ w

/-- `s.strip()` -/
def strip (s : Text) : Text :=
  (s.dropWhile isSpace).rdropWhile isSpace

/-- `s.split()`: the words between runs of blanks. -/
def split (s : Text) : List Text :=
  (s.splitOnP isSpace).filter (fun w => !w.isEmpty)

@[simp]
theorem split_nil : split [] = [] :=
  rfl

theorem split_append_blank (s t : Text) {c : Char} (hc : isSpace c = true) :
    split (s ++ c :: t) = split s ++ split t := by
  simp [split, List.splitOnP_append_cons s t hc]

theorem split_blank_cons (t : Text) {c : Char} (hc : isSpace c = true) :
    split (c :: t) = split t := by
  simpa using split_append_blank [] t hc

theorem split_append_blank_singleton (s : Text) {c : Char} (hc : isSpace c = true) :
    split (s ++ [c]) = split s := by
  simpa using split_append_blank s [] hc

theorem split_word {w : Text} (hw : IsWord w) (hne : w ≠ []) : split w = [w] := by
  rw [split, List.splitOnP_eq_singleton hw]
  simp [hne]

/-- A word at the front of a text, followed by a blank, is the first word that `split` gives. -/
theorem split_word_append_blank {w : Text} (hw : IsWord w) (hne : w ≠ []) (t : Text) {c : Char}
    (hc : isSpace c = true) : split (w ++ c :: t) = w :: split t := by
  rw [split_append_blank w t hc, split_word hw hne]
  rfl

theorem isWord_of_mem_split {s w : Text} (hw : w ∈ split s) : IsWord w := by
  have hmem : w ∈ s.splitOnP isSpace := (List.mem_filter.1 hw).1
  clear hw
  induction s generalizing w with
  | nil =>
      rw [List.splitOnP_nil, List.mem_singleton] at hmem
      subst hmem
      exact fun c hc => absurd hc (by simp)
  | cons d s ih =>
      rw [List.splitOnP_cons_eq_if_modifyHead] at hmem
      split at hmem
      · rcases List.mem_cons.1 hmem with rfl | hmem
        · exact fun c hc => absurd hc (by simp)
        · exact ih hmem
      · -- `d` goes in front of the first piece of the rest
        rename_i hd
        rcases List.exists_cons_of_ne_nil (List.splitOnP_ne_nil isSpace s) with ⟨v, vs, hvs⟩
        rw [hvs] at hmem ih
        rw [List.modifyHead_cons] at hmem
        rcases List.mem_cons.1 hmem with rfl | hmem
        · intro c hc
          rcases List.mem_cons.1 hc with rfl | hc
          · simpa using hd
          · exact ih List.mem_cons_self c hc
        · exact ih (List.mem_cons_of_mem _ hmem)

theorem split_dropWhile_isSpace (s : Text) : split (s.dropWhile isSpace) = split s := by
  induction s with
  | nil => rfl
  | cons c s ih =>
      by_cases hc : isSpace c = true
      · rw [List.dropWhile_cons_of_pos hc, ih, split_blank_cons s hc]
      · rw [List.dropWhile_cons_of_neg hc]

theorem split_rdropWhile_isSpace (s : Text) : split (s.rdropWhile isSpace) = split s := by
  -- from the right end, where `rdropWhile` works
  induction s using List.reverseRecOn with
  | nil => rfl
  | append_singleton s c ih =>
      by_cases hc : isSpace c = true
      · rw [List.rdropWhile_concat_pos _ _ _ hc, ih, split_append_blank_singleton s hc]
      · rw [List.rdropWhile_concat_neg _ _ _ hc]

/-- `s.strip().split()` gives what `s.split()` gives. -/
@[simp]
theorem split_strip (s : Text) : split (strip s) = split s := by
  rw [strip, split_rdropWhile_isSpace, split_dropWhile_isSpace]

theorem strip_word {w : Text} (hw : IsWord w) : strip w = w := by
  have hdrop : w.dropWhile isSpace = w := by
    cases w with
    | nil => rfl
    | cons c w =>
        have hc : ¬ isSpace c = true := by simp [hw c List.mem_cons_self]
        exact List.dropWhile_cons_of_neg hc
  -- the last character is no blank either
  rw [strip, hdrop, List.rdropWhile_eq_self_iff]
  intro hne
  simp [hw _ (List.getLast_mem hne)]

/-! ## Replacing -/

/-- The scan behind `replace`, with a bound on the number of its steps. -/
def replaceScan (old new : Text) : Nat → Text → Text
  | 0, s => s
  | _ + 1, [] => []
  | n + 1, c :: s =>
      if old.isPrefixOf (c :: s) then
        new ++ replaceScan old new n ((c :: s).drop old.length)
      else
        c :: replaceScan old new n s

/-- `s.replace(old, new)` for a non-empty `old`: every step of the scan consumes a character, so
the length of `s` bounds their number. -/
def replace (old new s : Text) : Text :=
  replaceScan old new s.length s

/-! ## Lines -/

/-- What `for line in f` yields on a file with this content. -/
def fileLines : Text → List Text
  | [] => []
  | c :: s =>
      if c = '\n' then
        [c] :: fileLines s
      else
        match fileLines s with
        -- a last line without terminator
        | [] => [[c]]
        | line :: rest => (c :: line) :: rest

@[simp]
theorem fileLines_nil : fileLines [] = [] :=
  rfl

theorem fileLines_line_append {w : Text} (hw : '\n' ∉ w) (s : Text) :
    fileLines (w ++ '\n' :: s) = (w ++ ['\n']) :: fileLines s := by
  induction w with
  | nil => simp [fileLines]
  | cons c w ih =>
      simp only [List.mem_cons, not_or] at hw
      have hc : c ≠ '\n' := fun h => hw.1 h.symm
      simp [fileLines, hc, ih hw.2]

/-- A line with its terminator. -/
def IsLine (l : Text) : Prop :=
  ∃ w, l = w ++ ['\n'] ∧ '\n' ∉ w

/-- Lines written one after the other are read back as they were written. -/
theorem fileLines_flatten_append {ls : List Text} (hls : ∀ l ∈ ls, IsLine l) (s : Text) :
    fileLines (ls.flatten ++ s) = ls ++ fileLines s := by
  induction ls with
  | nil => rfl
  | cons l ls ih =>
      rcases hls l List.mem_cons_self with ⟨w, rfl, hw⟩
      have hrest := ih fun k hk => hls k (List.mem_cons_of_mem _ hk)
      rw [List.flatten_cons, List.append_assoc, List.append_assoc, List.singleton_append,
        fileLines_line_append hw, hrest]
      rfl

theorem fileLines_flatten {ls : List Text} (hls : ∀ l ∈ ls, IsLine l) :
    fileLines ls.flatten = ls := by
  simpa using fileLines_flatten_append hls []

theorem IsLine.count_newline {l : Text} (h : IsLine l) : l.count '\n' = 1 := by
  rcases h with ⟨w, rfl, hw⟩
  rw [List.count_append, List.count_eq_zero.2 hw, List.count_singleton_self]

/-- Closed texts with no more line ends than there are texts are lines. -/
theorem isLine_of_count_le {ls : List Text} (hls : ∀ l ∈ ls, ∃ w, l = w ++ ['\n'])
    (hcount : ls.flatten.count '\n' ≤ ls.length) : ∀ l ∈ ls, IsLine l := by
  have hpos : ∀ ls : List Text, (∀ l ∈ ls, ∃ w, l = w ++ ['\n']) →
      ls.length ≤ ls.flatten.count '\n' := by
    intro ls hls
    induction ls with
    | nil => simp
    | cons l ls ih =>
        rcases hls l List.mem_cons_self with ⟨w, rfl⟩
        have hrest := ih fun k hk => hls k (List.mem_cons_of_mem _ hk)
        simp only [List.flatten_cons, List.count_append, List.count_singleton_self, List.length_cons]
        omega
  induction ls with
  | nil => simp
  | cons l ls ih =>
      rcases hls l List.mem_cons_self with ⟨w, rfl⟩
      have htail := fun k hk => hls k (List.mem_cons_of_mem _ hk)
      have hrest := hpos ls htail
      simp only [List.flatten_cons, List.count_append, List.count_singleton_self,
        List.length_cons] at hcount
      -- the rest has its share of the line ends, so none is left for the inside of this text
      have hw : '\n' ∉ w := List.count_eq_zero.1 (by omega)
      intro k hk
      rcases List.mem_cons.1 hk with rfl | hk
      · exact ⟨w, rfl, hw⟩
      · exact ih htail (by omega) k hk

/-- Lines are told apart from any closed texts, of which there are no fewer. -/
theorem eq_of_flatten_eq {ls ls' : List Text} (hls : ∀ l ∈ ls, ∃ w, l = w ++ ['\n'])
    (hls' : ∀ l ∈ ls', IsLine l) (hlength : ls'.length ≤ ls.length)
    (h : ls.flatten = ls'.flatten) : ls = ls' := by
  have hcount : ls'.flatten.count '\n' = ls'.length := by
    rw [List.count_flatten]
    rw [List.map_congr_left fun l hl => (hls' l hl).count_newline]
    simp
  have hlines := isLine_of_count_le hls (by rw [h, hcount]; exact hlength)
  rw [← fileLines_flatten hlines, h, fileLines_flatten hls']

/-- A list processed line by line: one failure fails the whole. -/
theorem mapM_eq_ite {α β : Type*} (f : α → Option β) (l : List α) :
    l.mapM f = if ∀ a ∈ l, (f a).isSome = true then some (l.filterMap f) else none := by
  induction l with
  | nil => simp
  | cons a l ih =>
      rw [List.mapM_cons, ih]
      cases hfa : f a with
      | none => simp [hfa]
      | some b =>
          by_cases hall : ∀ a ∈ l, (f a).isSome = true
          · rw [if_pos hall, if_pos]
            · simp [hfa]
            · simpa [hfa] using hall
          · rw [if_neg hall, if_neg]
            · rfl
            · simpa [hfa] using hall

theorem exists_of_mapM_cons {α β : Type*} {f : α → Option β} {a : α} {l : List α} {m : List β}
    (h : (a :: l).mapM f = some m) : ∃ b m', f a = some b ∧ l.mapM f = some m' ∧ m = b :: m' := by
  rw [List.mapM_cons] at h
  simp only [Option.bind_eq_bind, Option.bind_eq_some_iff] at h
  rcases h with ⟨b, hb, m', hm', heq⟩
  cases heq
  exact ⟨b, m', hb, hm', rfl⟩

theorem mapM_eq_some {α β : Type*} {f : α → Option β} {l : List α} {m : List β}
    (h : l.mapM f = some m) : (∀ a ∈ l, (f a).isSome = true) ∧ m = l.filterMap f := by
  rw [mapM_eq_ite] at h
  by_cases hall : ∀ a ∈ l, (f a).isSome = true
  · rw [if_pos hall, Option.some_inj] at h
    exact ⟨hall, h.symm⟩
  · rw [if_neg hall] at h
    cases h

theorem length_mapM {α β : Type*} {f : α → Option β} {l : List α} {m : List β}
    (h : l.mapM f = some m) : m.length = l.length := by
  rcases mapM_eq_some h with ⟨hall, rfl⟩
  rw [List.length_filterMap_eq_countP, List.countP_eq_length]
  exact hall

theorem exists_of_mem_mapM {α β : Type*} {f : α → Option β} {l : List α} {m : List β}
    (h : l.mapM f = some m) {b : β} (hb : b ∈ m) : ∃ a ∈ l, f a = some b := by
  rcases mapM_eq_some h with ⟨-, rfl⟩
  exact List.mem_filterMap.1 hb

/-- What a loop with `try: … except: break` gets from its items: the results up to the first
failure. -/
def untilFailure {α β : Type*} (f : α → Option β) : List α → List β
  | [] => []
  | a :: l =>
      match f a with
      | none => []
      | some b => b :: untilFailure f l

theorem untilFailure_of_mapM {α β : Type*} {f : α → Option β} {l : List α} {m : List β}
    (h : l.mapM f = some m) : untilFailure f l = m := by
  induction l generalizing m with
  | nil => simpa [untilFailure] using h.symm
  | cons a l ih =>
      rcases exists_of_mapM_cons h with ⟨b, m', hb, hm', rfl⟩
      simp only [untilFailure, hb, ih hm']

/-- `s.splitlines()`: lines without their terminators. -/
def splitlines : Text → List Text
  | [] => []
  -- one terminator, not two
  | '\r' :: '\n' :: s => [] :: splitlines s
  | c :: s =>
      if c = '\n' ∨ c = '\r' then
        [] :: splitlines s
      else
        match splitlines s with
        | [] => [[c]]
        | line :: rest => (c :: line) :: rest

example : splitlines "a b\r\n\nc".toList = ["a b".toList, [], "c".toList] := by decide

end Python
end ResourceAccounting
