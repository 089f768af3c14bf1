import ResourceAccounting.C.Printf

/-!
# Buffers — texts that are put together in a buffer

A writer in C starts a text with `strlcpy` or `snprintf`, appends to it with `strlcat` or with an
`snprintf` at its end, and at last takes back the comma behind the last item.  The definitions are on
the text that the buffer holds.

- `strlcpy`, `strlcat` — as in strl.c: `strlcat` copies without a bound if the text in the buffer has
  reached the size it is told;
- `sprintfAt`, `sprintfFlags` — `snprintf(buf + strlen(buf), size - strlen(buf), …)`;
- `trimComma` — `if (buf[strlen(buf) - 1] == ',') buf[strlen(buf) - 1] = '\0'`.
-/

namespace ResourceAccounting
namespace C

open Python

/-- `strlcpy(dst, src, size)`, where `size` is not 0. -/
def strlcpy (size : Nat) (src : Text) : Text :=
  src.take (size - 1)

/-- `strlcat(dst, src, size)`; none if the length that `memcpy` gets has wrapped. -/
def strlcat (size : Nat) (dst src : Text) : Option Text :=
  if size = 0 then
    some dst
  else if dst.length + src.length < size then
    some (dst ++ src)
  else if dst.length < size then
    some (dst ++ src.take (size - dst.length - 1))
  else
    none

/-- `snprintf` at the end of the text that the buffer holds. -/
def sprintfAt (size : Nat) (dst s : Text) : Text :=
  dst ++ snprintf (size - dst.length) s

/-- `if (…) snprintf(buf + strlen(buf), size - strlen(buf), …)`, one after the other. -/
def sprintfFlags (size : Nat) (items : List (Bool × Text)) (dst : Text) : Text :=
  items.foldl (fun dst item => if item.1 then sprintfAt size dst item.2 else dst) dst

/-- Take back a comma at the end. -/
def trimComma (s : Text) : Text :=
  if s.getLast? = some ',' then s.dropLast else s

/-! ## strlcat -/

theorem strlcat_of_length_lt {size : Nat} {dst src : Text} (h : dst.length + src.length < size) :
    strlcat size dst src = some (dst ++ src) := by
  rw [strlcat, if_neg (by omega), if_pos h]

/-- `strlcat` appends what there is room for. -/
theorem strlcat_of_dst_lt {size : Nat} {dst : Text} (h : dst.length < size) (src : Text) :
    strlcat size dst src = some (dst ++ src.take (size - dst.length - 1)) := by
  rw [strlcat, if_neg (by omega)]
  by_cases hroom : dst.length + src.length < size
  · rw [if_pos hroom, List.take_of_length_le (by omega)]
  · rw [if_neg hroom, if_pos h]

/-- What is appended piece by piece is cut where the whole would be. -/
theorem strlcat_take {size : Nat} (hsize : 0 < size) (s t : Text) :
    strlcat size (s.take (size - 1)) t = some ((s ++ t).take (size - 1)) := by
  have hlength : (s.take (size - 1)).length < size := by
    rw [List.length_take]
    omega
  rw [strlcat_of_dst_lt hlength, List.take_append, List.length_take]
  by_cases hs : s.length ≤ size - 1
  · rw [min_eq_right hs]
    congr 3
    omega
  · have hfull : size - min (size - 1) s.length - 1 = 0 := by omega
    have hover : size - 1 - s.length = 0 := by omega
    rw [hfull, hover, List.take_zero]

theorem strlcat_eq_none_iff {size : Nat} {dst src : Text} :
    strlcat size dst src = none ↔ 0 < size ∧ size ≤ dst.length := by
  constructor
  · intro h
    by_contra hsize
    by_cases hzero : size = 0
    · rw [strlcat, if_pos hzero] at h
      cases h
    · rw [strlcat_of_dst_lt (by omega)] at h
      cases h
  · rintro ⟨hpos, hsize⟩
    rw [strlcat, if_neg (by omega), if_neg (by omega), if_neg (by omega)]

/-! ## snprintf at the end -/

/-- Two pieces printed one after the other are cut where the whole would be. -/
theorem sprintfAt_snprintf (size : Nat) (s t : Text) :
    sprintfAt size (snprintf size s) t = snprintf size (s ++ t) := by
  rw [sprintfAt, snprintf, snprintf, snprintf, List.take_append, List.length_take]
  by_cases hs : s.length ≤ size - 1
  · rw [min_eq_right hs]
    congr 2
    omega
  · have hfull : size - min (size - 1) s.length - 1 = 0 := by omega
    have hover : size - 1 - s.length = 0 := by omega
    rw [hfull, hover, List.take_zero]

/-- The items that are printed are cut where their whole text would be. -/
theorem sprintfFlags_snprintf (size : Nat) (items : List (Bool × Text)) (s : Text) :
    sprintfFlags size items (snprintf size s) =
      snprintf size (s ++ items.flatMap fun item => if item.1 then item.2 else []) := by
  induction items generalizing s with
  | nil =>
      rw [List.flatMap_nil, List.append_nil]
      rfl
  | cons item items ih =>
      rcases item with ⟨b, t⟩
      rw [List.flatMap_cons, ← List.append_assoc]
      cases b with
      | false =>
          refine Eq.trans (ih s) ?_
          rw [if_neg Bool.false_ne_true, List.append_nil]
      | true =>
          refine Eq.trans ?_ (ih (s ++ t))
          rw [← sprintfAt_snprintf]
          rfl

/-- Items that depend on one condition besides their own. -/
theorem flatMap_and (b : Bool) (items : List (Bool × Text)) :
    ((items.map fun item => (b && item.1, item.2)).flatMap
        fun item => if item.1 then item.2 else []) =
      if b then items.flatMap fun item => if item.1 then item.2 else [] else [] := by
  rw [List.flatMap_map]
  cases b with
  | true => rfl
  | false => exact List.flatMap_eq_nil_iff.2 fun item _ => rfl

/-! ## The last comma -/

theorem trimComma_concat (s : Text) : trimComma (s ++ [',']) = s := by
  rw [trimComma, List.getLast?_concat, if_pos rfl, List.dropLast_concat]

theorem trimComma_isPrefix (s : Text) : trimComma s <+: s := by
  rw [trimComma]
  split
  · exact List.dropLast_prefix s
  · exact List.prefix_refl s

theorem trimComma_append (s : Text) {t : Text} (ht : t ≠ []) :
    trimComma (s ++ t) = s ++ trimComma t := by
  rw [trimComma, trimComma, List.getLast?_append_of_ne_nil _ ht]
  split
  · exact List.dropLast_append_of_ne_nil ht
  · rfl

theorem trimComma_of_ne {s : Text} (h : s.getLast? ≠ some ',') : trimComma s = s :=
  if_neg h

end C
end ResourceAccounting
