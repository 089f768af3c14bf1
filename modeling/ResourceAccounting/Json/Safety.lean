import Mathlib.Data.List.Infix
import ResourceAccounting.Json.Fields

/-!
# Safety — the writes of the reader

The reader looks at the room in `attrbuf` before it stores a character of a name, at that in `valbuf`
before it stores one of a value, and at that in the store of a list of strings; but not before it stores
an escaped character.  On a text without backslashes no write goes behind a buffer; a quoted value that
is long enough, with escapes where the limit would end it, goes behind `valbuf`.

- `readObject_ne_fault` — texts without backslashes;
- `Overlong`, `readObject_fault_iff` — the quoted values that are written behind the buffer;
- `done_suffix` — the rest of a text is a suffix of it.
-/

namespace ResourceAccounting
namespace Json

open Python

variable {A M R : Type} {readArray : A → Text → M → Outcome × M} {host : Host R}
  {attrs : List (Attr A M R)} {parent : Parent}

/-! ## The rest of the text -/

theorem run_done_suffix (skip : Nat) (text : Text) (r : Reader A M R) {rest : Text}
    (h : (run readArray host attrs parent skip text r).1 = .done rest) : rest <:+ text := by
  induction text generalizing skip r with
  | nil =>
      cases h
      exact List.suffix_refl _
  | cons c text ih =>
      cases skip with
      | succ skip => exact (ih skip r h).trans (List.suffix_cons c text)
      | zero =>
          rw [run] at h
          split at h
          · exact (ih _ _ h).trans (List.suffix_cons c text)
          · cases h
            exact (List.dropWhile_suffix _).trans (List.suffix_cons c text)
          · cases h
          · cases h

/-- A reader takes a character at least, if there is one. -/
theorem done_suffix_tail {c : Char} {text rest : Text} {m : M}
    (h : (internalReadObject readArray host attrs parent (c :: text) m).1 = .done rest) :
    rest <:+ text := by
  rw [internalReadObject] at h
  split at h
  · cases h
  · rw [run] at h
    split at h
    · exact run_done_suffix _ text _ h
    · cases h
      exact List.dropWhile_suffix _
    · cases h
    · cases h

/-- A reader leaves a suffix of the text. -/
theorem done_suffix {text rest : Text} {m : M}
    (h : (internalReadObject readArray host attrs parent text m).1 = .done rest) :
    rest <:+ text := by
  rw [internalReadObject] at h
  split at h
  · cases h
  · exact run_done_suffix 0 text _ h

/-! ## Texts without backslashes -/

/-- No escape is being read, and there is room for the terminator. -/
def State.Bounded : State A M R → Prop
  | .in_attr attrbuf => attrbuf.length ≤ JSON_ATTR_MAX
  | .in_val_string _ valbuf => valbuf.length ≤ JSON_VAL_MAX
  | .in_val_token _ valbuf => valbuf.length ≤ JSON_VAL_MAX
  | .in_escape _ _ => False
  | _ => True

def Turn.Bounded : Turn A M R → Prop
  | .next r _ => r.state.Bounded
  | .finish _ => True
  | .error _ _ => True
  | .fault _ => False

theorem postArray_bounded {r : Reader A M R} (hr : r.state.Bounded) (c : Char) :
    (r.postArray c).Bounded := by
  unfold Reader.postArray
  split
  · exact hr
  · split
    · trivial
    · split
      · trivial
      · trivial

theorem postVal_bounded (r : Reader A M R) (cursor : Cursor A M R) (quoted : Bool) (valbuf : Text)
    (c : Char) : (r.postVal host parent cursor quoted valbuf c).Bounded := by
  simp only [Reader.postVal]
  split
  · trivial
  · refine postArray_bounded ?_ c
    trivial

theorem inAttr_bounded {r : Reader A M R} {attrbuf : Text} (hlength : attrbuf.length ≤ JSON_ATTR_MAX)
    (c : Char) : (r.inAttr attrs attrbuf c).Bounded := by
  unfold Reader.inAttr
  split
  · rw [pushAttr_of_lt hlength]
    simp only
    split
    · trivial
    · trivial
  · split
    · trivial
    · rename_i hroom
      rw [pushAttr_of_lt hlength]
      have hle : (attrbuf ++ [c]).length ≤ JSON_ATTR_MAX := by
        rw [List.length_append, List.length_singleton]
        unfold JSON_ATTR_MAX at hroom ⊢
        omega
      exact hle

theorem inValString_bounded {r : Reader A M R} {cursor : Cursor A M R} {valbuf : Text}
    (hlength : valbuf.length ≤ JSON_VAL_MAX) {c : Char} (hc : c ≠ '\\') :
    (r.inValString cursor valbuf c).Bounded := by
  unfold Reader.inValString
  rw [if_neg hc]
  split
  · rw [push_of_lt hlength]
    trivial
  · split
    · trivial
    · rename_i hroom
      rw [push_of_lt hlength]
      have hlt : ¬ JSON_VAL_MAX - 1 < valbuf.length := fun h => hroom (.inl h)
      have hle : (valbuf ++ [c]).length ≤ JSON_VAL_MAX := by
        rw [List.length_append, List.length_singleton]
        unfold JSON_VAL_MAX at hlt ⊢
        omega
      exact hle

theorem inValToken_bounded {r : Reader A M R} {cursor : Cursor A M R} {valbuf : Text}
    (hlength : valbuf.length ≤ JSON_VAL_MAX) (c : Char) :
    (r.inValToken host parent cursor valbuf c).Bounded := by
  unfold Reader.inValToken
  split
  · rw [push_of_lt hlength]
    simp only
    split
    · trivial
    · exact postVal_bounded r cursor false valbuf c
  · split
    · trivial
    · rename_i hlt
      rw [push_of_lt hlength]
      have hle : (valbuf ++ [c]).length ≤ JSON_VAL_MAX := by
        rw [List.length_append, List.length_singleton]
        unfold JSON_VAL_MAX at hlt ⊢
        omega
      exact hle

theorem awaitValue_bounded {r : Reader A M R} (hr : r.state.Bounded) (cursor : Cursor A M R)
    {c : Char} {behind : Text}
    (hread : ∀ spec, (readArray spec (c :: behind) r.mem).1 ≠ .fault) :
    (r.awaitValue readArray cursor c behind).Bounded := by
  unfold Reader.awaitValue
  split
  · exact hr
  · split
    · rename_i spec hspec
      have hspec' := hread spec
      split
      · split
        all_goals
          rename_i heq
          rw [heq] at hspec'
        · trivial
        · trivial
        · exact absurd rfl hspec'
      · trivial
    · split
      · trivial
      · split
        · exact Nat.zero_le _
        · exact Nat.le_of_ble_eq_true rfl

/-- One turn, at a character that is no backslash. -/
theorem step_bounded {r : Reader A M R} (hr : r.state.Bounded) {c : Char} (hc : c ≠ '\\')
    {behind : Text} (hread : ∀ spec, (readArray spec (c :: behind) r.mem).1 ≠ .fault) :
    (step readArray host attrs parent r c behind).Bounded := by
  have hstate := hr
  unfold step
  split
  all_goals
    rename_i heq
    rw [heq] at hstate
  · unfold Reader.init
    split
    · exact hr
    · split
      · trivial
      · trivial
  · unfold Reader.awaitAttr
    split
    · exact hr
    · split
      · exact Nat.zero_le _
      · split
        · exact hr
        · trivial
  · exact inAttr_bounded hstate c
  · exact awaitValue_bounded hr _ hread
  · exact inValString_bounded hstate hc
  · exact absurd hstate id
  · exact inValToken_bounded hstate c
  · exact postVal_bounded r _ _ _ c
  · exact postArray_bounded hr c

/-- The loop, on a text without backslashes. -/
theorem run_ne_fault (hread : ∀ spec text m, '\\' ∉ text → (readArray spec text m).1 ≠ .fault)
    {text : Text} (htext : '\\' ∉ text) {r : Reader A M R} (hr : r.state.Bounded) (skip : Nat) :
    (run readArray host attrs parent skip text r).1 ≠ .fault := by
  induction text generalizing skip r with
  | nil => exact Outcome.noConfusion
  | cons c text ih =>
      have hrest : '\\' ∉ text := fun h => htext (List.mem_cons_of_mem c h)
      cases skip with
      | succ skip => exact ih hrest hr skip
      | zero =>
          have hc : c ≠ '\\' := fun h => htext (h ▸ List.mem_cons_self)
          have hstep : (step readArray host attrs parent r c text).Bounded := step_bounded hr hc
            fun spec => hread spec (c :: text) r.mem htext
          rw [run]
          split
          all_goals
            rename_i heq
            rw [heq] at hstep
          · exact ih hrest hstep _
          · exact Outcome.noConfusion
          · exact Outcome.noConfusion
          · exact absurd hstep id

theorem internalReadObject_ne_fault
    (hread : ∀ spec text m, '\\' ∉ text → (readArray spec text m).1 ≠ .fault) {text : Text}
    (htext : '\\' ∉ text) (m : M) :
    (internalReadObject readArray host attrs parent text m).1 ≠ .fault := by
  rw [internalReadObject]
  split
  · exact Outcome.noConfusion
  · refine run_ne_fault hread htext ?_ 0
    trivial

theorem readFlat_ne_fault {attrs : List (Attr Empty M R)} {text : Text} (htext : '\\' ∉ text) (m : M) :
    (readFlat host attrs parent text m).1 ≠ .fault :=
  internalReadObject_ne_fault (fun spec => spec.elim) htext m

/-! ## Arrays -/

theorem skipSpace_suffix (text : Text) : skipSpace text <:+ text := by
  cases text with
  | nil => exact List.suffix_refl _
  | cons c text =>
      rw [skipSpace]
      split
      · exact List.suffix_cons c text
      · exact List.suffix_refl _

/-- A write to the store of a list of strings is behind the test of the loop. -/
theorem readString_ne_fault (store : Nat → Char → M → M) (storelen : Nat) (text : Text) (tp : Nat)
    (m : M) : (readString store storelen text tp m).1.1 ≠ .fault := by
  induction text generalizing tp m with
  | nil => exact Outcome.noConfusion
  | cons c text ih =>
      rw [readString]
      split
      · rename_i hroom
        rw [storeChar, if_pos hroom]
        simp only
        split
        · exact Outcome.noConfusion
        · exact ih _ _
      · exact Outcome.noConfusion

theorem readString_suffix {store : Nat → Char → M → M} {storelen : Nat} {text rest : Text} {tp : Nat}
    {m : M} (h : (readString store storelen text tp m).1.1 = .done rest) : rest <:+ text := by
  induction text generalizing tp m with
  | nil => cases h
  | cons c text ih =>
      rw [readString] at h
      split at h
      · split at h
        · cases h
        · split at h
          · cases h
            exact List.suffix_cons c _
          · exact (ih h).trans (List.suffix_cons c text)
      · cases h

/-- An element takes a part of the text. -/
theorem readElement_suffix {elements : Elements A M R} {offset tp : Nat} {text rest : Text} {m : M}
    (h : (readElement readArray host elements offset tp text m).1.1 = .done rest) : rest <:+ text := by
  cases elements with
  | object subtype =>
      have hobject : (internalReadObject readArray host (subtype offset) (.object offset) text m).1 =
          .done rest := h
      exact done_suffix hobject
  | structobject subtype =>
      have hobject : (internalReadObject readArray host (subtype offset) .structobject text m).1 =
          .done rest := h
      exact done_suffix hobject
  | string ptrs store storelen =>
      simp only [readElement] at h
      split at h
      · rename_i rest' heq
        have hquote : '"' :: rest' <:+ text := heq ▸ skipSpace_suffix text
        exact (readString_suffix h).trans ((List.suffix_cons '"' rest').trans hquote)
      · cases h
  | other => cases h

theorem readElement_ne_fault (hread : ∀ spec text m, '\\' ∉ text → (readArray spec text m).1 ≠ .fault)
    (elements : Elements A M R) (offset tp : Nat) {text : Text} (htext : '\\' ∉ text) (m : M) :
    (readElement readArray host elements offset tp text m).1.1 ≠ .fault := by
  cases elements with
  | object subtype => exact internalReadObject_ne_fault hread htext m
  | structobject subtype => exact internalReadObject_ne_fault hread htext m
  | string ptrs store storelen =>
      simp only [readElement]
      split
      · exact readString_ne_fault store storelen _ tp _
      · exact Outcome.noConfusion
  | other => exact Outcome.noConfusion

theorem readElements_ne_fault
    (hread : ∀ spec text m, '\\' ∉ text → (readArray spec text m).1 ≠ .fault) (spec : ArraySpec A M R)
    (fuel offset tp : Nat) {text : Text} (htext : '\\' ∉ text) (m : M) :
    (readElements readArray host spec fuel offset tp text m).1 ≠ .fault := by
  induction fuel generalizing offset tp text m with
  | zero => exact Outcome.noConfusion
  | succ fuel ih =>
      rw [readElements]
      split
      · -- an element, and what is behind it
        rename_i rest tp' m' heq
        have hsuffix : skipSpace rest <:+ text :=
          (skipSpace_suffix rest).trans (readElement_suffix (congrArg (fun result => result.1.1) heq))
        split
        · exact Outcome.noConfusion
        · rename_i rest' heq'
          refine ih (offset + 1) tp' (fun h => htext (hsuffix.subset ?_)) m'
          rw [heq']
          exact List.mem_cons_of_mem ',' h
        · exact Outcome.noConfusion
      · rename_i heq
        have helement : (readElement readArray host spec.elements offset tp text m).1.1 ≠ .fault :=
          readElement_ne_fault hread spec.elements offset tp htext m
        rw [heq] at helement
        exact helement

theorem readArrayOf_ne_fault
    (hread : ∀ spec text m, '\\' ∉ text → (readArray spec text m).1 ≠ .fault) (spec : ArraySpec A M R)
    {text : Text} (htext : '\\' ∉ text) (m : M) :
    (readArrayOf readArray host spec text m).1 ≠ .fault := by
  rw [readArrayOf]
  split
  · rename_i rest heq
    refine readElements_ne_fault hread spec spec.maxlen 0 0 (fun h => htext ?_) m
    have hmem : '\\' ∈ text.dropWhile isSpace := heq ▸ List.mem_cons_of_mem '[' h
    exact (List.dropWhile_sublist _).subset hmem
  · exact Outcome.noConfusion

/-- `json_read_array`, by the levels of arrays in arrays. -/
theorem readArray_ne_fault (n : Nat) (spec : Spec M R n) {text : Text} (htext : '\\' ∉ text) (m : M) :
    (Json.readArray host n spec text m).1 ≠ .fault := by
  induction n generalizing text m with
  | zero => exact spec.elim
  | succ n ih => exact readArrayOf_ne_fault (fun spec _ m htext => ih spec htext m) spec htext m

/-! ## Escapes -/

/-- With `k` characters in `valbuf` the value is longer than the buffer, and where a plain character
would be refused it has escapes. -/
def Overlong (maxlen : Int) (k : Nat) (pieces : List Piece) : Prop :=
  JSON_VAL_MAX < k + pieces.length ∧
    ∀ i c, k + i ≤ JSON_VAL_MAX + 1 → pieces[i]? = some (.plain c) →
      k + i < JSON_VAL_MAX ∧ ((k + i : Nat) : Int) ≤ maxlen

theorem overlong_cons {maxlen : Int} {k : Nat} {p : Piece} {pieces : List Piece}
    (hp : ∀ c, p = .plain c → k < JSON_VAL_MAX ∧ (k : Int) ≤ maxlen) :
    Overlong maxlen k (p :: pieces) ↔ Overlong maxlen (k + 1) pieces := by
  have hlength : k + (p :: pieces).length = k + 1 + pieces.length := by
    rw [List.length_cons]
    omega
  have hindex : ∀ i, k + (i + 1) = k + 1 + i := fun i => by omega
  rw [Overlong, Overlong, hlength]
  refine and_congr_right fun _ => ⟨fun h i c hi hc => ?_, fun h i c hi hc => ?_⟩
  · have hshift := h (i + 1) c
    rw [hindex, List.getElem?_cons_succ] at hshift
    exact hshift hi hc
  · cases i with
    | zero => exact hp c (Option.some_inj.1 hc)
    | succ i =>
        rw [hindex] at hi ⊢
        exact h i c hi hc

/-- The values that are written behind the buffer. -/
theorem storeOutcome_eq_fault_iff (maxlen : Int) {k : Nat} (hk : k ≤ JSON_VAL_MAX + 1)
    (pieces : List Piece) :
    storeOutcome maxlen k pieces = some .fault ↔ Overlong maxlen k pieces := by
  induction pieces generalizing k with
  | nil =>
      rw [storeOutcome, Overlong]
      split
      · simp
        omega
      · simp
        omega
  | cons p pieces ih =>
      cases p with
      | plain c =>
          rw [storeOutcome]
          split
          · -- refused
            rename_i hlong
            refine iff_of_false (fun h => by cases h) fun h => ?_
            have hroom := h.2 0 c hk rfl
            rw [Nat.add_zero] at hroom
            unfold JSON_VAL_MAX at hlong hroom
            omega
          · rename_i hroom
            unfold JSON_VAL_MAX at hroom
            rw [ih (by unfold JSON_VAL_MAX; omega), overlong_cons]
            intro d _
            unfold JSON_VAL_MAX
            omega
      | escaped c =>
          rw [storeOutcome]
          split
          · rename_i hroom
            rw [ih (Nat.succ_le_succ hroom), overlong_cons]
            intro d hd
            cases hd
          · -- the buffer is full
            rename_i hfull
            refine iff_of_true rfl ⟨by omega, fun i d hi hd => ?_⟩
            have hzero : i = 0 := by omega
            subst hzero
            cases hd

/-! ## json_read_object -/

section

variable {n : Nat} {attrs : List (Attr (Spec M R n) M R)}

/-- No write of `json_read_object` goes behind a buffer on a text without backslashes. -/
theorem readObject_ne_fault {text : Text} (htext : '\\' ∉ text) (m : M) :
    (readObject host attrs text m).1 ≠ .fault :=
  internalReadObject_ne_fault (fun spec _ m htext => readArray_ne_fault n spec htext m) htext m

theorem readObject_ne_fault_number :
    (readObject (n := 0) (⟨fun _ => (), fun _ => (), '?'⟩ : Host Unit)
      [{ name := "n".toList, kind := .integer (fun n _ => n) 0 }] "\x7b\"n\":\"".toList (7 : Int)).1 ≠
      .fault :=
  readObject_ne_fault (by decide) 7

/-- An object with one quoted value makes `json_read_object` write behind `valbuf` exactly if the value
is longer than the buffer and all that the limit would refuse is escaped. -/
theorem readObject_fault_iff {name : Text} (hquote : '"' ∉ name)
    (hname : name.length < JSON_ATTR_MAX) {pieces : List Piece} (hpieces : ∀ p ∈ pieces, p.Readable)
    {cursor : Cursor (Spec M R n) M R} (hfind : findAttr name attrs = some cursor)
    (harray : cursor.attr.kind.isArray = none) (m : M) :
    (readObject host attrs (objectText [⟨name, .quoted pieces⟩]) m).1 = .fault ↔
      Overlong (cursor.attr.limit 0) 0 pieces := by
  have hdefaults := setDefaults_none attrs m
  have htext : objectText [⟨name, .quoted pieces⟩] =
      '\x7b' :: '"' :: (name ++ '"' :: ':' :: '"' :: (pieces.flatMap Piece.text ++ '"' :: ['\x7d'])) := by
    simp [objectText, fieldsText, Field.text, Value.text]
  rw [htext, readObject, internalReadObject_brace]
  rcases hset : setDefaults .none attrs m with ⟨e, m'⟩
  rw [hset] at hdefaults
  obtain rfl : e = none := hdefaults
  simp only
  rw [run_attr _ _ _ _ _ _ hquote hname, hfind]
  simp only
  rw [run_openQuote _ _ _ _ harray, run_quoted _ _ _ _ hpieces, List.length_nil,
    ← storeOutcome_eq_fault_iff _ (Nat.zero_le _)]
  cases storeOutcome (cursor.attr.limit 0) 0 pieces with
  | some outcome => exact (Option.some_inj (a := outcome)).symm
  | none =>
      -- the value is stored, and the brace ends the object or there is an error
      refine iff_of_false ?_ (fun h => by cases h)
      simp only
      rw [run_cons, step, resume_postVal _ _ _ _ _ _ _ _ _ _ (.inr rfl)]
      simp only
      cases (seek true (cString ([] ++ pieces.map Piece.char)) cursor.attr cursor.behind).attr.put
          host .none true (cString ([] ++ pieces.map Piece.char)) m' with
      | error e => exact Outcome.noConfusion
      | ok result => exact Outcome.noConfusion

/-- A device name of gpsd, with 121 quotes. -/
theorem readObject_fault_iff_quotes :
    (readObject (n := 0) (⟨fun _ => (), fun _ => (), '?'⟩ : Host Unit)
      [{ name := "path".toList, kind := .string (fun t _ => t) 64 }]
      (objectText [⟨"path".toList, .quoted (List.replicate 121 (.escaped '"'))⟩]) ([] : Text)).1 =
        .fault :=
  (readObject_fault_iff (by decide) (by decide)
    (fun p hp => by rw [List.eq_of_mem_replicate hp]; decide) rfl rfl []).2
    ⟨by decide, fun i c _ hc => by
      have hmem := List.mem_of_getElem? hc
      exact absurd (List.eq_of_mem_replicate hmem) (by simp)⟩

end

end Json
end ResourceAccounting
