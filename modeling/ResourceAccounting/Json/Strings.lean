import Mathlib.Data.Bool.AllAny
import ResourceAccounting.Json.Safety

/-!
# Strings — json_stringify and the reader of its escapes

`json_stringify` writes control characters and bytes above 127 as `\u` escapes, unless there is a
shorter one.  The reader puts the `u` itself into the text that `sscanf` gets, so it stores garbage for
the escape, and behind it the last digit, which it does not skip.

- `stringify` — `json_stringify`;
- `misread` — what the reader makes of a text;
- `length_stringifyFrom_lt`, `run_stringify` — the writer stays in its buffer; the reader on its text;
- `readFlat_stringify_iff` — which strings come back.
-/

namespace ResourceAccounting
namespace Json

open Python

/-- `!isascii(c) || iscntrl(c)` -/
def isUnprintable (c : Char) : Bool :=
  decide (127 ≤ c.toNat) || decide (c.toNat < 32)

/-- The letter of the short escape of a control character. -/
def shortEscape : Char → Option Char
  | '\x08' => some 'b'
  | '\x0c' => some 'f'
  | '\n' => some 'n'
  | '\r' => some 'r'
  | '\t' => some 't'
  | _ => none

/-- The character is written as a `\u` escape. -/
def needsU (c : Char) : Bool :=
  isUnprintable c && (shortEscape c).isNone

/-- `"%04x"` of `0x00ff & c`, the last digit apart. -/
def hexFront (c : Char) : Text :=
  ['0', '0', Nat.digitChar (c.toNat % 256 / 16)]

/-- The last digit of `"%04x"`. -/
def hexLast (c : Char) : Char :=
  Nat.digitChar (c.toNat % 16)

/-- What `json_stringify` writes for one character. -/
def stringifyChar (c : Char) : Text :=
  if isUnprintable c then
    match shortEscape c with
    | some e => ['\\', e]
    | none => '\\' :: 'u' :: (hexFront c ++ [hexLast c])
  else if c = '"' ∨ c = '\\' then
    ['\\', c]
  else
    [c]

/-- The loop of `json_stringify` for a buffer of `len` bytes, in which `out` is written already. -/
def stringifyFrom (len : Nat) : Text → Text → Text
  | out, [] => out
  | out, c :: rest =>
      if out.length + 6 < len then stringifyFrom len (out ++ stringifyChar c) rest else out

/-- `json_stringify` -/
def stringify (len : Nat) (s : Text) : Text :=
  stringifyFrom len [] s

/-! ## The writer -/

theorem length_stringifyChar_le (c : Char) : (stringifyChar c).length ≤ 6 := by
  unfold stringifyChar
  split
  · split
    · exact Nat.le_of_ble_eq_true rfl
    · simp [hexFront]
  · split
    · exact Nat.le_of_ble_eq_true rfl
    · exact Nat.le_of_ble_eq_true rfl

theorem length_stringifyFrom_lt {len : Nat} {out : Text} (hout : out.length < len) (s : Text) :
    (stringifyFrom len out s).length < len := by
  induction s generalizing out with
  | nil => exact hout
  | cons c s ih =>
      rw [stringifyFrom]
      split
      · have hchar := length_stringifyChar_le c
        refine ih ?_
        rw [List.length_append]
        omega
      · exact hout

theorem stringifyFrom_of_le {len : Nat} {out s : Text}
    (h : (out ++ s.flatMap stringifyChar).length + 6 < len) :
    stringifyFrom len out s = out ++ s.flatMap stringifyChar := by
  induction s generalizing out with
  | nil => rw [stringifyFrom, List.flatMap_nil, List.append_nil]
  | cons c s ih =>
      rw [List.flatMap_cons, ← List.append_assoc] at h ⊢
      have hroom : out.length + 6 < len := by
        rw [List.length_append, List.length_append] at h
        omega
      rw [stringifyFrom, if_pos hroom, ih h]

/-- With room for it the whole text is written. -/
theorem stringify_of_le {len : Nat} {s : Text} (h : (s.flatMap stringifyChar).length + 6 < len) :
    stringify len s = s.flatMap stringifyChar :=
  stringifyFrom_of_le h

/-! ## The reader -/

/-- What the reader makes of the text of a character. -/
def misread (u c : Char) : Text :=
  if needsU c then [u, hexLast c] else [c]

/-- A character that is not written as a `\u` escape, as a piece of a quoted value. -/
def pieceOf (c : Char) : Piece :=
  if isUnprintable c then
    match shortEscape c with
    | some e => .escaped e
    | none => .plain c
  else if c = '"' ∨ c = '\\' then
    .escaped c
  else
    .plain c

theorem unescape_shortEscape {c e : Char} (h : shortEscape c = some e) : e ≠ 'u' ∧ unescape e = c := by
  unfold shortEscape at h
  split at h <;> first | (cases h; exact ⟨by decide, rfl⟩) | cases h

theorem pieceOf_spec {c : Char} (hc : needsU c = false) :
    (pieceOf c).Readable ∧ (pieceOf c).text = stringifyChar c ∧ (pieceOf c).char = c := by
  unfold needsU at hc
  unfold pieceOf stringifyChar
  by_cases hprint : isUnprintable c = true
  · rw [hprint, Bool.true_and] at hc
    rw [if_pos hprint, if_pos hprint]
    cases hshort : shortEscape c with
    | none =>
        rw [hshort] at hc
        cases hc
    | some e =>
        have hchar := unescape_shortEscape hshort
        exact ⟨hchar.1, rfl, hchar.2⟩
  · rw [if_neg hprint, if_neg hprint]
    by_cases hspecial : c = '"' ∨ c = '\\'
    · rw [if_pos hspecial, if_pos hspecial]
      rcases hspecial with rfl | rfl
      · exact ⟨by decide, rfl, rfl⟩
      · exact ⟨by decide, rfl, rfl⟩
    · rw [if_neg hspecial, if_neg hspecial]
      exact ⟨not_or.1 hspecial, rfl, rfl⟩

theorem digitChar_ne {n : Nat} (hn : n < 16) : n.digitChar ≠ '"' ∧ n.digitChar ≠ '\\' := by
  have hall : ∀ m < 16, m.digitChar ≠ '"' ∧ m.digitChar ≠ '\\' := by decide
  exact hall n hn

section

variable {A M R : Type} (readArray : A → Text → M → Outcome × M) (host : Host R)
  (attrs : List (Attr A M R)) (parent : Parent)

theorem uescape_of_le {behind : Text} (h : 6 ≤ behind.length) : uescape behind = some 3 := by
  unfold uescape
  split <;> first | rfl | omega

/-- A `\u` escape with its four digits, inside a quoted value: an error or a fault, or garbage and the
last digit. -/
theorem run_uescape (c : Char) (cursor : Cursor A M R) (acc : Text) (maxlen : Int) (m : M) {text : Text}
    (htext : 2 ≤ text.length) :
    (∃ outcome, (∀ rest, outcome ≠ .done rest) ∧
      run readArray host attrs parent 0 ('\\' :: 'u' :: (hexFront c ++ hexLast c :: text))
        ⟨.in_val_string cursor acc, maxlen, m⟩ = (outcome, m)) ∨
    run readArray host attrs parent 0 ('\\' :: 'u' :: (hexFront c ++ hexLast c :: text))
        ⟨.in_val_string cursor acc, maxlen, m⟩ =
      run readArray host attrs parent 0 text
        ⟨.in_val_string cursor (acc ++ [host.u, hexLast c]), maxlen, m⟩ := by
  have hbehind : uescape (hexFront c ++ hexLast c :: text) = some 3 := by
    refine uescape_of_le ?_
    simp [hexFront]
    omega
  have hne : ¬ '\\' = '"' := by decide
  rw [run_cons]
  simp only [step, Reader.inValString, if_pos, Reader.goto, resume]
  rw [run_cons]
  simp only [step, Reader.inEscape, if_pos, hbehind]
  by_cases hroom : acc.length ≤ JSON_VAL_MAX
  · -- the garbage is stored, three digits are skipped, and the last one follows it
    have hskip : run readArray host attrs parent 3 (hexFront c ++ hexLast c :: text)
        ⟨.in_val_string cursor (acc ++ [host.u]), maxlen, m⟩ =
          run readArray host attrs parent 0 (hexLast c :: text)
            ⟨.in_val_string cursor (acc ++ [host.u]), maxlen, m⟩ := by
      simp only [hexFront, List.cons_append, List.nil_append, run]
    have hlast : hexLast c ≠ '"' ∧ hexLast c ≠ '\\' := digitChar_ne (Nat.mod_lt _ (by decide))
    simp only [push_of_lt hroom, resume]
    rw [hskip, run_plain readArray host attrs parent hlast, List.append_assoc, List.singleton_append]
    split
    · exact .inl ⟨.error .strlong, fun rest h => (by cases h), rfl⟩
    · exact .inr rfl
  · have hfull : push acc host.u = none := if_neg (by omega)
    rw [hfull]
    exact .inl ⟨.fault, fun rest h => (by cases h), rfl⟩

/-- The text that `json_stringify` has written, up to the quote behind it. -/
theorem run_stringify (s : Text) (cursor : Cursor A M R) (acc : Text) (maxlen : Int) (m : M)
    {text : Text} (htext : text ≠ []) :
    (∃ outcome, (∀ rest, outcome ≠ .done rest) ∧
      run readArray host attrs parent 0 (s.flatMap stringifyChar ++ '"' :: text)
        ⟨.in_val_string cursor acc, maxlen, m⟩ = (outcome, m)) ∨
    run readArray host attrs parent 0 (s.flatMap stringifyChar ++ '"' :: text)
        ⟨.in_val_string cursor acc, maxlen, m⟩ =
      run readArray host attrs parent 0 text
        ⟨.post_val cursor true (acc ++ s.flatMap (misread host.u)), maxlen, m⟩ := by
  induction s generalizing acc with
  | nil =>
      rw [List.flatMap_nil, List.nil_append, run_quote, List.flatMap_nil, List.append_nil]
      split
      · exact .inr rfl
      · exact .inl ⟨.fault, fun rest h => (by cases h), rfl⟩
  | cons c s ih =>
      rw [List.flatMap_cons, List.flatMap_cons, List.append_assoc, ← List.append_assoc acc]
      cases hu : needsU c with
      | true =>
          -- the escape comes back as garbage and its last digit
          have hmisread : misread host.u c = [host.u, hexLast c] := by rw [misread, hu, if_pos rfl]
          have hchar : stringifyChar c = '\\' :: 'u' :: (hexFront c ++ [hexLast c]) := by
            rw [needsU, Bool.and_eq_true, Option.isNone_iff_eq_none] at hu
            rw [stringifyChar, if_pos hu.1, hu.2]
          have hlength : 2 ≤ (s.flatMap stringifyChar ++ '"' :: text).length := by
            have hpos := List.length_pos_iff.2 htext
            rw [List.length_append, List.length_cons]
            omega
          rw [hmisread, hchar, List.cons_append, List.cons_append, List.append_assoc,
            List.singleton_append]
          rcases run_uescape readArray host attrs parent c cursor acc maxlen m hlength with hstop | hrun
          · exact .inl hstop
          · rw [hrun]
            exact ih _
      | false =>
          -- one piece, which is the character again
          have hmisread : misread host.u c = [c] := by rw [misread, hu, if_neg Bool.false_ne_true]
          rcases pieceOf_spec hu with ⟨hp, hptext, hpchar⟩
          rw [hmisread, ← hptext]
          cases hpiece : pieceOf c with
          | plain d =>
              rw [hpiece] at hp hpchar
              cases hpchar
              rw [Piece.text, List.singleton_append, run_plain readArray host attrs parent hp]
              split
              · exact .inl ⟨.error .strlong, fun rest h => (by cases h), rfl⟩
              · exact ih _
          | escaped d =>
              rw [hpiece] at hp hpchar
              cases hpchar
              rw [Piece.text, List.cons_append, List.singleton_append,
                run_escaped readArray host attrs parent hp]
              split
              · exact ih _
              · exact .inl ⟨.fault, fun rest h => (by cases h), rfl⟩

/-- The text of a string without `\u` escapes is a quoted value. -/
theorem flatMap_pieceOf {s : Text} (hs : ∀ c ∈ s, needsU c = false) :
    (s.map pieceOf).flatMap Piece.text = s.flatMap stringifyChar ∧
      (s.map pieceOf).map Piece.char = s ∧ ∀ p ∈ s.map pieceOf, p.Readable := by
  refine ⟨?_, ?_, fun p hp => ?_⟩
  · rw [List.flatMap_map]
    exact List.flatMap_congr fun c hc => (pieceOf_spec (hs c hc)).2.1
  · rw [List.map_map]
    exact (List.map_congr_left fun c hc => (pieceOf_spec (hs c hc)).2.2).trans (List.map_id s)
  · rcases List.mem_map.1 hp with ⟨c, hc, rfl⟩
    exact (pieceOf_spec (hs c hc)).1

/-! ## There and back -/

theorem cString_cons_of_ne {c : Char} (hc : c ≠ '\x00') (t : Text) :
    cString (c :: t) = c :: cString t := by
  simp [cString, hc]

theorem length_misread (u c : Char) : (misread u c).length = if needsU c then 2 else 1 := by
  unfold misread
  split <;> rfl

theorem length_le_flatMap_misread (u : Char) (s : Text) :
    s.length ≤ (s.flatMap (misread u)).length := by
  induction s with
  | nil => exact le_rfl
  | cons c s ih =>
      rw [List.flatMap_cons, List.length_append, List.length_cons, length_misread]
      split <;> omega

/-- A `\u` escape makes the text longer than it was. -/
theorem eq_of_length_flatMap_misread {u : Char} {s : Text}
    (h : (s.flatMap (misread u)).length = s.length) : ∀ c ∈ s, needsU c = false := by
  induction s with
  | nil => exact fun c hc => absurd hc List.not_mem_nil
  | cons c s ih =>
      have hle := length_le_flatMap_misread u s
      rw [List.flatMap_cons, List.length_append, List.length_cons, length_misread] at h
      cases hu : needsU c with
      | true =>
          rw [hu, if_pos rfl] at h
          omega
      | false =>
          rw [hu, if_neg Bool.false_ne_true] at h
          have hrest := ih (by omega)
          intro d hd
          rcases List.mem_cons.1 hd with rfl | hd
          · exact hu
          · exact hrest d hd

/-- A text that the reader gets back has no `\u` escapes, whatever the garbage is. -/
theorem needsU_of_cString_misread {u : Char} {s : Text} (hs : '\x00' ∉ s)
    (h : cString (s.flatMap (misread u)) = s) : ∀ c ∈ s, needsU c = false := by
  by_cases hnul : u = '\x00'
  · -- the garbage ends the string
    induction s with
    | nil => exact fun c hc => absurd hc List.not_mem_nil
    | cons c s ih =>
        have hc : c ≠ '\x00' := fun heq => hs (heq ▸ List.mem_cons_self)
        rw [List.flatMap_cons] at h
        cases hu : needsU c with
        | true =>
            -- the text that comes back is empty
            rw [misread, hu, if_pos rfl, hnul] at h
            simp [cString] at h
        | false =>
            rw [misread, hu, if_neg Bool.false_ne_true, List.singleton_append,
              cString_cons_of_ne hc] at h
            have hrest := ih (fun hmem => hs (List.mem_cons_of_mem c hmem)) (List.cons.inj h).2
            intro d hd
            rcases List.mem_cons.1 hd with rfl | hd
            · exact hu
            · exact hrest d hd
  · -- it does not, and it makes the text longer
    have hfree : '\x00' ∉ s.flatMap (misread u) := by
      intro hmem
      rcases List.mem_flatMap.1 hmem with ⟨c, hc, hmem⟩
      unfold misread at hmem
      split at hmem
      · rcases List.mem_cons.1 hmem with heq | hmem
        · exact hnul heq.symm
        · have hdigit : ∀ n < 16, n.digitChar ≠ '\x00' := by decide
          exact hdigit _ (Nat.mod_lt _ (by decide)) (List.mem_singleton.1 hmem).symm
      · exact hs (List.mem_singleton.1 hmem ▸ hc)
    rw [cString_eq_self hfree] at h
    exact eq_of_length_flatMap_misread (congrArg List.length h)

/-- A template with one string, in an array of `len` characters. -/
def charArray (R : Type) (name : Text) (len : Nat) : List (Attr Empty Text R) :=
  [{ name := name, kind := .string (fun t _ => t) len }]

/-- An object with one string. -/
def stringObject (name s : Text) : Text :=
  '\x7b' :: '"' :: (name ++ '"' :: ':' :: '"' :: (s ++ ['"', '\x7d']))

end

section

variable {R : Type} (host : Host R)

/-- How the reader starts with an object that has one string. -/
theorem readFlat_stringObject {name : Text} (hquote : '"' ∉ name)
    (hname : name.length < JSON_ATTR_MAX) (len : Nat) (s m : Text) :
    readFlat host (charArray R name len) .none (stringObject name s) m =
      run (fun spec => spec.elim) host (charArray R name len) .none 0 (s ++ '"' :: ['\x7d'])
        ⟨.in_val_string ⟨{ name := name, kind := .string (fun t _ => t) len }, []⟩ [], len - 1, []⟩ := by
  have hfind : findAttr name (charArray R name len) =
      some ⟨{ name := name, kind := .string (fun t _ => t) len }, []⟩ := by
    simp [charArray, findAttr]
  rw [readFlat, stringObject, internalReadObject_brace]
  simp only [charArray, setDefaults, Kind.setDefault, Parent.noString, Bool.false_eq_true, if_false]
  have hrun := run_attr (fun spec => spec.elim) host (charArray R name len) .none 0 [] hquote hname
    ('"' :: (s ++ ['"', '\x7d']))
  rw [hfind] at hrun
  rw [charArray] at hrun
  rw [hrun]
  simp only
  rw [run_openQuote _ _ _ _ rfl]
  rfl

/-- How it ends. -/
theorem run_stringObject_end (name : Text) (len : Nat) (maxlen : Int) (val m : Text) :
    run (fun spec => spec.elim) host (charArray R name len) .none 0 ['\x7d']
        ⟨.post_val ⟨{ name := name, kind := .string (fun t _ => t) len }, []⟩ true val, maxlen, m⟩ =
      (.done [], (cString val).take (len - 1)) := by
  rw [run_cons, step, resume_postVal _ _ _ _ _ _ _ _ _ _ (.inr rfl)]
  rfl

/-- The reader gets back what `json_stringify` has written exactly if there are no `\u` escapes. -/
theorem readFlat_stringify_iff {name s : Text} (hquote : '"' ∉ name)
    (hname : name.length < JSON_ATTR_MAX) (hnul : '\x00' ∉ s) {len size : Nat}
    (hlen : s.length + 1 < len) (hmax : s.length ≤ JSON_VAL_MAX)
    (hsize : (s.flatMap stringifyChar).length + 6 < size) (m : Text) :
    readFlat host (charArray R name len) .none (stringObject name (stringify size s)) m =
        (.done [], s) ↔
      ∀ c ∈ s, needsU c = false := by
  rw [stringify_of_le hsize, readFlat_stringObject host hquote hname]
  constructor
  · intro h
    rcases run_stringify (fun spec => spec.elim) host (charArray R name len) .none s
      ⟨{ name := name, kind := .string (fun t _ => t) len }, []⟩ [] (len - 1) []
      (List.cons_ne_nil '\x7d' []) with ⟨outcome, hstop, hrun⟩ | hrun
    · rw [hrun] at h
      exact absurd (congrArg Prod.fst h) (hstop [])
    · rw [hrun, run_stringObject_end, List.nil_append] at h
      have hval : (cString (s.flatMap (misread host.u))).take (len - 1) = s := congrArg Prod.snd h
      -- the array has room for more than this
      have hlength := congrArg List.length hval
      rw [List.length_take] at hlength
      rw [List.take_of_length_le (by omega)] at hval
      exact needsU_of_cString_misread hnul hval
  · intro hs
    rcases flatMap_pieceOf hs with ⟨htext, hchar, hreadable⟩
    have hrun := run_quoted (fun spec => spec.elim) host (charArray R name len) .none hreadable
      ⟨{ name := name, kind := .string (fun t _ => t) len }, []⟩ [] (len - 1) [] ['\x7d']
    have hlength : (s.map pieceOf).length = s.length := List.length_map _
    rw [List.length_nil, storeOutcome_eq_none (by omega) (by rw [hlength]; push_cast; omega), htext,
      hchar, List.nil_append] at hrun
    rw [hrun, run_stringObject_end, cString_eq_self hnul, List.take_of_length_le (by omega)]

theorem readFlat_stringify_iff_tab :
    readFlat (⟨fun _ => (), fun _ => (), '?'⟩ : Host Unit) (charArray Unit "v".toList 8) .none
        (stringObject "v".toList (stringify 16 "a\tb".toList)) [] = (.done [], "a\tb".toList) :=
  (readFlat_stringify_iff _ (by decide) (by decide) (by decide) (by decide) (by decide) (by decide)
    []).2 (List.all_iff_forall_prop.1 (by decide))

end

end Json
end ResourceAccounting
