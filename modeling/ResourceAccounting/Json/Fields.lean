import Mathlib.Data.Bool.AllAny
import ResourceAccounting.Json.Reader

/-!
# Fields — reading an object field by field

A writer of JSON puts fields one after the other, with commas between them.  On such a text the reader
does what its template says of each field in turn, up to the first field that does not fit it.

- `Field`, `objectText` — the fields and their text;
- `putField`, `putFields` — what a field, and what all of them, do to the struct;
- `readObject_objectText` — the reader on the text of fields that fit its buffers.
-/

namespace ResourceAccounting
namespace Json

open Python

/-! ## The text of an object -/

/-- A character of a quoted value. -/
inductive Piece
  | plain (c : Char)
  /-- A backslash before it. -/
  | escaped (c : Char)
  deriving DecidableEq, Repr

namespace Piece

def text : Piece → Text
  | plain c => [c]
  | escaped c => ['\\', c]

/-- The character that is meant. -/
def char : Piece → Char
  | plain c => c
  | escaped c => unescape c

/-- The piece is read as this one character. -/
def Readable : Piece → Prop
  | plain c => c ≠ '"' ∧ c ≠ '\\'
  | escaped c => c ≠ 'u'

instance : DecidablePred Readable := fun p => by
  cases p <;> unfold Readable <;> infer_instance

end Piece

inductive Value
  | quoted (pieces : List Piece)
  | token (t : Text)
  deriving DecidableEq, Repr

namespace Value

def text : Value → Text
  | quoted pieces => '"' :: (pieces.flatMap Piece.text ++ ['"'])
  | token t => t

def isQuoted : Value → Bool
  | quoted _ => true
  | token _ => false

/-- What is in `valbuf` at the end of the value. -/
def content : Value → Text
  | quoted pieces => pieces.map Piece.char
  | token t => t

/-- The value of a text without quotes and backslashes. -/
def ofText (t : Text) : Value :=
  quoted (t.map Piece.plain)

@[simp] theorem text_token (t : Text) : (token t).text = t :=
  rfl

@[simp] theorem text_ofText (t : Text) : (ofText t).text = '"' :: (t ++ ['"']) := by
  have hflat : (t.map Piece.plain).flatMap Piece.text = t := by
    induction t with
    | nil => rfl
    | cons c t ih =>
        rw [List.map_cons, List.flatMap_cons, ih]
        rfl
  rw [ofText, text, hflat]

@[simp] theorem content_ofText (t : Text) : (ofText t).content = t := by
  have hchar : Piece.char ∘ Piece.plain = id := rfl
  rw [ofText, content, List.map_map, hchar, List.map_id]

end Value

structure Field where
  name : Text
  value : Value
  deriving DecidableEq, Repr

/-- `"name":value` -/
def Field.text (f : Field) : Text :=
  '"' :: (f.name ++ '"' :: ':' :: f.value.text)

/-- The fields, with commas between them. -/
def fieldsText : List Field → Text
  | [] => []
  | [f] => f.text
  | f :: g :: fields => f.text ++ ',' :: fieldsText (g :: fields)

theorem Field.mem_text {f : Field} {c : Char} (h : c ∈ f.text) :
    c = '"' ∨ c = ':' ∨ c ∈ f.name ∨ c ∈ f.value.text := by
  rcases List.mem_cons.1 h with rfl | h
  · exact .inl rfl
  · rcases List.mem_append.1 h with h | h
    · exact .inr (.inr (.inl h))
    · rcases List.mem_cons.1 h with rfl | h
      · exact .inl rfl
      · exact .inr ((List.mem_cons.1 h).imp_right .inr)

theorem Field.not_mem_text {f : Field} {c : Char} (hmarks : c ≠ '"' ∧ c ≠ ':') (hname : c ∉ f.name)
    (hvalue : c ∉ f.value.text) : c ∉ f.text := by
  intro hmem
  rcases Field.mem_text hmem with h | h | h | h
  · exact hmarks.1 h
  · exact hmarks.2 h
  · exact hname h
  · exact hvalue h

theorem Value.not_mem_text_ofText {t : Text} {c : Char} (hquote : c ≠ '"') (ht : c ∉ t) :
    c ∉ (Value.ofText t).text := by
  rw [Value.text_ofText, List.mem_cons, List.mem_append, List.mem_singleton]
  rintro (h | h | h)
  · exact hquote h
  · exact ht h
  · exact hquote h

theorem text_prefix_fieldsText (f : Field) (fields : List Field) :
    f.text <+: fieldsText (f :: fields) := by
  cases fields with
  | nil => exact List.prefix_refl _
  | cons g fields => exact List.prefix_append _ _

theorem not_mem_fieldsText {c : Char} (hc : c ≠ ',') {fields : List Field}
    (h : ∀ f ∈ fields, c ∉ f.text) : c ∉ fieldsText fields := by
  induction fields with
  | nil => exact List.not_mem_nil
  | cons f fields ih =>
      have hf : c ∉ f.text := h f List.mem_cons_self
      have hrest := ih fun g hg => h g (List.mem_cons_of_mem f hg)
      cases fields with
      | nil => exact hf
      | cons g fields =>
          rw [fieldsText, List.mem_append, List.mem_cons]
          rintro (hmem | rfl | hmem)
          · exact hf hmem
          · exact hc rfl
          · exact hrest hmem

theorem length_text_le {f : Field} {fields : List Field} (hf : f ∈ fields) :
    f.text.length ≤ (fieldsText fields).length := by
  induction fields with
  | nil => cases hf
  | cons g fields ih =>
      cases fields with
      | nil =>
          rw [List.mem_singleton.1 hf]
          rfl
      | cons h fields =>
          rw [fieldsText, List.length_append, List.length_cons]
          rcases List.mem_cons.1 hf with rfl | hf
          · exact Nat.le_add_right _ _
          · exact (ih hf).trans (by omega)

/-- An object. -/
def objectText (fields : List Field) : Text :=
  '\x7b' :: (fieldsText fields ++ ['\x7d'])

/-! ## What the fields do -/

section

variable {A M R : Type} (host : Host R) (attrs : List (Attr A M R)) (parent : Parent)

/-- Put the value of a field where the template says. -/
def putField (f : Field) (m : M) : Except JsonError M :=
  match findAttr f.name attrs with
  | none => .error .badattr
  | some cursor =>
      let val := cString f.value.content
      let cursor := seek f.value.isQuoted val cursor.attr cursor.behind
      (cursor.attr.put host parent f.value.isQuoted val m).map Prod.snd

/-- Put the fields one after the other; the error that ends this, if any. -/
def putFields : List Field → M → Option JsonError × M
  | [], m => (none, m)
  | f :: fields, m =>
      match putField host attrs parent f m with
      | .ok m => putFields fields m
      | .error e => (some e, m)

/-- The value fits the buffers when `cursor` is where its name is first found. -/
def Value.Fits (cursor : Cursor A M R) : Value → Prop
  | .quoted pieces =>
      (∀ p ∈ pieces, p.Readable) ∧ pieces.length ≤ JSON_VAL_MAX ∧
        -- an attribute that is no string leaves the limit of another one
        (pieces.length : Int) ≤ cursor.attr.limit 0 + 1
  | .token t =>
      (∃ c rest, t = c :: rest ∧ c ≠ ':' ∧ c ≠ '[' ∧ c ≠ '"') ∧
        (∀ c ∈ t, isSpace c = false ∧ c ≠ ',' ∧ c ≠ '\x7d') ∧ t.length ≤ JSON_VAL_MAX

/-- The field fits the buffers, if its name is one of the template's. -/
def Field.Fits (f : Field) : Prop :=
  '"' ∉ f.name ∧ f.name.length < JSON_ATTR_MAX ∧
    ∀ cursor, findAttr f.name attrs = some cursor →
      f.value.Fits cursor ∧ cursor.attr.kind.isArray = none ∧ 0 ≤ cursor.attr.limit 0

end

/-! ## Fields that a program writes -/

/-- A comma behind every field, as a program writes them that takes the last one back. -/
theorem fieldsText_concat {fields : List Field} (hne : fields ≠ []) :
    fieldsText fields ++ [','] = fields.flatMap (fun f => f.text ++ [',']) := by
  induction fields with
  | nil => exact absurd rfl hne
  | cons f fields ih =>
      cases fields with
      | nil => simp [fieldsText]
      | cons g fields =>
          rw [fieldsText, List.append_assoc, List.cons_append, ih (List.cons_ne_nil g fields)]
          simp

theorem cString_eq_self {t : Text} (ht : '\x00' ∉ t) : cString t = t := by
  refine List.takeWhile_eq_self_iff.2 fun c hc => ?_
  simpa using fun h : c = '\x00' => ht (h ▸ hc)

/-- `strtol` reads what `%ld` prints. -/
theorem strtol_decimal {n : Int} (hlow : -2 ^ 63 ≤ n) (hhigh : n < 2 ^ 63) :
    strtol (C.decimal n) = n := by
  have hspace : (C.decimal n).dropWhile isSpace = C.decimal n := by
    refine List.dropWhile_eq_self_iff.2 fun hpos => ?_
    rw [C.isWord_decimal n _ (List.getElem_mem hpos)]
    exact Bool.false_ne_true
  have hdigits : ∀ k : Nat, Nat.ofDigitChars 10 ((Nat.toDigits 10 k).takeWhile Char.isDigit) 0 = k := by
    intro k
    rw [List.takeWhile_eq_self_iff.2 fun c hc => isDigit_of_mem_toDigits hc,
      Nat.ofDigitChars_ten_toDigits]
  have hbits : C.wordBits - 1 = 63 := rfl
  rw [strtol, hspace, hbits]
  by_cases hneg : n < 0
  · rw [C.decimal, C.signed, if_pos hneg]
    simp only [hdigits, if_true]
    omega
  · rw [C.decimal, C.signed, if_neg hneg]
    have hplain : ∀ rest, Nat.toDigits 10 n.natAbs ≠ '-' :: rest ∧
        Nat.toDigits 10 n.natAbs ≠ '+' :: rest := by
      intro rest
      constructor <;> intro heq
      · have hdigit := isDigit_of_mem_toDigits (heq ▸ List.mem_cons_self : '-' ∈ _)
        exact absurd hdigit (by decide)
      · have hdigit := isDigit_of_mem_toDigits (heq ▸ List.mem_cons_self : '+' ∈ _)
        exact absurd hdigit (by decide)
    split
    rename_i hmatch
    split at hmatch
    · rename_i heq
      exact absurd heq (hplain _).1
    · rename_i heq
      exact absurd heq (hplain _).2
    · cases hmatch
      rw [hdigits]
      simp only [Bool.false_eq_true, if_false]
      omega

/-- `atoi` reads what `%d` prints. -/
theorem atoi_decimal {n : Int} (hlow : -2 ^ 31 ≤ n) (hhigh : n < 2 ^ 31) : atoi (C.decimal n) = n := by
  rw [atoi, strtol_decimal (by omega) (by omega), C.toInt_of_range hlow hhigh]

section

variable {A M R : Type} {host : Host R} {attrs : List (Attr A M R)} {parent : Parent}

/-- A value goes to the specification that is found first if no other has its name. -/
theorem seek_of_count {name : Text} {cursor : Cursor A M R}
    (hcount : (attrs.map Attr.name).count name ≤ 1) (hfind : findAttr name attrs = some cursor)
    (quoted : Bool) (val : Text) : seek quoted val cursor.attr cursor.behind = cursor := by
  induction attrs with
  | nil => cases hfind
  | cons a attrs ih =>
      rw [List.map_cons, List.count_cons] at hcount
      rw [findAttr] at hfind
      split at hfind
      · rename_i ha
        cases hfind
        rw [ha, beq_self_eq_true, if_pos rfl] at hcount
        cases attrs with
        | nil => rfl
        | cons b behind =>
            have hb : b.name ≠ a.name := by
              intro h
              rw [List.map_cons, List.count_cons, h, ha, beq_self_eq_true, if_pos rfl] at hcount
              omega
            rw [seek, if_neg hb, ite_self]
      · exact ih (by omega) hfind

theorem putField_of_count {f : Field} {cursor : Cursor A M R}
    (hcount : (attrs.map Attr.name).count f.name ≤ 1) (hfind : findAttr f.name attrs = some cursor)
    (m : M) :
    putField host attrs parent f m =
      (cursor.attr.put host parent f.value.isQuoted (cString f.value.content) m).map Prod.snd := by
  simp only [putField, hfind, seek_of_count hcount hfind]

/-- The fields for those conditions that hold. -/
def flagFields (items : List (Bool × Field)) : List Field :=
  items.flatMap fun item => if item.1 then [item.2] else []

theorem mem_flagFields {f : Field} {items : List (Bool × Field)} (hf : f ∈ flagFields items) :
    ∃ item ∈ items, item.1 = true ∧ item.2 = f := by
  rcases List.mem_flatMap.1 hf with ⟨item, hitem, hf⟩
  refine ⟨item, hitem, ?_⟩
  split at hf
  · exact ⟨‹_›, (List.mem_singleton.1 hf).symm⟩
  · cases hf

/-- Such fields behind another one, with the commas behind them. -/
theorem append_fieldsText (s : Text) (f : Field) (items : List (Bool × Field)) :
    s ++ fieldsText (f :: flagFields items) ++ [','] =
      s ++ (f.text ++ [',']) ++
        items.flatMap fun item => if item.1 then item.2.text ++ [','] else [] := by
  have hitems : (flagFields items).flatMap (fun f => f.text ++ [',']) =
      items.flatMap fun item => if item.1 then item.2.text ++ [','] else [] := by
    rw [flagFields, List.flatMap_assoc]
    congr 1
    funext item
    cases item.1
    · rfl
    · simp
  rw [List.append_assoc, fieldsText_concat (List.cons_ne_nil _ _), List.flatMap_cons, hitems,
    ← List.append_assoc]

variable (host attrs parent) in
/-- Fields that stand for conditions, each with what it does to the struct if its condition holds. -/
theorem putFields_flagFields (items : List (Bool × Field × (Bool → M → M)))
    (hput : ∀ item ∈ items, ∀ m,
      (item.1 = true → putField host attrs parent item.2.1 m = .ok (item.2.2 true m)) ∧
        item.2.2 false m = m) (m : M) :
    putFields host attrs parent (flagFields (items.map fun item => (item.1, item.2.1))) m =
      (none, items.foldl (fun m item => item.2.2 item.1 m) m) := by
  induction items generalizing m with
  | nil => rfl
  | cons item items ih =>
      rcases item with ⟨b, f, set⟩
      have hrest := ih fun item hitem => hput item (List.mem_cons_of_mem _ hitem)
      have hitem := hput _ List.mem_cons_self m
      cases b with
      | false =>
          have hset : set false m = m := hitem.2
          have hfold : items.foldl (fun m item => item.2.2 item.1 m) (set false m) =
              items.foldl (fun m item => item.2.2 item.1 m) m := by rw [hset]
          exact (hrest m).trans (congrArg (Prod.mk none) hfold.symm)
      | true =>
          have hcons : flagFields (((true, f, set) :: items).map fun item => (item.1, item.2.1)) =
              f :: flagFields (items.map fun item => (item.1, item.2.1)) := rfl
          rw [hcons, putFields, hitem.1 rfl]
          exact hrest (set true m)

section

variable {name : Text} {cursor : Cursor A M R}
  (hcount : (attrs.map Attr.name).count name ≤ 1) (hfind : findAttr name attrs = some cursor)
  (hmap : cursor.attr.map = none)

include hcount hfind hmap

theorem putField_real (addr : R → M → M) {dflt : R} (hkind : cursor.attr.kind = .real addr dflt)
    {t : Text} (hnul : '\x00' ∉ t) (m : M) :
    putField host attrs parent ⟨name, .token t⟩ m = .ok (addr (host.atof t) m) := by
  rw [putField_of_count hcount hfind]
  simp only [Attr.put, Value.isQuoted, Value.content, cString_eq_self hnul, hkind, hmap,
    Kind.wantsQuoted, Attr.decode, Kind.store]
  rfl

theorem putField_integer (addr : Int → M → M) {dflt : Int}
    (hkind : cursor.attr.kind = .integer addr dflt) {n : Int} (hlow : -2 ^ 31 ≤ n) (hhigh : n < 2 ^ 31)
    (m : M) : putField host attrs parent ⟨name, .token (C.decimal n)⟩ m = .ok (addr n m) := by
  have hnul : cString (C.decimal n) = C.decimal n :=
    cString_eq_self (C.not_mem_decimal n (by decide) (by decide))
  rw [putField_of_count hcount hfind]
  simp only [Attr.put, Value.isQuoted, Value.content, hnul, hkind, hmap, Kind.wantsQuoted,
    Attr.decode, Kind.store, atoi_decimal hlow hhigh]
  rfl

/-- A string that the array of characters has room for. -/
theorem putField_string (addr : Text → M → M) {len : Nat} (hkind : cursor.attr.kind = .string addr len)
    (hparent : parent.noString = false) {t : Text} (hnul : '\x00' ∉ t) (hlength : t.length < len)
    (m : M) : putField host attrs parent ⟨name, .ofText t⟩ m = .ok (addr t m) := by
  rw [putField_of_count hcount hfind, Value.content_ofText, cString_eq_self hnul]
  simp only [Attr.put, Value.ofText, Value.isQuoted, hkind, hmap, Kind.takesQuoted, Attr.decode,
    Kind.store, hparent, List.take_of_length_le (Nat.le_sub_one_of_lt hlength)]
  rfl

end

theorem Field.fits_of_find {name : Text} {value : Value} {cursor : Cursor A M R}
    (hfind : findAttr name attrs = some cursor) (hname : '"' ∉ name ∧ name.length < JSON_ATTR_MAX)
    (hvalue : value.Fits cursor) (hlimit : 0 ≤ cursor.attr.limit 0)
    (harray : cursor.attr.kind.isArray = none := by rfl) : Field.Fits attrs ⟨name, value⟩ := by
  refine ⟨hname.1, hname.2, fun cursor' hfind' => ?_⟩
  obtain rfl : cursor = cursor' := Option.some.inj (hfind.symm.trans hfind')
  exact ⟨hvalue, harray, hlimit⟩

/-- A number fits the buffers if there is room for it. -/
theorem fits_number (cursor : Cursor A M R) {t : Text} (hne : t ≠ [])
    (hchars : ∀ c ∈ t, c.isDigit = true ∨ c ∈ "-.inf".toList) (hlength : t.length ≤ JSON_VAL_MAX) :
    (Value.token t).Fits cursor := by
  have hplain : ∀ c d : Char, c.isDigit = true ∨ c ∈ "-.inf".toList → d ∉ "-.inf".toList →
      d.isDigit = false → c ≠ d := by
    rintro c d (hc | hc) hd hdigit rfl
    · rw [hc] at hdigit
      cases hdigit
    · exact hd hc
  refine ⟨?_, fun c hc => ?_, hlength⟩
  · rcases List.exists_cons_of_ne_nil hne with ⟨c, rest, rfl⟩
    have hc := hplain c
    exact ⟨c, rest, rfl, hc ':' (hchars c List.mem_cons_self) (by decide) (by decide),
      hc '[' (hchars c List.mem_cons_self) (by decide) (by decide),
      hc '"' (hchars c List.mem_cons_self) (by decide) (by decide)⟩
  · refine ⟨?_, hplain c ',' (hchars c hc) (by decide) (by decide),
      hplain c '\x7d' (hchars c hc) (by decide) (by decide)⟩
    rcases hchars c hc with hdigit | hletter
    · exact isSpace_of_isDigit hdigit
    · exact (show ∀ c ∈ "-.inf".toList, isSpace c = false from List.all_iff_forall_prop.1 (by decide)) c
        hletter

theorem fits_decimal (cursor : Cursor A M R) {n : Int} (hn : n.natAbs < 10 ^ 100) :
    (Value.token (C.decimal n)).Fits cursor := by
  have hlength := C.length_decimal_le (by decide) hn
  refine fits_number cursor (C.decimal_ne_nil n) (fun c hc => ?_) (by unfold JSON_VAL_MAX; omega)
  rcases C.mem_decimal hc with rfl | hdigit
  · exact .inr (by decide)
  · exact .inl hdigit

/-- A text without quotes and backslashes fits a string that has room for it. -/
theorem fits_ofText {cursor : Cursor A M R} {t : Text} (ht : '"' ∉ t ∧ '\\' ∉ t)
    (hlength : t.length ≤ JSON_VAL_MAX) (hlimit : (t.length : Int) ≤ cursor.attr.limit 0 + 1) :
    (Value.ofText t).Fits cursor := by
  refine ⟨fun p hp => ?_, ?_, ?_⟩
  · rcases List.mem_map.1 hp with ⟨c, hc, rfl⟩
    exact ⟨fun h => ht.1 (h ▸ hc), fun h => ht.2 (h ▸ hc)⟩
  · rw [List.length_map]
    exact hlength
  · rw [List.length_map]
    exact hlimit

/-- The same, for a string in its array of characters. -/
theorem Field.fits_string {name : Text} {cursor : Cursor A M R}
    (hfind : findAttr name attrs = some cursor) (hname : '"' ∉ name ∧ name.length < JSON_ATTR_MAX)
    {addr : Text → M → M} {len : Nat} (hkind : cursor.attr.kind = .string addr len) {t : Text}
    (ht : '"' ∉ t ∧ '\\' ∉ t) (hlength : t.length < len) (hmax : t.length ≤ JSON_VAL_MAX) :
    Field.Fits attrs ⟨name, .ofText t⟩ := by
  have hlimit : cursor.attr.limit 0 = len - 1 := by
    rw [Attr.limit, hkind]
  refine Field.fits_of_find hfind hname (fits_ofText ht hmax ?_) ?_ ?_
  · omega
  · omega
  · rw [hkind]
    rfl

/-- The same, for a text that is checked. -/
theorem Field.fits_check {name : Text} {cursor : Cursor A M R}
    (hfind : findAttr name attrs = some cursor) (hname : '"' ∉ name ∧ name.length < JSON_ATTR_MAX)
    {t : Text} (hkind : cursor.attr.kind = .check t) (ht : '"' ∉ t ∧ '\\' ∉ t)
    (hmax : t.length ≤ JSON_VAL_MAX) : Field.Fits attrs ⟨name, .ofText t⟩ := by
  have hlimit : cursor.attr.limit 0 = t.length := by
    rw [Attr.limit, hkind]
  refine Field.fits_of_find hfind hname (fits_ofText ht hmax ?_) ?_ ?_
  · omega
  · omega
  · rw [hkind]
    rfl

end

/-! ## The reader on the pieces of a field -/

section

variable {A M R : Type} (readArray : A → Text → M → Outcome × M) (host : Host R)
  (attrs : List (Attr A M R)) (parent : Parent)

/-- What follows a turn. -/
def resume (text : Text) : Turn A M R → Outcome × M
  | .next r skip => run readArray host attrs parent skip text r
  | .finish m => (.done (text.dropWhile isSpace), m)
  | .error e m => (.error e, m)
  | .fault m => (.fault, m)

theorem run_cons (c : Char) (text : Text) (r : Reader A M R) :
    run readArray host attrs parent 0 (c :: text) r =
      resume readArray host attrs parent text (step readArray host attrs parent r c text) := by
  rw [run]
  cases step readArray host attrs parent r c text <;> rfl

theorem pushAttr_of_lt {attrbuf : Text} (h : attrbuf.length ≤ JSON_ATTR_MAX) (c : Char) :
    pushAttr attrbuf c = some (attrbuf ++ [c]) :=
  if_pos (Nat.lt_succ_of_le h)

theorem push_of_lt {valbuf : Text} (h : valbuf.length ≤ JSON_VAL_MAX) (c : Char) :
    push valbuf c = some (valbuf ++ [c]) :=
  if_pos (Nat.lt_succ_of_le h)

/-- A name up to its quote. -/
theorem run_name {name : Text} (acc : Text) (maxlen : Int) (m : M) (hquote : '"' ∉ name)
    (hlength : acc.length + name.length < JSON_ATTR_MAX) (text : Text) :
    run readArray host attrs parent 0 (name ++ '"' :: text) ⟨.in_attr acc, maxlen, m⟩ =
      match findAttr (acc ++ name) attrs with
      | none => (.error .badattr, m)
      | some cursor =>
          run readArray host attrs parent 0 text
            ⟨.await_value cursor, cursor.attr.limit maxlen, m⟩ := by
  induction name generalizing acc with
  | nil =>
      have hroom : acc.length ≤ JSON_ATTR_MAX := by
        rw [List.length_nil] at hlength
        omega
      rw [List.nil_append, run_cons, List.append_nil]
      simp only [step, Reader.inAttr, if_pos, pushAttr_of_lt hroom]
      cases findAttr acc attrs <;> rfl
  | cons c name ih =>
      have hc : c ≠ '"' := fun h => hquote (h ▸ List.mem_cons_self)
      rw [List.length_cons] at hlength
      have hroom : ¬ JSON_ATTR_MAX - 1 ≤ acc.length := by omega
      have hrest := ih (acc ++ [c]) (fun h => hquote (List.mem_cons_of_mem c h))
        (by rw [List.length_append, List.length_singleton]; omega)
      rw [List.append_assoc, List.singleton_append] at hrest
      rw [List.cons_append, run_cons, ← hrest]
      simp only [step, Reader.inAttr, if_neg hc, if_neg hroom,
        pushAttr_of_lt (show acc.length ≤ JSON_ATTR_MAX by omega)]
      rfl

/-- A name with its quotes and its colon. -/
theorem run_attr {name : Text} (maxlen : Int) (m : M) (hquote : '"' ∉ name)
    (hlength : name.length < JSON_ATTR_MAX) (text : Text) :
    run readArray host attrs parent 0 ('"' :: (name ++ '"' :: ':' :: text))
        ⟨.await_attr, maxlen, m⟩ =
      match findAttr name attrs with
      | none => (.error .badattr, m)
      | some cursor =>
          run readArray host attrs parent 0 text
            ⟨.await_value cursor, cursor.attr.limit maxlen, m⟩ := by
  have hopen : ¬ isSpace '"' = true := by decide
  have hname := run_name readArray host attrs parent [] maxlen m hquote (by simpa using hlength)
    (':' :: text)
  rw [run_cons]
  simp only [step, Reader.awaitAttr, if_neg hopen, if_pos, Reader.goto, resume]
  rw [hname, List.nil_append]
  cases findAttr name attrs with
  | none => rfl
  | some cursor =>
      simp only
      rw [run_cons]
      simp only [step, Reader.awaitValue, or_true, if_pos, resume]

/-- The quote before a value. -/
theorem run_openQuote {cursor : Cursor A M R} (harray : cursor.attr.kind.isArray = none)
    (maxlen : Int) (m : M) (text : Text) :
    run readArray host attrs parent 0 ('"' :: text) ⟨.await_value cursor, maxlen, m⟩ =
      run readArray host attrs parent 0 text ⟨.in_val_string cursor [], maxlen, m⟩ := by
  have hskip : ¬ (isSpace '"' = true ∨ '"' = ':') := by decide
  have hbracket : ¬ '"' = '[' := by decide
  rw [run_cons]
  simp only [step, Reader.awaitValue, harray, if_neg hskip, if_neg hbracket, if_pos, Reader.goto,
    resume]

/-- A character of a quoted value. -/
theorem run_plain {c : Char} (hc : c ≠ '"' ∧ c ≠ '\\') (cursor : Cursor A M R) (acc : Text)
    (maxlen : Int) (m : M) (text : Text) :
    run readArray host attrs parent 0 (c :: text) ⟨.in_val_string cursor acc, maxlen, m⟩ =
      if JSON_VAL_MAX - 1 < acc.length ∨ maxlen < acc.length then
        (.error .strlong, m)
      else
        run readArray host attrs parent 0 text ⟨.in_val_string cursor (acc ++ [c]), maxlen, m⟩ := by
  rw [run_cons]
  simp only [step, Reader.inValString, if_neg hc.1, if_neg hc.2]
  by_cases hlong : JSON_VAL_MAX - 1 < acc.length ∨ maxlen < acc.length
  · rw [if_pos hlong, if_pos hlong]
    rfl
  · have hroom : acc.length ≤ JSON_VAL_MAX := by
      unfold JSON_VAL_MAX at hlong ⊢
      omega
    rw [if_neg hlong, if_neg hlong, push_of_lt hroom]
    rfl

/-- An escape of a quoted value. -/
theorem run_escaped {c : Char} (hc : c ≠ 'u') (cursor : Cursor A M R) (acc : Text) (maxlen : Int)
    (m : M) (text : Text) :
    run readArray host attrs parent 0 ('\\' :: c :: text) ⟨.in_val_string cursor acc, maxlen, m⟩ =
      if acc.length ≤ JSON_VAL_MAX then
        run readArray host attrs parent 0 text
          ⟨.in_val_string cursor (acc ++ [unescape c]), maxlen, m⟩
      else
        (.fault, m) := by
  rw [run_cons]
  simp only [step, Reader.inValString, if_pos, Reader.goto, resume]
  rw [run_cons]
  simp only [step, Reader.inEscape, if_neg hc]
  by_cases hroom : acc.length ≤ JSON_VAL_MAX
  · rw [if_pos hroom, push_of_lt hroom]
    rfl
  · have hfull : push acc (unescape c) = none := if_neg (by omega)
    rw [if_neg hroom, hfull]
    rfl

/-- The quote behind a quoted value. -/
theorem run_quote (cursor : Cursor A M R) (acc : Text) (maxlen : Int) (m : M) (text : Text) :
    run readArray host attrs parent 0 ('"' :: text) ⟨.in_val_string cursor acc, maxlen, m⟩ =
      if acc.length ≤ JSON_VAL_MAX then
        run readArray host attrs parent 0 text ⟨.post_val cursor true acc, maxlen, m⟩
      else
        (.fault, m) := by
  have hne : ¬ '"' = '\\' := by decide
  rw [run_cons]
  simp only [step, Reader.inValString, if_neg hne, if_pos]
  by_cases hroom : acc.length ≤ JSON_VAL_MAX
  · rw [if_pos hroom, push_of_lt hroom]
    rfl
  · have hfull : push acc '\x00' = none := if_neg (by omega)
    rw [if_neg hroom, hfull]
    rfl

/-- What the reader does with a quoted value of which `k` characters are in `valbuf` already: none if
all of it is stored, else the error or the fault. -/
def storeOutcome (maxlen : Int) : Nat → List Piece → Option Outcome
  | k, [] => if k ≤ JSON_VAL_MAX then none else some .fault
  | k, .plain _ :: pieces =>
      if JSON_VAL_MAX - 1 < k ∨ maxlen < k then some (.error .strlong)
      else storeOutcome maxlen (k + 1) pieces
  | k, .escaped _ :: pieces =>
      if k ≤ JSON_VAL_MAX then storeOutcome maxlen (k + 1) pieces else some .fault

/-- A quoted value up to its quote. -/
theorem run_quoted {pieces : List Piece} (hp : ∀ p ∈ pieces, p.Readable) (cursor : Cursor A M R)
    (acc : Text) (maxlen : Int) (m : M) (text : Text) :
    run readArray host attrs parent 0 (pieces.flatMap Piece.text ++ '"' :: text)
        ⟨.in_val_string cursor acc, maxlen, m⟩ =
      match storeOutcome maxlen acc.length pieces with
      | some outcome => (outcome, m)
      | none =>
          run readArray host attrs parent 0 text
            ⟨.post_val cursor true (acc ++ pieces.map Piece.char), maxlen, m⟩ := by
  induction pieces generalizing acc with
  | nil =>
      rw [List.flatMap_nil, List.nil_append, run_quote, List.map_nil, List.append_nil, storeOutcome]
      by_cases hroom : acc.length ≤ JSON_VAL_MAX
      · rw [if_pos hroom, if_pos hroom]
      · rw [if_neg hroom, if_neg hroom]
  | cons p pieces ih =>
      have hrest := ih (fun q hq => hp q (List.mem_cons_of_mem p hq)) (acc ++ [p.char])
      rw [List.length_append, List.length_singleton, List.append_assoc, List.singleton_append] at hrest
      have hpiece := hp p List.mem_cons_self
      rw [List.flatMap_cons, List.append_assoc, List.map_cons]
      cases p with
      | plain c =>
          rw [Piece.text, List.singleton_append, run_plain readArray host attrs parent hpiece,
            storeOutcome]
          by_cases hlong : JSON_VAL_MAX - 1 < acc.length ∨ maxlen < acc.length
          · rw [if_pos hlong, if_pos hlong]
          · rw [if_neg hlong, if_neg hlong]
            exact hrest
      | escaped c =>
          -- no test of the length here
          rw [Piece.text, List.cons_append, List.singleton_append,
            run_escaped readArray host attrs parent hpiece, storeOutcome]
          by_cases hroom : acc.length ≤ JSON_VAL_MAX
          · rw [if_pos hroom, if_pos hroom]
            exact hrest
          · rw [if_neg hroom, if_neg hroom]

/-- A quoted value that the text ends in: it is not stored. -/
theorem run_unterminated {s : Text} (hs : '"' ∉ s ∧ '\\' ∉ s) (cursor : Cursor A M R) (acc : Text)
    (maxlen : Int) (m : M) (hlength : acc.length + s.length ≤ JSON_VAL_MAX)
    (hmaxlen : (acc.length + s.length : Int) ≤ maxlen + 1) :
    run readArray host attrs parent 0 s ⟨.in_val_string cursor acc, maxlen, m⟩ = (.done [], m) := by
  induction s generalizing acc with
  | nil => rfl
  | cons c s ih =>
      rw [List.length_cons] at hlength
      push_cast [List.length_cons] at hmaxlen
      have hc : c ≠ '"' ∧ c ≠ '\\' :=
        ⟨fun h => hs.1 (h ▸ List.mem_cons_self), fun h => hs.2 (h ▸ List.mem_cons_self)⟩
      have hroom : ¬ (JSON_VAL_MAX - 1 < acc.length ∨ maxlen < acc.length) := by omega
      rw [run_plain readArray host attrs parent hc, if_neg hroom]
      refine ih ⟨fun h => hs.1 (List.mem_cons_of_mem c h), fun h => hs.2 (List.mem_cons_of_mem c h)⟩
        (acc ++ [c]) ?_ ?_
      · rw [List.length_append, List.length_singleton]
        omega
      · rw [List.length_append, List.length_singleton]
        push_cast
        omega

/-- A value that is short enough is stored. -/
theorem storeOutcome_eq_none {maxlen : Int} {k : Nat} {pieces : List Piece}
    (hlength : k + pieces.length ≤ JSON_VAL_MAX)
    (hmaxlen : (k + pieces.length : Int) ≤ maxlen + 1) : storeOutcome maxlen k pieces = none := by
  induction pieces generalizing k with
  | nil => exact if_pos hlength
  | cons p pieces ih =>
      rw [List.length_cons] at hlength
      push_cast [List.length_cons] at hmaxlen
      have hrest := ih (k := k + 1) (by omega) (by push_cast; omega)
      cases p with
      | plain c =>
          have hroom : ¬ (JSON_VAL_MAX - 1 < k ∨ maxlen < k) := by omega
          rw [storeOutcome, if_neg hroom, hrest]
      | escaped c => rw [storeOutcome, if_pos (by omega), hrest]

/-- A token up to the comma or the brace behind it, which `post_val` sees. -/
theorem run_token {t : Text} (ht : ∀ c ∈ t, isSpace c = false ∧ c ≠ ',' ∧ c ≠ '\x7d')
    (cursor : Cursor A M R) (acc : Text) (maxlen : Int) (m : M)
    (hlength : acc.length + t.length ≤ JSON_VAL_MAX) {c : Char} (hc : c = ',' ∨ c = '\x7d')
    (text : Text) :
    run readArray host attrs parent 0 (t ++ c :: text) ⟨.in_val_token cursor acc, maxlen, m⟩ =
      resume readArray host attrs parent text
        (Reader.postVal ⟨.in_val_token cursor acc, maxlen, m⟩ host parent cursor false (acc ++ t)
          c) := by
  induction t generalizing acc with
  | nil =>
      have hspace : ¬ isSpace c = true := by
        rcases hc with rfl | rfl <;> decide
      have hend : isSpace c = true ∨ c = ',' ∨ c = '\x7d' := .inr hc
      rw [List.nil_append, run_cons, List.append_nil]
      simp only [step, Reader.inValToken, if_pos hend, if_neg hspace,
        push_of_lt (show acc.length ≤ JSON_VAL_MAX from hlength)]
  | cons d t ih =>
      rcases ht d List.mem_cons_self with ⟨hspace, hcomma, hbrace⟩
      rw [List.length_cons] at hlength
      have hd : ¬ (isSpace d = true ∨ d = ',' ∨ d = '\x7d') := by simp [hspace, hcomma, hbrace]
      have hroom : ¬ JSON_VAL_MAX - 1 < acc.length := by omega
      have hrest := ih (fun e he => ht e (List.mem_cons_of_mem d he)) (acc ++ [d])
        (by rw [List.length_append, List.length_singleton]; omega)
      rw [List.append_assoc, List.singleton_append] at hrest
      rw [List.cons_append, run_cons]
      simp only [step, Reader.inValToken, if_neg hd, if_neg hroom, push_of_lt (show acc.length ≤ JSON_VAL_MAX by omega), Reader.goto, resume]
      exact hrest

/-! ## The reader on fields -/

theorem limit_mono (a : Attr A M R) {maxlen : Int} (h : 0 ≤ maxlen) : a.limit 0 ≤ a.limit maxlen := by
  unfold Attr.limit
  split
  · exact le_rfl
  · exact le_rfl
  · exact le_rfl
  · split
    · exact le_rfl
    · exact h

/-- `post_val` at the comma or the brace behind a value. -/
theorem resume_postVal (state : State A M R) (maxlen : Int) (m : M) (cursor : Cursor A M R)
    (quoted : Bool) (valbuf : Text) {c : Char} (hc : c = ',' ∨ c = '\x7d') (text : Text) :
    resume readArray host attrs parent text
        (Reader.postVal ⟨state, maxlen, m⟩ host parent cursor quoted valbuf c) =
      match (let val := cString valbuf
          let cursor := seek quoted val cursor.attr cursor.behind
          (cursor.attr.put host parent quoted val m).map Prod.snd) with
      | .error e => (.error e, m)
      | .ok m' =>
          if c = ',' then
            run readArray host attrs parent 0 text ⟨.await_attr, maxlen, m'⟩
          else
            (.done (text.dropWhile isSpace), m') := by
  have hspace : ¬ isSpace c = true := by
    rcases hc with rfl | rfl <;> decide
  simp only [Reader.postVal]
  cases (seek quoted (cString valbuf) cursor.attr cursor.behind).attr.put host parent quoted
      (cString valbuf) m with
  | error e => rfl
  | ok result =>
      simp only [Reader.postArray, if_neg hspace, Except.map]
      rcases hc with rfl | rfl
      · rfl
      · rfl

/-- A value and the comma or the brace behind it. -/
theorem run_value {value : Value} {cursor : Cursor A M R} (hfits : value.Fits cursor)
    (harray : cursor.attr.kind.isArray = none) {maxlen : Int} (hmaxlen : cursor.attr.limit 0 ≤ maxlen)
    (m : M) {c : Char} (hc : c = ',' ∨ c = '\x7d') (text : Text) :
    ∃ state, run readArray host attrs parent 0 (value.text ++ c :: text)
        ⟨.await_value cursor, maxlen, m⟩ =
      resume readArray host attrs parent text
        (Reader.postVal ⟨state, maxlen, m⟩ host parent cursor value.isQuoted value.content c) := by
  cases value with
  | quoted pieces =>
      -- the closing quote is taken, and `post_val` sees `c`
      rcases hfits with ⟨hpieces, hlength, hlimit⟩
      have hstring := run_quoted readArray host attrs parent hpieces cursor [] maxlen m (c :: text)
      rw [List.length_nil, storeOutcome_eq_none (by omega) (by push_cast; omega)] at hstring
      refine ⟨.post_val cursor true (pieces.map Piece.char), ?_⟩
      rw [Value.text, List.cons_append, List.append_assoc, List.singleton_append,
        run_openQuote readArray host attrs parent harray, hstring, run_cons]
      rfl
  | token t =>
      -- `c` ends the token, and is seen again
      rcases hfits with ⟨⟨d, rest, rfl, hcolon, hbracket, hquote⟩, hchars, hlength⟩
      have hd := hchars d List.mem_cons_self
      have hskip : ¬ (isSpace d = true ∨ d = ':') := by simp [hd.1, hcolon]
      have htoken := run_token readArray host attrs parent
        (fun e he => hchars e (List.mem_cons_of_mem d he)) cursor [d] maxlen m
        (by rw [List.length_singleton]; rw [List.length_cons] at hlength; omega) hc text
      refine ⟨.in_val_token cursor [d], ?_⟩
      rw [Value.text, List.cons_append, run_cons]
      simp only [step, Reader.awaitValue, harray, if_neg hskip, if_neg hbracket, if_neg hquote,
        Reader.goto, resume]
      exact htoken

/-- A field and the comma or the brace behind it. -/
theorem run_field {f : Field} (hf : f.Fits attrs) {maxlen : Int} (hmaxlen : 0 ≤ maxlen) (m : M)
    {c : Char} (hc : c = ',' ∨ c = '\x7d') (text : Text) :
    ∃ maxlen', 0 ≤ maxlen' ∧
      run readArray host attrs parent 0 (f.text ++ c :: text) ⟨.await_attr, maxlen, m⟩ =
        match putField host attrs parent f m with
        | .error e => (.error e, m)
        | .ok m' =>
            if c = ',' then
              run readArray host attrs parent 0 text ⟨.await_attr, maxlen', m'⟩
            else
              (.done (text.dropWhile isSpace), m') := by
  rcases hf with ⟨hquote, hname, hvalue⟩
  have hstart := run_attr readArray host attrs parent maxlen m hquote hname
    (f.value.text ++ c :: text)
  have htext : f.text ++ c :: text = '"' :: (f.name ++ '"' :: ':' :: (f.value.text ++ c :: text)) := by
    simp [Field.text]
  rw [htext, hstart, putField]
  cases hfind : findAttr f.name attrs with
  | none => exact ⟨maxlen, hmaxlen, rfl⟩
  | some cursor =>
      rcases hvalue cursor hfind with ⟨hfits, harray, hlimit⟩
      have hmono := limit_mono cursor.attr hmaxlen
      rcases run_value readArray host attrs parent hfits harray hmono m hc text with ⟨state, hrun⟩
      refine ⟨cursor.attr.limit maxlen, hlimit.trans hmono, ?_⟩
      simp only
      rw [hrun, resume_postVal readArray host attrs parent _ _ _ _ _ _ hc]

/-- The reader on the fields of an object: it does what they say, up to the first that does not fit
the template. -/
theorem run_fieldsText {fields : List Field} (hne : fields ≠ [])
    (hfits : ∀ f ∈ fields, f.Fits attrs) {maxlen : Int} (hmaxlen : 0 ≤ maxlen) (m : M) (text : Text) :
    run readArray host attrs parent 0 (fieldsText fields ++ '\x7d' :: text)
        ⟨.await_attr, maxlen, m⟩ =
      match putFields host attrs parent fields m with
      | (some e, m') => (.error e, m')
      | (none, m') => (.done (text.dropWhile isSpace), m') := by
  induction fields generalizing maxlen m with
  | nil => exact absurd rfl hne
  | cons f fields ih =>
      have hf := hfits f List.mem_cons_self
      cases fields with
      | nil =>
          -- the brace behind the last field
          rcases run_field readArray host attrs parent hf hmaxlen m (.inr rfl) text with
            ⟨_, -, hrun⟩
          rw [fieldsText, hrun, putFields]
          cases putField host attrs parent f m <;> rfl
      | cons g fields =>
          rcases run_field readArray host attrs parent hf hmaxlen m (.inl rfl)
            (fieldsText (g :: fields) ++ '\x7d' :: text) with ⟨maxlen', hmaxlen', hrun⟩
          rw [fieldsText, List.append_assoc, List.cons_append, hrun, putFields]
          cases hput : putField host attrs parent f m with
          | error e => rfl
          | ok m' =>
              exact ih (List.cons_ne_nil g fields)
                (fun h hh => hfits h (List.mem_cons_of_mem f hh)) hmaxlen' m'

/-- The brace that opens an object, and the defaults before it. -/
theorem internalReadObject_brace (m : M) (text : Text) :
    internalReadObject readArray host attrs parent ('\x7b' :: text) m =
      match setDefaults parent attrs m with
      | (some e, m') => (.error e, m')
      | (none, m') => run readArray host attrs parent 0 text ⟨.await_attr, 0, m'⟩ := by
  have hbrace : ¬ isSpace '\x7b' = true := by decide
  rw [internalReadObject]
  rcases setDefaults parent attrs m with ⟨_ | e, m'⟩
  · simp only
    rw [run_cons]
    simp only [step, Reader.init, if_neg hbrace, if_pos, Reader.goto, resume]
  · rfl

/-- `json_internal_read_object` on the text of an object. -/
theorem internalReadObject_objectText {fields : List Field} (hne : fields ≠ [])
    (hfits : ∀ f ∈ fields, f.Fits attrs) (m : M) (text : Text) :
    internalReadObject readArray host attrs parent (objectText fields ++ text) m =
      match setDefaults parent attrs m with
      | (some e, m') => (.error e, m')
      | (none, m') =>
          match putFields host attrs parent fields m' with
          | (some e, m'') => (.error e, m'')
          | (none, m'') => (.done (text.dropWhile isSpace), m'') := by
  have htext : objectText fields ++ text = '\x7b' :: (fieldsText fields ++ '\x7d' :: text) := by
    simp [objectText]
  rw [htext, internalReadObject_brace]
  rcases setDefaults parent attrs m with ⟨_ | e, m'⟩
  · exact run_fieldsText readArray host attrs parent hne hfits le_rfl m' text
  · rfl

end

/-- An object that is no element of an array gets its defaults. -/
theorem setDefaults_none {A M R : Type} (attrs : List (Attr A M R)) (m : M) :
    (setDefaults .none attrs m).1 = none := by
  induction attrs generalizing m with
  | nil => rfl
  | cons a attrs ih =>
      rw [setDefaults]
      split
      · exact ih m
      · have hok : ∃ m', a.kind.setDefault .none m = .ok m' := by
          cases a.kind <;> exact ⟨_, rfl⟩
        rcases hok with ⟨m', hm'⟩
        rw [hm']
        exact ih m'

/-- An object without arrays whose fields are all stored. -/
theorem readFlat_objectText {M R : Type} {host : Host R} {attrs : List (Attr Empty M R)}
    {fields : List Field} (hne : fields ≠ []) (hfits : ∀ f ∈ fields, f.Fits attrs) {m m' : M}
    (hput : putFields host attrs .none fields (setDefaults .none attrs m).2 = (none, m'))
    (text : Text) :
    readFlat host attrs .none (objectText fields ++ text) m = (.done (text.dropWhile isSpace), m') := by
  have hdefaults := setDefaults_none attrs m
  rw [readFlat, internalReadObject_objectText _ _ _ _ hne hfits]
  rcases hset : setDefaults .none attrs m with ⟨e, m''⟩
  rw [hset] at hdefaults hput
  obtain rfl : e = none := hdefaults
  simp only at hput ⊢
  rw [hput]

section

variable {M R : Type} {n : Nat} (host : Host R) (attrs : List (Attr (Spec M R n) M R))

/-- `json_read_object` on the text of an object whose fields fit the buffers: the defaults, and then
what the template says of each field in turn, up to the first that it refuses. -/
theorem readObject_objectText {fields : List Field} (hne : fields ≠ [])
    (hfits : ∀ f ∈ fields, f.Fits attrs) (m : M) (text : Text) :
    readObject host attrs (objectText fields ++ text) m =
      match putFields host attrs .none fields (setDefaults .none attrs m).2 with
      | (some e, m') => (.error e, m')
      | (none, m') => (.done (text.dropWhile isSpace), m') := by
  have hdefaults := setDefaults_none attrs m
  rw [readObject, internalReadObject_objectText _ _ _ _ hne hfits]
  rcases hset : setDefaults .none attrs m with ⟨e, m'⟩
  rw [hset] at hdefaults
  obtain rfl : e = none := hdefaults
  rfl

/-- A template with one number, which stays what it was, and an object that sets it. -/
theorem readObject_objectText_number :
    readObject (n := 0) (⟨fun _ => (), fun _ => (), '?'⟩ : Host Unit)
        [{ name := "n".toList, kind := .integer (fun n _ => n) 0 }]
        (objectText [⟨"n".toList, .token "42".toList⟩] ++ "\r\n".toList) (7 : Int) =
      (.done [], 42) := by
  have hfits : ∀ f ∈ [(⟨"n".toList, .token "42".toList⟩ : Field)],
      f.Fits [({ name := "n".toList, kind := .integer (fun n _ => n) 0 } :
        Attr (Spec Int Unit 0) Int Unit)] := by
    intro f hf
    rw [List.mem_singleton.1 hf]
    refine ⟨by decide, by decide, fun cursor hcursor => ?_⟩
    cases hcursor
    exact ⟨⟨⟨'4', ['2'], rfl, by decide⟩, List.all_iff_forall_prop.1 (by decide), by decide⟩, rfl,
      le_rfl⟩
  exact readObject_objectText _ _ (List.cons_ne_nil _ _) hfits 7 "\r\n".toList

end

end Json
end ResourceAccounting
