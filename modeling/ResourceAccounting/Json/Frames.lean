import ResourceAccounting.Json.Reader

/-!
# Frames — what a reader does to a struct

A reader writes to the struct through the attributes of its template only, and never looks at it.  So
what it does is a sequence of stores, which depends on the text and not on the struct, and so does the
way it ends.

- `Kind.Store`, `Store` — what is stored through a template;
- `Uniform` — a reader is a sequence of stores;
- `uniform_run`, `uniform_readFlat`, `uniform_readObject` — the readers are.
-/

namespace ResourceAccounting
namespace Json

open Python

variable {A M R : Type}

/-! ## Stores -/

/-- Stores one after the other. -/
inductive Stores (S : (M → M) → Prop) : (M → M) → Prop
  | none : Stores S id
  | snoc {f g : M → M} (hf : Stores S f) (hg : S g) : Stores S (g ∘ f)

theorem Stores.trans {S : (M → M) → Prop} {f g : M → M} (hf : Stores S f) (hg : Stores S g) :
    Stores S (g ∘ f) := by
  induction hg with
  | none => exact hf
  | snoc _ hstore ih => exact ih.snoc hstore

theorem Stores.one {S : (M → M) → Prop} {f : M → M} (hf : S f) : Stores S f :=
  Stores.none.snoc hf

/-- What is stored through the attribute; `ArrayStore` says so of an array. -/
def Kind.Store (ArrayStore : A → (M → M) → Prop) : Kind A M R → (M → M) → Prop
  | .integer addr _, f => ∃ n, f = addr n
  | .uinteger addr _, f => ∃ n, f = addr n
  | .real addr _, f => ∃ x, f = addr x
  | .time addr _, f => ∃ x, f = addr x
  | .string addr _, f => ∃ t, f = addr t
  | .boolean addr _, f => ∃ b, f = addr b
  | .character addr _, f => ∃ c, f = addr c
  | .check _, _ => False
  | .array spec, f => ArrayStore spec f

def Store (ArrayStore : A → (M → M) → Prop) (attrs : List (Attr A M R)) (f : M → M) : Prop :=
  ∃ a ∈ attrs, a.kind.Store ArrayStore f

/-- The reader is a sequence of stores, and its end does not depend on the struct. -/
def Uniform {β : Type} (S : (M → M) → Prop) (reader : M → β × M) : Prop :=
  ∃ o f, Stores S f ∧ ∀ m, reader m = (o, f m)

theorem Uniform.mono {β : Type} {S T : (M → M) → Prop} {reader : M → β × M} (h : Uniform S reader)
    (hS : ∀ f, S f → T f) : Uniform T reader := by
  rcases h with ⟨o, f, hf, hreader⟩
  refine ⟨o, f, ?_, hreader⟩
  clear hreader
  induction hf with
  | none => exact .none
  | snoc _ hg ih => exact ih.snoc (hS _ hg)

/-! ## The template -/

section

variable (ArrayStore : A → (M → M) → Prop) (host : Host R) (parent : Parent)

/-- A part of a reader that may fail is a sequence of stores if it does not. -/
def UniformExcept {β : Type} (S : (M → M) → Prop) (part : M → Except JsonError (β × M)) : Prop :=
  (∃ e, ∀ m, part m = .error e) ∨ ∃ x f, Stores S f ∧ ∀ m, part m = .ok (x, f m)

theorem uniform_setDefault (k : Kind A M R) :
    (∃ e, ∀ m, k.setDefault parent m = .error e) ∨
      ∃ f, Stores (k.Store ArrayStore) f ∧ ∀ m, k.setDefault parent m = .ok (f m) := by
  cases k with
  | string addr len =>
      by_cases h : parent.noString = true
      · exact .inl ⟨.noparstr, fun m => if_pos h⟩
      · exact .inr ⟨addr [], .one ⟨_, rfl⟩, fun m => if_neg h⟩
  | check required => exact .inr ⟨id, .none, fun _ => rfl⟩
  | array spec => exact .inr ⟨id, .none, fun _ => rfl⟩
  | _ => exact .inr ⟨_, .one ⟨_, rfl⟩, fun _ => rfl⟩

theorem uniform_store (k : Kind A M R) (val : Text) :
    (∃ e, ∀ m, k.store host parent val m = .error e) ∨
      ∃ f, Stores (k.Store ArrayStore) f ∧ ∀ m, k.store host parent val m = .ok (f m) := by
  cases k with
  | string addr len =>
      by_cases h : parent.noString = true
      · exact .inl ⟨.noparstr, fun m => if_pos h⟩
      · exact .inr ⟨_, .one ⟨_, rfl⟩, fun m => if_neg h⟩
  | character addr dflt =>
      by_cases h : 1 < val.length
      · exact .inl ⟨.strlong, fun m => if_pos h⟩
      · exact .inr ⟨_, .one ⟨_, rfl⟩, fun m => if_neg h⟩
  | check required =>
      by_cases h : parent = .structobject ∧ val ≠ required
      · exact .inl ⟨.checkfail, fun m => if_pos h⟩
      · exact .inr ⟨id, .none, fun m => if_neg h⟩
  | array spec => exact .inr ⟨id, .none, fun _ => rfl⟩
  | _ => exact .inr ⟨_, .one ⟨_, rfl⟩, fun _ => rfl⟩

theorem uniform_put (a : Attr A M R) (quoted : Bool) (val : Text) :
    UniformExcept (a.kind.Store ArrayStore) (a.put host parent quoted val) := by
  by_cases hquoted : (quoted && !a.kind.takesQuoted && a.map.isNone) = true
  · exact .inl ⟨.qnonstring, fun m => if_pos hquoted⟩
  · by_cases hunquoted : (!quoted && (a.kind.wantsQuoted || a.map.isSome)) = true
    · exact .inl ⟨.nonqstring, fun m => by rw [Attr.put, if_neg hquoted, if_pos hunquoted]⟩
    · have hput : ∀ m, a.put host parent quoted val m = _ := fun m =>
        (if_neg hquoted).trans (if_neg hunquoted)
      cases hdecode : a.decode val with
      | error e =>
          refine .inl ⟨e, fun m => ?_⟩
          rw [hput, hdecode]
      | ok decoded =>
          rcases uniform_store ArrayStore host parent a.kind decoded with ⟨e, he⟩ | ⟨f, hf, hstore⟩
          · refine .inl ⟨e, fun m => ?_⟩
            rw [hput, hdecode]
            simp only [he]
          · refine .inr ⟨decoded, f, hf, fun m => ?_⟩
            rw [hput, hdecode]
            simp only [hstore]

end

/-! ## Cursors -/

/-- The attributes from the cursor on belong to the template. -/
def Cursor.In (attrs : List (Attr A M R)) (c : Cursor A M R) : Prop :=
  c.attr ∈ attrs ∧ ∀ b ∈ c.behind, b ∈ attrs

theorem in_of_findAttr {attrbuf : Text} {attrs : List (Attr A M R)} {c : Cursor A M R}
    (h : findAttr attrbuf attrs = some c) : c.In attrs := by
  induction attrs with
  | nil => cases h
  | cons a attrs ih =>
      rw [findAttr] at h
      split at h
      · cases h
        exact ⟨List.mem_cons_self, fun b hb => List.mem_cons_of_mem a hb⟩
      · rcases ih h with ⟨hattr, hbehind⟩
        exact ⟨List.mem_cons_of_mem a hattr, fun b hb => List.mem_cons_of_mem a (hbehind b hb)⟩

theorem seek_in {attrs : List (Attr A M R)} (quoted : Bool) (val : Text) {a : Attr A M R}
    {behind : List (Attr A M R)} (h : (Cursor.mk a behind).In attrs) :
    (seek quoted val a behind).In attrs := by
  induction behind generalizing a with
  | nil => exact h
  | cons b behind ih =>
      rw [seek]
      split
      · exact h
      · split
        · exact ih ⟨h.2 b List.mem_cons_self, fun d hd => h.2 d (List.mem_cons_of_mem b hd)⟩
        · exact h

/-- The cursor of a state, if it has one, is in the template. -/
def State.In (attrs : List (Attr A M R)) : State A M R → Prop
  | .await_value cursor => cursor.In attrs
  | .in_val_string cursor _ => cursor.In attrs
  | .in_escape cursor _ => cursor.In attrs
  | .in_val_token cursor _ => cursor.In attrs
  | .post_val cursor _ _ => cursor.In attrs
  | _ => True

/-! ## The loop -/

section

variable {attrs : List (Attr A M R)} {S : (M → M) → Prop}

/-- A turn is a sequence of stores, and all else about it does not depend on the struct. -/
inductive UniformTurn (attrs : List (Attr A M R)) (S : (M → M) → Prop) (turn : M → Turn A M R) : Prop
  | next (f : M → M) (hf : Stores S f) (state : State A M R) (hstate : state.In attrs) (maxlen : Int)
      (skip : Nat) (h : ∀ m, turn m = .next ⟨state, maxlen, f m⟩ skip)
  | finish (f : M → M) (hf : Stores S f) (h : ∀ m, turn m = .finish (f m))
  | error (f : M → M) (hf : Stores S f) (e : JsonError) (h : ∀ m, turn m = .error e (f m))
  | fault (f : M → M) (hf : Stores S f) (h : ∀ m, turn m = .fault (f m))

namespace UniformTurn

theorem ite {p : Prop} [Decidable p] {t e : M → Turn A M R} (ht : p → UniformTurn attrs S t)
    (he : ¬ p → UniformTurn attrs S e) : UniformTurn attrs S (fun m => if p then t m else e m) := by
  by_cases h : p
  · simp only [if_pos h]
    exact ht h
  · simp only [if_neg h]
    exact he h

/-- Nothing is stored. -/
theorem goto (state : State A M R) (hstate : state.In attrs) (maxlen : Int) (skip : Nat) :
    UniformTurn attrs S (fun m => .next ⟨state, maxlen, m⟩ skip) :=
  .next id .none state hstate maxlen skip fun _ => rfl

theorem fail (e : JsonError) : UniformTurn attrs S (fun m => .error e m) :=
  .error id .none e fun _ => rfl

theorem crash : UniformTurn attrs S (fun m => .fault m) :=
  .fault id .none fun _ => rfl

end UniformTurn

theorem uniform_postArray (state : State A M R) (hstate : state.In attrs) (maxlen : Int) {f : M → M}
    (hf : Stores S f) (c : Char) :
    UniformTurn attrs S (fun m => Reader.postArray ⟨state, maxlen, f m⟩ c) := by
  unfold Reader.postArray
  refine .ite (fun _ => ?_) fun _ => .ite (fun _ => ?_) fun _ => .ite (fun _ => ?_) fun _ => ?_
  · exact .next f hf state hstate maxlen 0 fun _ => rfl
  · exact .next f hf .await_attr trivial maxlen 0 fun _ => rfl
  · exact .finish f hf fun _ => rfl
  · exact .error f hf .badtrail fun _ => rfl

end

section

variable {ArrayStore : A → (M → M) → Prop} {readArray : A → Text → M → Outcome × M} (host : Host R)
  {attrs : List (Attr A M R)} (parent : Parent)

/-- What is stored through an attribute is stored through its template. -/
theorem stores_of_mem {a : Attr A M R} (ha : a ∈ attrs) {f : M → M}
    (hf : Stores (a.kind.Store ArrayStore) f) : Stores (Store ArrayStore attrs) f := by
  induction hf with
  | none => exact .none
  | snoc _ hg ih => exact ih.snoc ⟨a, ha, hg⟩

theorem uniform_postVal (state : State A M R) {cursor : Cursor A M R} (hcursor : cursor.In attrs)
    (maxlen : Int) (quoted : Bool) (valbuf : Text) (c : Char) :
    UniformTurn attrs (Store ArrayStore attrs)
      (fun m => Reader.postVal ⟨state, maxlen, m⟩ host parent cursor quoted valbuf c) := by
  have hseek : (seek quoted (cString valbuf) cursor.attr cursor.behind).In attrs :=
    seek_in quoted (cString valbuf) hcursor
  simp only [Reader.postVal]
  generalize seek quoted (cString valbuf) cursor.attr cursor.behind = cursor at hseek ⊢
  rcases uniform_put ArrayStore host parent cursor.attr quoted (cString valbuf) with
    ⟨e, he⟩ | ⟨val, f, hf, hput⟩
  · simp only [he]
    exact .fail e
  · simp only [hput]
    exact uniform_postArray (.post_val cursor quoted val) hseek maxlen (stores_of_mem hseek.1 hf) c

theorem uniform_awaitValue
    (hread : ∀ spec text, Uniform (ArrayStore spec) (readArray spec text))
    {cursor : Cursor A M R} (hcursor : cursor.In attrs) (state : State A M R) (hstate : state.In attrs)
    (maxlen : Int) (c : Char) (behind : Text) :
    UniformTurn attrs (Store ArrayStore attrs)
      (fun m => Reader.awaitValue ⟨state, maxlen, m⟩ readArray cursor c behind) := by
  unfold Reader.awaitValue
  refine .ite (fun _ => .goto state hstate maxlen 0) fun _ => ?_
  cases hkind : cursor.attr.kind.isArray with
  | some spec =>
      refine .ite (fun _ => ?_) fun _ => .fail .nobrak
      have hspec : ∀ f, ArrayStore spec f → cursor.attr.kind.Store ArrayStore f := by
        intro f hf
        cases hk : cursor.attr.kind with
        | array spec' =>
            rw [hk] at hkind
            cases hkind
            exact hf
        | _ =>
            rw [hk] at hkind
            cases hkind
      rcases hread spec (c :: behind) with ⟨o, f, hf, hreader⟩
      have hstores : Stores (Store ArrayStore attrs) f := by
        refine stores_of_mem hcursor.1 ?_
        clear hreader
        induction hf with
        | none => exact .none
        | snoc _ hg ih => exact ih.snoc (hspec _ hg)
      simp only [hreader]
      cases o with
      | done rest => exact .next f hstores .post_array trivial maxlen _ fun _ => rfl
      | error e => exact .error f hstores e fun _ => rfl
      | fault => exact .fault f hstores fun _ => rfl
  | none =>
      refine .ite (fun _ => .fail .noarray) fun _ => .ite (fun _ => ?_) fun _ => ?_
      · exact .goto (.in_val_string cursor []) hcursor maxlen 0
      · exact .goto (.in_val_token cursor [c]) hcursor maxlen 0

theorem uniform_inValString {cursor : Cursor A M R} (hcursor : cursor.In attrs) (state : State A M R)
    (maxlen : Int) (valbuf : Text) (c : Char) :
    UniformTurn attrs (Store ArrayStore attrs)
      (fun m => Reader.inValString ⟨state, maxlen, m⟩ cursor valbuf c) := by
  simp only [Reader.inValString, Reader.goto]
  refine .ite (fun _ => ?_) fun _ => .ite (fun _ => ?_) fun _ => ?_
  · exact .goto (.in_escape cursor valbuf) hcursor maxlen 0
  · cases push valbuf '\x00' with
    | none => exact .crash
    | some _ => exact .goto (.post_val cursor true valbuf) hcursor maxlen 0
  · by_cases hlong : JSON_VAL_MAX - 1 < valbuf.length ∨ maxlen < valbuf.length
    · simp only [if_pos hlong]
      exact .fail .strlong
    · simp only [if_neg hlong]
      cases push valbuf c with
      | none => exact .crash
      | some valbuf => exact .goto (.in_val_string cursor valbuf) hcursor maxlen 0

theorem uniform_inEscape {cursor : Cursor A M R} (hcursor : cursor.In attrs) (state : State A M R)
    (maxlen : Int) (valbuf : Text) (c : Char) (behind : Text) :
    UniformTurn attrs (Store ArrayStore attrs)
      (fun m => Reader.inEscape ⟨state, maxlen, m⟩ host cursor valbuf c behind) := by
  unfold Reader.inEscape
  refine .ite (fun _ => ?_) fun _ => ?_
  · cases uescape behind with
    | none => exact .crash
    | some skip =>
        cases push valbuf host.u with
        | none => exact .crash
        | some valbuf => exact .goto (.in_val_string cursor valbuf) hcursor maxlen skip
  · cases push valbuf (unescape c) with
    | none => exact .crash
    | some valbuf => exact .goto (.in_val_string cursor valbuf) hcursor maxlen 0

theorem uniform_inValToken {cursor : Cursor A M R} (hcursor : cursor.In attrs) (state : State A M R)
    (maxlen : Int) (valbuf : Text) (c : Char) :
    UniformTurn attrs (Store ArrayStore attrs)
      (fun m => Reader.inValToken ⟨state, maxlen, m⟩ host parent cursor valbuf c) := by
  unfold Reader.inValToken
  refine .ite (fun _ => ?_) fun _ => .ite (fun _ => .fail .toklong) fun _ => ?_
  · cases push valbuf '\x00' with
    | none => exact .crash
    | some _ =>
        refine .ite (fun _ => ?_) fun _ => ?_
        · exact .goto (.post_val cursor false valbuf) hcursor maxlen 0
        · exact uniform_postVal host parent state hcursor maxlen false valbuf c
  · cases push valbuf c with
    | none => exact .crash
    | some valbuf => exact .goto (.in_val_token cursor valbuf) hcursor maxlen 0

theorem uniform_inAttr (state : State A M R) (maxlen : Int) (attrbuf : Text) (c : Char) :
    UniformTurn attrs (Store ArrayStore attrs)
      (fun m => Reader.inAttr ⟨state, maxlen, m⟩ attrs attrbuf c) := by
  unfold Reader.inAttr
  refine .ite (fun _ => ?_) fun _ => .ite (fun _ => .fail .attrlen) fun _ => ?_
  · cases pushAttr attrbuf '\x00' with
    | none => exact .crash
    | some _ =>
        cases hfind : findAttr attrbuf attrs with
        | none => exact .fail .badattr
        | some cursor =>
            exact .goto (.await_value cursor) (in_of_findAttr hfind) (cursor.attr.limit maxlen) 0
  · cases pushAttr attrbuf c with
    | none => exact .crash
    | some attrbuf => exact .goto (.in_attr attrbuf) trivial maxlen 0

/-- One turn. -/
theorem uniform_step (hread : ∀ spec text, Uniform (ArrayStore spec) (readArray spec text))
    (state : State A M R) (hstate : state.In attrs) (maxlen : Int) (c : Char) (behind : Text) :
    UniformTurn attrs (Store ArrayStore attrs)
      (fun m => step readArray host attrs parent ⟨state, maxlen, m⟩ c behind) := by
  cases state with
  | init =>
      refine .ite (fun _ => ?_) fun _ => .ite (fun _ => ?_) fun _ => .fail .obstart
      · exact .goto .init trivial maxlen 0
      · exact .goto .await_attr trivial maxlen 0
  | await_attr =>
      refine .ite (fun _ => ?_) fun _ => .ite (fun _ => ?_) fun _ => .ite (fun _ => ?_) fun _ =>
        .fail .attrstart
      · exact .goto .await_attr trivial maxlen 0
      · exact .goto (.in_attr []) trivial maxlen 0
      · exact .goto .await_attr trivial maxlen 0
  | in_attr attrbuf => exact uniform_inAttr _ maxlen attrbuf c
  | await_value cursor => exact uniform_awaitValue hread hstate _ hstate maxlen c behind
  | in_val_string cursor valbuf => exact uniform_inValString hstate _ maxlen valbuf c
  | in_escape cursor valbuf => exact uniform_inEscape host hstate _ maxlen valbuf c behind
  | in_val_token cursor valbuf => exact uniform_inValToken host parent hstate _ maxlen valbuf c
  | post_val cursor quoted valbuf => exact uniform_postVal host parent _ hstate maxlen quoted valbuf c
  | post_array => exact uniform_postArray .post_array trivial maxlen .none c

/-- The loop. -/
theorem uniform_run (hread : ∀ spec text, Uniform (ArrayStore spec) (readArray spec text))
    (state : State A M R) (hstate : state.In attrs) (maxlen : Int) (skip : Nat) (text : Text) :
    Uniform (Store ArrayStore attrs)
      (fun m => run readArray host attrs parent skip text ⟨state, maxlen, m⟩) := by
  induction text generalizing state maxlen skip with
  | nil => exact ⟨.done [], id, .none, fun m => by cases skip <;> rfl⟩
  | cons c text ih =>
      cases skip with
      | succ skip => exact ih state hstate maxlen skip
      | zero =>
          simp only [run]
          cases uniform_step host parent hread state hstate maxlen c text with
          | next f hf state' hstate' maxlen' skip h =>
              rcases ih state' hstate' maxlen' skip with ⟨o, g, hg, hrun⟩
              exact ⟨o, g ∘ f, hf.trans hg, fun m => by simp only [h]; exact hrun (f m)⟩
          | finish f hf h => exact ⟨.done (text.dropWhile isSpace), f, hf, fun m => by simp only [h]⟩
          | error f hf e h => exact ⟨.error e, f, hf, fun m => by simp only [h]⟩
          | fault f hf h => exact ⟨.fault, f, hf, fun m => by simp only [h]⟩

/-! ## The functions -/

variable (ArrayStore) in
theorem uniform_setDefaults (attrs : List (Attr A M R)) :
    ∃ e f, Stores (Store ArrayStore attrs) f ∧ ∀ m, setDefaults parent attrs m = (e, f m) := by
  induction attrs with
  | nil => exact ⟨none, id, .none, fun _ => rfl⟩
  | cons a attrs ih =>
      have hmono : ∀ f, Stores (Store ArrayStore attrs) f → Stores (Store ArrayStore (a :: attrs)) f := by
        intro f hf
        induction hf with
        | none => exact .none
        | snoc _ hg ih =>
            rcases hg with ⟨b, hb, hg⟩
            exact ih.snoc ⟨b, List.mem_cons_of_mem a hb, hg⟩
      rcases ih with ⟨e, f, hf, hrest⟩
      by_cases hnodefault : a.nodefault = true
      · exact ⟨e, f, hmono f hf, fun m => by rw [setDefaults, if_pos hnodefault, hrest]⟩
      · rcases uniform_setDefault ArrayStore parent a.kind with ⟨e', he⟩ | ⟨g, hg, hset⟩
        · exact ⟨some e', id, .none, fun m => by rw [setDefaults, if_neg hnodefault, he]; rfl⟩
        · have hg' := stores_of_mem (List.mem_cons_self (a := a) (l := attrs)) hg
          exact ⟨e, f ∘ g, hg'.trans (hmono f hf), fun m => by
            rw [setDefaults, if_neg hnodefault, hset]
            exact hrest (g m)⟩

theorem uniform_internalReadObject
    (hread : ∀ spec text, Uniform (ArrayStore spec) (readArray spec text)) (text : Text) :
    Uniform (Store ArrayStore attrs) (internalReadObject readArray host attrs parent text) := by
  rcases uniform_setDefaults ArrayStore parent attrs with ⟨e, f, hf, hset⟩
  cases e with
  | some e =>
      refine ⟨.error e, f, hf, fun m => ?_⟩
      rw [internalReadObject, hset]
  | none =>
      rcases uniform_run host parent hread .init trivial 0 0 text with ⟨o, g, hg, hrun⟩
      refine ⟨o, g ∘ f, hf.trans hg, fun m => ?_⟩
      rw [internalReadObject, hset]
      exact hrun (f m)

end

section

variable (host : Host R) (parent : Parent)

/-- The stores through a template without arrays. -/
abbrev StoreFlat (attrs : List (Attr Empty M R)) : (M → M) → Prop :=
  Store (fun spec _ => spec.elim) attrs

/-- An object without arrays is read by a sequence of stores. -/
theorem uniform_readFlat (attrs : List (Attr Empty M R)) (text : Text) :
    Uniform (StoreFlat attrs) (readFlat host attrs parent text) :=
  uniform_internalReadObject host parent (fun spec => spec.elim) text

end

/-! ## Arrays -/

section

variable (ArrayStore : A → (M → M) → Prop)

/-- What is stored for an element of an array. -/
def Elements.Store : Elements A M R → (M → M) → Prop
  | .object subtype, f => ∃ offset, Json.Store ArrayStore (subtype offset) f
  | .structobject subtype, f => ∃ offset, Json.Store ArrayStore (subtype offset) f
  | .string ptrs store storelen, f =>
      (∃ offset tp, f = ptrs offset tp) ∨ ∃ tp c, tp < storelen ∧ f = store tp c
  | .other, _ => False

/-- Every element of an array may be stored to, and the count. -/
def ArraySpec.Store (spec : ArraySpec A M R) (f : M → M) : Prop :=
  spec.elements.Store ArrayStore f ∨ ∃ n, f = spec.count n

end

/-- What is stored for an array, by the levels of arrays in its elements. -/
def Spec.Store : (n : Nat) → Spec M R n → (M → M) → Prop
  | 0, spec, _ => spec.elim
  | n + 1, spec, f => ArraySpec.Store (Spec.Store n) spec f

section

variable {ArrayStore : A → (M → M) → Prop} {readArray : A → Text → M → Outcome × M} (host : Host R)

theorem uniform_readString {S : (M → M) → Prop} {store : Nat → Char → M → M} {storelen : Nat}
    (hstore : ∀ tp c, tp < storelen → S (store tp c)) (text : Text) (tp : Nat) :
    Uniform S (readString store storelen text tp) := by
  induction text generalizing tp with
  | nil => exact ⟨_, id, .none, fun _ => rfl⟩
  | cons c text ih =>
      by_cases hroom : tp < storelen
      · have hput := hstore tp (if c = '"' then '\x00' else c) hroom
        have hread : ∀ m, readString store storelen (c :: text) tp m = _ := fun m => by
          rw [readString, if_pos hroom, storeChar, if_pos hroom]
        by_cases hc : c = '"'
        · exact ⟨_, _, .one hput, fun m => (hread m).trans (if_pos hc)⟩
        · rcases ih (tp + 1) with ⟨o, f, hf, hrest⟩
          exact ⟨o, _, (Stores.one hput).trans hf, fun m =>
            (hread m).trans ((if_neg hc).trans (hrest _))⟩
      · exact ⟨_, id, .none, fun m => by rw [readString, if_neg hroom]; rfl⟩

theorem uniform_readElement (hread : ∀ spec text, Uniform (ArrayStore spec) (readArray spec text))
    (elements : Elements A M R) (offset tp : Nat) (text : Text) :
    Uniform (elements.Store ArrayStore) (readElement readArray host elements offset tp text) := by
  cases elements with
  | object subtype =>
      rcases (uniform_internalReadObject host (.object offset) hread text).mono
        (T := (Elements.object subtype).Store ArrayStore) (fun f hf => ⟨offset, hf⟩) with
        ⟨o, f, hf, hobject⟩
      exact ⟨(o, tp), f, hf, fun m => by simp only [readElement, hobject]⟩
  | structobject subtype =>
      rcases (uniform_internalReadObject host .structobject hread text).mono
        (T := (Elements.structobject subtype).Store ArrayStore) (fun f hf => ⟨offset, hf⟩) with
        ⟨o, f, hf, hobject⟩
      exact ⟨(o, tp), f, hf, fun m => by simp only [readElement, hobject]⟩
  | string ptrs store storelen =>
      have hptrs : (Elements.string ptrs store storelen : Elements A M R).Store ArrayStore
          (ptrs offset tp) := .inl ⟨offset, tp, rfl⟩
      have helement : ∀ m,
          readElement readArray host (.string ptrs store storelen) offset tp text m = _ := fun m => by
        rw [readElement]
      split at helement
      · rename_i rest _
        rcases uniform_readString (S := (Elements.string ptrs store storelen : Elements A M R).Store
          ArrayStore) (fun tp c htp => .inr ⟨tp, c, htp, rfl⟩) rest tp with ⟨o, f, hf, hstring⟩
        exact ⟨o, _, (Stores.one hptrs).trans hf, fun m => (helement m).trans (hstring _)⟩
      · exact ⟨_, id, .none, helement⟩
  | other => exact ⟨_, id, .none, fun _ => rfl⟩

theorem uniform_readElements (hread : ∀ spec text, Uniform (ArrayStore spec) (readArray spec text))
    (spec : ArraySpec A M R) (fuel offset tp : Nat) (text : Text) :
    Uniform (spec.Store ArrayStore) (readElements readArray host spec fuel offset tp text) := by
  induction fuel generalizing offset tp text with
  | zero => exact ⟨.error .subtoolong, id, .none, fun _ => rfl⟩
  | succ fuel ih =>
      rcases (uniform_readElement host hread spec.elements offset tp text).mono
        (T := spec.Store ArrayStore) (fun f hf => .inl hf) with ⟨⟨o, tp'⟩, f, hf, helement⟩
      have helements : ∀ m, readElements readArray host spec (fuel + 1) offset tp text m = _ := fun m =>
        by rw [readElements]
      simp only [helement] at helements
      cases o with
      | error e => exact ⟨.error e, f, hf, helements⟩
      | fault => exact ⟨.fault, f, hf, helements⟩
      | done rest =>
          simp only at helements
          split at helements
          · exact ⟨_, spec.count (offset + 1) ∘ f, hf.snoc (.inr ⟨_, rfl⟩), helements⟩
          · rename_i rest' _
            rcases ih (offset + 1) tp' rest' with ⟨o, g, hg, hrest⟩
            exact ⟨o, g ∘ f, hf.trans hg, fun m => (helements m).trans (hrest (f m))⟩
          · exact ⟨_, f, hf, helements⟩

theorem uniform_readArrayOf (hread : ∀ spec text, Uniform (ArrayStore spec) (readArray spec text))
    (spec : ArraySpec A M R) (text : Text) :
    Uniform (spec.Store ArrayStore) (readArrayOf readArray host spec text) := by
  have harray : ∀ m, readArrayOf readArray host spec text m = _ := fun m => by rw [readArrayOf]
  split at harray
  · rename_i rest _
    rcases uniform_readElements host hread spec spec.maxlen 0 0 rest with ⟨o, f, hf, helements⟩
    exact ⟨o, f, hf, fun m => (harray m).trans (helements m)⟩
  · exact ⟨_, id, .none, harray⟩

/-- `json_read_array` is a sequence of stores. -/
theorem uniform_readArray (n : Nat) (spec : Spec M R n) (text : Text) :
    Uniform (spec.Store n) (Json.readArray host n spec text) := by
  induction n generalizing text with
  | zero => exact spec.elim
  | succ n ih => exact uniform_readArrayOf host (fun spec text => ih spec text) spec text

/-- The stores through a template. -/
abbrev StoreObject {n : Nat} (attrs : List (Attr (Spec M R n) M R)) : (M → M) → Prop :=
  Store (Spec.Store n) attrs

/-- `json_read_object` is a sequence of stores through its template.  Which they are, and how it ends,
depends on the text only. -/
theorem uniform_readObject {n : Nat} (attrs : List (Attr (Spec M R n) M R)) (text : Text) :
    Uniform (StoreObject attrs) (readObject host attrs text) :=
  uniform_internalReadObject host .none (uniform_readArray host n) text

end

end Json
end ResourceAccounting
