import ResourceAccounting.Json.Templates

/-!
# Reader — the state machine of json_internal_read_object

The reader takes a text character by character.  Its buffers have a fixed size, and not every write to
them is guarded: a write behind a buffer ends the run with `fault`, as does a read behind the end of the
text.

- `State`, `Reader` — the variables of the loop;
- `step` — one turn of the loop;
- `run` — the loop;
- `internalReadObject`, `readArray`, `readObject` — the functions of json.c;
- `ArraySpec`, `Spec` — the description of an array, and of arrays in arrays.
-/

namespace ResourceAccounting
namespace Json

open Python

/-- How a reader ends. -/
inductive Outcome
  /-- 0, and `*end` is at the rest of the text. -/
  | done (rest : Text)
  | error (e : JsonError)
  | fault
  deriving DecidableEq, Repr

section

variable (A M R : Type)

/-- The states of the source, each with the variables that are in use there. -/
inductive State
  | init
  | await_attr
  | in_attr (attrbuf : Text)
  | await_value (cursor : Cursor A M R)
  | in_val_string (cursor : Cursor A M R) (valbuf : Text)
  | in_escape (cursor : Cursor A M R) (valbuf : Text)
  | in_val_token (cursor : Cursor A M R) (valbuf : Text)
  | post_val (cursor : Cursor A M R) (value_quoted : Bool) (valbuf : Text)
  | post_array

structure Reader where
  state : State A M R
  /-- It keeps its value from one attribute to the next. -/
  maxlen : Int
  mem : M

/-- What a turn of the loop leads to. -/
inductive Turn
  /-- `skip` characters more have been taken. -/
  | next (r : Reader A M R) (skip : Nat)
  /-- `goto good_parse` -/
  | finish (m : M)
  | error (e : JsonError) (m : M)
  | fault (m : M)

end

variable {A M R : Type}

/-! ## One turn -/

/-- `*p++ = c`, where `buf` is what is before `p` in a buffer of `size` bytes; none if it is full. -/
def poke (size : Nat) (buf : Text) (c : Char) : Option Text :=
  if buf.length < size then some (buf ++ [c]) else none

/-- `*pattr++ = c` -/
def pushAttr (attrbuf : Text) (c : Char) : Option Text :=
  poke (JSON_ATTR_MAX + 1) attrbuf c

/-- `*pval++ = c` -/
def push (valbuf : Text) (c : Char) : Option Text :=
  poke (JSON_VAL_MAX + 1) valbuf c

/-- How many characters the loop of a `\u` escape takes from the text behind the `u`.  It looks two
places further ahead in each turn; none if that is behind the end of the text. -/
def uescape (behind : Text) : Option Nat :=
  match behind.length with
  | 0 => none
  | 1 => some 0
  | 2 => none
  | 3 => some 1
  | 4 => none
  | 5 => some 2
  | _ => some 3

/-- The limit for a quoted value of the attribute. -/
def Attr.limit (a : Attr A M R) (maxlen : Int) : Int :=
  match a.kind with
  | .string _ len => len - 1
  | .check required => required.length
  | .time _ _ => JSON_VAL_MAX
  | _ => if a.map.isSome then JSON_VAL_MAX else maxlen

/-- The character that an escape other than `\u` stands for. -/
def unescape : Char → Char
  | 'b' => '\x08'
  | 'f' => '\x0c'
  | 'n' => '\n'
  | 'r' => '\r'
  | 't' => '\t'
  -- quote and solidus
  | c => c

def Kind.isArray : Kind A M R → Option A
  | .array spec => some spec
  | _ => none

namespace Reader

variable (r : Reader A M R)

/-- The next state. -/
def goto (state : State A M R) : Turn A M R :=
  .next { r with state := state } 0

/-- `post_array` -/
def postArray (c : Char) : Turn A M R :=
  if isSpace c then
    .next r 0
  else if c = ',' then
    r.goto .await_attr
  else if c = '\x7d' then
    .finish r.mem
  else
    .error .badtrail r.mem

/-- `post_val`, which falls through to `post_array`. -/
def postVal (host : Host R) (parent : Parent) (cursor : Cursor A M R) (quoted : Bool) (valbuf : Text)
    (c : Char) : Turn A M R :=
  let cursor := seek quoted (cString valbuf) cursor.attr cursor.behind
  match cursor.attr.put host parent quoted (cString valbuf) r.mem with
  | .error e => .error e r.mem
  | .ok (valbuf, m) =>
      postArray { r with state := .post_val cursor quoted valbuf, mem := m } c

/-- `in_attr` -/
def inAttr (attrs : List (Attr A M R)) (attrbuf : Text) (c : Char) : Turn A M R :=
  if c = '"' then
    -- the terminator
    match pushAttr attrbuf '\x00' with
    | none => .fault r.mem
    | some _ =>
        match findAttr attrbuf attrs with
        | none => .error .badattr r.mem
        | some cursor =>
            .next { r with state := .await_value cursor, maxlen := cursor.attr.limit r.maxlen } 0
  else if JSON_ATTR_MAX - 1 ≤ attrbuf.length then
    .error .attrlen r.mem
  else
    match pushAttr attrbuf c with
    | none => .fault r.mem
    | some attrbuf => r.goto (.in_attr attrbuf)

/-- `await_value`; `behind` is the text behind `c`. -/
def awaitValue (readArray : A → Text → M → Outcome × M) (cursor : Cursor A M R) (c : Char)
    (behind : Text) : Turn A M R :=
  if isSpace c ∨ c = ':' then
    .next r 0
  else
    match cursor.attr.kind.isArray with
    | some spec =>
        if c = '[' then
          match readArray spec (c :: behind) r.mem with
          -- `*end` is at the bracket that closes the array
          | (.done rest, m) =>
              .next { r with state := .post_array, mem := m } (behind.length + 1 - rest.length)
          | (.error e, m) => .error e m
          | (.fault, m) => .fault m
        else
          .error .nobrak r.mem
    | none =>
        if c = '[' then
          .error .noarray r.mem
        else if c = '"' then
          r.goto (.in_val_string cursor [])
        else
          r.goto (.in_val_token cursor [c])

/-- `in_val_string` -/
def inValString (cursor : Cursor A M R) (valbuf : Text) (c : Char) : Turn A M R :=
  if c = '\\' then
    r.goto (.in_escape cursor valbuf)
  else if c = '"' then
    -- the terminator
    match push valbuf '\x00' with
    | none => .fault r.mem
    | some _ => r.goto (.post_val cursor true valbuf)
  else if JSON_VAL_MAX - 1 < valbuf.length ∨ r.maxlen < valbuf.length then
    .error .strlong r.mem
  else
    match push valbuf c with
    | none => .fault r.mem
    | some valbuf => r.goto (.in_val_string cursor valbuf)

/-- `in_escape` -/
def inEscape (host : Host R) (cursor : Cursor A M R) (valbuf : Text) (c : Char) (behind : Text) :
    Turn A M R :=
  if c = 'u' then
    match uescape behind, push valbuf host.u with
    | some skip, some valbuf => .next { r with state := .in_val_string cursor valbuf } skip
    | _, _ => .fault r.mem
  else
    match push valbuf (unescape c) with
    | none => .fault r.mem
    | some valbuf => r.goto (.in_val_string cursor valbuf)

/-- `in_val_token` -/
def inValToken (host : Host R) (parent : Parent) (cursor : Cursor A M R) (valbuf : Text) (c : Char) :
    Turn A M R :=
  if isSpace c ∨ c = ',' ∨ c = '\x7d' then
    -- the terminator
    match push valbuf '\x00' with
    | none => .fault r.mem
    | some _ =>
        if isSpace c then
          r.goto (.post_val cursor false valbuf)
        else
          -- `--cp`: the next state sees the same character
          r.postVal host parent cursor false valbuf c
  else if JSON_VAL_MAX - 1 < valbuf.length then
    .error .toklong r.mem
  else
    match push valbuf c with
    | none => .fault r.mem
    | some valbuf => r.goto (.in_val_token cursor valbuf)

/-- `init` -/
def init (c : Char) : Turn A M R :=
  if isSpace c then
    .next r 0
  else if c = '\x7b' then
    r.goto .await_attr
  else
    .error .obstart r.mem

/-- `await_attr` -/
def awaitAttr (c : Char) : Turn A M R :=
  if isSpace c then
    .next r 0
  else if c = '"' then
    r.goto (.in_attr [])
  else if c = '\x7d' then
    -- the `break` leaves the `switch` only
    .next r 0
  else
    .error .attrstart r.mem

end Reader

section Loop

variable (readArray : A → Text → M → Outcome × M) (host : Host R) (attrs : List (Attr A M R))
  (parent : Parent)

/-- One turn of the loop, at the character `c` with `behind` following it. -/
def step (r : Reader A M R) (c : Char) (behind : Text) : Turn A M R :=
  match r.state with
  | .init => r.init c
  | .await_attr => r.awaitAttr c
  | .in_attr attrbuf => r.inAttr attrs attrbuf c
  | .await_value cursor => r.awaitValue readArray cursor c behind
  | .in_val_string cursor valbuf => r.inValString cursor valbuf c
  | .in_escape cursor valbuf => r.inEscape host cursor valbuf c behind
  | .in_val_token cursor valbuf => r.inValToken host parent cursor valbuf c
  | .post_val cursor quoted valbuf => r.postVal host parent cursor quoted valbuf c
  | .post_array => r.postArray c

/-- The loop; `skip` characters of the text have been taken already. -/
def run : Nat → Text → Reader A M R → Outcome × M
  -- the end of the text is no error
  | _, [], r => (.done [], r.mem)
  | skip + 1, _ :: text, r => run skip text r
  | 0, c :: text, r =>
      match step readArray host attrs parent r c text with
      | .next r skip => run skip text r
      | .finish m => (.done (text.dropWhile isSpace), m)
      | .error e m => (.error e, m)
      | .fault m => (.fault, m)

/-- `json_internal_read_object` -/
def internalReadObject (text : Text) (m : M) : Outcome × M :=
  match setDefaults parent attrs m with
  | (some e, m) => (.error e, m)
  | (none, m) => run readArray host attrs parent 0 text { state := .init, maxlen := 0, mem := m }

end Loop

/-! ## Arrays -/

section

variable (A M R : Type)

/-- The elements of an array: `element_type` and the union of `struct json_array_t`.  The address of an
attribute depends on the index of the element; `A` describes the arrays in an element. -/
inductive Elements
  /-- `t_object` -/
  | object (subtype : Nat → List (Attr A M R))
  /-- `t_structobject` -/
  | structobject (subtype : Nat → List (Attr A M R))
  /-- `t_string`: the strings go to `store` one behind the other, and `ptrs` gets the place of each. -/
  | string (ptrs : Nat → Nat → M → M) (store : Nat → Char → M → M) (storelen : Nat)
  /-- Any other type. -/
  | other

/-- `struct json_array_t` -/
structure ArraySpec where
  elements : Elements A M R
  count : Nat → M → M
  maxlen : Nat

/-- The arrays with at most `n - 1` levels of arrays in their elements. -/
def Spec : Nat → Type
  | 0 => Empty
  | n + 1 => ArraySpec (Spec n) M R

end

/-- An object in which no attribute is an array. -/
def readFlat (host : Host R) (attrs : List (Attr Empty M R)) (parent : Parent) (text : Text) (m : M) :
    Outcome × M :=
  internalReadObject (fun spec => spec.elim) host attrs parent text m

/-- `if (isspace(*cp)) cp++` -/
def skipSpace : Text → Text
  | [] => []
  | c :: text => if isSpace c then text else c :: text

/-- `*tp = c` in the store of a list of strings; none if that is behind its end. -/
def storeChar (store : Nat → Char → M → M) (storelen tp : Nat) (c : Char) (m : M) : Option M :=
  if tp < storelen then some (store tp c m) else none

/-- The loop over the characters of a string in a list, and where the next one goes. -/
def readString (store : Nat → Char → M → M) (storelen : Nat) :
    Text → Nat → M → (Outcome × Nat) × M
  | [], tp, m => ((.error .badstring, tp), m)
  | c :: text, tp, m =>
      if tp < storelen then
        match storeChar store storelen tp (if c = '"' then '\x00' else c) m with
        | none => ((.fault, tp), m)
        | some m =>
            if c = '"' then ((.done text, tp + 1), m) else readString store storelen text (tp + 1) m
      else
        ((.error .badstring, tp), m)

section

variable (readArray : A → Text → M → Outcome × M) (host : Host R)

/-- The element `offset`, and where the next string goes; this one goes to `tp`. -/
def readElement (elements : Elements A M R) (offset tp : Nat) (text : Text) (m : M) :
    (Outcome × Nat) × M :=
  match elements with
  | .object subtype =>
      let (outcome, m) := internalReadObject readArray host (subtype offset) (.object offset) text m
      ((outcome, tp), m)
  | .structobject subtype =>
      let (outcome, m) := internalReadObject readArray host (subtype offset) .structobject text m
      ((outcome, tp), m)
  | .string ptrs store storelen =>
      match skipSpace text with
      | '"' :: text => readString store storelen text tp (ptrs offset tp m)
      | _ => ((.error .badstring, tp), m)
  | .other => ((.error .subtype, tp), m)

/-- The loop of `json_read_array` from the element `offset` on, with room for `fuel` elements. -/
def readElements (spec : ArraySpec A M R) : Nat → Nat → Nat → Text → M → Outcome × M
  | 0, _, _, _, m => (.error .subtoolong, m)
  | fuel + 1, offset, tp, text, m =>
      match readElement readArray host spec.elements offset tp text m with
      | ((.done rest, tp), m) =>
          match skipSpace rest with
          | ']' :: rest => (.done (']' :: rest), spec.count (offset + 1) m)
          | ',' :: rest => readElements spec fuel (offset + 1) tp rest m
          | _ => (.error .badsubtrail, m)
      | ((outcome, _), m) => (outcome, m)

/-- `json_read_array`, if `readArray` reads the arrays in an element. -/
def readArrayOf (spec : ArraySpec A M R) (text : Text) (m : M) : Outcome × M :=
  match text.dropWhile isSpace with
  | '[' :: text => readElements readArray host spec spec.maxlen 0 0 text m
  | _ => (.error .arraystart, m)

end

/-- `json_read_array` -/
def readArray (host : Host R) : (n : Nat) → Spec M R n → Text → M → Outcome × M
  | 0, spec, _, _ => spec.elim
  | n + 1, spec, text, m => readArrayOf (readArray host n) host spec text m

/-- `json_read_object` -/
def readObject {n : Nat} (host : Host R) (attrs : List (Attr (Spec M R n) M R)) (text : Text) (m : M) :
    Outcome × M :=
  internalReadObject (readArray host n) host attrs .none text m

end Json
end ResourceAccounting
