import ResourceAccounting.C.Printf

/-!
# Templates — what json.c expects of a JSON object and where it puts the values

A template is a list of attributes.  Each has a name, a type with a default, and the place in a C
struct that its value goes to; here the place is a setter on the type `M` of the struct.  An attribute
may have several specifications in a row, of different types.

- `Kind`, `Attr` — `struct json_attr_t`;
- `setDefaults` — the first loop of `json_internal_read_object`;
- `seek`, `Attr.put` — how a value finds its specification, and what is stored.
-/

namespace ResourceAccounting
namespace Json

open Python C

/-! ## Constants -/

def JSON_ATTR_MAX : Nat := 31

def JSON_VAL_MAX : Nat := 120

/-- The codes of json.h. -/
inductive JsonError
  | obstart
  | attrstart
  | badattr
  | attrlen
  | noarray
  | nobrak
  | strlong
  | toklong
  | badtrail
  | arraystart
  | subtoolong
  | badsubtrail
  | subtype
  | badstring
  | checkfail
  | noparstr
  | badenum
  | qnonstring
  | nonqstring
  deriving DecidableEq, Repr

namespace JsonError

def code : JsonError → Nat
  | obstart => 1
  | attrstart => 2
  | badattr => 3
  | attrlen => 4
  | noarray => 5
  | nobrak => 6
  | strlong => 7
  | toklong => 8
  | badtrail => 9
  | arraystart => 10
  | subtoolong => 12
  | badsubtrail => 13
  | subtype => 14
  | badstring => 15
  | checkfail => 16
  | noparstr => 17
  | badenum => 18
  -- both are 19 in json.h
  | qnonstring => 19
  | nonqstring => 19

end JsonError

/-- The table of `json_error_string`. -/
def errors : List Text :=
  ["unknown error while parsing JSON",
    "non-whitespace when expecting object start",
    "non-whitespace when expecting attribute start",
    "unknown attribute name",
    "attribute name too long",
    "saw [ when not expecting array",
    "array element specified, but no [",
    "string value too long",
    "token value too long",
    "garbage while expecting , or \x7d",
    "didn't find expected array start",
    "error while parsing object array",
    "too many array elements",
    "garbage while expecting array comma",
    "unsupported array element type",
    "error while string parsing",
    "check attribute not matched",
    "can't support strings in parallel arrays",
    "invalid enumerated value",
    "saw quoted value when expecting nonstring",
    "didn't see quoted value when expecting string",
    "other data conversion error"].map String.toList

/-- `json_error_string` -/
def errorString (e : JsonError) : Text :=
  errors.getD e.code []

/-! ## Attributes -/

/-- The C functions on floating-point numbers, and what an uninitialised variable holds. -/
structure Host (R : Type) where
  atof : Text → R
  iso8601_to_unix : Text → R
  /-- `(char)u` when `sscanf` has matched nothing. -/
  u : Char

section

variable (A M R : Type)

/-- The type of an attribute, its address and its default; `A` describes arrays. -/
inductive Kind
  | integer (addr : Int → M → M) (dflt : Int)
  | uinteger (addr : Nat → M → M) (dflt : Nat)
  | real (addr : R → M → M) (dflt : R)
  | time (addr : R → M → M) (dflt : R)
  /-- `len` is the size of the array of characters. -/
  | string (addr : Text → M → M) (len : Nat)
  | boolean (addr : Bool → M → M) (dflt : Bool)
  | character (addr : Char → M → M) (dflt : Char)
  | check (required : Text)
  | array (spec : A)

/-- `struct json_attr_t` -/
structure Attr where
  /-- `attribute` -/
  name : Text
  kind : Kind A M R
  map : Option (List (Text × Int)) := none
  nodefault : Bool := false

end

/-- Where the object that is read belongs: the arguments `parent` and `offset`. -/
inductive Parent
  | none
  /-- An element of parallel arrays (`t_object`). -/
  | object (offset : Nat)
  /-- An element of an array of structs. -/
  | structobject
  deriving DecidableEq, Repr

/-- Strings have no place in parallel arrays, except in the first element. -/
def Parent.noString : Parent → Bool
  | .object offset => decide (0 < offset)
  | _ => false

variable {A M R : Type}

namespace Kind

/-- What an attribute holds if the object does not mention it. -/
def setDefault (parent : Parent) : Kind A M R → M → Except JsonError M
  | integer addr dflt, m => .ok (addr dflt m)
  | uinteger addr dflt, m => .ok (addr dflt m)
  | real addr dflt, m => .ok (addr dflt m)
  | time addr dflt, m => .ok (addr dflt m)
  | string addr _, m => if parent.noString then .error .noparstr else .ok (addr [] m)
  | boolean addr dflt, m => .ok (addr dflt m)
  | character addr dflt, m => .ok (addr dflt m)
  | check _, m => .ok m
  | array _, m => .ok m

end Kind

/-- Stuff fields with defaults in case they are omitted; the error that ends the loop, if any. -/
def setDefaults (parent : Parent) : List (Attr A M R) → M → Option JsonError × M
  | [], m => (none, m)
  | a :: attrs, m =>
      if a.nodefault then
        setDefaults parent attrs m
      else
        match a.kind.setDefault parent m with
        | .ok m' => setDefaults parent attrs m'
        | .error e => (some e, m)

/-! ## Values -/

/-- The end of a C string. -/
def cString (s : Text) : Text :=
  s.takeWhile (fun c => decide (c ≠ '\x00'))

/-- `strtol(s, NULL, 10)`, which takes a number that is no `long` for the next one that is. -/
def strtol (s : Text) : Int :=
  let (negative, digits) :=
    match s.dropWhile isSpace with
    | '-' :: rest => (true, rest)
    | '+' :: rest => (false, rest)
    | rest => (false, rest)
  let n : Int := (Nat.ofDigitChars 10 (digits.takeWhile Char.isDigit) 0 : Nat)
  max (-2 ^ (wordBits - 1)) (min (if negative then -n else n) (2 ^ (wordBits - 1) - 1))

/-- `(int)strtol(s, NULL, 10)` -/
def atoi (s : Text) : Int :=
  toInt (strtol s)

-- eleven nines, which no `int` holds
example : atoi "99999999999".toList = 1215752191 := by decide

namespace Kind

/-- A quoted value may go here. -/
def takesQuoted : Kind A M R → Bool
  | string _ _ => true
  | character _ _ => true
  | check _ => true
  | time _ _ => true
  | _ => false

/-- An unquoted value may not go here. -/
def wantsQuoted : Kind A M R → Bool
  | string _ _ => true
  | check _ => true
  | time _ _ => true
  | _ => false

/-- The tests of the loop that looks for the specification of a value. -/
def isFor (quoted : Bool) (val : Text) : Kind A M R → Bool
  | string _ _ => quoted
  | time _ _ => quoted
  | boolean _ _ => val == "true".toList || val == "false".toList
  | real _ _ => (val.head?.any Char.isDigit) && val.contains '.'
  | integer _ _ => (val.head?.any Char.isDigit) && !val.contains '.'
  | uinteger _ _ => (val.head?.any Char.isDigit) && !val.contains '.'
  | _ => false

end Kind

/-- Where `cursor` points: an attribute, and those behind it in the template. -/
structure Cursor (A M R : Type) where
  attr : Attr A M R
  behind : List (Attr A M R)

/-- Go forward to the specification for the value, if there is one under the same name. -/
def seek (quoted : Bool) (val : Text) (a : Attr A M R) : List (Attr A M R) → Cursor A M R
  | [] => ⟨a, []⟩
  | b :: behind =>
      if a.kind.isFor quoted val then
        ⟨a, b :: behind⟩
      else if b.name = a.name then
        seek quoted val b behind
      else
        ⟨a, b :: behind⟩

/-- The first attribute of a name. -/
def findAttr (attrbuf : Text) : List (Attr A M R) → Option (Cursor A M R)
  | [] => none
  | a :: behind => if a.name = attrbuf then some ⟨a, behind⟩ else findAttr attrbuf behind

namespace Kind

/-- Put a value where it belongs. -/
def store (host : Host R) (parent : Parent) (val : Text) : Kind A M R → M → Except JsonError M
  | integer addr _, m => .ok (addr (atoi val) m)
  | uinteger addr _, m => .ok (addr (toUnsigned (atoi val)) m)
  | time addr _, m => .ok (addr (host.iso8601_to_unix val) m)
  | real addr _, m => .ok (addr (host.atof val) m)
  | string addr len, m =>
      if parent.noString then .error .noparstr else .ok (addr (val.take (len - 1)) m)
  | boolean addr _, m => .ok (addr (val == "true".toList) m)
  | character addr _, m =>
      if 1 < val.length then .error .strlong else .ok (addr (val.headD '\x00') m)
  | check required, m =>
      -- `json_target_address` is NULL for a check, unless the parent is an array of structs
      if parent = .structobject ∧ val ≠ required then .error .checkfail else .ok m
  | array _, m => .ok m

end Kind

/-- The value that is stored for an enumerated one. -/
def Attr.decode (a : Attr A M R) (val : Text) : Except JsonError Text :=
  match a.map with
  | none => .ok val
  | some map =>
      match map.find? (fun mp => mp.1 = val) with
      | none => .error .badenum
      | some mp => .ok (decimal mp.2)

/-- What `post_val` does with a value that belongs to this specification: what is in `valbuf`
then, and the struct. -/
def Attr.put (host : Host R) (parent : Parent) (a : Attr A M R) (quoted : Bool) (val : Text) (m : M) :
    Except JsonError (Text × M) :=
  if quoted && !a.kind.takesQuoted && a.map.isNone then
    .error .qnonstring
  else if !quoted && (a.kind.wantsQuoted || a.map.isSome) then
    .error .nonqstring
  else
    match a.decode val with
    | .error e => .error e
    | .ok val =>
        match a.kind.store host parent val m with
        | .error e => .error e
        | .ok m => .ok (val, m)

end Json
end ResourceAccounting
