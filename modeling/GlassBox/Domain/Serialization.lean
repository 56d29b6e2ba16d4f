import GlassBox.Domain.Errors

/-!
# Canonical serialisation and validation primitives

`domain/serialization.py`.  A value is normalised to JSON data and then printed with sorted keys.
`Runtime` holds what the interpreter contributes, with its documented laws; every later result
holds for any runtime which has them.
-/

namespace GlassBox

/-- The parts of the Python runtime whose exact output the development does not depend on. -/
class Runtime where
  /-- `float.__repr__` on finite floats. -/
  reprFloat : ℚ → String
  /-- `float(repr(x)) == x`. -/
  reprFloat_injective : Function.Injective reprFloat
  /-- The text of a finite float has only digits, signs, a point and an exponent. -/
  reprFloat_chars : ∀ value, ∀ char ∈ (reprFloat value).toList, char ∈ "0123456789+-.e".toList
  /-- A float is never printed as an integer is. -/
  reprFloat_not_int : ∀ value, ∃ char ∈ (reprFloat value).toList, char ∈ ".e".toList
  /-- `float(text)`, if the text is the one of a float. -/
  floatOfText : String → Option PyFloat
  /-- `str.__repr__`. -/
  reprStr : String → String
  /-- `math.sqrt`. -/
  sqrt : ℚ → ℚ
  sqrt_nonneg : ∀ value, 0 ≤ sqrt value
  /-- `re.compile(pattern).search(text) is not None`. -/
  reSearch : String → String → Bool
  /-- `fnmatch.fnmatchcase(name, pattern)`. -/
  fnmatchcase : String → String → Bool
  /-- `hashlib.sha256(data).digest()`. -/
  sha256 : ByteString → ByteString
  sha256_length : ∀ data, (sha256 data).length = 32

/-- `repr` of a float. -/
def PyFloat.text [Runtime] : PyFloat → String
  | finite value => Runtime.reprFloat value
  | nan => "nan"
  | posInf => "inf"
  | negInf => "-inf"

/-- Data `json.dumps` prints. -/
inductive Json
  | null
  | bool (value : Bool)
  | int (value : Int)
  | float (value : ℚ)
  | str (value : String)
  | array (items : List Json)
  | object (entries : List (String × Json))

/-- `bytes.hex()`, as characters. -/
def hexChars : ByteString → List Char
  | [] => []
  | byte :: bytes =>
    Nat.digitChar (byte.toNat / 16) :: Nat.digitChar (byte.toNat % 16) :: hexChars bytes

def hexText (bytes : ByteString) : String := String.ofList (hexChars bytes)

theorem toDigits_ten_injective : Function.Injective (Nat.toDigits 10) := by
  intro left right same
  have value := congrArg (fun chars => Nat.ofDigitChars 10 chars 0) same
  simpa using value

variable {char : Char} {text field : String} {error : PyError} {value : ℚ}

theorem isDigit_of_mem_toDigits_ten {number : Nat} (member : char ∈ Nat.toDigits 10 number) :
    char.isDigit = true :=
  Nat.isDigit_of_mem_toDigits (by decide) (by decide) member

theorem mem_floatChars_of_isDigit (digit : char.isDigit = true) :
    char ∈ "0123456789+-.e".toList := by
  have all : ∀ code < 58, 48 ≤ code → Char.ofNat code ∈ "0123456789+-.e".toList := by decide
  simp only [Char.isDigit, Bool.and_eq_true, decide_eq_true_eq] at digit
  have lower : 48 ≤ char.toNat := digit.1
  have upper : char.toNat ≤ 57 := digit.2
  rw [← Char.ofNat_toNat char]
  exact all char.toNat (by omega) lower

/-- The text before the first mark and the text behind it are determined. -/
theorem append_mark_inj {mark : Char} {left left' right right' : List Char}
    (absent : mark ∉ left) (absent' : mark ∉ left')
    (same : left ++ mark :: right = left' ++ mark :: right') : left = left' ∧ right = right' := by
  induction left generalizing left' with
  | nil =>
    cases left' with
    | nil => simpa using same
    | cons char left' =>
      simp only [List.nil_append, List.cons_append, List.cons.injEq] at same
      exact absurd (List.mem_cons.mpr (Or.inl same.1)) absent'
  | cons char left ih =>
    cases left' with
    | nil =>
      simp only [List.nil_append, List.cons_append, List.cons.injEq] at same
      exact absurd (List.mem_cons.mpr (Or.inl same.1.symm)) absent
    | cons char' left' =>
      simp only [List.cons_append, List.cons.injEq] at same
      obtain ⟨rfl, rfl⟩ := ih (fun member => absent (List.mem_cons_of_mem _ member))
        (fun member => absent' (List.mem_cons_of_mem _ member)) same.2
      exact ⟨by rw [same.1], rfl⟩

/-- A `\uXXXX` escape. -/
def unicodeEscape (code : Nat) : List Char :=
  ['\\', 'u', Nat.digitChar (code / 4096 % 16), Nat.digitChar (code / 256 % 16),
    Nat.digitChar (code / 16 % 16), Nat.digitChar (code % 16)]

/-- One character inside a JSON string, as `json.dumps` writes it. -/
def escapeChar (ensureAscii : Bool) (char : Char) : List Char :=
  if char = '"' then ['\\', '"']
  else if char = '\\' then ['\\', '\\']
  else if char = '\n' then ['\\', 'n']
  else if char = '\r' then ['\\', 'r']
  else if char = '\t' then ['\\', 't']
  else if char.toNat = 12 then ['\\', 'f']
  else if char.toNat = 8 then ['\\', 'b']
  else if char.toNat < 32 then unicodeEscape char.toNat
  else if ensureAscii && 127 ≤ char.toNat then
    -- characters above the basic plane become a surrogate pair
    if char.toNat < 65536 then unicodeEscape char.toNat
    else unicodeEscape (55296 + (char.toNat - 65536) / 1024) ++
      unicodeEscape (56320 + (char.toNat - 65536) % 1024)
  else [char]

def quote (ensureAscii : Bool) (text : String) : String :=
  String.ofList ('"' :: text.toList.flatMap (escapeChar ensureAscii) ++ ['"'])

/-- The order `sort_keys=True` puts object entries in. -/
def sortEntries {α : Type} (entries : List (String × α)) : List (String × α) :=
  entries.insertionSort fun left right => left.1 ≤ right.1

/-- The options of `json.dumps` in which the two calls of the source differ. -/
structure DumpStyle where
  ensureAscii : Bool
  itemSeparator : String
  keySeparator : String

/-- `json.dumps(value, sort_keys=True)` with its default separators. -/
def defaultStyle : DumpStyle := ⟨true, ", ", ": "⟩

/-- `separators=(",", ":"), ensure_ascii=False`. -/
def canonicalStyle : DumpStyle := ⟨false, ",", ":"⟩

section Dumps

variable [Runtime]

mutual

/-- `json.dumps(value, sort_keys=True, …)`. -/
def dumps (style : DumpStyle) : Json → String
  | .null => "null"
  | .bool value => if value then "true" else "false"
  | .int value => toString value
  | .float value => Runtime.reprFloat value
  | .str value => quote style.ensureAscii value
  | .array items => "[" ++ style.itemSeparator.intercalate (dumpsItems style items) ++ "]"
  | .object entries =>
    "\x7b" ++ style.itemSeparator.intercalate
      ((sortEntries (dumpsEntries style entries)).map Prod.snd) ++ "\x7d"

/-- The printed members of an array. -/
def dumpsItems (style : DumpStyle) : List Json → List String
  | [] => []
  | item :: items => dumps style item :: dumpsItems style items

/-- The printed members of an object, each beside its key. -/
def dumpsEntries (style : DumpStyle) : List (String × Json) → List (String × String)
  | [] => []
  | (key, value) :: entries =>
    (key, quote style.ensureAscii key ++ style.keySeparator ++ dumps style value) ::
      dumpsEntries style entries

end

mutual

/-- `_normalise`: JSON data, or the reason a value has no canonical form. -/
def normalise (path : String) : Value → Except PyError Json
  | .none => .ok .null
  | .enum value => normalise path value
  | .bool value => .ok (.bool value)
  | .int value => .ok (.int value)
  | .float (.finite value) => .ok (.float value)
  | .float value =>
    .error (.validation "non-finite float cannot be canonically serialised" path
      [("value", .str value.text)])
  | .str value => .ok (.str value)
  | .bytes _ =>
    .error (.validation
      "raw bytes must be hex- or base64-encoded by the caller before serialisation" path)
  | .mapping entries => (normaliseEntries path entries).map .object
  | .set items =>
    (normaliseMembers path items).map fun members =>
      .array (members.insertionSort fun left right =>
        dumps defaultStyle left ≤ dumps defaultStyle right)
  | .list items => (normaliseItems path 0 items).map .array
  | .tuple items => (normaliseItems path 0 items).map .array
  | .object typeName =>
    .error (.validation "type is not canonically serialisable; convert it explicitly" path
      [("offending_type", .str typeName)])

/-- The entries of a mapping, in iteration order. -/
def normaliseEntries (path : String) :
    List (Value × Value) → Except PyError (List (String × Json))
  | [] => .ok []
  | (.str key, item) :: entries => do
    let first ← normalise (path ++ "." ++ key) item
    let rest ← normaliseEntries path entries
    return (key, first) :: rest
  | (key, _) :: _ =>
    .error (.validation "mapping keys must be strings for canonical serialisation" path
      [("key_type", .str key.typeName)])

/-- The members of a set, in iteration order. -/
def normaliseMembers (path : String) : List Value → Except PyError (List Json)
  | [] => .ok []
  | item :: items => do
    let first ← normalise (path ++ "[]") item
    let rest ← normaliseMembers path items
    return first :: rest

/-- The items of a sequence, numbered from `index`. -/
def normaliseItems (path : String) (index : Nat) : List Value → Except PyError (List Json)
  | [] => .ok []
  | item :: items => do
    let first ← normalise (path ++ "[" ++ toString index ++ "]") item
    let rest ← normaliseItems path (index + 1) items
    return first :: rest

end

/-- `canonical_json` of a mapping with string keys. -/
def canonicalJson (payload : List (String × Value)) : Except PyError String :=
  (normalise "$" (.record payload)).map (dumps canonicalStyle)

def utf8 (text : String) : ByteString := text.toByteArray.data.toList

/-- `canonical_bytes`: the bytes that are hashed or authenticated. -/
def canonicalBytes (payload : List (String × Value)) : Except PyError ByteString :=
  (canonicalJson payload).map utf8

end Dumps

theorem utf8_injective : Function.Injective utf8 := by
  intro left right same
  have data : left.toByteArray.data = right.toByteArray.data := Array.toList_inj.mp same
  exact String.toByteArray_inj.mp (ByteArray.ext data)

/-- A dictionary comprehension over pairs: a repeated key keeps its place and takes the later
value. -/
def dictOf {α : Type} (pairs : List (String × α)) : List (String × α) :=
  pairs.foldl (fun entries pair =>
    if entries.any (fun entry => entry.1 == pair.1) then
      entries.map fun entry => if entry.1 == pair.1 then pair else entry
    else entries ++ [pair]) []

/-- The characters `str.strip` removes. -/
def isSpace (char : Char) : Bool :=
  let code := char.toNat
  (9 ≤ code && code ≤ 13) || (28 ≤ code && code ≤ 32) || code == 133 || code == 160 ||
    code == 5760 || (8192 ≤ code && code ≤ 8202) || code == 8232 || code == 8233 ||
    code == 8239 || code == 8287 || code == 12288

/-- Whether `str.strip` leaves nothing. -/
def isBlank (text : String) : Bool := text.toList.all isSpace

abbrev Text := { text : String // isBlank text = false }

@[simp]
theorem isBlank_append (left right : String) :
    isBlank (left ++ right) = (isBlank left && isBlank right) := by
  simp [isBlank]

def textBehind (start : String) (text : Text) : Text :=
  ⟨start ++ text.val, by rw [isBlank_append, text.property, Bool.and_false]⟩

/-- Text in front of some suffix. -/
def textBefore (text : Text) (rest : String) : Text :=
  ⟨text.val ++ rest, by rw [isBlank_append, text.property, Bool.false_and]⟩

/-- Text which is not blank. -/
def requireNonEmpty (text field : String) : Except PyError Text :=
  if blank : isBlank text = false then .ok ⟨text, blank⟩
  else .error (.validation "must not be empty or blank" field)

/-- The check of `require_non_empty` that a value is text. -/
def requireString (value : Value) (field : String) : Except PyError String :=
  match value with
  | .str text => .ok text
  | other => .error (.validation "expected a string" field
      [("offending_type", .str other.typeName)])

def maxIdentifierLength : Nat := 256

def isIdentifierChar (char : Char) : Bool :=
  char.isAlphanum || char ∈ ['.', '_', ':', '@', '/', '-']

/-- The rest of an identifier after its first character.  `$` also matches before a final
newline. -/
def matchesIdentifierTail : List Char → Bool
  | [] => true
  | [char] => isIdentifierChar char || char == '\n'
  | char :: chars => isIdentifierChar char && matchesIdentifierTail chars

/-- `IDENTIFIER_PATTERN.match`. -/
def matchesIdentifier (text : String) : Bool :=
  match text.toList with
  | [] => false
  | first :: rest => first.isAlphanum && matchesIdentifierTail rest

/-- What `require_identifier` accepts. -/
def isIdentifier (text : String) : Bool :=
  !isBlank text && text.length ≤ maxIdentifierLength && matchesIdentifier text

abbrev Identifier := { text : String // isIdentifier text = true }

theorem notMem_of_matchesIdentifierTail (foreign : isIdentifierChar char = false)
    (visible : char ≠ '\n') {chars : List Char} (tail : matchesIdentifierTail chars = true) :
    char ∉ chars := by
  induction chars with
  | nil => exact List.not_mem_nil
  | cons head rest ih =>
    cases rest with
    | nil =>
      intro member
      rw [List.mem_singleton] at member
      subst member
      simp [matchesIdentifierTail, foreign, visible] at tail
    | cons next rest =>
      simp only [matchesIdentifierTail, Bool.and_eq_true] at tail
      intro member
      rcases List.mem_cons.mp member with rfl | member
      · rw [foreign] at tail
        cases tail.1
      · exact ih tail.2 member

/-- A character which is neither allowed nor a newline does not occur in an identifier. -/
theorem Identifier.notMem (foreign : isIdentifierChar char = false) (visible : char ≠ '\n')
    (identifier : Identifier) : char ∉ identifier.val.toList := by
  have valid := identifier.property
  simp only [isIdentifier, Bool.and_eq_true, matchesIdentifier] at valid
  split at valid
  · cases valid.2
  next first rest chars =>
    rw [chars]
    simp only [Bool.and_eq_true] at valid
    intro member
    rcases List.mem_cons.mp member with rfl | member
    · simp [isIdentifierChar, valid.2.1] at foreign
    · exact notMem_of_matchesIdentifierTail foreign visible valid.2.2 member

/-- Not blank, not too long and of the pattern. -/
def requireIdentifier (text field : String) : Except PyError Identifier :=
  if isBlank text then
    .error (.validation "must not be empty or blank" field)
  else if maxIdentifierLength < text.length then
    .error (.validation "identifier exceeds the maximum length" field
      [("length", .ofNat text.length), ("maximum", .ofNat maxIdentifierLength)])
  else if valid : isIdentifier text then .ok ⟨text, valid⟩
  else
    .error (.validation "identifier contains characters that are unsafe for keys and paths" field
      [("pattern", .str "^[A-Za-z0-9][A-Za-z0-9._:@/-]*$")])

theorem cls_of_requireIdentifier (refused : requireIdentifier text field = .error error) :
    error.cls = .domainValidationError := by
  unfold requireIdentifier at refused
  repeat' split at refused
  all_goals
    cases refused
    try rfl

/-- Validation accepts exactly the identifiers and returns them unchanged. -/
theorem requireIdentifier_eq_ok_iff {identifier : Identifier} :
    requireIdentifier text field = .ok identifier ↔ identifier.val = text := by
  unfold requireIdentifier
  constructor
  · intro accepted
    split at accepted
    · cases accepted
    · split at accepted
      · cases accepted
      · split at accepted
        · cases accepted
          rfl
        · cases accepted
  · rintro rfl
    have valid := identifier.property
    have parts := valid
    simp only [isIdentifier, Bool.and_eq_true, Bool.not_eq_true', decide_eq_true_eq] at parts
    rw [if_neg (by simp [parts.1.1]), if_neg (by omega), dif_pos valid]

/-- `_MAX_TIMESTAMP`, 2100-01-01T00:00:00Z. -/
def maxTimestamp : ℚ := 4102444800

/-- A plausible POSIX timestamp in seconds. -/
abbrev Timestamp := { value : ℚ // 0 ≤ value ∧ value ≤ maxTimestamp }

abbrev Timestamp.epoch : Timestamp := ⟨0, by norm_num [maxTimestamp]⟩

abbrev Timestamp.one : Timestamp := ⟨1, by norm_num [maxTimestamp]⟩

/-- `str.lower()`, on the letters digests are written with. -/
def lowerText (text : String) : String := String.ofList (text.toList.map Char.toLower)

def sha256HexLength : Nat := 64

/-- A digest in lower-case hexadecimal. -/
abbrev Sha256Hex :=
  { text : String //
    (text.length == sha256HexLength && text.toList.all (· ∈ "0123456789abcdef".toList)) = true }

/-- `require_timestamp` of a finite number. -/
def requireTimestamp (value : ℚ) (field : String) : Except PyError Timestamp :=
  if valid : 0 ≤ value ∧ value ≤ maxTimestamp then .ok ⟨value, valid⟩
  else
    .error (.validation "timestamp is outside the supported range; expected POSIX epoch seconds"
      field [("value", .ofRat value), ("minimum", .ofRat 0), ("maximum", .ofRat maxTimestamp)])

theorem cls_of_requireTimestamp (refused : requireTimestamp value field = .error error) :
    error.cls = .domainValidationError := by
  unfold requireTimestamp at refused
  split at refused
  · cases refused
  · cases refused
    rfl

/-- Validation accepts exactly the timestamps and returns them unchanged. -/
theorem requireTimestamp_eq_ok_iff {value : ℚ} {field : String} {timestamp : Timestamp} :
    requireTimestamp value field = .ok timestamp ↔ timestamp.val = value := by
  unfold requireTimestamp
  constructor
  · intro accepted
    split at accepted
    · cases accepted
      rfl
    · cases accepted
  · rintro rfl
    exact dif_pos timestamp.property

/-- A finite, non-negative amount. -/
abbrev Amount := { value : ℚ // 0 ≤ value }

/-- Neither infinite nor NaN. -/
def requireFinite [Runtime] (value : PyFloat) (field : String) : Except PyError ℚ :=
  match value with
  | .finite number => .ok number
  | other => .error (.validation "must be finite" field [("value", .str other.text)])

theorem cls_of_requireFinite [Runtime] {value : PyFloat}
    (refused : requireFinite value field = .error error) : error.cls = .domainValidationError := by
  unfold requireFinite at refused
  split at refused
  · cases refused
  · cases refused
    rfl

/-- The check of `require_finite` that a value is a number. -/
def requireNumber (value : Value) (field : String) : Except PyError PyFloat :=
  match value with
  | .int number => .ok (.finite number)
  | .float number => .ok number
  | other => .error (.validation "expected a real number" field
      [("offending_type", .str other.typeName)])

/-- `require_non_negative` of a finite number. -/
def requireNonNegative (value : ℚ) (field : String) : Except PyError Amount :=
  if valid : 0 ≤ value then .ok ⟨value, valid⟩
  else .error (.validation "must not be negative" field [("value", .ofRat value)])

theorem cls_of_requireNonNegative (refused : requireNonNegative value field = .error error) :
    error.cls = .domainValidationError := by
  unfold requireNonNegative at refused
  split at refused
  · cases refused
  · cases refused
    rfl

theorem requireNonNegative_eq_ok_iff {amount : Amount} :
    requireNonNegative value field = .ok amount ↔ amount.val = value := by
  unfold requireNonNegative
  constructor
  · intro accepted
    split at accepted
    · cases accepted
      rfl
    · cases accepted
  · rintro rfl
    exact dif_pos amount.property

/-- The built-in functions the adapters call on values they were sent. -/
structure PyBuiltins where
  str : Value → String
  repr : Value → String
  /-- `int` of a text. -/
  parseInt : String → Option Int
  /-- `float` of a text. -/
  parseFloat : String → Option PyFloat

namespace PyBuiltins

variable (builtins : PyBuiltins)

def typeError (message : String) : PyError where
  cls := .other "TypeError"
  message := message

def valueError (message : String) : PyError where
  cls := .valueError
  message := message

/-- `int(value)`. -/
def int : Value → Except PyError Int
  | .bool value => .ok value.toInt
  | .int value => .ok value
  | .float (.finite value) => .ok (value.num.tdiv value.den)
  | .float .nan => .error (valueError "cannot convert float NaN to integer")
  | .float _ => .error {
      cls := .other "OverflowError"
      message := "cannot convert float infinity to integer" }
  | .str text =>
    match builtins.parseInt text with
    | some value => .ok value
    | none => .error (valueError
        ("invalid literal for int() with base 10: " ++ builtins.repr (.str text)))
  | value => .error (typeError
      ("int() argument must be a string, a bytes-like object or a real number, not '" ++
        value.typeName ++ "'"))

/-- `float(value)`. -/
def float : Value → Except PyError PyFloat
  | .bool value => .ok (.finite value.toInt)
  | .int value => .ok (.finite value)
  | .float value => .ok value
  | .str text =>
    match builtins.parseFloat text with
    | some value => .ok value
    | none => .error (valueError
        ("could not convert string to float: " ++ builtins.repr (.str text)))
  | value => .error (typeError
      ("float() argument must be a string or a real number, not '" ++ value.typeName ++ "'"))

def enumMember {α : Type} (members : List α) (valueOf : α → String) (name : String)
    (value : Value) : Except PyError α :=
  match value with
  | .str text =>
    match members.find? fun member => valueOf member = text with
    | some member => .ok member
    | none => .error (unknown (.str text))
  | other => .error (unknown other)
where
  unknown (value : Value) : PyError :=
    valueError (builtins.repr value ++ " is not a valid " ++ name)

end PyBuiltins

abbrev JsonObject := List (String × Value)

/-- The entries of a `dict`; every key of a JSON object is text. -/
def Value.entries : Value → Option JsonObject
  | .mapping entries => some (entries.filterMap fun entry =>
    match entry.1 with
    | .str key => some (key, entry.2)
    | _ => Option.none)
  | _ => Option.none

/-- The entry under a key, unless it is `None`. -/
def given (body : JsonObject) (key : String) : Option Value :=
  match body.lookup key with
  | some .none => none
  | entry => entry

/-- The check of `Exposure` that a count is an integer. -/
def requireInteger (value : Value) : Except PyError Int :=
  match value with
  | .int count => .ok count
  | other => .error (.validation "records must be an integer" "records"
      [("offending_type", .str other.typeName)])

end GlassBox
