import GlassBox.Domain.NormalForm

/-!
# Canonical text determines its data

The text `json.dumps` prints is read back value by value: a string ends at its first quote which is
not escaped, a number at the first character no number has, and an array or an object at its own
bracket.
-/

namespace GlassBox

def hexValue (char : Char) : Nat :=
  if char.isDigit then char.toNat - 48 else char.toNat - 87

def codeUnit (first second third fourth : Char) : Nat :=
  ((hexValue first * 16 + hexValue second) * 16 + hexValue third) * 16 + hexValue fourth

/-- The character a short escape stands for. -/
def unescape (char : Char) : Char :=
  if char = 'n' then '\n' else if char = 'r' then '\r' else if char = 't' then '\t'
  else if char = 'f' then Char.ofNat 12 else if char = 'b' then Char.ofNat 8 else char

/-- The characters of a string up to its closing quote, and the text behind it.  A high surrogate
and the code unit behind it are one character. -/
def readString : List Char → Option (List Char × List Char)
  | [] => none
  | '"' :: rest => some ([], rest)
  | '\\' :: 'u' :: first :: second :: third :: fourth :: rest =>
    let high := codeUnit first second third fourth
    if high / 1024 = 54 then
      match rest with
      | _ :: _ :: first :: second :: third :: fourth :: rest =>
        let code := 65536 + (high - 55296) * 1024 + (codeUnit first second third fourth - 56320)
        (readString rest).map (Prod.map (Char.ofNat code :: ·) id)
      | _ => none
    else (readString rest).map (Prod.map (Char.ofNat high :: ·) id)
  | '\\' :: char :: rest => (readString rest).map (Prod.map (unescape char :: ·) id)
  | char :: rest => (readString rest).map (Prod.map (char :: ·) id)

variable {code : Nat} {char : Char} {rest : List Char} {value : Int}

private theorem codeUnit_digits (small : code < 65536) :
    codeUnit (Nat.digitChar (code / 4096 % 16)) (Nat.digitChar (code / 256 % 16))
      (Nat.digitChar (code / 16 % 16)) (Nat.digitChar (code % 16)) = code := by
  have all : ∀ digit < 16, hexValue (Nat.digitChar digit) = digit := by decide
  have digit : ∀ number, hexValue (Nat.digitChar (number % 16)) = number % 16 :=
    fun number => all _ (Nat.mod_lt number (by decide))
  simp only [codeUnit, digit]
  omega

private theorem readString_unicodeEscape (small : code < 65536) (plain : code / 1024 ≠ 54)
    (rest : List Char) :
    readString (unicodeEscape code ++ rest) =
      (readString rest).map (Prod.map (Char.ofNat code :: ·) id) := by
  simp only [unicodeEscape, List.cons_append, List.nil_append]
  rw [readString.eq_def]
  simp only [codeUnit_digits small, if_neg plain]

private theorem readString_surrogates (beyond : 65536 ≤ code) (valid : code < 1114112)
    (rest : List Char) :
    readString (unicodeEscape (55296 + (code - 65536) / 1024) ++
        unicodeEscape (56320 + (code - 65536) % 1024) ++ rest) =
      (readString rest).map (Prod.map (Char.ofNat code :: ·) id) := by
  have high : (55296 + (code - 65536) / 1024) / 1024 = 54 := by omega
  have code_eq : 65536 + (55296 + (code - 65536) / 1024 - 55296) * 1024 +
      (56320 + (code - 65536) % 1024 - 56320) = code := by omega
  have small : 55296 + (code - 65536) / 1024 < 65536 := by omega
  have small' : 56320 + (code - 65536) % 1024 < 65536 := by omega
  simp only [unicodeEscape, List.cons_append, List.nil_append]
  rw [readString.eq_def]
  simp only [codeUnit_digits small, codeUnit_digits small', if_pos high, code_eq]

theorem readString_escapeChar (ascii : Bool) (char : Char) (rest : List Char) :
    readString (escapeChar ascii char ++ rest) =
      (readString rest).map (Prod.map (char :: ·) id) := by
  have valid : char.toNat < 55296 ∨ 57343 < char.toNat ∧ char.toNat < 1114112 := char.valid
  unfold escapeChar
  split_ifs with quoted backslash newline carriage tab feed back control foreign narrow
  · rw [quoted]
    rfl
  · rw [backslash]
    rfl
  · rw [newline]
    rfl
  · rw [carriage]
    rfl
  · rw [tab]
    rfl
  · rw [← Char.ofNat_toNat char, feed]
    rfl
  · rw [← Char.ofNat_toNat char, back]
    rfl
  · rw [readString_unicodeEscape (by omega) (by omega), Char.ofNat_toNat]
  · rw [readString_unicodeEscape narrow (by omega), Char.ofNat_toNat]
  · rw [readString_surrogates (by omega) (by omega), Char.ofNat_toNat]
  · rw [List.singleton_append, readString]
    · exact quoted
    · rintro _ _ _ _ _ same
      exact absurd same backslash
    · rintro _ _ same
      exact absurd same backslash

theorem exists_readString_quote (ascii : Bool) (text : String) (rest : List Char) :
    ∃ body, (quote ascii text).toList ++ rest = '"' :: body ∧
      readString body = some (text.toList, rest) := by
  have escaped : ∀ chars : List Char, readString (chars.flatMap (escapeChar ascii) ++ '"' :: rest) =
      some (chars, rest) := by
    intro chars
    induction chars with
    | nil => rfl
    | cons char chars ih =>
      rw [List.flatMap_cons, List.append_assoc, readString_escapeChar, ih]
      rfl
  exact ⟨_, by simp [quote], escaped text.toList⟩

def isNumberChar (char : Char) : Bool := char ∈ "0123456789+-.e".toList

/-- Text in which no number goes on. -/
def Delimited : List Char → Prop
  | [] => True
  | char :: _ => isNumberChar char = false

/-- A number ends where the text behind it begins. -/
theorem span_number {chars : List Char} (number : ∀ char ∈ chars, isNumberChar char = true)
    (delimited : Delimited rest) :
    (chars ++ rest).takeWhile isNumberChar = chars ∧
      (chars ++ rest).dropWhile isNumberChar = rest := by
  rw [List.takeWhile_append_of_pos number, List.dropWhile_append_of_pos number]
  cases rest with
  | nil => simp
  | cons char rest =>
    have stops : isNumberChar char = false := delimited
    simp [stops]

private theorem toList_ofNat (number : Nat) :
    (toString (Int.ofNat number)).toList = Nat.toDigits 10 number := Nat.toList_repr

private theorem toList_negSucc (number : Nat) :
    (toString (Int.negSucc number)).toList = '-' :: Nat.toDigits 10 (number + 1) := by
  change ("-" ++ Nat.repr (number + 1)).toList = _
  rw [String.toList_append, Nat.toList_repr]
  rfl

theorem intText_chars (member : char ∈ (toString value).toList) :
    char.isDigit = true ∨ char = '-' := by
  cases value with
  | ofNat number =>
    rw [toList_ofNat] at member
    exact .inl (isDigit_of_mem_toDigits_ten member)
  | negSucc number =>
    rw [toList_negSucc] at member
    rcases List.mem_cons.mp member with sign | member
    · exact .inr sign
    · exact .inl (isDigit_of_mem_toDigits_ten member)

private theorem sign_ne_digits {number : Nat} :
    Nat.toDigits 10 number ≠ '-' :: rest := by
  intro same
  have member : '-' ∈ Nat.toDigits 10 number := by simp [same]
  exact absurd (isDigit_of_mem_toDigits_ten member) (by decide)

theorem intText_injective {left right : Int}
    (same : (toString left).toList = (toString right).toList) : left = right := by
  cases left with
  | ofNat left =>
    cases right with
    | ofNat right =>
      rw [toList_ofNat, toList_ofNat] at same
      rw [toDigits_ten_injective same]
    | negSucc right =>
      rw [toList_ofNat, toList_negSucc] at same
      exact absurd same sign_ne_digits
  | negSucc left =>
    cases right with
    | ofNat right =>
      rw [toList_ofNat, toList_negSucc] at same
      exact absurd same.symm sign_ne_digits
    | negSucc right =>
      rw [toList_negSucc, toList_negSucc, List.cons.injEq] at same
      rw [Nat.succ_injective (toDigits_ten_injective same.2)]

private theorem isNumberChar_of_mem_intText (member : char ∈ (toString value).toList) :
    isNumberChar char = true := by
  rcases intText_chars member with digit | rfl
  · simpa [isNumberChar] using mem_floatChars_of_isDigit digit
  · decide

private theorem intText_ne_nil (value : Int) : (toString value).toList ≠ [] := by
  cases value with
  | ofNat number =>
    rw [toList_ofNat]
    exact List.ne_nil_of_length_pos Nat.length_toDigits_pos
  | negSucc number =>
    rw [toList_negSucc]
    exact List.cons_ne_nil _ _

section Reading

variable [Runtime] {style : DumpStyle} {gap : Nat}

private theorem isNumberChar_of_mem_floatText {value : ℚ}
    (member : char ∈ (Runtime.reprFloat value).toList) : isNumberChar char = true := by
  simpa [isNumberChar] using Runtime.reprFloat_chars value char member

private theorem floatText_ne_nil (value : ℚ) : (Runtime.reprFloat value).toList ≠ [] := by
  obtain ⟨char, member, -⟩ := Runtime.reprFloat_not_int value
  exact List.ne_nil_of_mem member

open Classical in
noncomputable def readNumber (chars : List Char) : Option Json :=
  if isInt : ∃ value : Int, (toString value).toList = chars then some (.int isInt.choose)
  else if isFloat : ∃ value : ℚ, (Runtime.reprFloat value).toList = chars then
    some (.float isFloat.choose)
  else none

theorem readNumber_int (value : Int) :
    readNumber (toString value).toList = some (.int value) := by
  have isInt : ∃ other : Int, (toString other).toList = (toString value).toList := ⟨value, rfl⟩
  rw [readNumber, dif_pos isInt, intText_injective isInt.choose_spec]

theorem readNumber_float (value : ℚ) :
    readNumber (Runtime.reprFloat value).toList = some (.float value) := by
  have not_int : ¬ ∃ other : Int,
      (toString other).toList = (Runtime.reprFloat value).toList := by
    rintro ⟨other, same⟩
    obtain ⟨char, member, mark⟩ := Runtime.reprFloat_not_int value
    rw [← same] at member
    have marked : char = '.' ∨ char = 'e' := by simpa using mark
    rcases intText_chars member with digit | sign
    · rcases marked with rfl | rfl
      · cases digit
      · cases digit
    · rcases marked with rfl | rfl
      · cases sign
      · cases sign
  have isFloat : ∃ other : ℚ,
      (Runtime.reprFloat other).toList = (Runtime.reprFloat value).toList := ⟨value, rfl⟩
  have value_eq : isFloat.choose = value :=
    Runtime.reprFloat_injective (String.toList_inj.mp isFloat.choose_spec)
  rw [readNumber, dif_neg not_int, dif_pos isFloat, value_eq]

theorem readNumber_nil : readNumber [] = none := by
  rw [readNumber, dif_neg, dif_neg]
  · exact fun ⟨value, empty⟩ => floatText_ne_nil value empty
  · exact fun ⟨value, empty⟩ => intText_ne_nil value empty

/-- Items up to a closing bracket, with this many blanks behind a comma. -/
def readList {α : Type} (read : List Char → Option (α × List Char)) (close : Char) (gap : Nat) :
    Nat → List Char → Option (List α × List Char)
  | 0, _ => none
  | fuel + 1, chars =>
    if chars.head? = some close then some ([], chars.tail)
    else (read chars).bind fun (item, rest) =>
      if rest.head? = some ',' then
        (readList read close gap fuel (rest.drop (gap + 1))).map (Prod.map (item :: ·) id)
      else some ([item], rest.tail)

def readEntry (read : List Char → Option (Json × List Char)) (gap : Nat) :
    List Char → Option ((String × Json) × List Char)
  | '"' :: rest => (readString rest).bind fun (key, rest) =>
    (read (rest.drop (gap + 1))).map (Prod.map (String.ofList key, ·) id)
  | _ => none

/-- A value at the front of a text, and the text behind it. -/
noncomputable def readValue (gap : Nat) : Nat → List Char → Option (Json × List Char)
  | 0, _ | _, [] => none
  | fuel + 1, first :: rest =>
    if first = 'n' then some (.null, rest.drop 3)
    else if first = 't' then some (.bool true, rest.drop 3)
    else if first = 'f' then some (.bool false, rest.drop 4)
    else if first = '"' then
      (readString rest).map (Prod.map (fun text => .str (String.ofList text)) id)
    else if first = '[' then
      (readList (readValue gap fuel) ']' gap fuel rest).map (Prod.map .array id)
    else if first = '\x7b' then
      (readList (readEntry (readValue gap fuel) gap) '\x7d' gap fuel rest).map
        (Prod.map .object id)
    else (readNumber ((first :: rest).takeWhile isNumberChar)).map
      (·, (first :: rest).dropWhile isNumberChar)

inductive Styled : DumpStyle → Nat → Prop
  | default : Styled defaultStyle 1
  | canonical : Styled canonicalStyle 0

omit [Runtime] in
theorem Styled.separators (styled : Styled style gap) :
    style.itemSeparator.toList = ',' :: List.replicate gap ' ' ∧
      style.keySeparator.toList = ':' :: List.replicate gap ' ' := by
  cases styled <;> decide

omit [Runtime] in
theorem readList_intercalate {α β : Type} {read : List Char → Option (α × List Char)}
    {close : Char} {gap fuel : Nat} {text : β → List Char} {value : β → α} {items : List β}
    (closes : isNumberChar close = false) (apart : close ≠ ',')
    (refuses : ∀ rest, read (close :: rest) = none)
    (reads : ∀ item ∈ items, ∀ rest, Delimited rest →
      read (text item ++ rest) = some (value item, rest))
    (enough : items.length < fuel) (rest : List Char) :
    readList read close gap fuel
        ((',' :: List.replicate gap ' ').intercalate (items.map text) ++ close :: rest) =
      some (items.map value, rest) := by
  induction items generalizing fuel with
  | nil =>
    obtain ⟨fuel, rfl⟩ := Nat.exists_eq_add_of_lt enough
    simp [readList]
  | cons item items ih =>
    obtain ⟨fuel, rfl⟩ := Nat.exists_eq_succ_of_ne_zero (Nat.ne_zero_of_lt enough)
    have read_item := reads item List.mem_cons_self
    have opens : ∀ rest, Delimited rest → (text item ++ rest).head? ≠ some close := by
      intro rest delimited same
      obtain ⟨tail, chars⟩ := List.head?_eq_some_iff.mp same
      have read_again := read_item rest delimited
      rw [chars, refuses] at read_again
      cases read_again
    cases items with
    | nil =>
      have delimited : Delimited (close :: rest) := closes
      rw [List.map_singleton, List.intercalate_singleton, readList, if_neg (opens _ delimited),
        read_item _ delimited]
      simp [apart]
    | cons next items =>
      have later := ih (fun item member => reads item (List.mem_cons_of_mem _ member))
        (Nat.lt_of_succ_lt_succ enough)
      have stops : isNumberChar ',' = false := by decide
      have delimited : ∀ rest, Delimited (',' :: rest) := fun _ => stops
      rw [List.map_cons, List.map_cons, List.intercalate_cons_cons]
      simp only [List.append_assoc, List.cons_append, readList, opens _ (delimited _),
        read_item _ (delimited _), Option.bind_some,
        List.drop_succ_cons]
      rw [List.drop_left' List.length_replicate, ← List.map_cons, later]
      rfl

theorem readValue_number {chars rest : List Char} (nonempty : chars ≠ [])
    (number : ∀ char ∈ chars, isNumberChar char = true) (delimited : Delimited rest)
    (gap fuel : Nat) :
    readValue gap (fuel + 1) (chars ++ rest) = (readNumber chars).map (·, rest) := by
  obtain ⟨taken, dropped⟩ := span_number number delimited
  obtain ⟨first, chars, rfl⟩ := List.exists_cons_of_ne_nil nonempty
  have differs : ∀ char, isNumberChar char = false → first ≠ char := by
    rintro char no_number rfl
    rw [number first List.mem_cons_self] at no_number
    cases no_number
  rw [List.cons_append] at taken dropped ⊢
  rw [readValue, if_neg (differs 'n' (by decide)), if_neg (differs 't' (by decide)),
    if_neg (differs 'f' (by decide)), if_neg (differs '"' (by decide)),
    if_neg (differs '[' (by decide)), if_neg (differs '\x7b' (by decide)), taken, dropped]

theorem readValue_close (gap fuel : Nat) (rest : List Char) :
    readValue gap fuel (']' :: rest) = none := by
  cases fuel with
  | zero => rfl
  | succ fuel =>
    have stops : isNumberChar ']' = false := by decide
    simp [readValue, stops, readNumber_nil]

omit [Runtime] in
theorem eventually_of_succ {holds : Nat → Prop}
    (later : ∀ᶠ fuel in Filter.atTop, holds (fuel + 1)) : ∀ᶠ fuel in Filter.atTop, holds fuel := by
  rw [← Filter.map_add_atTop_eq_nat 1]
  exact Filter.eventually_map.mpr later

/-- With enough fuel, printed data is read back with its objects sorted. -/
theorem readValue_dumps (styled : Styled style gap) (value : Json) :
    ∀ᶠ fuel in Filter.atTop, ∀ rest, Delimited rest →
      readValue gap fuel ((dumps style value).toList ++ rest) = some (value.tidy, rest) := by
  obtain ⟨items_sep, keys_sep⟩ := styled.separators
  induction value using Json.nested_induction with
  | null =>
    exact eventually_of_succ (.of_forall fun fuel rest _ => by simp [dumps, readValue, Json.tidy])
  | bool value =>
    refine eventually_of_succ (.of_forall fun fuel rest _ => ?_)
    cases value <;> simp [dumps, readValue, Json.tidy]
  | int value =>
    refine eventually_of_succ (.of_forall fun fuel rest delimited => ?_)
    rw [dumps, readValue_number (intText_ne_nil value) (fun _ => isNumberChar_of_mem_intText)
      delimited, readNumber_int]
    rfl
  | float value =>
    refine eventually_of_succ (.of_forall fun fuel rest delimited => ?_)
    rw [dumps, readValue_number (floatText_ne_nil value)
      (fun _ => isNumberChar_of_mem_floatText) delimited, readNumber_float]
    rfl
  | str value =>
    refine eventually_of_succ (.of_forall fun fuel rest _ => ?_)
    obtain ⟨body, quoted, read⟩ := exists_readString_quote style.ensureAscii value rest
    rw [dumps, quoted]
    simp [readValue, read, Json.tidy]
  | array items ih =>
    have all := (Filter.eventually_all_finite items.finite_toSet).mpr ih
    refine eventually_of_succ ?_
    filter_upwards [all, Filter.eventually_gt_atTop items.length] with fuel reads enough rest _
    have read := @readList_intercalate _ _ _ ']' gap _ (fun item => (dumps style item).toList)
      Json.tidy _ (by decide) (by decide) (readValue_close gap fuel) reads enough rest
    simp only [dumps_array, String.toList_append, String.toList_intercalate, items_sep]
    simp [readValue, Json.tidy, tidyItems_eq_map, Function.comp_def, read]
  | object entries ih =>
    have all := (Filter.eventually_all_finite entries.finite_toSet).mpr ih
    refine eventually_of_succ ?_
    filter_upwards [all, Filter.eventually_gt_atTop entries.length] with fuel reads enough rest _
    have sorted : (sortEntries entries).Perm entries := List.perm_insertionSort _ _
    have reads_entry : ∀ entry ∈ sortEntries entries, ∀ rest, Delimited rest →
        readEntry (readValue gap fuel) gap ((entryText style entry).toList ++ rest) =
          some ((entry.1, entry.2.tidy), rest) := by
      intro entry member rest delimited
      obtain ⟨body, quoted, read⟩ := exists_readString_quote style.ensureAscii entry.1
        (style.keySeparator.toList ++ ((dumps style entry.2).toList ++ rest))
      rw [entryText, String.toList_append, String.toList_append, List.append_assoc,
        List.append_assoc, quoted, readEntry, read, keys_sep]
      simp [List.drop_left', reads entry (sorted.mem_iff.mp member) rest delimited]
    have read := @readList_intercalate _ _ _ '\x7d' gap _
      (fun entry => (entryText style entry).toList) (fun entry => (entry.1, entry.2.tidy)) _
      (by decide) (by decide) (fun _ => rfl) reads_entry (sorted.length_eq ▸ enough) rest
    simp only [dumps_object, String.toList_append, String.toList_intercalate, items_sep]
    simp [readValue, Json.tidy, tidyEntries_eq_map, Function.comp_def, read,
      sortEntries_map fun entry : String × Json => entry.2.tidy]

/-- Data with the same text differ at most in the order of their entries. -/
theorem dumps_eq_iff (styled : Styled style gap) {left right : Json} :
    dumps style left = dumps style right ↔ left.tidy = right.tidy := by
  constructor
  · intro same
    obtain ⟨fuel, read, read'⟩ :=
      ((readValue_dumps styled left).and (readValue_dumps styled right)).exists
    have read := read [] trivial
    rw [same, read' [] trivial] at read
    exact (Prod.mk.inj (Option.some.inj read)).1.symm
  · intro same
    rw [← dumps_tidy, same, dumps_tidy]

end Reading

theorem normalForm_of_canonicalBytes [Runtime] {left right : List (String × Value)}
    {payload : ByteString} (left_eq : canonicalBytes left = .ok payload)
    (right_eq : canonicalBytes right = .ok payload) :
    (Value.record left).normalForm = (Value.record right).normalForm := by
  simp only [canonicalBytes, canonicalJson, Except.map_eq_ok_iff] at left_eq right_eq
  obtain ⟨_, ⟨json, made, rfl⟩, left_bytes⟩ := left_eq
  obtain ⟨_, ⟨json', made', rfl⟩, right_bytes⟩ := right_eq
  rw [← tidy_of_normalise made, ← tidy_of_normalise made']
  exact (dumps_eq_iff .canonical).mp (utf8_injective (left_bytes.trans right_bytes.symm))

def Json.at : Json → String → Option Json
  | .object entries, key => (entries.find? (·.1 = key)).map Prod.snd
  | _, _ => none

def Json.asText : Json → Option String
  | .str value => some value
  | _ => none

/-- Sorting is stable, so the first entry of a key stays the first one. -/
theorem find?_sortEntries {α : Type} (key : String) (entries : List (String × α)) :
    (sortEntries entries).find? (·.1 = key) = entries.find? (·.1 = key) := by
  have inserted : ∀ (entry : String × α) (sorted : List (String × α)),
      (sorted.orderedInsert (fun left right => left.1 ≤ right.1) entry).find? (·.1 = key) =
        (entry :: sorted).find? (·.1 = key) := by
    intro entry sorted
    induction sorted with
    | nil => rfl
    | cons next sorted ih =>
      by_cases before : entry.1 ≤ next.1
      · rw [List.orderedInsert_cons, if_pos before]
      · rw [List.orderedInsert_cons, if_neg before, List.find?_cons, ih]
        by_cases same : entry.1 = key
        · have differs : next.1 ≠ key := by
            rintro rfl
            exact before (le_of_eq same)
          simp [same, differs]
        · simp [same, List.find?_cons]
  induction entries with
  | nil => rfl
  | cons entry entries ih =>
    change (List.orderedInsert _ entry (sortEntries entries)).find? _ = _
    rw [inserted, List.find?_cons, List.find?_cons, ih]

theorem at_normalForm_record [Runtime] (entries : List (String × Value)) (key : String) :
    (Value.record entries).normalForm.at key =
      (entries.find? (·.1 = key)).map fun entry => entry.2.normalForm := by
  rw [normalForm_record, Json.at, find?_sortEntries, List.find?_map, Option.map_map]
  rfl

def Value.asText : Value → Option String
  | .str value => some value
  | .enum value => value.asText
  | _ => Option.none

/-- The string a record is serialised with at a key. -/
def textAt (entries : List (String × Value)) (key : String) : Option String :=
  (entries.find? (·.1 = key)).bind fun entry => entry.2.asText

theorem asText_normalForm [Runtime] : ∀ value : Value, value.normalForm.asText = value.asText
  | .enum value => by
    rw [Value.normalForm, Value.asText]
    exact asText_normalForm value
  | .none | .bool _ | .int _ | .str _ | .float (.finite _) | .float .nan | .float .posInf
  | .float .negInf | .bytes _ | .object _ | .mapping _ | .set _ | .list _ | .tuple _ => rfl

theorem textAt_eq [Runtime] (entries : List (String × Value)) (key : String) :
    textAt entries key = ((Value.record entries).normalForm.at key).bind Json.asText := by
  rw [at_normalForm_record, textAt, Option.bind_map]
  simp only [Function.comp_def, asText_normalForm]

end GlassBox
