import GlassBox.Domain.CanonicalText
import GlassBox.Domain.Evidence

/-!
# What a chain payload determines

The payload of a chain link determines its normal form, in which the position, the link and every
string of the record can be read.
-/

namespace GlassBox

variable {evidence : List (String × Value)} {seq : Int} {prevHash : ByteString}

/-- A payload is defined only for a position and a 32-byte link. -/
theorem chainPayload_eq_ok [Runtime] {payload : ByteString}
    (defined : chainPayload evidence seq prevHash = .ok payload) :
    0 ≤ seq ∧ prevHash.length = 32 ∧ canonicalBytes [("seq", .int seq),
      ("prev_hash", .str (hexText prevHash)), ("record", .record evidence)] = .ok payload := by
  unfold chainPayload at defined
  split at defined
  · cases defined
  · split at defined
    · cases defined
    · rename_i nonnegative length_eq
      exact ⟨by omega, by simpa [genesisPrevHash] using length_eq, defined⟩

theorem cls_of_chainPayload [Runtime] {error : PyError}
    (raised : chainPayload evidence seq prevHash = .error error) :
    error.cls = .domainValidationError := by
  unfold chainPayload at raised
  split at raised
  · cases raised
    rfl
  · split at raised
    · cases raised
      rfl
    · rw [canonicalBytes, Except.map_eq_error_iff, canonicalJson, Except.map_eq_error_iff] at raised
      exact cls_of_normalise raised

private theorem digitChar_injective_of_lt {left right : Nat} (left_lt : left < 16)
    (right_lt : right < 16) (same : Nat.digitChar left = Nat.digitChar right) : left = right := by
  have all : ∀ left < 16, ∀ right < 16, Nat.digitChar left = Nat.digitChar right →
      left = right := by decide
  exact all left left_lt right right_lt same

private theorem byte_digits_lt (byte : UInt8) : byte.toNat / 16 < 16 ∧ byte.toNat % 16 < 16 := by
  have bound := byte.toNat_lt
  omega

theorem hexChars_length (bytes : ByteString) : (hexChars bytes).length = 2 * bytes.length := by
  induction bytes with
  | nil => rfl
  | cons byte bytes ih =>
    simp only [hexChars, List.length_cons]
    omega

/-- The digest of bytes in lower-case hexadecimal has the shape of one. -/
theorem isSha256Hex_hexText {bytes : ByteString} (length : bytes.length = 32) :
    ((hexText bytes).length == sha256HexLength &&
      (hexText bytes).toList.all (· ∈ "0123456789abcdef".toList)) = true := by
  have digits : ∀ char ∈ hexChars bytes, char ∈ "0123456789abcdef".toList := by
    clear length
    have all : ∀ digit < 16, Nat.digitChar digit ∈ "0123456789abcdef".toList := by decide
    induction bytes with
    | nil => nofun
    | cons byte bytes ih =>
      rw [hexChars, List.forall_mem_cons, List.forall_mem_cons]
      exact ⟨all _ (byte_digits_lt byte).1, all _ (byte_digits_lt byte).2, ih⟩
  rw [Bool.and_eq_true, List.all_eq_true, ← String.length_toList, hexText,
    String.toList_ofList, hexChars_length, length]
  exact ⟨rfl, fun char member => decide_eq_true (digits char member)⟩

/-- `hashlib.sha256(data).hexdigest()`. -/
def sha256Hexdigest [Runtime] (data : ByteString) : Sha256Hex :=
  ⟨hexText (Runtime.sha256 data), isSha256Hex_hexText (Runtime.sha256_length data)⟩

theorem hexChars_injective : Function.Injective hexChars := by
  intro left right same
  induction left generalizing right with
  | nil =>
    cases right with
    | nil => rfl
    | cons byte bytes => simp [hexChars] at same
  | cons byte bytes ih =>
    cases right with
    | nil => simp [hexChars] at same
    | cons other others =>
      simp only [hexChars, List.cons.injEq] at same
      obtain ⟨high, low, rest⟩ := same
      have high_eq := digitChar_injective_of_lt (byte_digits_lt byte).1
        (byte_digits_lt other).1 high
      have low_eq := digitChar_injective_of_lt (byte_digits_lt byte).2
        (byte_digits_lt other).2 low
      have byte_eq : byte = other := by
        apply UInt8.toNat_inj.mp
        omega
      rw [byte_eq, ih rest]

section Reading

variable [Runtime] {seq seq' : Int} {evidence evidence' : List (String × Value)}
  {link link' : String} {payload : ByteString}

section

variable (left : canonicalBytes [("seq", .int seq), ("prev_hash", .str link), ("record", .record
  evidence)] = .ok payload)
include left

theorem at_of_payload (right : canonicalBytes [("seq", .int seq'), ("prev_hash", .str link'),
      ("record", .record evidence')] = .ok payload) :
    seq = seq' ∧ link = link' ∧
      (Value.record evidence).normalForm = (Value.record evidence').normalForm := by
  have forms := normalForm_of_canonicalBytes left right
  have position := congrArg (Json.at · "seq") forms
  have links := congrArg (Json.at · "prev_hash") forms
  have records := congrArg (Json.at · "record") forms
  simp only [at_normalForm_record] at position links records
  simp [Value.normalForm] at position links
  exact ⟨position, links, by simpa using records⟩

/-- Chain payloads with the same bytes agree on every string of their records. -/
theorem textAt_of_payload (right : canonicalBytes [("seq", .int seq'), ("prev_hash", .str link'),
      ("record", .record evidence')] = .ok payload) (key : String) :
    textAt evidence key = textAt evidence' key := by
  rw [textAt_eq, textAt_eq, (at_of_payload left right).2.2]

end

theorem chainPayload_injective {prevHash prevHash' : ByteString}
    (left : chainPayload evidence seq prevHash = .ok payload)
    (right : chainPayload evidence' seq' prevHash' = .ok payload) :
    seq = seq' ∧ prevHash = prevHash' := by
  obtain ⟨position, link, -⟩ :=
    at_of_payload (chainPayload_eq_ok left).2.2 (chainPayload_eq_ok right).2.2
  exact ⟨position, hexChars_injective (String.ofList_injective link)⟩

end Reading

end GlassBox
