import HermesAtrust.Text.Json

/-!
# Signed request bodies

The compact JSON that `json.rs` sends and the signature that `signing.rs`
computes over it.  A request is serialized with an empty signature, these
bytes are signed, and the request is serialized once more with the signature
in its place.  The hash functions are not part of the repository; `Hashes`
takes them as they are.
-/

namespace HermesAtrust.Protocol

open HermesAtrust.Framing HermesAtrust.Text

/-- SHA-256, and HMAC-SHA-256 of a key and a message. -/
structure Hashes where
  sha256 : Bytes → Bytes
  hmacSha256 : Bytes → Bytes → Bytes

def upperHexDigit (value : Nat) : Char :=
  (Nat.digitChar value).toUpper

/-- `format!("{digest:X}")`. -/
def upperHex (digest : Bytes) : Str :=
  digest.flatMap fun byte =>
    [upperHexDigit (byte.toNat / 16), upperHexDigit (byte.toNat % 16)]

example : upperHex [0x0b, 0xa9] = "0BA9".toList := by decide

def field (key : String) (value : Json) : Str × Json :=
  (key.toList, value)

def textField (key : String) (value : Str) : Str × Json :=
  field key (.string value)

def object (fields : List (Str × Json)) : Json :=
  .object (.ofList fields)

/-- The structures that are serialized hold strings and numbers only, for
which `serde_json::to_vec` has no error. -/
def toWireJson (value : Json) : Bytes :=
  utf8 value.write

def calculateRequestSignature (hashes : Hashes) (signKey unsignedJson : Bytes) :
    Str :=
  upperHex (hashes.hmacSha256 signKey unsignedJson)

/-- A request with `xRequestSig` as its last field. -/
def requestWire (fields : List (Str × Json)) (xRequestSig : Str) : Json :=
  object (fields ++ [textField "xRequestSig" xRequestSig])

/-- The bytes that are signed. -/
def unsignedJson (fields : List (Str × Json)) : Bytes :=
  toWireJson (requestWire fields [])

/-- Both builders end in this: serialize, sign, serialize again. -/
def signRequest (hashes : Hashes) (signKey : Bytes)
    (fields : List (Str × Json)) : Bytes :=
  let signature :=
    calculateRequestSignature hashes signKey (unsignedJson fields)
  toWireJson (requestWire fields signature)

/-- The output is the unsigned bytes with the uppercase hexadecimal signature
of exactly these bytes between the two quotation marks at their end. -/
def SignatureInserted (hashes : Hashes) (signKey unsigned signed : Bytes) :
    Prop :=
  ∃ before : Bytes,
    unsigned = before ++ [0x22, 0x22, 0x7d] ∧
      signed =
        before ++ 0x22 ::
          (utf8 (upperHex (hashes.hmacSha256 signKey unsigned)) ++
            [0x22, 0x7d])

/-! ## The place of the signature -/

theorem escape_upperHexDigit {value : Nat} (small : value < 16) :
    escape (upperHexDigit value) = [upperHexDigit value] := by
  interval_cases value <;> rfl

theorem quote_upperHex (digest : Bytes) :
    quote (upperHex digest) = '\x22' :: upperHex digest ++ ['\x22'] := by
  apply quote_plain
  intro char member
  obtain ⟨byte, -, inPair⟩ := List.mem_flatMap.mp member
  have bound := byte.toNat_lt
  rcases List.mem_cons.mp inPair with rfl | later
  · exact escape_upperHexDigit (by omega)
  · rw [List.mem_singleton.mp later]
    exact escape_upperHexDigit (Nat.mod_lt _ (by decide))

theorem signatureInserted_signRequest (hashes : Hashes) (signKey : Bytes)
    (fields : List (Str × Json)) :
    SignatureInserted hashes signKey (unsignedJson fields)
      (signRequest hashes signKey fields) := by
  obtain ⟨before, written⟩ :=
    Json.write_object_concat fields "xRequestSig".toList
  have unsigned : unsignedJson fields = utf8 before ++ [0x22, 0x22, 0x7d] := by
    rw [unsignedJson, toWireJson, requestWire, object, textField, field,
      written, utf8_append]
    rfl
  refine ⟨utf8 before, unsigned, ?_⟩
  rw [signRequest, toWireJson, requestWire, object, textField, field, written,
    calculateRequestSignature, Json.write, quote_upperHex]
  simp only [utf8_append, utf8_cons, List.cons_append, List.append_assoc]
  rfl

theorem object_injective : Function.Injective object := by
  intro first second same
  exact Members.ofList_injective (Json.object.inj same)

/-- Requests are signed over different bytes if any of their fields differ. -/
theorem unsignedJson_injective : Function.Injective unsignedJson := by
  intro first second same
  have written := Json.write_injective (utf8_injective same)
  exact List.append_cancel_right (object_injective written)

end HermesAtrust.Protocol
