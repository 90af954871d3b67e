import ResourceManager.Text.Hex
import ResourceManager.Text.Utf8

/-!
# Percent escapes

A text in which every byte of the characters outside a given set is written as `%` and two upper
case digits.  The sets differ from place to place: a path segment, a form field and each part of a
URL keep characters of their own; only ASCII characters are ever kept.

`decode` undoes the escapes and leaves a `%` that two digits do not follow as it stands.
`decode_encode` says that it undoes `encode` whenever `%` is escaped itself.
-/

set_option autoImplicit false

namespace ResourceManager
namespace Percent

/-- A byte as `%` and two digits. -/
def escape (b : UInt8) : List Char :=
  '%' :: Hex.ofByte b

/-- One character: as it is when kept, else the escapes of its bytes. -/
def encodeChar (keep : Char → Bool) (c : Char) : List Char :=
  if keep c then [c] else (Utf8.encodeChar c).flatMap escape

def encode (keep : Char → Bool) (s : List Char) : List Char :=
  s.flatMap (encodeChar keep)

@[simp] theorem encode_nil (keep : Char → Bool) : encode keep [] = [] := rfl

@[simp] theorem encode_cons (keep : Char → Bool) (c : Char) (s : List Char) :
    encode keep (c :: s) = encodeChar keep c ++ encode keep s := rfl

theorem encode_append (keep : Char → Bool) (s t : List Char) :
    encode keep (s ++ t) = encode keep s ++ encode keep t :=
  List.flatMap_append

/-- The byte that two digits name. -/
def byte? (a b : Char) : Option UInt8 := do
  let high ← Hex.value? a
  let low ← Hex.value? b
  return UInt8.ofNat (16 * high + low)

theorem byte?_ofByte (b : UInt8) :
    byte? (Hex.digit (b.toNat / 16)) (Hex.digit (b.toNat % 16)) = some b := by
  have h : b.toNat < 256 := b.toNat_lt
  simp only [byte?, Hex.value?_digit (show b.toNat / 16 < 16 by omega),
    Hex.value?_digit (show b.toNat % 16 < 16 by omega), Option.bind_eq_bind, Option.bind_some,
    Nat.div_add_mod]
  exact congrArg some UInt8.ofNat_toNat

/-- The bytes of a text in which escapes may stand. -/
def decode : List Char → Bytes
  | c :: a :: b :: rest =>
    match if c = '%' then byte? a b else none with
    | some byte => byte :: decode rest
    | none => Utf8.encodeChar c ++ decode (a :: b :: rest)
  | s => Utf8.encode s

theorem decode_cons_of_ne {c : Char} (h : c ≠ '%') (rest : List Char) :
    decode (c :: rest) = Utf8.encodeChar c ++ decode rest := by
  match rest with
  | [] => rfl
  | [_] => rfl
  | _ :: _ :: _ => simp [decode, h]

theorem decode_escape (b : UInt8) (rest : List Char) :
    decode (escape b ++ rest) = b :: decode rest := by
  simp [escape, Hex.ofByte, decode, byte?_ofByte]

theorem decode_flatMap_escape (bytes : Bytes) (rest : List Char) :
    decode (bytes.flatMap escape ++ rest) = bytes ++ decode rest := by
  induction bytes with
  | nil => rfl
  | cons b bytes ih => simp [List.append_assoc, decode_escape, ih]

/-- Escapes are undone whenever `%` itself is escaped. -/
theorem decode_encode {keep : Char → Bool} (h : keep '%' = false) (s : List Char) :
    decode (encode keep s) = Utf8.encode s := by
  induction s with
  | nil => rfl
  | cons c s ih =>
    rw [encode_cons, encodeChar]
    split
    · rename_i hc
      have : c ≠ '%' := by rintro rfl; simp [h] at hc
      simp [decode_cons_of_ne this, ih]
    · simp [decode_flatMap_escape, ih]

/-! ## Path segments -/

/-- The characters that every part of a URL keeps: letters, digits and `-_.~`. -/
def isUnreserved (c : Char) : Bool :=
  c.isAlphanum || c == '-' || c == '_' || c == '.' || c == '~'

/-- A value as one segment of a path. -/
def encodeSegment (s : String) : String :=
  String.ofList (encode isUnreserved s.toList)

/-- The value of a segment; a segment whose bytes are not UTF-8 is its own value. -/
def decodeSegment (s : List Char) : List Char :=
  (Utf8.decode? (decode s)).getD s

end Percent
end ResourceManager
