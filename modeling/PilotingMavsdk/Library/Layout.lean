import Mathlib.Algebra.Ring.Nat
import PilotingMavsdk.Library.CStrings

/-! Layouts of structures in memory. The fields lie one behind the other, numbers with their lowest
byte first, and texts in arrays that hold whatever lies behind a text that is too short. -/

namespace PilotingMavsdk.Library

/-- How a value is written, and read back from where it begins. What a text leaves open is filled
from `behind`, by its place. Reading may go on beyond the structure. -/
structure Layout (Value : Type) where
  width : Nat
  encode : (Nat → UInt8) → Value → List UInt8
  decode : List UInt8 → Option Value
  Fits : Value → Prop
  length_encode : ∀ behind value, (encode behind value).length = width
  decode_encode : ∀ behind {value} rest, Fits value → decode (encode behind value ++ rest) = some value

def littleEndian : Nat → Nat → List UInt8
  | 0, _ => []
  | count + 1, number => UInt8.ofNat number :: littleEndian count (number / 256)

def ofLittleEndian : Nat → List UInt8 → Option Nat
  | 0, _ => some 0
  | _ + 1, [] => none
  | count + 1, byte :: bytes => (ofLittleEndian count bytes).map (byte.toNat + 256 * ·)

@[simp] theorem length_littleEndian (count number : Nat) :
    (littleEndian count number).length = count := by
  induction count generalizing number with
  | zero => rfl
  | succ count ih => rw [littleEndian, List.length_cons, ih]

theorem ofLittleEndian_littleEndian {count number : Nat} (rest : List UInt8)
    (small : number < 256 ^ count) :
    ofLittleEndian count (littleEndian count number ++ rest) = some number := by
  induction count generalizing number with
  | zero =>
    have zero : number = 0 := Nat.lt_one_iff.mp small
    rw [zero]
    rfl
  | succ count ih =>
    have higher : number / 256 < 256 ^ count := by
      rw [Nat.div_lt_iff_lt_mul (by decide), ← Nat.pow_succ]
      exact small
    have low : (UInt8.ofNat number).toNat = number % 256 := rfl
    rw [littleEndian, List.cons_append, ofLittleEndian, ih higher, Option.map_some, low,
      Nat.mod_add_div]

namespace Layout
variable {Value First Second : Type}

def number (count : Nat) (toNat : Value → Nat) (ofNat : Nat → Value)
    (back : ∀ value, ofNat (toNat value) = value) (small : ∀ value, toNat value < 256 ^ count) :
    Layout Value where
  width := count
  encode _ value := littleEndian count (toNat value)
  decode bytes := (ofLittleEndian count bytes).map ofNat
  Fits _ := True
  length_encode _ value := length_littleEndian count (toNat value)
  decode_encode _ value rest _ := by
    rw [ofLittleEndian_littleEndian rest (small value), Option.map_some, back]

def uint8 : Layout UInt8 :=
  number 1 UInt8.toNat UInt8.ofNat (fun _ => UInt8.ofNat_toNat) UInt8.toNat_lt

def uint16 : Layout UInt16 :=
  number 2 UInt16.toNat UInt16.ofNat (fun _ => UInt16.ofNat_toNat) UInt16.toNat_lt

def uint32 : Layout UInt32 :=
  number 4 UInt32.toNat UInt32.ofNat (fun _ => UInt32.ofNat_toNat) UInt32.toNat_lt

def int32 : Layout Int32 :=
  number 4 (fun value => value.toUInt32.toNat) (fun number => (UInt32.ofNat number).toInt32)
    (fun value => by rw [UInt32.ofNat_toNat]; rfl) (fun value => value.toUInt32.toNat_lt)

def textBytes (text : String) : List UInt8 := text.toUTF8.data.toList

/-- Bytes that are no text are not read. -/
def textOf (bytes : List UInt8) : Option String := String.fromUTF8? ⟨bytes.toArray⟩

theorem textOf_textBytes (text : String) : textOf (textBytes text) = some text := by
  have bytes : (⟨(textBytes text).toArray⟩ : ByteArray) = text.toUTF8 := by
    rw [textBytes, Array.toArray_toList]
  rw [textOf, bytes, String.fromUTF8?]
  exact dif_pos text.isValidUTF8

/-- A text has room in its array if its terminating zero has. -/
def text (width : Nat) : Layout String where
  width := width
  encode behind text := fixedWidth width (textBytes text) behind
  decode bytes := (cString bytes).bind textOf
  Fits text := 0 ∉ textBytes text ∧ (textBytes text).length < width
  length_encode _ _ := length_fixedWidth
  decode_encode behind text rest fits := by
    rw [(cString_fixedWidth_iff fits.1).mpr (.inl fits.2), Option.bind_some,
      List.take_of_length_le (Nat.le_of_lt fits.2), textOf_textBytes]

instance (width : Nat) (value : String) : Decidable ((text width).Fits value) :=
  inferInstanceAs (Decidable (_ ∧ _))

def pair (first : Layout First) (second : Layout Second) : Layout (First × Second) where
  width := first.width + second.width
  encode behind values :=
    first.encode behind values.1 ++
      second.encode (fun place => behind (first.width + place)) values.2
  decode bytes := do
    let one ← first.decode bytes
    let other ← second.decode (bytes.drop first.width)
    return (one, other)
  Fits values := first.Fits values.1 ∧ second.Fits values.2
  length_encode behind values := by
    rw [List.length_append, first.length_encode, second.length_encode]
  decode_encode behind values rest fits := by
    have dropped : (first.encode behind values.1 ++ (second.encode
        (fun place => behind (first.width + place)) values.2 ++ rest)).drop first.width =
        second.encode (fun place => behind (first.width + place)) values.2 ++ rest :=
      List.drop_left' (first.length_encode behind values.1)
    rw [List.append_assoc, first.decode_encode behind _ fits.1, dropped,
      second.decode_encode _ rest fits.2]
    rfl

def map (layout : Layout First) (build : First → Second) (parts : Second → First)
    (same : ∀ value, build (parts value) = value) : Layout Second where
  width := layout.width
  encode behind value := layout.encode behind (parts value)
  decode bytes := (layout.decode bytes).map build
  Fits value := layout.Fits (parts value)
  length_encode behind value := layout.length_encode behind (parts value)
  decode_encode behind value rest fits := by
    rw [layout.decode_encode behind rest fits, Option.map_some, same]

end Layout
end PilotingMavsdk.Library
