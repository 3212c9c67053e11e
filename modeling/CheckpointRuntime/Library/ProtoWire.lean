import Mathlib.Algebra.Order.Ring.Nat
import Mathlib.Data.List.Basic

/-!
# The proto3 wire format

Varints, and the fields of a message that holds integers, flags, strings and
bytes.  A field with its default value is not written.  The results are about
length: what a varint of a number in a given range takes, and what a field
with a one-byte tag takes.
-/

namespace ProtoWire

/-- The groups of seven bits of a number, least significant first, each but the
last with the continuation bit. -/
def varintGroups : Nat → Nat → List UInt8
  | 0, _ => []
  | groups + 1, n =>
      if n < 128 then [UInt8.ofNat n]
      else UInt8.ofNat (n % 128 + 128) :: varintGroups groups (n / 128)

/-- The varint of a 64-bit number; ten groups are enough. -/
def varint (n : Nat) : List UInt8 := varintGroups 10 n

/-- The tag of a field: its number and its wire type. -/
def tag (number wireType : Nat) : List UInt8 := varint (8 * number + wireType)

/-- A `uint64` field. -/
def varintField (number value : Nat) : List UInt8 :=
  if value = 0 then [] else tag number 0 ++ varint value

/-- A `bool` field. -/
def boolField (number : Nat) (value : Bool) : List UInt8 :=
  varintField number value.toNat

/-- A `bytes` field. -/
def bytesField (number : Nat) (data : List UInt8) : List UInt8 :=
  if data.isEmpty then [] else tag number 2 ++ varint data.length ++ data

/-- A `string` field: its UTF-8 bytes. -/
def stringField (number : Nat) (s : String) : List UInt8 :=
  bytesField number s.toByteArray.data.toList

/-- What a `bytes` or `string` field with a one-byte tag takes. -/
def fieldLength (size : Nat) : Nat :=
  if size = 0 then 0 else 1 + (varint size).length + size

/-! ## Varints -/

theorem length_varintGroups_le (groups n : Nat) : (varintGroups groups n).length ≤ groups := by
  induction groups generalizing n with
  | zero => exact Nat.le_refl 0
  | succ groups ih =>
      unfold varintGroups
      split
      · simp
      · have hrest := ih (n / 128)
        rw [List.length_cons]
        omega

/-- A number of at most `7 * (k + 1)` bits takes at most `k + 1` groups. -/
theorem length_varintGroups_of_lt {groups k n : Nat} (h : n < 128 ^ (k + 1)) :
    (varintGroups groups n).length ≤ k + 1 := by
  induction k generalizing groups n with
  | zero =>
      cases groups with
      | zero => simp [varintGroups]
      | succ groups =>
          have hsmall : n < 128 := by omega
          simp [varintGroups, hsmall]
  | succ k ih =>
      cases groups with
      | zero => simp [varintGroups]
      | succ groups =>
          have hnext : n / 128 < 128 ^ (k + 1) := by
            rw [Nat.div_lt_iff_lt_mul (by omega)]
            rwa [Nat.pow_succ] at h
          have hrest : (varintGroups groups (n / 128)).length ≤ k + 1 := ih hnext
          unfold varintGroups
          split
          · simp
          · rw [List.length_cons]
            omega

/-- A number of more than `7 * k` bits takes more than `k` groups. -/
theorem length_varintGroups_of_le {groups k n : Nat} (hgroups : k < groups) (h : 128 ^ k ≤ n) :
    k + 1 ≤ (varintGroups groups n).length := by
  induction k generalizing groups n with
  | zero =>
      obtain ⟨m, rfl⟩ : ∃ m, groups = m + 1 := ⟨groups - 1, by omega⟩
      unfold varintGroups
      split <;> simp
  | succ k ih =>
      obtain ⟨m, rfl⟩ : ∃ m, groups = m + 1 := ⟨groups - 1, by omega⟩
      have hpos : 1 ≤ 128 ^ k := Nat.one_le_pow _ _ (by omega)
      have hlarge : ¬ n < 128 := by
        rw [Nat.pow_succ] at h
        omega
      have hnext : 128 ^ k ≤ n / 128 := by
        rw [Nat.le_div_iff_mul_le (by omega)]
        rwa [Nat.pow_succ] at h
      have hrest : k + 1 ≤ (varintGroups m (n / 128)).length := ih (by omega) hnext
      rw [varintGroups, if_neg hlarge, List.length_cons]
      omega

theorem length_varint_le (n : Nat) : (varint n).length ≤ 10 := length_varintGroups_le 10 n

theorem length_varint_of_lt {k n : Nat} (h : n < 128 ^ (k + 1)) : (varint n).length ≤ k + 1 :=
  length_varintGroups_of_lt h

theorem length_varint_of_le {k n : Nat} (hk : k < 10) (h : 128 ^ k ≤ n) :
    k + 1 ≤ (varint n).length :=
  length_varintGroups_of_le hk h

/-! ## Fields -/

/-- The fields with numbers up to fifteen have one-byte tags. -/
theorem length_tag (number wireType : Nat) (h : 8 * number + wireType < 128) :
    (tag number wireType).length = 1 := by
  simp [tag, varint, varintGroups, h]

theorem length_bytesField (number : Nat) (h : number < 15) (data : List UInt8) :
    (bytesField number data).length = fieldLength data.length := by
  unfold bytesField fieldLength
  cases data with
  | nil => rfl
  | cons byte data =>
      have htag := length_tag number 2 (by omega)
      simp [htag, Nat.add_assoc]

theorem length_stringField (number : Nat) (h : number < 15) (s : String) :
    (stringField number s).length = fieldLength s.utf8ByteSize :=
  length_bytesField number h _

/-- An integer field takes at most eleven bytes. -/
theorem length_varintField_le (number : Nat) (h : number < 15) (value : Nat) :
    (varintField number value).length ≤ 11 := by
  unfold varintField
  split
  · simp
  · have hvalue := length_varint_le value
    have htag := length_tag number 0 (by omega)
    rw [List.length_append, htag]
    omega

/-- A flag that is set takes two bytes. -/
theorem length_boolField_true {number : Nat} (h : number < 15) :
    (boolField number true).length = 2 := by
  have htag := length_tag number 0 (by omega)
  simp [boolField, varintField, htag, varint, varintGroups]

/-- The length of a field whose size has at most `7 * (k + 1)` bits. -/
theorem fieldLength_le (k size : Nat) (h : size < 128 ^ (k + 1)) :
    fieldLength size ≤ k + 2 + size := by
  have hvarint := length_varint_of_lt h
  unfold fieldLength
  split <;> omega

/-- The length of a field whose size has more than `7 * k` bits. -/
theorem le_fieldLength (k size : Nat) (hk : k < 10) (h : 128 ^ k ≤ size) :
    k + 2 + size ≤ fieldLength size := by
  have hpos : 1 ≤ 128 ^ k := Nat.one_le_pow _ _ (by omega)
  have hvarint := length_varint_of_le hk h
  rw [fieldLength, if_neg (by omega)]
  omega

end ProtoWire
