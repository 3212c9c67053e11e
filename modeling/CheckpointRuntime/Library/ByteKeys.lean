import Mathlib.Data.List.Basic
import Mathlib.Data.String.Basic

/-!
# Keys as bytes

Texts are encoded as UTF-8, and byte strings are ordered byte by byte.  The
encoding keeps the order of texts, and one text starts with another exactly if
their encodings do (`encode_lt_iff`, `encode_prefix_iff`).  The byte strings
with a given prefix form a half-open interval, whose end is the prefix with its
last byte below 255 raised (`prefix_iff_of_bump`).
-/

namespace ByteKeys

abbrev Bytes := List UInt8

/-! ## The encoding -/

def encodeChars (chars : List Char) : Bytes := chars.flatMap String.utf8EncodeChar

/-- A text as UTF-8. -/
def encode (text : String) : Bytes := encodeChars text.toList

/-- Of two characters the smaller one has the smaller code, whatever follows. -/
theorem utf8EncodeChar_append_lt {a b : Char} (h : a < b) (x y : Bytes) :
    String.utf8EncodeChar a ++ x < String.utf8EncodeChar b ++ y := by
  have hval : a.val.toNat < b.val.toNat := h
  have hvalid : b.val.toNat < 0x110000 := by
    rcases b.valid with hlow | hhigh
    · exact Nat.lt_trans hlow (by decide)
    · exact hhigh.2
  have hdiv : ∀ v, v / 4096 = v / 64 / 64 := fun v => (Nat.div_div_eq_div_mul v 64 64).symm
  have hdiv' : ∀ v, v / 262144 = v / 64 / 64 / 64 := by
    intro v
    rw [← hdiv, Nat.div_div_eq_div_mul]
  unfold String.utf8EncodeChar
  dsimp only
  -- one case for each pair of lengths
  repeat' split
  all_goals
    simp only [List.cons_append, List.cons_lt_cons_iff, UInt8.lt_iff_toNat_lt, ← UInt8.toNat_inj,
      UInt8.toNat_ofNat', hdiv', hdiv]
    omega

@[simp] theorem encodeChars_cons (ch : Char) (chars : List Char) :
    encodeChars (ch :: chars) = String.utf8EncodeChar ch ++ encodeChars chars := rfl

theorem encodeChars_append (chars more : List Char) :
    encodeChars (chars ++ more) = encodeChars chars ++ encodeChars more :=
  List.flatMap_append

theorem encodeChars_lt_of_lt {chars more : List Char} (h : chars < more) :
    encodeChars chars < encodeChars more := by
  induction chars generalizing more with
  | nil =>
      cases more with
      | nil => exact absurd h (List.not_lt_nil _)
      | cons ch more =>
          rw [encodeChars_cons]
          cases hcode : String.utf8EncodeChar ch with
          | nil => exact absurd hcode String.utf8EncodeChar_ne_nil
          | cons byte code => exact List.nil_lt_cons _ _
  | cons ch chars ih =>
      cases more with
      | nil => exact absurd h (List.not_lt_nil _)
      | cons other more =>
          rw [encodeChars_cons, encodeChars_cons]
          rcases List.cons_lt_cons_iff.mp h with hlt | ⟨rfl, hrest⟩
          · exact utf8EncodeChar_append_lt hlt _ _
          · exact List.append_left_lt (ih hrest)

/-- **The encoding keeps the order.** -/
theorem encode_lt_iff {text other : String} : encode text < encode other ↔ text < other := by
  constructor
  · intro h
    by_contra hnot
    rcases (not_lt.mp hnot).lt_or_eq with hlt | rfl
    · exact List.lt_asymm h (encodeChars_lt_of_lt (String.lt_iff_toList_lt.mp hlt))
    · exact List.lt_irrefl _ h
  · intro h
    exact encodeChars_lt_of_lt (String.lt_iff_toList_lt.mp h)

theorem encode_inj {text other : String} : encode text = encode other ↔ text = other := by
  constructor
  · intro h
    rcases lt_trichotomy text other with hlt | heq | hgt
    · exact absurd (h ▸ encode_lt_iff.mpr hlt) (List.lt_irrefl _)
    · exact heq
    · exact absurd (h ▸ encode_lt_iff.mpr hgt) (List.lt_irrefl _)
  · intro h
    rw [h]

theorem encode_le_iff {text other : String} : encode text ≤ encode other ↔ text ≤ other := by
  rw [← not_lt, ← encode_lt_iff]
  exact List.not_lt.symm

/-- **The encoding keeps prefixes.** -/
theorem encodeChars_prefix_iff {start chars : List Char} :
    encodeChars start <+: encodeChars chars ↔ start <+: chars := by
  constructor
  · intro h
    induction start generalizing chars with
    | nil => exact List.nil_prefix
    | cons ch start ih =>
        obtain ⟨rest, hrest⟩ := h
        rw [encodeChars_cons, List.append_assoc] at hrest
        cases chars with
        | nil =>
            cases hcode : String.utf8EncodeChar ch with
            | nil => exact absurd hcode String.utf8EncodeChar_ne_nil
            | cons byte code =>
                rw [hcode] at hrest
                cases hrest
        | cons other chars =>
            rw [encodeChars_cons] at hrest
            -- different characters would have codes in strict order
            rcases lt_trichotomy ch other with hlt | rfl | hgt
            · exact absurd (hrest ▸ utf8EncodeChar_append_lt hlt _ _) (List.lt_irrefl _)
            · exact List.cons_prefix_cons.mpr ⟨rfl, ih ⟨rest, List.append_cancel_left hrest⟩⟩
            · exact absurd (hrest ▸ utf8EncodeChar_append_lt hgt _ _) (List.lt_irrefl _)
  · intro h
    obtain ⟨rest, rfl⟩ := h
    rw [encodeChars_append]
    exact List.prefix_append _ _

/-! ## Intervals -/

/-- The byte string with its last byte below 255 raised and nothing after it. -/
def bump : Bytes → Option Bytes
  | [] => none
  | byte :: rest =>
      match bump rest with
      | some raised => some (byte :: raised)
      | none => if byte < 255 then some [byte + 1] else none

/-- The last byte is raised, or it is at its maximum and left out. -/
theorem bump_append_singleton (start : Bytes) (byte : UInt8) :
    bump (start ++ [byte]) = if byte < 255 then some (start ++ [byte + 1]) else bump start := by
  induction start with
  | nil => rfl
  | cons first start ih =>
      rw [List.cons_append, bump, ih]
      by_cases hbyte : byte < 255
      · rw [if_pos hbyte, if_pos hbyte]
        rfl
      · rw [if_neg hbyte, if_neg hbyte, bump]

/-- With all bytes at 255, the byte strings from a prefix on have it. -/
theorem prefix_iff_of_bump_none {start : Bytes} (h : bump start = none) (key : Bytes) :
    start <+: key ↔ start ≤ key := by
  induction start generalizing key with
  | nil => exact iff_of_true List.nil_prefix (List.nil_le _)
  | cons byte start ih =>
      unfold bump at h
      split at h
      · cases h
      · next hrest =>
        have hbyte : ¬ byte < 255 := by
          intro hlt
          rw [if_pos hlt] at h
          cases h
        cases key with
        | nil => exact iff_of_false (by simp) (by simp)
        | cons other key =>
            rw [List.cons_prefix_cons, List.cons_le_cons_iff, ih hrest]
            rw [UInt8.lt_iff_toNat_lt] at hbyte ⊢
            have hother := other.toNat_lt
            have hmax : (255 : UInt8).toNat = 255 := rfl
            constructor
            · exact Or.inr
            · intro hle
              rcases hle with hlt | heq
              · omega
              · exact heq

/-- **A prefix is an interval.** -/
theorem prefix_iff_of_bump {start raised : Bytes} (h : bump start = some raised) (key : Bytes) :
    start <+: key ↔ start ≤ key ∧ key < raised := by
  induction start generalizing raised key with
  | nil => cases h
  | cons byte start ih =>
      cases key with
      | nil => exact iff_of_false (by simp) (by simp)
      | cons other key =>
          rw [List.cons_prefix_cons, List.cons_le_cons_iff]
          unfold bump at h
          split at h
          · next inner hinner =>
            obtain rfl := Option.some.inj h
            rw [List.cons_lt_cons_iff, ih hinner]
            constructor
            · intro h
              obtain ⟨rfl, hle, hlt⟩ := h
              exact ⟨Or.inr ⟨rfl, hle⟩, Or.inr ⟨rfl, hlt⟩⟩
            · intro h
              rcases h with ⟨hbelow | ⟨rfl, hle⟩, habove | ⟨heq, hlt⟩⟩
              · exact absurd habove (UInt8.lt_asymm hbelow)
              · exact absurd hbelow (heq ▸ UInt8.lt_irrefl _)
              · exact absurd habove (UInt8.lt_irrefl _)
              · exact ⟨rfl, hle, hlt⟩
          · next hrest =>
            obtain ⟨hbyte, hraised⟩ := Option.ite_none_right_eq_some.mp h
            obtain rfl := Option.some.inj hraised
            have hsucc : (byte + 1).toNat = byte.toNat + 1 := by
              rw [UInt8.lt_iff_toNat_lt] at hbyte
              have hmax : (255 : UInt8).toNat = 255 := rfl
              rw [UInt8.toNat_add, UInt8.toNat_one]
              omega
            rw [List.cons_lt_cons_iff, prefix_iff_of_bump_none hrest]
            simp only [UInt8.lt_iff_toNat_lt, ← UInt8.toNat_inj, hsucc, List.not_lt_nil, and_false,
              or_false]
            constructor
            · intro h
              obtain ⟨heq, hle⟩ := h
              exact ⟨Or.inr ⟨heq, hle⟩, by omega⟩
            · intro h
              rcases h with ⟨hlt | ⟨heq, hle⟩, habove⟩
              · omega
              · exact ⟨heq, hle⟩

/-- The end of such an interval is not the byte string of one zero. -/
theorem bump_ne_zero {start raised : Bytes} (h : bump start = some raised) : raised ≠ [0] := by
  intro h
  subst h
  cases start with
  | nil => cases h
  | cons byte start =>
      have hlt := ((prefix_iff_of_bump h (byte :: start)).mp List.prefix_rfl).2
      rcases List.cons_lt_cons_iff.mp hlt with hbyte | ⟨_, hrest⟩
      · exact absurd (UInt8.lt_iff_toNat_lt.mp hbyte) (Nat.not_lt_zero _)
      · exact absurd hrest (List.not_lt_nil _)

end ByteKeys
