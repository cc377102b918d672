import GoldenCheck.Text.Utf8
import Mathlib.Data.List.Basic

/-!
# Reading and writing UTF-8 undo each other

Which bytes make up one character is said by the relation `Spells`, which knows
nothing of reading or writing.  The reader takes a spelling off the front of the
bytes, the writer puts one there, and each character has one spelling.  So bytes
are read as a text exactly if they are the bytes written for it.
-/

namespace GoldenCheck.Text

/-! ## Spellings of one character -/

theorem within_iff {low high byte : UInt8} :
    within low high byte = true ↔ low.toNat ≤ byte.toNat ∧ byte.toNat ≤ high.toNat := by
  simp [within, UInt8.le_iff_toNat_le]

theorem isContinuation_iff {byte : UInt8} :
    isContinuation byte = true ↔ 0x80 ≤ byte.toNat ∧ byte.toNat ≤ 0xbf :=
  within_iff

/-- What may follow the lead byte of a three-byte character, in numbers. -/
theorem followsThree_iff {lead second : UInt8} :
    followsThree lead second = true ↔
      0x80 ≤ second.toNat ∧ second.toNat ≤ 0xbf ∧
        (lead.toNat = 0xe0 → 0xa0 ≤ second.toNat) ∧
        (lead.toNat = 0xed → second.toNat ≤ 0x9f) := by
  simp only [followsThree, ← UInt8.toNat_inj]
  split
  · rw [within_iff]
    simp only [UInt8.reduceToNat] at *
    omega
  · split
    · rw [within_iff]
      simp only [UInt8.reduceToNat] at *
      omega
    · rw [isContinuation_iff]
      simp only [UInt8.reduceToNat] at *
      omega

/-- What may follow the lead byte of a four-byte character, in numbers. -/
theorem followsFour_iff {lead second : UInt8} :
    followsFour lead second = true ↔
      0x80 ≤ second.toNat ∧ second.toNat ≤ 0xbf ∧
        (lead.toNat = 0xf0 → 0x90 ≤ second.toNat) ∧
        (lead.toNat = 0xf4 → second.toNat ≤ 0x8f) := by
  simp only [followsFour, ← UInt8.toNat_inj]
  split
  · rw [within_iff]
    simp only [UInt8.reduceToNat] at *
    omega
  · split
    · rw [within_iff]
      simp only [UInt8.reduceToNat] at *
      omega
    · rw [isContinuation_iff]
      simp only [UInt8.reduceToNat] at *
      omega

/-- The bytes of one character, with its code point. -/
inductive Spells : Bytes → Nat → Prop where
  | one {lead : UInt8} (first : lead.toNat < 0x80) : Spells [lead] lead.toNat
  | two {lead second : UInt8} (first : 0xc2 ≤ lead.toNat ∧ lead.toNat ≤ 0xdf)
      (continued : isContinuation second = true) :
      Spells [lead, second] (lead.toNat % 32 * 64 + payload second)
  | three {lead second third : UInt8} (first : 0xe0 ≤ lead.toNat ∧ lead.toNat ≤ 0xef)
      (follows : followsThree lead second = true) (continued : isContinuation third = true) :
      Spells [lead, second, third]
        ((lead.toNat % 16 * 64 + payload second) * 64 + payload third)
  | four {lead second third fourth : UInt8} (first : 0xf0 ≤ lead.toNat ∧ lead.toNat ≤ 0xf4)
      (follows : followsFour lead second = true) (continued : isContinuation third = true)
      (ended : isContinuation fourth = true) :
      Spells [lead, second, third, fourth]
        (((lead.toNat % 8 * 64 + payload second) * 64 + payload third) * 64 + payload fourth)

/-! ## Spellings and the reader -/

/-- The reader takes a spelling off the front of the bytes. -/
theorem decodeUnits_append_of_spells {unit : Bytes} {code : Nat} (spells : Spells unit code)
    (rest : Bytes) :
    decodeUnits (unit ++ rest) = some (Char.ofNat code) :: decodeUnits rest := by
  have lead_one {lead : UInt8} : lead < 0x80 ↔ lead.toNat < 0x80 := UInt8.lt_iff_toNat_lt
  rw [decodeUnits.eq_def]
  cases spells with
  | one first => simp [lead_one, first]
  | @two lead second first continued =>
      have notOne : ¬lead.toNat < 0x80 := by omega
      simp [lead_one, notOne, within_iff, first, continued]
  | @three lead second third first follows continued =>
      have notOne : ¬lead.toNat < 0x80 := by omega
      have notTwo : ¬lead.toNat ≤ 0xdf := by omega
      simp [lead_one, notOne, within_iff, notTwo, first, follows, continued]
  | @four lead second third fourth first follows continued ended =>
      have notOne : ¬lead.toNat < 0x80 := by omega
      have notTwo : ¬lead.toNat ≤ 0xdf := by omega
      have notThree : ¬lead.toNat ≤ 0xef := by omega
      simp [lead_one, notOne, within_iff, notTwo, notThree, first, follows, continued, ended]

/-- The reader finds a character only where its spelling stands. -/
theorem decodeUnits_eq_cons_some {bytes : Bytes} {c : Char} {units : List (Option Char)}
    (read : decodeUnits bytes = some c :: units) :
    ∃ unit code rest, Spells unit code ∧ Char.ofNat code = c ∧ bytes = unit ++ rest ∧
      decodeUnits rest = units := by
  revert read
  -- The cases of an ill-formed part give no character.
  fun_cases decodeUnits bytes with
  | case2 lead rest first =>
      rintro ⟨⟩
      exact ⟨[lead], _, rest, .one (UInt8.lt_iff_toNat_lt.mp first), rfl, rfl, rfl⟩
  | case4 lead _ first second rest continued =>
      rintro ⟨⟩
      exact ⟨[lead, second], _, rest, .two (within_iff.mp first) continued, rfl, rfl, rfl⟩
  | case8 lead _ _ first second follows third rest continued =>
      rintro ⟨⟩
      exact ⟨[lead, second, third], _, rest, .three (within_iff.mp first) follows continued,
        rfl, rfl, rfl⟩
  | case14 lead _ _ _ first second follows third continued fourth rest ended =>
      rintro ⟨⟩
      exact ⟨[lead, second, third, fourth], _, rest,
        .four (within_iff.mp first) follows continued ended, rfl, rfl, rfl⟩
  | _ => simp

/-! ## Spellings and the writer -/

theorem toNat_ofNat_of_isValidChar {code : Nat} (valid : code.isValidChar) :
    (Char.ofNat code).toNat = code := by
  rw [Char.ofNat, dif_pos valid]
  rfl

theorem ofNat_eq_of_toNat_eq (byte : UInt8) {number : Nat} (same : number = byte.toNat) :
    UInt8.ofNat number = byte := by
  rw [same, UInt8.ofNat_toNat]

/-- The writer in terms of the code point. -/
theorem utf8EncodeChar_eq (c : Char) :
    String.utf8EncodeChar c =
      if c.toNat ≤ 0x7f then [UInt8.ofNat c.toNat]
      else if c.toNat ≤ 0x7ff then
        [UInt8.ofNat (c.toNat / 64 % 32 + 0xc0), UInt8.ofNat (c.toNat % 64 + 0x80)]
      else if c.toNat ≤ 0xffff then
        [UInt8.ofNat (c.toNat / 4096 % 16 + 0xe0), UInt8.ofNat (c.toNat / 64 % 64 + 0x80),
          UInt8.ofNat (c.toNat % 64 + 0x80)]
      else
        [UInt8.ofNat (c.toNat / 262144 % 8 + 0xf0), UInt8.ofNat (c.toNat / 4096 % 64 + 0x80),
          UInt8.ofNat (c.toNat / 64 % 64 + 0x80), UInt8.ofNat (c.toNat % 64 + 0x80)] :=
  rfl

/-- A spelling is what the writer gives for its character. -/
theorem utf8EncodeChar_of_spells {unit : Bytes} {code : Nat} (spells : Spells unit code) :
    String.utf8EncodeChar (Char.ofNat code) = unit := by
  cases spells with
  | @one lead first =>
      have number := @toNat_ofNat_of_isValidChar lead.toNat (by left; omega)
      rw [utf8EncodeChar_eq, number, if_pos (by omega), UInt8.ofNat_toNat]
  | @two lead second first continued =>
      rw [isContinuation_iff] at continued
      rw [payload]
      have number := @toNat_ofNat_of_isValidChar (lead.toNat % 32 * 64 + second.toNat % 64)
        (by left; omega)
      rw [utf8EncodeChar_eq, number, if_neg (by omega), if_pos (by omega),
        ofNat_eq_of_toNat_eq lead (by omega),
        ofNat_eq_of_toNat_eq second (by omega)]
  | @three lead second third first follows continued =>
      rw [followsThree_iff] at follows
      rw [isContinuation_iff] at continued
      simp only [payload]
      have number := @toNat_ofNat_of_isValidChar
        ((lead.toNat % 16 * 64 + second.toNat % 64) * 64 + third.toNat % 64)
        (by rw [Nat.isValidChar]; omega)
      rw [utf8EncodeChar_eq, number, if_neg (by omega), if_neg (by omega), if_pos (by omega),
        ofNat_eq_of_toNat_eq lead (by omega),
        ofNat_eq_of_toNat_eq second (by omega),
        ofNat_eq_of_toNat_eq third (by omega)]
  | @four lead second third fourth first follows continued ended =>
      rw [followsFour_iff] at follows
      rw [isContinuation_iff] at continued ended
      simp only [payload]
      have number := @toNat_ofNat_of_isValidChar
        (((lead.toNat % 8 * 64 + second.toNat % 64) * 64 + third.toNat % 64) * 64 +
          fourth.toNat % 64)
        (by rw [Nat.isValidChar]; omega)
      rw [utf8EncodeChar_eq, number, if_neg (by omega), if_neg (by omega), if_neg (by omega),
        ofNat_eq_of_toNat_eq lead (by omega),
        ofNat_eq_of_toNat_eq second (by omega),
        ofNat_eq_of_toNat_eq third (by omega),
        ofNat_eq_of_toNat_eq fourth (by omega)]

/-- The byte that is written for a number. -/
theorem exists_byte {number : Nat} (small : number < 0x100) :
    ∃ byte, UInt8.ofNat number = byte ∧ byte.toNat = number :=
  ⟨_, rfl, UInt8.toNat_ofNat_of_lt' small⟩

/-- A byte below 0x80 spells a character of its own and has no part in any other. -/
theorem Spells.code_eq_of_mem {unit : Bytes} {code : Nat} {byte : UInt8}
    (spells : Spells unit code) (plain : byte.toNat < 0x80) (member : byte ∈ unit) :
    code = byte.toNat := by
  cases spells with
  | one first => rw [List.mem_singleton.mp member]
  | two first continued =>
      rw [isContinuation_iff] at continued
      simp only [List.mem_cons, List.not_mem_nil, or_false] at member
      rcases member with rfl | rfl <;> omega
  | three first follows continued =>
      rw [followsThree_iff] at follows
      rw [isContinuation_iff] at continued
      simp only [List.mem_cons, List.not_mem_nil, or_false] at member
      rcases member with rfl | rfl | rfl <;> omega
  | four first follows continued ended =>
      rw [followsFour_iff] at follows
      rw [isContinuation_iff] at continued ended
      simp only [List.mem_cons, List.not_mem_nil, or_false] at member
      rcases member with rfl | rfl | rfl | rfl <;> omega

theorem Spells.congr {unit : Bytes} {code other : Nat} (spells : Spells unit code)
    (same : code = other) : Spells unit other :=
  same ▸ spells

/-- What the writer gives for a character is a spelling of it. -/
theorem spells_utf8EncodeChar (c : Char) : Spells (String.utf8EncodeChar c) c.toNat := by
  have valid : c.toNat.isValidChar := c.valid
  rw [Nat.isValidChar] at valid
  rw [utf8EncodeChar_eq]
  generalize c.toNat = code at valid
  split
  · obtain ⟨lead, written, number⟩ := @exists_byte code (by omega)
    rw [written]
    exact (Spells.one (by omega)).congr number
  · split
    · obtain ⟨lead, writtenLead, lead_eq⟩ := @exists_byte (code / 64 % 32 + 0xc0) (by omega)
      obtain ⟨second, writtenSecond, second_eq⟩ := @exists_byte (code % 64 + 0x80) (by omega)
      rw [writtenLead, writtenSecond]
      refine (Spells.two (by omega) (by rw [isContinuation_iff]; omega)).congr ?_
      rw [payload]
      omega
    · split
      · obtain ⟨lead, writtenLead, lead_eq⟩ := @exists_byte (code / 4096 % 16 + 0xe0) (by omega)
        obtain ⟨second, writtenSecond, second_eq⟩ :=
          @exists_byte (code / 64 % 64 + 0x80) (by omega)
        obtain ⟨third, writtenThird, third_eq⟩ := @exists_byte (code % 64 + 0x80) (by omega)
        rw [writtenLead, writtenSecond, writtenThird]
        refine (Spells.three (by omega) (by rw [followsThree_iff]; omega)
          (by rw [isContinuation_iff]; omega)).congr ?_
        simp only [payload]
        omega
      · obtain ⟨lead, writtenLead, lead_eq⟩ := @exists_byte (code / 262144 % 8 + 0xf0) (by omega)
        obtain ⟨second, writtenSecond, second_eq⟩ :=
          @exists_byte (code / 4096 % 64 + 0x80) (by omega)
        obtain ⟨third, writtenThird, third_eq⟩ := @exists_byte (code / 64 % 64 + 0x80) (by omega)
        obtain ⟨fourth, writtenFourth, fourth_eq⟩ := @exists_byte (code % 64 + 0x80) (by omega)
        rw [writtenLead, writtenSecond, writtenThird, writtenFourth]
        refine (Spells.four (by omega) (by rw [followsFour_iff]; omega)
          (by rw [isContinuation_iff]; omega) (by rw [isContinuation_iff]; omega)).congr ?_
        simp only [payload]
        omega

/-! ## Whole texts -/

@[simp]
theorem encode_nil : encode [] = [] :=
  rfl

@[simp]
theorem encode_cons (c : Char) (text : Text) :
    encode (c :: text) = String.utf8EncodeChar c ++ encode text :=
  rfl

@[simp]
theorem encode_append (first second : Text) :
    encode (first ++ second) = encode first ++ encode second :=
  List.flatMap_append

theorem decodeUnits_eq_nil_iff {bytes : Bytes} : decodeUnits bytes = [] ↔ bytes = [] := by
  fun_cases decodeUnits bytes <;> simp

/-- All units are characters exactly if the bytes are those written for these
characters. -/
theorem decodeUnits_eq_map_some_iff {bytes : Bytes} {text : Text} :
    decodeUnits bytes = text.map some ↔ encode text = bytes := by
  induction text generalizing bytes with
  | nil => rw [List.map_nil, decodeUnits_eq_nil_iff, encode_nil, eq_comm]
  | cons c text ih =>
      rw [List.map_cons, encode_cons]
      constructor
      · intro read
        obtain ⟨unit, code, rest, spells, rfl, rfl, later⟩ := decodeUnits_eq_cons_some read
        rw [utf8EncodeChar_of_spells spells, ih.mp later]
      · rintro rfl
        rw [decodeUnits_append_of_spells (spells_utf8EncodeChar c), Char.ofNat_toNat, ih.mpr rfl]

theorem mapM_id_eq_some_iff {α : Type} {units : List (Option α)} {values : List α} :
    units.mapM id = some values ↔ units = values.map some := by
  induction units generalizing values with
  | nil => cases values <;> simp
  | cons unit units ih =>
      cases unit with
      | none => cases values <;> simp
      | some value => cases values <;> simp [ih, Option.bind_eq_some_iff, and_comm]

/-- Bytes are read as a text exactly if they are the bytes written for it. -/
theorem decode?_eq_some_iff {bytes : Bytes} {text : Text} :
    decode? bytes = some text ↔ encode text = bytes := by
  rw [decode?, mapM_id_eq_some_iff, decodeUnits_eq_map_some_iff]

@[simp]
theorem decode?_encode (text : Text) : decode? (encode text) = some text :=
  decode?_eq_some_iff.mpr rfl

@[simp]
theorem decodeLossy_encode (text : Text) : decodeLossy (encode text) = text := by
  rw [decodeLossy, decodeUnits_eq_map_some_iff.mpr rfl, List.map_map]
  exact List.map_id text

theorem encode_injective : Function.Injective encode := by
  intro first second same
  have read := decode?_encode first
  rw [same, decode?_encode] at read
  exact (Option.some.inj read).symm

@[simp]
theorem encode_eq_nil_iff {text : Text} : encode text = [] ↔ text = [] := by
  rw [← encode_nil]
  exact encode_injective.eq_iff

end GoldenCheck.Text
