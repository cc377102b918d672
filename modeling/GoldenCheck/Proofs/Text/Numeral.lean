import GoldenCheck.Proofs.Text.Basic
import GoldenCheck.Text.Numeral
import Mathlib.Algebra.BigOperators.Ring.List
import Mathlib.Algebra.Ring.Nat

/-!
# Decimal numerals and their commas

A number has exactly one decimal numeral: digits that denote it, the first of which is a zero
only if it is the only one.  In a long numeral the commas are placed from the left, by how many
digits are still to come, whereas the groups between them are counted from the right.  The two
agree because whole groups follow the last digit of a group and no other digit.  Conversely,
the sizes of the groups leave a single way to place the commas.
-/

namespace GoldenCheck.Text

/-! ## Decimal numerals -/

/-- The decimal numeral of a number: one or more digits that denote it, the first of which is
a zero only if it is the only one. -/
structure IsDecimal (n : Nat) (text : Text) : Prop where
  digits : ∀ c ∈ text, c.isDigit = true
  nonempty : text ≠ []
  unpadded : text.head? = some '0' → text = ['0']
  value : ofDigits text = n

theorem ofDigits_eq_ofDigitChars (digits : Text) :
    ofDigits digits = Nat.ofDigitChars 10 digits 0 := by
  simp [ofDigits, Nat.ofDigitChars_eq_foldl, digitValue, Nat.mul_comm]

theorem digitValue_lt {c : Char} (digit : c.isDigit = true) : digitValue c < 10 := by
  rcases Char.isDigit_iff_toNat.mp digit with ⟨-, toNine⟩
  have nine : '9'.toNat = '0'.toNat + 9 := rfl
  rw [digitValue]
  omega

/-- A digit is the numeral of its value. -/
theorem decimal_digitValue {c : Char} (digit : c.isDigit = true) :
    decimal (digitValue c) = [c] := by
  have below := digitValue_lt digit
  have same : Nat.digitChar (digitValue c) = c := by
    apply Char.toNat_inj.mp
    rw [Nat.toNat_digitChar_of_lt_ten below, digitValue]
    exact Nat.add_sub_cancel' (Char.isDigit_iff_toNat.mp digit).1
  rw [decimal, Nat.toDigits_of_lt_base below, same]

theorem digitValue_pos {c : Char} (digit : c.isDigit = true) (nonzero : c ≠ '0') :
    0 < digitValue c := by
  apply Nat.pos_of_ne_zero
  intro vanishes
  have numeral := decimal_digitValue digit
  rw [vanishes] at numeral
  exact nonzero (List.singleton_inj.mp numeral).symm

/-- One more digit at the end of a numeral multiplies its number by ten. -/
theorem decimal_concat {front : Nat} (positive : 0 < front) {c : Char}
    (digit : c.isDigit = true) :
    decimal front ++ [c] = decimal (10 * front + digitValue c) := by
  rw [← decimal_digitValue digit]
  exact Nat.toDigits_append_toDigits (by decide) positive (digitValue_lt digit)

/-- Digits that follow a numeral continue it. -/
theorem decimal_append {front : Nat} (positive : 0 < front) {rest : Text}
    (digits : ∀ c ∈ rest, c.isDigit = true) :
    decimal front ++ rest = decimal (Nat.ofDigitChars 10 rest front) := by
  induction rest generalizing front with
  | nil => simp
  | cons c rest ih =>
      rcases List.forall_mem_cons.mp digits with ⟨digit, digits⟩
      calc
        decimal front ++ c :: rest = decimal front ++ [c] ++ rest := by simp
        _ = decimal (10 * front + digitValue c) ++ rest := by
          rw [decimal_concat positive digit]
        _ = decimal (Nat.ofDigitChars 10 rest (10 * front + digitValue c)) :=
          ih (by omega) digits
        _ = decimal (Nat.ofDigitChars 10 (c :: rest) front) := by
          rw [Nat.ofDigitChars_cons, digitValue]

theorem head?_decimal {n : Nat} (positive : 0 < n) : (decimal n).head? ≠ some '0' := by
  induction n using Nat.base_induction 10 (by decide) with
  | single n small =>
      have nonzero : n ≠ 0 := by omega
      simpa [decimal, Nat.toDigits_of_lt_base small] using nonzero
  | digit front last small positiveFront ih =>
      rw [decimal, ← Nat.toDigits_append_toDigits (by decide) positiveFront small,
        List.head?_append_of_ne_nil _ Nat.toDigits_ne_nil]
      exact ih positiveFront

theorem isDecimal_decimal (n : Nat) : IsDecimal n (decimal n) := by
  refine ⟨?_, Nat.toDigits_ne_nil, ?_, ?_⟩
  · intro c member
    exact Nat.isDigit_of_mem_toDigits (by decide) (by decide) member
  · intro padded
    cases n with
    | zero => rfl
    | succ n => exact absurd padded (head?_decimal n.succ_pos)
  · rw [ofDigits_eq_ofDigitChars]
    exact Nat.ofDigitChars_ten_toDigits

/-- A number has one decimal numeral. -/
theorem isDecimal_iff {n : Nat} {text : Text} : IsDecimal n text ↔ text = decimal n := by
  constructor
  · intro isDecimal
    rcases List.exists_cons_of_ne_nil isDecimal.nonempty with ⟨c, rest, rfl⟩
    rcases List.forall_mem_cons.mp isDecimal.digits with ⟨digit, digits⟩
    rw [← isDecimal.value]
    by_cases zero : c = '0'
    · subst zero
      rw [isDecimal.unpadded rfl]
      rfl
    · calc
        c :: rest = decimal (digitValue c) ++ rest := by
          rw [decimal_digitValue digit, List.singleton_append]
        _ = decimal (Nat.ofDigitChars 10 rest (digitValue c)) :=
          decimal_append (digitValue_pos digit zero) digits
        _ = decimal (ofDigits (c :: rest)) := by
          rw [ofDigits_eq_ofDigitChars, Nat.ofDigitChars_cons, Nat.mul_zero, Nat.zero_add,
            digitValue]
  · rintro rfl
    exact isDecimal_decimal n

theorem comma_not_mem_decimal (n : Nat) : ',' ∉ decimal n := by
  intro comma
  exact absurd ((isDecimal_decimal n).digits ',' comma) (by decide)

/-! ## Groups of three digits -/

/-- The groups of a numeral: one to three digits in the first and three in each other. -/
def InThousands : List Text → Prop
  | [] => False
  | first :: later =>
      1 ≤ first.length ∧ first.length ≤ 3 ∧ ∀ group ∈ later, group.length = 3

theorem InThousands.nil_not_mem {groups : List Text} (inThousands : InThousands groups) :
    [] ∉ groups := by
  cases groups with
  | nil => contradiction
  | cons first later =>
      rcases inThousands with ⟨nonempty, -, full⟩
      intro member
      rcases List.mem_cons.mp member with rfl | member
      · contradiction
      · exact absurd (full [] member) (by decide)

/-- Digits can be divided into groups, however many they are: one more digit in front opens a
group if the first group is full, and else joins it. -/
theorem exists_inThousands {digits : Text} (nonempty : digits ≠ []) :
    ∃ groups, InThousands groups ∧ groups.flatten = digits := by
  induction digits with
  | nil => contradiction
  | cons digit rest ih =>
      by_cases last : rest = []
      · subst last
        exact ⟨[[digit]], ⟨by simp, by simp, nofun⟩, rfl⟩
      · rcases ih last with ⟨groups, inThousands, divided⟩
        cases groups with
        | nil => contradiction
        | cons first later =>
            rcases inThousands with ⟨-, atMost, full⟩
            by_cases isFull : first.length = 3
            · refine ⟨[digit] :: first :: later, ⟨by simp, by simp, ?_⟩, ?_⟩
              · exact List.forall_mem_cons.mpr ⟨isFull, full⟩
              · rw [List.flatten_cons, divided, List.singleton_append]
            · refine ⟨(digit :: first) :: later, ⟨by simp, ?_, full⟩, ?_⟩
              · rw [List.length_cons]
                omega
              · rw [← divided]
                rfl

theorem three_dvd_length_flatten {groups : List Text}
    (full : ∀ group ∈ groups, group.length = 3) : 3 ∣ groups.flatten.length := by
  rw [List.length_flatten]
  apply List.dvd_sum
  rw [List.forall_mem_map]
  intro group member
  rw [full group member]

theorem groupThousands_cons {rest : Text} (nonempty : rest ≠ []) (digit : Char) :
    groupThousands (digit :: rest) =
      if 3 ∣ rest.length then digit :: ',' :: groupThousands rest
      else digit :: groupThousands rest := by
  cases rest with
  | nil => contradiction
  | cons next rest => simp only [groupThousands, Nat.dvd_iff_mod_eq_zero]

/-- No comma falls inside a group that whole groups follow. -/
theorem groupThousands_append_cons {front later : Text} (atMost : front.length ≤ 2)
    (whole : 3 ∣ later.length) (last : Char) :
    groupThousands (front ++ last :: later) = front ++ groupThousands (last :: later) := by
  induction front with
  | nil => rfl
  | cons digit front ih =>
      rw [List.length_cons] at atMost
      have follows : front ++ last :: later ≠ [] := by simp
      have broken : ¬3 ∣ (front ++ last :: later).length := by
        rw [List.length_append, List.length_cons]
        omega
      rw [List.cons_append, groupThousands_cons follows, if_neg broken, ih (by omega),
        List.cons_append]

/-- Digits are written with a comma between neighbouring groups. -/
theorem groupThousands_flatten {groups : List Text} (inThousands : InThousands groups) :
    groupThousands groups.flatten = join [','] groups := by
  induction groups with
  | nil => contradiction
  | cons first later ih =>
      rcases inThousands with ⟨filled, atMost, full⟩
      have whole := three_dvd_length_flatten full
      -- Only the last digit of the first group has whole groups behind it.
      have nonempty : first ≠ [] := List.length_pos_iff.mp filled
      rcases (List.eq_nil_or_concat first).resolve_left nonempty with ⟨front, last, rfl⟩
      rw [List.length_concat] at atMost
      rw [List.concat_eq_append, List.flatten_cons, List.append_assoc, List.singleton_append,
        groupThousands_append_cons (by omega) whole]
      cases later with
      | nil => simp [groupThousands, join]
      | cons second later =>
          rcases List.forall_mem_cons.mp full with ⟨secondFull, laterFull⟩
          have grouped : InThousands (second :: later) := ⟨by omega, by omega, laterFull⟩
          have follows : (second :: later).flatten ≠ [] := by
            intro empty
            have blank := List.flatten_eq_nil_iff.mp empty second List.mem_cons_self
            simp [blank] at secondFull
          rw [groupThousands_cons follows, if_pos whole, ih grouped]
          simp [join, List.intercalate_cons_cons]

/-- The sizes of the groups leave a single way to place the commas. -/
theorem eq_groupThousands_iff {digits text : Text} (nonempty : digits ≠ [])
    (plain : ',' ∉ digits) :
    text = groupThousands digits ↔
      text.filter (· ≠ ',') = digits ∧ InThousands (pieces ',' text) := by
  constructor
  · rintro rfl
    rcases exists_inThousands nonempty with ⟨groups, inThousands, rfl⟩
    have present : groups ≠ [] := by
      rintro rfl
      contradiction
    have closed : ∀ group ∈ groups, ',' ∉ group := by
      intro group member comma
      exact plain (List.mem_flatten.mpr ⟨group, member, comma⟩)
    rw [← flatten_pieces, groupThousands_flatten inThousands, pieces_join closed present]
    exact ⟨rfl, inThousands⟩
  · rintro ⟨rfl, inThousands⟩
    rw [← flatten_pieces, groupThousands_flatten inThousands, join_pieces]

/-- The numeral with commas is the only text that is the decimal numeral without its commas,
and that its commas cut into a first group of one to three digits and further groups of three.
So no two numbers are written alike, and no numeral starts or ends with a comma. -/
theorem thousands_are_groups_of_three :
    (∀ (n : Nat) (text : Text), text = thousands n ↔
      IsDecimal n (text.filter (· ≠ ',')) ∧ InThousands (pieces ',' text)) ∧
      Function.Injective thousands ∧
      ∀ n : Nat, (thousands n).head? ≠ some ',' ∧ (thousands n).getLast? ≠ some ',' := by
  have law (n : Nat) (text : Text) : text = thousands n ↔
      IsDecimal n (text.filter (· ≠ ',')) ∧ InThousands (pieces ',' text) := by
    rw [isDecimal_iff]
    exact eq_groupThousands_iff (isDecimal_decimal n).nonempty (comma_not_mem_decimal n)
  have written (n : Nat) := (law n (thousands n)).mp rfl
  refine ⟨law, ?_, ?_⟩
  · intro first second same
    rw [← (written first).1.value, same, (written second).1.value]
  · intro n
    exact not_at_ends_of_pieces (written n).2.nil_not_mem

example : thousands 1234567 = ("1,234,567" : Text) := by decide

end GoldenCheck.Text
