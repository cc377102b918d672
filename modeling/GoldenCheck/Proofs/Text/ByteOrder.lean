import GoldenCheck.Proofs.Order
import GoldenCheck.Proofs.Text.Utf8
import Mathlib.Data.Char

/-!
# Texts and their bytes have the same order

Texts are compared by their code points, bytes by their numbers.  A spelling with more bytes
has a greater lead byte and a greater code point.  Of two spellings with equally many bytes,
the code points are numerals to base 64 whose digits stand in the bytes, so the first
difference decides both comparisons.  Writing texts as UTF-8 therefore keeps their order.
-/

namespace GoldenCheck.Text

/-! ## Spellings as numerals -/

/-- Continue a number by the payloads of continuation bytes, as digits to base 64. -/
def extend (front : Nat) (tail : Bytes) : Nat :=
  tail.foldl (fun number byte => number * 64 + payload byte) front

theorem extend_cons (front : Nat) (byte : UInt8) (tail : Bytes) :
    extend front (byte :: tail) = extend (front * 64 + payload byte) tail :=
  rfl

/-- A lesser numeral is less at the first digit where equally long numerals differ, and the
bytes are ordered by that place, whatever follows. -/
theorem append_lt_append_of_extend_lt {first second : Bytes}
    (sameLength : first.length = second.length)
    (continued : ∀ byte ∈ first, isContinuation byte = true)
    (alsoContinued : ∀ byte ∈ second, isContinuation byte = true) {front other : Nat}
    (below : extend front first < extend other second) :
    front < other ∨ front = other ∧ ∀ rest later, first ++ rest < second ++ later := by
  induction first generalizing second front other with
  | nil =>
      rw [List.length_nil, eq_comm, List.length_eq_zero_iff] at sameLength
      subst sameLength
      exact .inl below
  | cons x first ih =>
      cases second with
      | nil => contradiction
      | cons y second =>
          rcases List.forall_mem_cons.mp continued with ⟨x_continues, continued⟩
          rcases List.forall_mem_cons.mp alsoContinued with ⟨y_continues, alsoContinued⟩
          rw [isContinuation_iff] at x_continues y_continues
          rw [extend_cons, extend_cons] at below
          have digits := ih (Nat.succ.inj sameLength) continued alsoContinued below
          simp only [payload] at digits
          by_cases lower : front < other
          · exact .inl lower
          · have sameFront : front = other := by omega
            refine .inr ⟨sameFront, ?_⟩
            intro rest later
            rw [List.cons_append, List.cons_append, List.cons_lt_cons_iff,
              UInt8.lt_iff_toNat_lt, ← UInt8.toNat_inj]
            rcases digits with less | ⟨same, tails⟩
            · left
              omega
            · right
              exact ⟨by omega, tails rest later⟩

/-- The lead byte of a spelling tells how many bytes follow and how the numeral begins. -/
theorem Spells.exists_extend {unit : Bytes} {code : Nat} (spells : Spells unit code) :
    ∃ lead tail front, unit = lead :: tail ∧ code = extend front tail ∧
      (∀ byte ∈ tail, isContinuation byte = true) ∧
      (tail.length = 0 ∧ lead.toNat = front ∧ front < 0x80 ∧ code < 0x80 ∨
        tail.length = 1 ∧ lead.toNat = 0xc0 + front ∧ front < 0x20 ∧ 0x80 ≤ code ∧ code < 0x800 ∨
        tail.length = 2 ∧ lead.toNat = 0xe0 + front ∧ front < 0x10 ∧ 0x800 ≤ code ∧
          code < 0x10000 ∨
        tail.length = 3 ∧ lead.toNat = 0xf0 + front ∧ 0x10000 ≤ code) := by
  cases spells with
  | @one lead first =>
      exact ⟨lead, [], lead.toNat, rfl, rfl, nofun,
        .inl ⟨rfl, rfl, first, first⟩⟩
  | @two lead second first continued =>
      refine ⟨lead, [second], lead.toNat % 32, rfl, rfl, by simpa using continued,
        .inr (.inl ⟨rfl, ?_⟩)⟩
      rw [payload]
      omega
  | @three lead second third first follows continued =>
      rw [followsThree_iff] at follows
      refine ⟨lead, [second, third], lead.toNat % 16, rfl, rfl, ?_,
        .inr (.inr (.inl ⟨rfl, ?_⟩))⟩
      · simp only [List.forall_mem_cons, @isContinuation_iff second]
        exact ⟨by omega, continued, nofun⟩
      · simp only [payload]
        omega
  | @four lead second third fourth first follows continued ended =>
      rw [followsFour_iff] at follows
      refine ⟨lead, [second, third, fourth], lead.toNat % 8, rfl, rfl, ?_,
        .inr (.inr (.inr ⟨rfl, ?_⟩))⟩
      · simp only [List.forall_mem_cons, @isContinuation_iff second]
        exact ⟨by omega, continued, ended, nofun⟩
      · simp only [payload]
        omega

/-- The spelling of a lesser code point comes first, whatever follows. -/
theorem Spells.append_lt_append {unit other : Bytes} {code number : Nat}
    (spells : Spells unit code) (alsoSpells : Spells other number) (below : code < number)
    (rest later : Bytes) : unit ++ rest < other ++ later := by
  rcases spells.exists_extend with ⟨lead, tail, front, rfl, code_eq, continued, shape⟩
  rcases alsoSpells.exists_extend with
    ⟨lead', tail', front', rfl, number_eq, alsoContinued, shape'⟩
  rw [List.cons_append, List.cons_append, List.cons_lt_cons_iff, UInt8.lt_iff_toNat_lt,
    ← UInt8.toNat_inj]
  by_cases sameLength : tail.length = tail'.length
  · rw [code_eq, number_eq] at below
    rcases append_lt_append_of_extend_lt sameLength continued alsoContinued below with
      less | ⟨same, tails⟩
    · left
      omega
    · right
      exact ⟨by omega, tails rest later⟩
  · left
    omega

/-! ## Whole texts -/

/-- Writing texts as UTF-8 keeps their order. -/
theorem encode_lt_encode {first second : Text} (below : first < second) :
    encode first < encode second := by
  induction below with
  | @nil c second =>
      rw [encode_nil, encode_cons]
      rcases (spells_utf8EncodeChar c).exists_extend with ⟨lead, tail, -, unit_eq, -⟩
      rw [unit_eq]
      exact List.Lex.nil
  | @rel c first d second less =>
      rw [encode_cons, encode_cons]
      exact (spells_utf8EncodeChar c).append_lt_append (spells_utf8EncodeChar d) less _ _
  | @cons c first second _ ih =>
      rw [encode_cons, encode_cons]
      exact List.append_left_lt ih

/-- Texts compare as their bytes do. -/
theorem compare_encode (first second : Text) :
    compare (encode first) (encode second) = compare first second := by
  have keeps {first second : Text} (below : compare first second = .lt) :
      compare (encode first) (encode second) = .lt := by
    rw [compare_list_eq_lt_iff fun _ _ => compare_lt_iff_lt] at below
    rw [compare_list_eq_lt_iff fun _ _ => Std.compare_eq_lt]
    exact encode_lt_encode below
  cases side : compare first second with
  | lt => exact keeps side
  | eq =>
      rw [Std.LawfulEqOrd.eq_of_compare side]
      exact Std.ReflCmp.compare_self
  | gt => exact Std.OrientedCmp.gt_of_lt (keeps (Std.OrientedCmp.lt_of_gt side))

end GoldenCheck.Text
