/-
Decimal texts: the machine integer a list of digits is read as, and numbers printed with a least
number of digits. The value of the digits is `Nat.ofDigitChars`.
-/
import Xscope.Base.Int64

namespace Xscope

/-! ## Reading -/

/-- The next digit of a number, with checked operations. -/
def pushDigit (n : Int) (c : Char) : Option Int := do
  let tens ← checkedMul n 10
  checkedAdd tens (c.toNat - '0'.toNat : Nat)

/-- The `i64` of a text of digits. -/
def parseI64 (digits : List Char) : Option Int := if digits.isEmpty then none else digits.foldlM pushDigit 0

theorem digit_le {c : Char} (h : c.isDigit = true) : c.toNat - '0'.toNat ≤ 9 := by
  simp only [Char.isDigit, Bool.and_eq_true, decide_eq_true_eq] at h
  have below : c.toNat ≤ 57 := h.2
  show c.toNat - 48 ≤ 9
  omega

theorem ofDigitChars_push (digits : List Char) (c : Char) :
    Nat.ofDigitChars 10 (digits ++ [c]) 0 = 10 * Nat.ofDigitChars 10 digits 0 + (c.toNat - '0'.toNat) := by
  rw [Nat.ofDigitChars_append, Nat.ofDigitChars_cons, Nat.ofDigitChars_nil]

theorem ofDigitChars_lt {digits : List Char} (h : ∀ c ∈ digits, c.isDigit = true) :
    Nat.ofDigitChars 10 digits 0 < 10 ^ digits.length := by
  induction digits using List.reverseRecOn with
  | nil => simp
  | append_singleton digits c ih =>
    have before := ih fun d hd => h d (List.mem_append_left _ hd)
    have last := digit_le (h c (by simp))
    rw [ofDigitChars_push, List.length_append, List.length_singleton, Nat.pow_succ]
    omega

theorem foldl_digits (digits : List Char) (n : Nat) :
    digits.foldl (fun (n : Int) c => n * 10 + (c.toNat - '0'.toNat : Nat)) n =
      (Nat.ofDigitChars 10 digits n : Nat) := by
  induction digits generalizing n with
  | nil => simp
  | cons c rest ih =>
    rw [List.foldl_cons, Nat.ofDigitChars_cons, ← ih]
    congr 1
    push_cast
    omega

/-- Eighteen digits always fit. -/
theorem parseI64_digits {digits : List Char} (h : ∀ c ∈ digits, c.isDigit = true) (some : digits ≠ [])
    (few : digits.length ≤ 18) : parseI64 digits = Option.some (Nat.ofDigitChars 10 digits 0 : Int) := by
  have folded : digits.foldlM pushDigit 0 = Option.some (Nat.ofDigitChars 10 digits 0 : Int) := by
    clear some
    induction digits using List.reverseRecOn with
    | nil => rfl
    | append_singleton digits c ih =>
      rw [List.length_append, List.length_singleton] at few
      have before : ∀ d ∈ digits, d.isDigit = true := fun d hd => h d (List.mem_append_left _ hd)
      have small := ofDigitChars_lt before
      have last := digit_le (h c (by simp))
      have bound : 10 ^ digits.length ≤ 10 ^ 17 := Nat.pow_le_pow_right (by decide) (by omega)
      rw [List.foldlM_append, ih before (by omega)]
      have tens : checkedMul (Nat.ofDigitChars 10 digits 0 : Int) 10 =
          Option.some (Nat.ofDigitChars 10 digits 0 * 10 : Int) := by
        apply checked_of_fits
        constructor <;> simp only [i64Min, i64Max] <;> omega
      show (pushDigit _ c >>= fun n => Option.some n) = _
      unfold pushDigit
      rw [tens, ofDigitChars_push]
      show (checkedAdd _ _ >>= fun n => Option.some n) = _
      rw [checkedAdd, checked_of_fits]
      · show Option.some _ = Option.some _
        congr 1
        push_cast
        omega
      · constructor <;> simp only [i64Min, i64Max] <;> omega
  unfold parseI64
  rw [if_neg (by simpa using some), folded]

/-! ## Printing -/

/-- A number with zeros in front up to the width. -/
def zeroPadded (width n : Nat) : String :=
  String.ofList (List.replicate (width - (toString n).length) '0') ++ toString n

theorem toList_zeroPadded (width n : Nat) :
    (zeroPadded width n).toList = List.replicate (width - (Nat.toDigits 10 n).length) '0' ++ Nat.toDigits 10 n := by
  unfold zeroPadded
  rw [String.toList_append, String.toList_ofList, Nat.toString_eq_repr, ← String.length_toList, Nat.toList_repr]

theorem zeroPadded_digits (width n : Nat) : ∀ c ∈ (zeroPadded width n).toList, c.isDigit = true := by
  intro c hc
  rw [toList_zeroPadded, List.mem_append] at hc
  rcases hc with zero | digit
  · rw [(List.mem_replicate.1 zero).2]
    rfl
  · exact Nat.isDigit_of_mem_toDigits (by decide) (by decide) digit

theorem zeroPadded_value (width n : Nat) : Nat.ofDigitChars 10 (zeroPadded width n).toList 0 = n := by
  rw [toList_zeroPadded, Nat.ofDigitChars_append, Nat.ofDigitChars_replicate_zero, Nat.mul_zero,
    Nat.ofDigitChars_ten_toDigits]

/-- Two integers are printed as the same text only if they are equal. -/
theorem toString_int_inj {a b : Int} (h : toString a = toString b) : a = b := by
  have digits : ∀ {m n : Nat}, (Nat.repr m).toList = (Nat.repr n).toList → m = n := by
    intro m n same
    rw [Nat.toList_repr, Nat.toList_repr] at same
    have value := congrArg (fun digits => Nat.ofDigitChars 10 digits 0) same
    simpa only [Nat.ofDigitChars_ten_toDigits] using value
  -- a sign is no digit
  have sign : ∀ m n : Nat, (Nat.repr m).toList ≠ '-' :: (Nat.repr n).toList := by
    intro m n same
    rw [Nat.toList_repr] at same
    have digit : '-' ∈ Nat.toDigits 10 m := by
      rw [same]
      exact List.mem_cons_self ..
    exact absurd (Nat.isDigit_of_mem_toDigits (by decide) (by decide) digit) (by decide)
  have printed : ∀ n : Nat, (toString (Int.negSucc n)).toList = '-' :: (Nat.repr (n + 1)).toList := by
    intro n
    show ("-" ++ Nat.repr (n + 1)).toList = _
    rw [String.toList_append]
    rfl
  have texts := congrArg String.toList h
  cases a with
  | ofNat m =>
    cases b with
    | ofNat n => exact congrArg Int.ofNat (digits texts)
    | negSucc n =>
      rw [printed] at texts
      exact absurd texts (sign m (n + 1))
  | negSucc m =>
    rw [printed] at texts
    cases b with
    | ofNat n => exact absurd texts.symm (sign n (m + 1))
    | negSucc n =>
      rw [printed] at texts
      have same := digits (List.cons.inj texts).2
      rw [Nat.succ.inj same]

/-- A number below the power of the width takes exactly that many digits. -/
theorem zeroPadded_length {width n : Nat} (some : 0 < width) (h : n < 10 ^ width) :
    (zeroPadded width n).toList.length = width := by
  have short : (Nat.toDigits 10 n).length ≤ width := (Nat.length_toDigits_le_iff (by decide) some).2 h
  rw [toList_zeroPadded, List.length_append, List.length_replicate]
  omega

end Xscope
