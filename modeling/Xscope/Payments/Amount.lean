/-
The amounts of the provider: exactly the decimals with at most two places are read, with their exact
value and without overflow, and every amount within the provider's bounds is printed and read back.
-/
import Xscope.Base.Decimal
import Xscope.Payments.Notification

namespace Xscope

/-- One to nine digits, and a point with one or two digits if there is one. -/
structure AmountText (text whole fraction : List Char) : Prop where
  text : text = whole ++ if fraction = [] then [] else '.' :: fraction
  digits : ∀ c ∈ whole, c.isDigit = true
  leading : 1 ≤ whole.length ∧ whole.length ≤ 9
  decimals : ∀ c ∈ fraction, c.isDigit = true
  places : fraction.length ≤ 2

/-- The exact value of an amount, in yuan. -/
def amountValue (whole fraction : List Char) : ℚ :=
  Nat.ofDigitChars 10 whole 0 + Nat.ofDigitChars 10 fraction 0 / 10 ^ fraction.length

def amountInBounds (minor : Int) : Prop := 1 ≤ minor ∧ minor ≤ 10000000000

instance (minor : Int) : Decidable (amountInBounds minor) := inferInstanceAs (Decidable (_ ∧ _))

def formatAmount (minor : Int) : Except ProviderError String :=
  if ¬amountInBounds minor then .error (.invalid "amount outside provider bounds")
  else .ok (toString (minor / 100) ++ "." ++ zeroPadded 2 (minor % 100).toNat)

/-! ## Machine integers -/

/-- The texts that `parse_amount` refuses before it reads a number. -/
def malformedAmount (text whole fraction : List Char) : Bool :=
  whole.isEmpty || decide (9 < whole.length) || !whole.all Char.isDigit || decide (2 < fraction.length) ||
    !fraction.all Char.isDigit || (text.contains '.' && fraction.isEmpty)

/-- The sum of `parse_amount`, nothing where one of its operations overflows. -/
def machineSum (yuan cents : Int) (places : Nat) : Option Int := do
  let hundreds ← checkedMul yuan 100
  let hundredths ← if places = 1 then checkedMul cents 10 else some cents
  checkedAdd hundreds hundredths

/-- `parse_amount` with the machine integers of the source, nothing where one overflows. -/
def machineAmount (value : String) : Option (Except ProviderError Int) :=
  let text := value.toList
  let whole := text.takeWhile (· ≠ '.')
  let fraction := (text.dropWhile (· ≠ '.')).tail
  if malformedAmount text whole fraction then some (.error (.invalid "invalid CNY decimal amount"))
  else match parseI64 whole with
    | none => some (.error (.invalid "amount overflow"))
    | some yuan => match if fraction.isEmpty then some 0 else parseI64 fraction with
      | none => some (.error (.invalid "invalid cents"))
      | some cents => (machineSum yuan cents fraction.length).map fun amount =>
        if ¬amountInBounds amount then .error (.invalid "amount outside provider bounds") else .ok amount

/-! ## The grammar -/

theorem not_dot_of_digit {c : Char} (h : c.isDigit = true) : c ≠ '.' := by
  rintro rfl
  revert h
  decide

section

variable {text whole fraction : List Char}

/-- The first point is where the text is split. -/
theorem AmountText.split (a : AmountText text whole fraction) :
    text.takeWhile (· ≠ '.') = whole ∧ (text.dropWhile (· ≠ '.')).tail = fraction := by
  have plain : ∀ c ∈ whole, decide (c ≠ '.') = true := by
    intro c hc
    simpa using not_dot_of_digit (a.digits c hc)
  rw [a.text, List.takeWhile_append_of_pos plain, List.dropWhile_append_of_pos plain]
  split
  · rename_i none
    simp [none]
  · simp

theorem AmountText.shaped (a : AmountText text whole fraction) : malformedAmount text whole fraction = false := by
  have some : whole ≠ [] := by
    rintro rfl
    exact absurd a.leading.1 (by decide)
  have point : fraction = [] → '.' ∉ text := by
    rintro rfl dotted
    rw [a.text, if_pos rfl, List.append_nil] at dotted
    exact not_dot_of_digit (a.digits '.' dotted) rfl
  unfold malformedAmount
  simp only [Bool.or_eq_false_iff, Bool.and_eq_false_iff, Bool.not_eq_false', List.all_eq_true, decide_eq_false_iff_not,
    List.isEmpty_eq_false_iff, List.contains_eq_mem]
  refine ⟨⟨⟨⟨⟨some, by have := a.leading.2; omega⟩, a.digits⟩, by have := a.places; omega⟩, a.decimals⟩, ?_⟩
  by_cases absent : fraction = []
  · exact .inl (point absent)
  · exact .inr absent

theorem amountText_of_shaped
    (h : malformedAmount text (text.takeWhile (· ≠ '.')) (text.dropWhile (· ≠ '.')).tail = false) :
    AmountText text (text.takeWhile (· ≠ '.')) (text.dropWhile (· ≠ '.')).tail := by
  unfold malformedAmount at h
  simp only [Bool.or_eq_false_iff, Bool.and_eq_false_iff, Bool.not_eq_false', List.all_eq_true, decide_eq_false_iff_not,
    List.isEmpty_eq_false_iff, List.contains_eq_mem] at h
  obtain ⟨⟨⟨⟨⟨some, long⟩, whole⟩, places⟩, fraction⟩, point⟩ := h
  refine ⟨?_, whole, ⟨List.length_pos_iff.2 some, by omega⟩, fraction, by omega⟩
  have parts := @List.takeWhile_append_dropWhile _ (fun c => decide (c ≠ '.')) text
  cases rest : text.dropWhile fun c => decide (c ≠ '.') with
  | nil =>
    rw [rest, List.append_nil] at parts
    rw [List.tail_nil, if_pos rfl, List.append_nil, parts]
  | cons dot digits =>
    have dotted : dot = '.' := by
      have first := List.head_dropWhile_not (fun c => decide (c ≠ '.')) (w := by rw [rest]; simp)
      simp only [rest, List.head_cons] at first
      simpa using first
    have decimals : digits ≠ [] := by
      rcases point with absent | present
      · exfalso
        apply absent
        rw [← parts, rest, dotted]
        simp
      · rwa [rest] at present
    rw [rest, dotted] at parts
    rw [List.tail_cons, if_neg decimals, parts]

/-! ## Values -/

/-- The amount of a well-formed text, in fen. -/
def amountMinor (whole fraction : List Char) : Int :=
  Nat.ofDigitChars 10 whole 0 * 100 +
    if fraction.length = 1 then (Nat.ofDigitChars 10 fraction 0 : Int) * 10 else (Nat.ofDigitChars 10 fraction 0 : Int)

theorem AmountText.exact (a : AmountText text whole fraction) :
    (amountMinor whole fraction : ℚ) = amountValue whole fraction * 100 := by
  have places : fraction.length = 0 ∨ fraction.length = 1 ∨ fraction.length = 2 := by
    have := a.places
    omega
  unfold amountMinor amountValue
  rcases places with zero | one | two
  · rw [List.length_eq_zero_iff.1 zero]
    simp
  · rw [if_pos one, one]
    push_cast
    ring
  · rw [if_neg (by omega), two]
    push_cast
    ring

theorem AmountText.fits (a : AmountText text whole fraction) :
    machineSum (Nat.ofDigitChars 10 whole 0) (Nat.ofDigitChars 10 fraction 0) fraction.length =
      some (amountMinor whole fraction) := by
  have yuan : Nat.ofDigitChars 10 whole 0 < 10 ^ 9 :=
    lt_of_lt_of_le (ofDigitChars_lt a.digits) (Nat.pow_le_pow_right (by decide) a.leading.2)
  have cents : Nat.ofDigitChars 10 fraction 0 < 10 ^ 2 :=
    lt_of_lt_of_le (ofDigitChars_lt a.decimals) (Nat.pow_le_pow_right (by decide) a.places)
  have within : ∀ x : Int, 0 ≤ x → x < 10 ^ 12 → Fits x := by
    intro x low high
    constructor <;> simp only [i64Min, i64Max] <;> omega
  unfold machineSum amountMinor
  rw [checkedMul, checked_of_fits (within _ (by omega) (by omega))]
  split
  · rw [checkedMul, checked_of_fits (within _ (by omega) (by omega))]
    exact checked_of_fits (within _ (by omega) (by omega))
  · exact checked_of_fits (within _ (by omega) (by omega))

/-! ## Reading -/

theorem parseAmount_text {value : String} (a : AmountText value.toList whole fraction) : parseAmount value =
    if ¬amountInBounds (amountMinor whole fraction) then .error (.invalid "amount outside provider bounds")
    else .ok (amountMinor whole fraction) := by
  have read : ∀ digits : List Char, digits.foldl (fun (n : Int) c => n * 10 + (c.toNat - '0'.toNat : Nat)) 0 =
      (Nat.ofDigitChars 10 digits 0 : Nat) := fun digits => foldl_digits digits 0
  have shaped := a.shaped
  unfold malformedAmount at shaped
  unfold parseAmount
  simp only [a.split.1, a.split.2, shaped, read]
  rw [if_neg Bool.false_ne_true]
  rfl

theorem parseAmount_malformed {value : String} (h : ∀ whole fraction, ¬AmountText value.toList whole fraction) :
    parseAmount value = .error (.invalid "invalid CNY decimal amount") := by
  unfold parseAmount
  apply if_pos
  by_contra shaped
  exact h _ _ (amountText_of_shaped (Bool.eq_false_iff.2 shaped))

theorem machineAmount_parse (value : String) : machineAmount value = some (parseAmount value) := by
  by_cases h : ∃ whole fraction, AmountText value.toList whole fraction
  · obtain ⟨whole, fraction, a⟩ := h
    have yuan : parseI64 whole = some (Nat.ofDigitChars 10 whole 0 : Int) := by
      apply parseI64_digits a.digits
      · rintro rfl
        exact absurd a.leading.1 (by decide)
      · have := a.leading.2
        omega
    have cents : (if fraction.isEmpty then some 0 else parseI64 fraction) =
        some (Nat.ofDigitChars 10 fraction 0 : Int) := by
      split
      · rename_i none
        rw [List.isEmpty_iff.1 none]
        rfl
      · rename_i present
        apply parseI64_digits a.decimals (by simpa using present)
        have := a.places
        omega
    rw [parseAmount_text a]
    unfold machineAmount
    simp only [a.split.1, a.split.2, a.shaped, yuan, cents, a.fits]
    rfl
  · simp only [not_exists] at h
    rw [parseAmount_malformed h]
    unfold machineAmount
    apply if_pos
    by_contra shaped
    exact h _ _ (amountText_of_shaped (Bool.eq_false_iff.2 shaped))

/-! ## Printing -/

theorem formatAmount_text {minor : Int} (h : amountInBounds minor) : ∃ text, formatAmount minor = .ok text ∧
    ∃ whole fraction, AmountText text.toList whole fraction ∧ amountMinor whole fraction = minor := by
  obtain ⟨n, rfl⟩ := Int.eq_ofNat_of_zero_le (by have := h.1; omega : 0 ≤ minor)
  obtain ⟨low, high⟩ := h
  have small : n % 100 < 10 ^ 2 := Nat.mod_lt _ (by decide)
  have places := zeroPadded_length (by decide : 0 < 2) small
  refine ⟨toString (n / 100) ++ "." ++ zeroPadded 2 (n % 100), ?_, Nat.toDigits 10 (n / 100),
    (zeroPadded 2 (n % 100)).toList, ?_, ?_⟩
  · unfold formatAmount
    rw [if_neg (not_not_intro ⟨low, high⟩)]
    rfl
  · refine ⟨?_, fun c hc => Nat.isDigit_of_mem_toDigits (by decide) (by decide) hc, ⟨Nat.length_toDigits_pos, ?_⟩,
      zeroPadded_digits 2 _, by omega⟩
    · rw [if_neg]
      · simp
      · intro none
        rw [none] at places
        cases places
    · apply (Nat.length_toDigits_le_iff (by decide) (by decide)).2
      omega
  · unfold amountMinor
    rw [if_neg (by omega), zeroPadded_value, Nat.ofDigitChars_ten_toDigits]
    omega

end

/-- An amount is read exactly from the decimals of the grammar, with their exact value, within the
    provider's bounds and without overflow; each amount within them is printed as a text that is
    read back, and no other one is printed. -/
theorem amount_codec :
    (∀ (value : String) (n : Int), parseAmount value = .ok n ↔
      amountInBounds n ∧ ∃ whole fraction, AmountText value.toList whole fraction ∧
        amountValue whole fraction * 100 = n) ∧
    (∀ value : String, machineAmount value = some (parseAmount value)) ∧
    (∀ n : Int, amountInBounds n → ∃ text, formatAmount n = .ok text ∧ parseAmount text = .ok n) ∧
    ∀ n : Int, ¬amountInBounds n → ∃ e, formatAmount n = .error e := by
  refine ⟨?_, machineAmount_parse, ?_, ?_⟩
  · intro value n
    constructor
    · intro h
      by_cases text : ∃ whole fraction, AmountText value.toList whole fraction
      · obtain ⟨whole, fraction, a⟩ := text
        rw [parseAmount_text a] at h
        split at h
        · cases h
        · rename_i bounds
          cases h
          exact ⟨not_not.1 bounds, whole, fraction, a, a.exact.symm⟩
      · simp only [not_exists] at text
        rw [parseAmount_malformed text] at h
        cases h
    · rintro ⟨bounds, whole, fraction, a, exact⟩
      have same : amountMinor whole fraction = n := by
        rw [← a.exact] at exact
        exact_mod_cast exact
      rw [parseAmount_text a, same, if_neg (not_not_intro bounds)]
  · intro n bounds
    obtain ⟨text, printed, whole, fraction, a, same⟩ := formatAmount_text bounds
    refine ⟨text, printed, ?_⟩
    rw [parseAmount_text a, same, if_neg (not_not_intro bounds)]
  · intro n outside
    exact ⟨_, if_pos outside⟩

end Xscope
