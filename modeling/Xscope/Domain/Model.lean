/-
Prices and costs: money amounts in minor units, the priced model definitions of the catalog with
their validation, and the exact cost of a request in micro-units. A validated model has
nonnegative rates, so its cost is nonnegative and grows with the token counts; that is why a
settlement within the reserved limits never costs more than the reservation.
-/
import Xscope.Base.Int64

namespace Xscope

/-! ## Text -/

/-- Unicode white space, as Rust's `trim` strips it. -/
def isSpace (c : Char) : Bool :=
  let n := c.toNat
  (9 ≤ n && n ≤ 13) || n == 32 || n == 0x85 || n == 0xA0 || n == 0x1680 || (0x2000 ≤ n && n ≤ 0x200A) ||
    n == 0x2028 || n == 0x2029 || n == 0x202F || n == 0x205F || n == 0x3000

/-- `value.trim().is_empty()`. -/
def blank (value : String) : Bool := value.toList.all isSpace

/-- A nonempty text of at most 128 bytes, ASCII letters, digits and `extra` only. -/
def identifierWith (extra : List Char) (value : String) : Bool :=
  !value.isEmpty && decide (value.utf8ByteSize ≤ 128) &&
    value.toList.all fun c => c.isAlphanum || extra.contains c

namespace Catalog

/-- The identifiers of the catalog. -/
def identifier (value : String) : Bool := identifierWith ['.', '_', '-'] value

end Catalog

/-! ## Errors of the domain -/

inductive DomainError where
  | required (name : String)
  | unsupportedCurrency
  | negativeAmount
  | negativeTokens
  | costOverflow
  | invalidRpm
  | invalidTpm
  | invalidExpiry
  | invalidScope
  | missingModel
  deriving DecidableEq

def DomainError.message : DomainError → String
  | .required name => name ++ " is required"
  | .unsupportedCurrency => "unsupported currency"
  | .negativeAmount => "amount must be non-negative"
  | .negativeTokens => "token counts must be non-negative"
  | .costOverflow => "usage cost exceeds supported range"
  | .invalidRpm => "rate_limit_rpm must be between 1 and 1000000"
  | .invalidTpm => "rate_limit_tpm must be between 1 and 10000000000"
  | .invalidExpiry => "expires_at must be in the future"
  | .invalidScope => "unsupported API key scope"
  | .missingModel => "at least one allowed model is required"

/-! ## Money -/

def microsPerMinorUnit : Int := 1000000

structure Money where
  currency : String
  amount : Int
  deriving DecidableEq

def Money.cny (amount : Int) : Money := ⟨"CNY", amount⟩

def validateMoney (money : Money) : Except DomainError Unit :=
  if money.currency ≠ "CNY" then .error .unsupportedCurrency
  else if money.amount < 0 then .error .negativeAmount
  else .ok ()

/-! ## Models -/

structure Model where
  id : String
  displayName : String
  maxContextTokens : Int
  inputPerMillionTokens : Money
  outputPerMillionTokens : Money
  priceVersion : String
  deriving DecidableEq

/-- The built-in model. -/
def Model.default : Model :=
  { id := "xscope-demo"
    displayName := "XScope Demo Model"
    maxContextTokens := 32768
    inputPerMillionTokens := Money.cny 1000
    outputPerMillionTokens := Money.cny 2000
    priceVersion := "2026-09-01" }

/-- A price the catalog refuses for a context of `context` tokens. -/
def badPrice (context : Int) (price : Money) : Bool :=
  price.currency != "CNY" || decide (price.amount < 0) || (checkedMul price.amount context).isNone

def Model.validate (m : Model) : Except String Unit :=
  if !Catalog.identifier m.id || !Catalog.identifier m.priceVersion || blank m.displayName
      || decide (256 < m.displayName.utf8ByteSize)
      || !decide (1 ≤ m.maxContextTokens ∧ m.maxContextTokens ≤ 16777216) then
    .error "invalid model identity, display name or context limit"
  else if badPrice m.maxContextTokens m.inputPerMillionTokens ||
    badPrice m.maxContextTokens m.outputPerMillionTokens then
    .error "model prices require nonnegative CNY amounts within integer bounds"
  else if (checkedMul m.maxContextTokens
    (max m.inputPerMillionTokens.amount m.outputPerMillionTokens.amount)).isNone then
    .error "model price exceeds integer bounds"
  else .ok ()

/-- The cost of a request in micro-units, before any rounding. -/
def usageCostMicrounits (model : Model) (inputTokens outputTokens : Int) : Except DomainError Int :=
  if inputTokens < 0 ∨ outputTokens < 0 then .error .negativeTokens
  else
    let cost := do
      let input ← checkedMul inputTokens model.inputPerMillionTokens.amount
      let output ← checkedMul outputTokens model.outputPerMillionTokens.amount
      checkedAdd input output
    match cost with
    | some c => .ok c
    | none => .error .costOverflow

/-- Micro-units in minor units, rounded up. The sum is not checked in the source. -/
def ceilMinorUnits (microunits : Int) : Int :=
  if microunits = 0 then 0
  else (wrapping (microunits + microsPerMinorUnit - 1)).tdiv microsPerMinorUnit

/-- The built-in model passes the validation every catalog write makes. -/
example : Model.default.validate = .ok () := by decide

/-! ## Costs of models with nonnegative rates -/

/-- The rates are nonnegative. -/
def Model.Priced (m : Model) : Prop := 0 ≤ m.inputPerMillionTokens.amount ∧ 0 ≤ m.outputPerMillionTokens.amount

theorem validate_priced {m : Model} (h : m.validate = .ok ()) : m.Priced := by
  unfold Model.validate at h
  split at h
  · cases h
  · split at h
    · cases h
    · rename_i hp
      simp only [badPrice, Bool.or_eq_true, decide_eq_true_eq, not_or, not_lt] at hp
      exact ⟨hp.1.1.2, hp.2.1.2⟩

theorem default_priced : Model.default.Priced := ⟨by decide, by decide⟩

theorem cost_ok {m : Model} {i o c : Int} : usageCostMicrounits m i o = .ok c ↔
    0 ≤ i ∧ 0 ≤ o ∧ Fits (i * m.inputPerMillionTokens.amount) ∧ Fits (o * m.outputPerMillionTokens.amount) ∧ Fits c ∧
      c = i * m.inputPerMillionTokens.amount + o * m.outputPerMillionTokens.amount := by
  unfold usageCostMicrounits checkedMul checkedAdd
  by_cases hneg : i < 0 ∨ o < 0
  · rw [if_pos hneg]
    constructor
    · intro h; cases h
    · rintro ⟨h1, h2, -⟩; omega
  · rw [if_neg hneg]
    by_cases h1 : Fits (i * m.inputPerMillionTokens.amount)
    · by_cases h2 : Fits (o * m.outputPerMillionTokens.amount)
      · rw [checked_of_fits h1, checked_of_fits h2]
        simp only [Option.bind_eq_bind, Option.bind_some]
        by_cases h3 : Fits (i * m.inputPerMillionTokens.amount + o * m.outputPerMillionTokens.amount)
        · rw [checked_of_fits h3]
          constructor
          · intro h; cases h; exact ⟨by omega, by omega, h1, h2, h3, rfl⟩
          · rintro ⟨-, -, -, -, -, rfl⟩; rfl
        · rw [checked_none.2 h3]
          constructor
          · intro h; cases h
          · rintro ⟨-, -, -, -, hc, rfl⟩; exact absurd hc h3
      · rw [checked_of_fits h1, checked_none.2 h2]
        simp [h2]
    · rw [checked_none.2 h1]
      simp [h1]

theorem cost_nonneg {m : Model} {i o c : Int} (hm : m.Priced) (h : usageCostMicrounits m i o = .ok c) : 0 ≤ c := by
  obtain ⟨hi, ho, -, -, -, rfl⟩ := cost_ok.1 h
  exact add_nonneg (mul_nonneg hi hm.1) (mul_nonneg ho hm.2)

theorem cost_fits {m : Model} {i o c : Int} (h : usageCostMicrounits m i o = .ok c) : Fits c := (cost_ok.1 h).2.2.2.2.1

/-- Fewer tokens cost no more, and the cost of fewer tokens is never out of range. -/
theorem cost_mono {m : Model} {i o i' o' c : Int} (hm : m.Priced) (h : usageCostMicrounits m i o = .ok c)
    (hi : 0 ≤ i') (ho : 0 ≤ o') (hii : i' ≤ i) (hoo : o' ≤ o) :
    ∃ c', usageCostMicrounits m i' o' = .ok c' ∧ c' ≤ c := by
  obtain ⟨-, -, f1, f2, f3, rfl⟩ := cost_ok.1 h
  have a1 : i' * m.inputPerMillionTokens.amount ≤ i * m.inputPerMillionTokens.amount :=
    mul_le_mul_of_nonneg_right hii hm.1
  have a2 : o' * m.outputPerMillionTokens.amount ≤ o * m.outputPerMillionTokens.amount :=
    mul_le_mul_of_nonneg_right hoo hm.2
  have b1 := mul_nonneg hi hm.1
  have b2 := mul_nonneg ho hm.2
  exact ⟨_, cost_ok.2 ⟨hi, ho, fits_zero.of_between f1 b1 a1, fits_zero.of_between f2 b2 a2,
    fits_zero.of_between f3 (add_nonneg b1 b2) (add_le_add a1 a2), rfl⟩, add_le_add a1 a2⟩

end Xscope
