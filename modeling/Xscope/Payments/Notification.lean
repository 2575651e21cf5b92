/-
Notifications of the payment provider. The provider signs the fields joined as they are, so one
signed text can be the text of several forms. The fields of the trade have no separator in them,
and so a form whose values do not imitate one of these fields has the only trade its text can have.
-/
import Xscope.Base.Joined
import Xscope.Payments.TopUp

namespace Xscope

/-! ## The provider client -/

inductive ProviderError where
  | invalid (message : String)
  | signature
  deriving DecidableEq

/-- Yuan with at most two decimals, in fen. -/
def parseAmount (value : String) : Except ProviderError Int :=
  let text := value.toList
  let whole := text.takeWhile (· ≠ '.')
  let fraction := (text.dropWhile (· ≠ '.')).tail
  if whole.isEmpty || decide (9 < whole.length) || !whole.all Char.isDigit || decide (2 < fraction.length) ||
      !fraction.all Char.isDigit || (text.contains '.' && fraction.isEmpty) then
    .error (.invalid "invalid CNY decimal amount")
  else
    let number (digits : List Char) : Int := digits.foldl (fun n c => n * 10 + (c.toNat - '0'.toNat : Nat)) 0
    let amount := number whole * 100 + if fraction.length = 1 then number fraction * 10 else number fraction
    if ¬(1 ≤ amount ∧ amount ≤ 10000000000) then .error (.invalid "amount outside provider bounds") else .ok amount

/-- An identifier of the provider. -/
def providerIdentifier (value : String) : Bool :=
  !value.isEmpty && decide (value.utf8ByteSize ≤ 64) && value.toList.all fun c => c.isAlphanum || ['_', '-'].contains c

def tradeStates : List String := ["WAIT_BUYER_PAY", "TRADE_SUCCESS", "TRADE_FINISHED", "TRADE_CLOSED"]

/-- The client of one merchant, with what it uses of its libraries. -/
structure ProviderClient where
  appId : String
  sellerId : String
  /-- The fields of a form, in its order. -/
  decode : List UInt8 → Option (List (String × String))
  /-- Whether a text has the given signature of the provider. -/
  verifies : String → String → Bool
  sha256 : String → String
  /-- The record of a signed text and its signature. -/
  evidence : String → String → String

def validKey (key : String) : Bool :=
  !key.isEmpty && decide (key.utf8ByteSize ≤ 128) && key.toList.all fun c => c.isAlphanum || c == '_'

/-- A field put in its place by its key. -/
def insertField (key value : String) : List (String × String) → List (String × String)
  | [] => [(key, value)]
  | field :: rest => if key < field.1 then (key, value) :: field :: rest else field :: insertField key value rest

/-- The fields of a form by their keys, after those in `values`. -/
def collectFields (values : List (String × String)) :
    List (String × String) → Except ProviderError (List (String × String))
  | [] => .ok values
  | (key, value) :: rest =>
    if validKey key = false ∨ '\ufffd' ∈ value.toList ∨ key ∈ values.map Prod.fst then
      .error (.invalid "duplicate or invalid notification field")
    else collectFields (insertField key value values) rest

def signedFields (values : List (String × String)) (notification : Bool) : List (String × String) :=
  values.filter fun p => p.1 != "sign" && !(notification && p.1 == "sign_type") && !p.2.isEmpty

def fieldChars (p : String × String) : List Char × List Char := (p.1.toList, p.2.toList)

/-- The text that is signed: the fields as they are, joined. -/
def canonical (values : List (String × String)) (notification : Bool) : String :=
  String.ofList (Joined.join '&' '=' ((signedFields values notification).map fieldChars))

namespace ProviderClient

variable (client : ProviderClient)

def readForm (bytes : List UInt8) : Except ProviderError (List (String × String)) :=
  if 64 * 1024 < bytes.length then .error (.invalid "payment callback exceeds bound")
  else match client.decode bytes with
    | none => .error (.invalid "invalid notification form")
    | some fields => collectFields [] fields

def field (values : List (String × String)) (name : String) : Except ProviderError String :=
  match values.lookup name with
  | some value => .ok value
  | none => .error (.invalid "notification field missing")

def require (c : Prop) [Decidable c] (e : ProviderError) : Except ProviderError Unit := if c then .ok () else .error e

def mismatch : ProviderError := .invalid "notification merchant, charset or algorithm mismatch"

def verifiedTrade (order trade : String) (amount : Int) (state content signature : String) :
    Except ProviderError VerifiedTrade :=
  if providerIdentifier order = false ∨ providerIdentifier trade = false ∨ state ∉ tradeStates then
    .error (.invalid "invalid trade identity or state")
  else .ok
    { orderId := order, tradeId := trade, amountMinor := amount, state := state, proofSha256 := client.sha256 content
      evidence := client.evidence content signature }

def verifyNotification (bytes : List UInt8) : Except ProviderError VerifiedTrade := do
  let values ← client.readForm bytes
  require ((← field values "sign_type") = "RSA2") mismatch
  require ((← field values "charset").toList.map Char.toLower = "utf-8".toList) mismatch
  require ((← field values "app_id") = client.appId) mismatch
  require ((← field values "seller_id") = client.sellerId) mismatch
  let content := canonical values true
  let sign ← field values "sign"
  require (client.verifies content sign = true) .signature
  let order ← field values "out_trade_no"
  let trade ← field values "trade_no"
  let amount ← parseAmount (← field values "total_amount")
  let state ← field values "trade_status"
  client.verifiedTrade order trade amount state content sign

end ProviderClient

/-! ## The fields of a form -/

/-- The fields that make the trade. -/
def tradeFields : List String := ["out_trade_no", "trade_no", "total_amount", "trade_status"]

/-- The keys of the fields are distinct and valid. -/
structure FormFields (values : List (String × String)) : Prop where
  nodup : (values.map Prod.fst).Nodup
  valid : ∀ p ∈ values, validKey p.1 = true

theorem insertField_perm (key value : String) (values : List (String × String)) :
    (insertField key value values).Perm ((key, value) :: values) := by
  induction values with
  | nil => exact .refl _
  | cons field rest ih =>
    unfold insertField
    split
    · exact .refl _
    · exact (ih.cons field).trans (.swap (key, value) field rest)

theorem collectFields_fields {values fields result : List (String × String)} (f : FormFields values)
    (h : collectFields values fields = .ok result) : FormFields result := by
  induction fields generalizing values with
  | nil =>
    cases h
    exact f
  | cons field rest ih =>
    obtain ⟨key, value⟩ := field
    unfold collectFields at h
    split at h
    · cases h
    · rename_i accepted
      push Not at accepted
      obtain ⟨valid, -, fresh⟩ := accepted
      have perm := insertField_perm key value values
      refine ih ⟨?_, ?_⟩ h
      · rw [(perm.map Prod.fst).nodup_iff, List.map_cons, List.nodup_cons]
        exact ⟨fresh, f.nodup⟩
      · intro p held
        rcases List.mem_cons.1 (perm.mem_iff.1 held) with rfl | held
        · exact eq_true_of_ne_false valid
        · exact f.valid p held

theorem ProviderClient.readForm_fields {client : ProviderClient} {bytes : List UInt8} {values : List (String × String)}
    (h : client.readForm bytes = .ok values) : FormFields values := by
  unfold ProviderClient.readForm at h
  split at h
  · cases h
  · split at h
    · cases h
    · exact @collectFields_fields [] _ _ ⟨List.nodup_nil, fun p held => absurd held List.not_mem_nil⟩ h

/-! ## Values without a separator -/

theorem not_mem_of_all {text : List Char} {p : Char → Bool} {c : Char} (h : text.all p = true)
    (hc : p c = false) : c ∉ text := by
  intro held
  rw [List.all_eq_true.1 h c held] at hc
  cases hc

theorem validKey_plain {key : String} (h : validKey key = true) : '&' ∉ key.toList ∧ '=' ∉ key.toList := by
  unfold validKey at h
  rw [Bool.and_eq_true] at h
  exact ⟨not_mem_of_all h.2 (by decide), not_mem_of_all h.2 (by decide)⟩

theorem providerIdentifier_plain {value : String} (h : providerIdentifier value = true) :
    '&' ∉ value.toList ∧ value.isEmpty = false := by
  unfold providerIdentifier at h
  simp only [Bool.and_eq_true, Bool.not_eq_true'] at h
  exact ⟨not_mem_of_all h.2 (by decide), h.1.1⟩

theorem tradeStates_plain : ∀ state ∈ tradeStates, '&' ∉ state.toList ∧ state.isEmpty = false := by decide

theorem parseAmount_plain {value : String} {amount : Int} (h : parseAmount value = .ok amount) :
    '&' ∉ value.toList ∧ value.isEmpty = false := by
  unfold parseAmount at h
  simp only at h
  split at h
  · cases h
  · rename_i shaped
    simp only [Bool.or_eq_true, not_or, Bool.not_eq_true, Bool.not_eq_false'] at shaped
    obtain ⟨⟨⟨⟨⟨nonempty, -⟩, whole⟩, -⟩, fraction⟩, -⟩ := shaped
    have text := @List.takeWhile_append_dropWhile _ (fun c => decide (c ≠ '.')) value.toList
    constructor
    · intro held
      rw [← text, List.mem_append] at held
      rcases held with held | held
      · exact not_mem_of_all whole (by decide) held
      · cases rest : value.toList.dropWhile fun c => decide (c ≠ '.') with
        | nil =>
          rw [rest] at held
          cases held
        | cons dot digits =>
          rw [rest] at held fraction
          have dotted : dot = '.' := by
            have first := List.head_dropWhile_not (fun c => decide (c ≠ '.')) (w := by rw [rest]; simp)
            simp only [rest, List.head_cons] at first
            simpa using first
          rcases List.mem_cons.1 held with same | held
          · rw [dotted] at same
            cases same
          · exact not_mem_of_all fraction (by decide) held
    · rw [String.isEmpty_eq_false_iff]
      rintro rfl
      cases nonempty

/-! ## What an accepted notification says -/

/-- The fields of an accepted trade, all of them free of the separator. -/
structure TradeFields (values : List (String × String)) (trade : VerifiedTrade) (amountText : String) : Prop where
  order : values.lookup "out_trade_no" = some trade.orderId
  number : values.lookup "trade_no" = some trade.tradeId
  amount : values.lookup "total_amount" = some amountText
  state : values.lookup "trade_status" = some trade.state
  parsed : parseAmount amountText = .ok trade.amountMinor
  plain : ∀ value ∈ [trade.orderId, trade.tradeId, amountText, trade.state], '&' ∉ value.toList ∧ value.isEmpty = false

namespace ProviderClient

variable {client : ProviderClient} {bytes : List UInt8} {trade : VerifiedTrade}
    {values values' : List (String × String)}

theorem bind_ok {α β : Type} {x : Except ProviderError α} {f : α → Except ProviderError β} {b : β}
    (h : x >>= f = .ok b) :
    ∃ a, x = .ok a ∧ f a = .ok b := by
  cases x with
  | error e => cases h
  | ok a => exact ⟨a, rfl, h⟩

theorem field_ok {name value : String} (h : field values name = .ok value) : values.lookup name = some value := by
  unfold field at h
  split at h
  · cases h
    assumption
  · cases h

theorem require_ok {c : Prop} [Decidable c] {e : ProviderError} {u : Unit} (h : require c e = .ok u) : c := by
  unfold require at h
  split at h
  · assumption
  · cases h

theorem verifiedTrade_ok {order number state content signature : String} {amount : Int}
    (h : client.verifiedTrade order number amount state content signature = .ok trade) :
    (trade.orderId = order ∧ trade.tradeId = number ∧ trade.amountMinor = amount ∧ trade.state = state) ∧
      providerIdentifier order = true ∧ providerIdentifier number = true ∧ state ∈ tradeStates := by
  unfold verifiedTrade at h
  split at h
  · cases h
  · rename_i named
    push Not at named
    cases h
    exact ⟨⟨rfl, rfl, rfl, rfl⟩, eq_true_of_ne_false named.1, eq_true_of_ne_false named.2.1, named.2.2⟩

/-- An accepted notification is a signed text with the fields of its trade. -/
theorem verifyNotification_ok (h : client.verifyNotification bytes = .ok trade) :
    ∃ values sign amountText, client.readForm bytes = .ok values ∧ client.verifies (canonical values true) sign = true ∧
      TradeFields values trade amountText := by
  unfold verifyNotification at h
  obtain ⟨values, read, h⟩ := bind_ok h
  obtain ⟨_, -, h⟩ := bind_ok h
  obtain ⟨_, -, h⟩ := bind_ok h
  obtain ⟨_, -, h⟩ := bind_ok h
  obtain ⟨_, -, h⟩ := bind_ok h
  obtain ⟨_, -, h⟩ := bind_ok h
  obtain ⟨_, -, h⟩ := bind_ok h
  obtain ⟨_, -, h⟩ := bind_ok h
  obtain ⟨_, -, h⟩ := bind_ok h
  obtain ⟨sign, -, h⟩ := bind_ok h
  obtain ⟨_, verified, h⟩ := bind_ok h
  obtain ⟨order, hasOrder, h⟩ := bind_ok h
  obtain ⟨number, hasNumber, h⟩ := bind_ok h
  obtain ⟨amountText, hasAmount, h⟩ := bind_ok h
  obtain ⟨amount, parsed, h⟩ := bind_ok h
  obtain ⟨state, hasState, h⟩ := bind_ok h
  obtain ⟨⟨rfl, rfl, rfl, rfl⟩, orderPlain, numberPlain, statePlain⟩ := verifiedTrade_ok h
  refine ⟨values, sign, amountText, read, require_ok verified, field_ok hasOrder, field_ok hasNumber,
    field_ok hasAmount, field_ok hasState, parsed, ?_⟩
  intro value listed
  simp only [List.mem_cons, List.not_mem_nil, or_false] at listed
  rcases listed with rfl | rfl | rfl | rfl
  · exact providerIdentifier_plain orderPlain
  · exact providerIdentifier_plain numberPlain
  · exact parseAmount_plain parsed
  · exact tradeStates_plain _ statePlain

end ProviderClient

/-! ## One signed text, one trade -/

section
variable {values values' : List (String × String)}

theorem mem_of_lookup {name value : String} (h : values.lookup name = some value) : (name, value) ∈ values := by
  obtain ⟨before, after, rfl, -⟩ := List.lookup_eq_some_iff.1 h
  exact List.mem_append_right _ List.mem_cons_self

theorem toList_injective : Function.Injective String.toList := fun _ _ h => String.toList_inj.1 h

theorem signed_plain (f : FormFields values) : Joined.Plain '&' '=' ((signedFields values true).map fieldChars) := by
  constructor
  · intro p held
    obtain ⟨q, listed, rfl⟩ := List.mem_map.1 held
    exact validKey_plain (f.valid q (List.mem_of_mem_filter listed))
  · have keys : ((signedFields values true).map fieldChars).map Prod.fst =
        ((signedFields values true).map Prod.fst).map String.toList := by
      rw [List.map_map, List.map_map]
      rfl
    rw [keys]
    exact List.Nodup.map toList_injective (f.nodup.sublist (List.filter_sublist.map _))

theorem mem_signed {name value : String} (listed : name ∈ tradeFields) (h : values.lookup name = some value)
    (nonempty : value.isEmpty = false) : (name.toList, value.toList) ∈ (signedFields values true).map fieldChars := by
  have unsigned : ∀ name ∈ tradeFields, (name != "sign" && !(true && name == "sign_type")) = true := by decide
  have signed := unsigned name listed
  refine List.mem_map.2 ⟨(name, value), List.mem_filter.2 ⟨mem_of_lookup h, ?_⟩, rfl⟩
  simp only [Bool.and_eq_true] at signed ⊢
  exact ⟨signed, by rw [nonempty]; rfl⟩

/-- No signed value imitates the field `name`. -/
def Genuine (values : List (String × String)) (name : String) : Prop :=
  ∀ p ∈ signedFields values true, ¬("&" ++ name ++ "=").toList <:+: p.2.toList

/-- A field of a trade has the same value in every form with the same text. -/
theorem canonical_field {name value value' : String} (f : FormFields values) (f' : FormFields values')
    (same : canonical values true = canonical values' true) (listed : name ∈ tradeFields)
    (genuine : Genuine values name) (h : values.lookup name = some value) (h' : values'.lookup name = some value')
    (plain : '&' ∉ value.toList ∧ value.isEmpty = false) (plain' : '&' ∉ value'.toList ∧ value'.isEmpty = false) :
    value = value' := by
  have texts : Joined.join '&' '=' ((signedFields values true).map fieldChars) =
      Joined.join '&' '=' ((signedFields values' true).map fieldChars) :=
    String.ofList_injective same
  have free : Joined.Free '&' '=' name.toList ((signedFields values true).map fieldChars) := by
    intro p held
    obtain ⟨q, signed, rfl⟩ := List.mem_map.1 held
    have absent := genuine q signed
    rw [String.toList_append, String.toList_append] at absent
    exact absent
  exact toList_injective (Joined.value_eq texts (signed_plain f) (signed_plain f') free (mem_signed listed h plain.2)
    (mem_signed listed h' plain'.2) plain.1 plain'.1 (by decide))

/-- Two accepted notifications with one signed text have the same trade, if in one of them no value imitates a
field of the trade. -/
theorem ProviderClient.verifyNotification_same {client : ProviderClient} {bytes bytes' : List UInt8}
    {trade trade' : VerifiedTrade} (read : client.readForm bytes = .ok values)
    (read' : client.readForm bytes' = .ok values') (h : client.verifyNotification bytes = .ok trade)
    (h' : client.verifyNotification bytes' = .ok trade') (same : canonical values true = canonical values' true)
    (genuine : ∀ name ∈ tradeFields, Genuine values name) :
    trade.orderId = trade'.orderId ∧ trade.tradeId = trade'.tradeId ∧ trade.amountMinor = trade'.amountMinor ∧
      trade.state = trade'.state := by
  obtain ⟨_, _, text, again, -, t⟩ := verifyNotification_ok h
  cases again.symm.trans read
  obtain ⟨_, _, text', again', -, t'⟩ := verifyNotification_ok h'
  cases again'.symm.trans read'
  have f := readForm_fields read
  have f' := readForm_fields read'
  have plain := t.plain
  have plain' := t'.plain
  simp only [List.forall_mem_cons, List.not_mem_nil, false_imp_iff, implies_true, and_true] at plain plain'
  refine ⟨?_, ?_, ?_, ?_⟩
  · exact canonical_field f f' same (by decide) (genuine _ (by decide)) t.order t'.order plain.1 plain'.1
  · exact canonical_field f f' same (by decide) (genuine _ (by decide)) t.number t'.number plain.2.1 plain'.2.1
  · have texts := canonical_field f f' same (by decide) (genuine _ (by decide)) t.amount t'.amount
      plain.2.2.1 plain'.2.2.1
    have parsed := t.parsed
    rw [texts, t'.parsed] at parsed
    exact (Except.ok.inj parsed).symm
  · exact canonical_field f f' same (by decide) (genuine _ (by decide)) t.state t'.state plain.2.2.2 plain'.2.2.2

end

/-! ## A sample -/

/-- A text of ASCII characters from its percent encoding. -/
def percentDecode : List Char → List Char
  | '%' :: high :: low :: rest =>
    let digit (c : Char) := if c.isDigit then c.toNat - '0'.toNat else c.toUpper.toNat - 'A'.toNat + 10
    Char.ofNat (digit high * 16 + digit low) :: percentDecode rest
  | '+' :: rest => ' ' :: percentDecode rest
  | c :: rest => c :: percentDecode rest
  | [] => []

/-- The fields of a form of ASCII characters. -/
def decodeForm (bytes : List UInt8) : Option (List (String × String)) :=
  let pieces := ((bytes.map fun b => Char.ofNat b.toNat).splitOn '&').filter fun piece => !piece.isEmpty
  some (pieces.map fun piece =>
    (String.ofList (percentDecode (piece.takeWhile (· ≠ '='))),
      String.ofList (percentDecode (piece.dropWhile (· ≠ '=')).tail)))

def formBytes (text : String) : List UInt8 := text.toList.map fun c => c.toNat.toUInt8

/-- A notification of five yuan whose subject imitates an amount. -/
def sampleForm : List UInt8 :=
  formBytes ("app_id=app&charset=utf-8&out_trade_no=o1&seller_id=s&sign=c2ln&sign_type=RSA2" ++
  "&subject=x%26total_amount%3D9.00%26total_b%3Dy&total_amount=5.00&trade_no=t1&trade_status=TRADE_SUCCESS")

/-- The same text, split into other keys and values. -/
def resplitForm : List UInt8 :=
  formBytes ("app_id=app&charset=utf-8&out_trade_no=o1&seller_id=s&sign=c2ln&sign_type=RSA2" ++
  "&subject=x&total_amount=9.00&total_b=y%26total_amount%3D5.00&trade_no=t1&trade_status=TRADE_SUCCESS")

/-- The client for which the provider has signed the text of these fields. -/
def clientFor (signed : String) : ProviderClient :=
  { appId := "app", sellerId := "s", decode := decodeForm
    verifies := fun content sign => content == signed && sign == "c2ln", sha256 := fun content => content
    evidence := fun content _ => content }

def sampleText : String :=
  "app_id=app&charset=utf-8&out_trade_no=o1&seller_id=s&subject=x&total_amount=9.00&total_b=y" ++
  "&total_amount=5.00&trade_no=t1&trade_status=TRADE_SUCCESS"

def acceptedAmount (client : ProviderClient) (bytes : List UInt8) : Option Int :=
  match client.verifyNotification bytes with
  | .ok trade => some trade.amountMinor
  | .error _ => none

def formText (client : ProviderClient) (bytes : List UInt8) : Option String := match client.readForm bytes with
  | .ok values => some (canonical values true)
  | .error _ => none

def plainForm : List UInt8 :=
  formBytes ("app_id=app&charset=utf-8&out_trade_no=o1&seller_id=s&sign=c2ln&sign_type=RSA2" ++
  "&total_amount=5.00&trade_no=t1&trade_status=TRADE_SUCCESS")

/-- The same fields in another order, with one that is empty. -/
def reorderedForm : List UInt8 :=
  formBytes ("trade_status=TRADE_SUCCESS&trade_no=t1&total_amount=5.00&body=&app_id=app" ++
  "&charset=utf-8&out_trade_no=o1&seller_id=s&sign=c2ln&sign_type=RSA2")

def plainText : String :=
  "app_id=app&charset=utf-8&out_trade_no=o1&seller_id=s&total_amount=5.00&trade_no=t1&trade_status=TRADE_SUCCESS"

def plainValues : List (String × String) :=
  [("app_id", "app"), ("charset", "utf-8"), ("out_trade_no", "o1"), ("seller_id", "s"), ("sign", "c2ln"),
    ("sign_type", "RSA2")
  , ("total_amount", "5.00"), ("trade_no", "t1"), ("trade_status", "TRADE_SUCCESS")]

/-- Both forms are accepted, and with one trade. -/
theorem sample_genuine :
    ∃ trade trade', (clientFor plainText).verifyNotification plainForm = .ok trade ∧
      (clientFor plainText).verifyNotification reorderedForm = .ok trade' ∧
      trade.orderId = trade'.orderId ∧ trade.tradeId = trade'.tradeId ∧ trade.amountMinor = trade'.amountMinor ∧
        trade.state = trade'.state := by
  have read : (clientFor plainText).readForm plainForm = .ok plainValues := by decide +kernel
  have read' : (clientFor plainText).readForm reorderedForm = .ok (insertField "body" "" plainValues) := by
    decide +kernel
  have accepts : (clientFor plainText).verifyNotification plainForm =
      .ok ⟨"o1", "t1", 500, "TRADE_SUCCESS", plainText, plainText⟩ := by decide +kernel
  have accepts' : (clientFor plainText).verifyNotification reorderedForm =
      .ok ⟨"o1", "t1", 500, "TRADE_SUCCESS", plainText, plainText⟩ := by decide +kernel
  have genuine : ∀ name ∈ tradeFields, ∀ p ∈ signedFields plainValues true,
      ¬("&" ++ name ++ "=").toList <:+: p.2.toList := by
    decide +kernel
  exact ⟨_, _, accepts, accepts', ProviderClient.verifyNotification_same read read' accepts accepts'
    (by decide +kernel) genuine⟩

/-- One signed text, accepted in two forms with different amounts. -/
theorem sample_resplit :
    formText (clientFor sampleText) sampleForm = some sampleText ∧
      formText (clientFor sampleText) resplitForm = some sampleText ∧
      acceptedAmount (clientFor sampleText) sampleForm = some 500 ∧
        acceptedAmount (clientFor sampleText) resplitForm = some 900 := by
  refine ⟨?_, ?_, ?_, ?_⟩ <;> decide +kernel

end Xscope
