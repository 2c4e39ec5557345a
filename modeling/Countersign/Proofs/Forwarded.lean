import Countersign.Proofs.Bearer
import Countersign.Proofs.Discretion
import Countersign.Proofs.Numeral

/-! Which amount an exchange is told. It is the text of the body to the letter, whereas blanks around it
did not count when it was checked; so it is a plain numeral unless there were some. -/
namespace Countersign

namespace Text

theorem isBlank_of_isDigit {c : Char} (digit : isDigit c = true) : isBlank c = false := by
  have range := toNat_of_isDigit digit
  simp only [isBlank, Bool.or_eq_false_iff, Bool.and_eq_false_iff, decide_eq_false_iff_not,
    beq_eq_false_iff_ne]
  omega

end Text

namespace Amount

/-- A plain decimal numeral: ASCII digits with at most one point among them, and at least one digit. -/
structure Plain (amount : String) : Prop where
  chars : ∀ c ∈ amount.toList, Text.isDigit c = true ∨ c = '.'
  points : amount.toList.count '.' ≤ 1
  digit : ∃ c ∈ amount.toList, Text.isDigit c = true

theorem count_point_of_digits {l : List Char} (digits : ∀ c ∈ l, Text.isDigit c = true) :
    l.count '.' = 0 :=
  List.count_eq_zero.2 fun point => absurd (digits '.' point) (by decide)

variable {amount : String}

theorem plain_of_written {whole fraction : List Char}
    (written : Written amount.toList whole fraction) : Plain amount := by
  obtain ⟨shape, digits, notEmpty⟩ := written
  obtain ⟨first, member⟩ := List.exists_mem_of_ne_nil _ notEmpty
  have digit := digits first member
  obtain ⟨front, back⟩ := List.forall_mem_append.1 digits
  rcases shape with shape | ⟨shape, rfl⟩
  · refine ⟨?_, ?_, first, ?_, digit⟩
    · rw [shape]
      intro c inside
      rcases List.mem_append.1 inside with inside | inside
      · exact .inl (front c inside)
      · exact (List.mem_cons.1 inside).symm.imp_left (back c)
    · rw [shape, List.count_append, List.count_cons_self, count_point_of_digits front,
        count_point_of_digits back]
    · rw [shape, List.mem_append, List.mem_cons]
      exact (List.mem_append.1 member).imp_right .inr
  · rw [List.append_nil] at member
    rw [← shape] at front member
    refine ⟨fun c inside => .inl (front c inside), ?_, first, member, digit⟩
    rw [count_point_of_digits front]
    exact Nat.zero_le 1

theorem Plain.digits (plain : Plain amount) {l : List Char} (part : l ⊆ amount.toList)
    (noPoint : '.' ∉ l) : ∀ c ∈ l, Text.isDigit c = true := by
  intro c member
  refine (plain.chars c (part member)).resolve_right ?_
  rintro rfl
  exact noPoint member

theorem Plain.exists_written (plain : Plain amount) :
    ∃ whole fraction, Written amount.toList whole fraction := by
  obtain ⟨first, member, digit⟩ := plain.digit
  cases pieces : Text.cut '.' amount.toList with
  | none =>
    have digits := plain.digits (List.Subset.refl _) (Text.cut_eq_none_iff.1 pieces)
    rw [← List.append_nil amount.toList] at digits member
    exact ⟨amount.toList, [], .inr ⟨rfl, rfl⟩, digits, List.ne_nil_of_mem member⟩
  | some pair =>
    obtain ⟨whole, fraction⟩ := pair
    obtain ⟨shape, front⟩ := Text.cut_eq_some_iff.1 pieces
    have points := plain.points
    rw [shape, List.count_append, List.count_cons_self] at points
    have back : '.' ∉ fraction := List.count_eq_zero.1 (by omega)
    have wholeDigits := plain.digits (l := whole) (by simp [shape]) front
    have fractionDigits := plain.digits (l := fraction) (by simp [shape]) back
    have notEmpty : whole ++ fraction ≠ [] := by
      rw [shape, List.mem_append, List.mem_cons] at member
      have ne : first ≠ '.' := by
        rintro rfl
        exact absurd digit (by decide)
      exact List.ne_nil_of_mem (List.mem_append.2 (member.imp_right (·.resolve_left ne)))
    exact ⟨whole, fraction, .inl shape,
      List.forall_mem_append.2 ⟨wholeDigits, fractionDigits⟩, notEmpty⟩

/-- A plain numeral has no blanks around it. -/
theorem Plain.trim_eq (plain : Plain amount) : Text.trim amount = amount := by
  have solid (c : Char) (member : c ∈ amount.toList) : Text.isBlank c = false := by
    rcases plain.chars c member with digit | rfl
    · exact Text.isBlank_of_isDigit digit
    · decide
  rw [Text.trim_eq_self_iff]
  exact Text.dropEnds_eq_self solid

/-- An amount is taken just if it is plain once the blanks around it are off. -/
theorem exists_isZero_eq_ok_iff :
    (∃ zero, isZero amount = .ok zero) ↔ Plain (Text.trim amount) := by
  constructor
  · rintro ⟨zero, taken⟩
    obtain ⟨whole, fraction, written⟩ := exists_written taken
    exact plain_of_written written
  · intro plain
    obtain ⟨whole, fraction, written⟩ := plain.exists_written
    exact ⟨_, isZero_of_written written⟩

end Amount

namespace Operation

/-- The amount that an operation moves. -/
def amount? : Operation → Option String
  | accountTransfer t => some t.amount
  | createWithdrawal w => some w.amount
  | _ => none

theorem route_of_amount? {operation : Operation} {amount : String}
    (moved : operation.amount? = some amount) :
    operation.route = .transfer ∨ operation.route = .withdrawal := by
  cases operation with
  | accountTransfer t => exact .inl rfl
  | createWithdrawal w => exact .inr rfl
  | _ => cases moved

end Operation

/-- An order as it stands in a body, and the amount in it. -/
inductive Asks (body : Bytes) : Client.Ask → String → Prop
  | transfer {t : Transfer} (read : Transfer.ofBytes body = .ok t) :
      Asks body (.transfer t) t.amount
  | withdrawal {w : Withdrawal} (read : Withdrawal.ofBytes body = .ok w) :
      Asks body (.withdrawal w) w.amount

namespace Gateway

section

variable {β : Type} {registry : Registry β} {exchange : String}

/-- The checks of a transfer look at the amount and leave it as it is. -/
theorem amount_of_checkTransfer {asked t : Transfer}
    (checked : checkTransfer registry exchange asked = .ok t) :
    t.amount = asked.amount ∧ ∃ zero, Amount.isZero asked.amount = .ok zero := by
  simp only [checkTransfer, Outcome.bind_eq_ok_iff, Outcome.guard_eq_ok_iff,
    Outcome.pure_eq_ok_iff, amountIsZero_eq_ok_iff] at checked
  obtain ⟨_, _, zero, taken, _, _, _, _, _, _, rfl⟩ := checked
  exact ⟨rfl, zero, taken⟩

/-- What is planned moves the amount in the body, and this was checked. -/
theorem asks_of_plan {route : Route} {r : Request} {p : Plan}
    (planned : plan registry exchange route r = .ok p) {amount : String}
    (moved : p.operation.amount? = some amount) :
    (∃ ask, Asks r.body ask amount ∧ ask.route = route) ∧
      ∃ zero, Amount.isZero amount = .ok zero := by
  have route := Operation.route_of_amount? moved
  rw [(of_plan_eq_ok planned).1] at route
  rcases route with rfl | rfl
  · simp only [plan, decodeBody, Outcome.bind_eq_ok_iff, Outcome.mapError_eq_ok_iff,
      Outcome.pure_eq_ok_iff] at planned
    obtain ⟨_, _, asked, read, t, checked, rfl⟩ := planned
    obtain ⟨kept, taken⟩ := amount_of_checkTransfer checked
    obtain rfl : t.amount = amount := Option.some.inj moved
    rw [kept]
    exact ⟨⟨_, .transfer read, rfl⟩, taken⟩
  · simp only [plan, decodeBody, Outcome.bind_eq_ok_iff, Outcome.mapError_eq_ok_iff,
      Outcome.pure_eq_ok_iff, checkWithdrawal_eq_ok_iff] at planned
    obtain ⟨_, _, w, read, _, ⟨valid, rfl⟩, rfl⟩ := planned
    obtain rfl : w.amount = amount := Option.some.inj moved
    exact ⟨⟨_, .withdrawal read, rfl⟩, valid.amount⟩

end

/-- An exchange is told the amount in the body. That is a plain numeral, unless there are blanks around
it; without them it would be one. -/
theorem plain_or_padded (g : Gateway) (now : Int) (r : Request) {call : Call}
    (called : call ∈ (g.serve now r).calls) {amount : String}
    (moved : call.operation.amount? = some amount) :
    (∃ ask, Asks r.body ask amount ∧ ask.route = call.operation.route) ∧
      Amount.Plain (Text.trim amount) ∧ (Amount.Plain amount ↔ Text.trim amount = amount) := by
  obtain ⟨trail⟩ := trail_of_mem_calls called
  have route := (of_plan_eq_ok trail.planned).1
  rw [trail.operation] at moved ⊢
  obtain ⟨asks, taken⟩ := asks_of_plan trail.planned moved
  have inside := Amount.exists_isZero_eq_ok_iff.1 taken
  refine ⟨route ▸ asks, inside, Amount.Plain.trim_eq, fun bare => ?_⟩
  rw [← bare]
  exact inside

/-- A gateway with one exchange, and with a key that takes one signature. -/
def easyGateway : Gateway := ⟨⟨[], [easyKey], false⟩, deskRegistry.after []⟩

/-- An order under that signature. -/
def ordering (resource body : String) : Request where
  method := "POST"
  path := "/v1/exchanges/okx/" ++ resource
  query := ""
  headers :=
    ((Headers.empty.insert Signature.inputName (bytesOf "iam=(@method @path @query);")).insert
      Signature.signatureName (bytesOf "iam=:AQ==:")).insert Signature.contentDigestName
      (bytesOf (Signature.Labelled.ofBody (bytesOf body)).render)
  body := bytesOf body

/-- The transfer of an amount to a sub-account. -/
def transferring (amount : String) : Request :=
  ordering "account-transfer"
    ("\x7b\"symbol\":\"USDT\",\"amount\":\"" ++ amount ++ "\",\"to\":\"desk-a\"\x7d")

def transferred (amount : String) : Call :=
  ⟨.accountTransfer { symbol := some "USDT", amount, target := some "1001" }, ⟨"okx", none⟩⟩

/-- A half may be written with nothing before the point. -/
theorem plain_or_padded_half :
    (easyGateway.serve 0 (transferring ".5")).calls = [transferred ".5"] ∧ Amount.Plain ".5" := by
  have calls : (easyGateway.serve 0 (transferring ".5")).calls = [transferred ".5"] := by
    decide +kernel
  have called : transferred ".5" ∈ (easyGateway.serve 0 (transferring ".5")).calls := by
    rw [calls]
    exact List.mem_cons_self
  exact ⟨calls, (plain_or_padded easyGateway 0 _ called rfl).2.2.2 (by decide)⟩

/-- Blanks around an amount reach the exchange. -/
theorem padded_not_plain :
    (easyGateway.serve 0 (transferring " 10 ")).calls = [transferred " 10 "] ∧
      ¬ Amount.Plain " 10 " := by
  refine ⟨by decide +kernel, fun plain => ?_⟩
  exact absurd plain.trim_eq (by decide)

end Gateway

end Countersign
