import Countersign.Proofs.Transfers

/-! How many entries of a history are asked for. A number is cut to what fits in 32 bits, but only one that
fits in 64 bits is taken for a number. -/
namespace Countersign

namespace Text

/-- The whole number that a row of characters writes: an optional sign and one or more digits. -/
inductive Writes : List Char → Int → Prop
  | plain {digits : List Char} (some : digits ≠ []) (all : ∀ c ∈ digits, isDigit c = true) :
      Writes digits (digitsValue digits)
  | plus {digits : List Char} (some : digits ≠ []) (all : ∀ c ∈ digits, isDigit c = true) :
      Writes ('+' :: digits) (digitsValue digits)
  | minus {digits : List Char} (some : digits ≠ []) (all : ∀ c ∈ digits, isDigit c = true) :
      Writes ('-' :: digits) (-digitsValue digits)

theorem natural?_eq_some_iff {l : List Char} {n : Nat} :
    natural? l = some n ↔ l ≠ [] ∧ (∀ c ∈ l, isDigit c = true) ∧ digitsValue l = n := by
  rw [natural?]
  by_cases digits : l ≠ [] ∧ ∀ c ∈ l, isDigit c = true
  · have shown : (l.isEmpty || !l.all isDigit) = false := by simpa using digits
    simp only [shown, Bool.false_eq_true, if_false, Option.some.injEq]
    exact ⟨fun value => ⟨digits.1, digits.2, value⟩, fun written => written.2.2⟩
  · have hidden : (l.isEmpty || !l.all isDigit) = true := by
      by_contra shown
      exact digits (by simpa using shown)
    simp only [hidden, if_true, reduceCtorEq, false_iff]
    rintro ⟨nonempty, all, _⟩
    exact digits ⟨nonempty, all⟩

theorem writes_iff {l : List Char} {n : Int} : Writes l n ↔ integer? l = some n := by
  constructor
  · rintro (⟨nonempty, all⟩ | ⟨nonempty, all⟩ | ⟨nonempty, all⟩)
    · have read := natural?_eq_some_iff.2 ⟨nonempty, all, rfl⟩
      -- A digit is no sign.
      unfold integer?
      split
      · exact absurd (all '+' List.mem_cons_self) (by decide)
      · exact absurd (all '-' List.mem_cons_self) (by decide)
      · rw [read]
        rfl
    · rw [integer?, natural?_eq_some_iff.2 ⟨nonempty, all, rfl⟩]
      rfl
    · rw [integer?, natural?_eq_some_iff.2 ⟨nonempty, all, rfl⟩]
      rfl
  · intro read
    unfold integer? at read
    split at read
    all_goals
      obtain ⟨value, shown, rfl⟩ := Option.map_eq_some_iff.1 read
      obtain ⟨nonempty, all, rfl⟩ := natural?_eq_some_iff.1 shown
    · exact .plus nonempty all
    · exact .minus nonempty all
    · exact .plain nonempty all

theorem int64?_eq_some_iff {s : String} {n : Int} :
    int64? s = some n ↔ Writes s.toList n ∧ int64Min ≤ n ∧ n ≤ int64Max := by
  rw [int64?, Option.filter_eq_some_iff, writes_iff]
  simp

end Text

namespace Gateway

section

variable {text : String} (given : text ≠ "")
include given

theorem limit_given : limit (some text) = match Text.int64? text with
    | none => .error (badRequest "invalid limit parameter: must be a number")
    | some n =>
      if n > 0 then .ok (some (min n.toNat greatestLimit))
      else .error (badRequest "invalid limit parameter: must be greater than 0") := by
  have kept : Gateway.given (some text) = some text := given_eq_some_iff.2 ⟨rfl, given⟩
  unfold limit
  generalize Gateway.given (some text) = left at kept
  subst kept
  rfl

/-- A number above 32 bits is as good as the greatest of 32 bits. -/
theorem limit_of_pos {n : Int} (written : Text.Writes text.toList n) (positive : 0 < n)
    (fits : n ≤ Text.int64Max) : limit (some text) = .ok (some (min n (2 ^ 32 - 1)).toNat) := by
  have low : Text.int64Min ≤ n := Int.le_trans (by decide) (Int.le_of_lt positive)
  have cut : min n.toNat greatestLimit = (min n (2 ^ 32 - 1)).toNat := by
    unfold greatestLimit
    omega
  rw [limit_given given, Text.int64?_eq_some_iff.2 ⟨written, low, fits⟩]
  dsimp only
  rw [if_pos positive, cut]

theorem limit_of_nonpos {n : Int} (written : Text.Writes text.toList n) (nonpos : n ≤ 0)
    (fits : Text.int64Min ≤ n) :
    limit (some text) = .error ⟨400, "invalid limit parameter: must be greater than 0"⟩ := by
  have high : n ≤ Text.int64Max := Int.le_trans nonpos (by decide)
  rw [limit_given given, Text.int64?_eq_some_iff.2 ⟨written, fits, high⟩]
  dsimp only
  rw [if_neg (Int.not_lt.2 nonpos)]
  rfl

theorem limit_of_other
    (other : ∀ n, Text.Writes text.toList n → n < Text.int64Min ∨ Text.int64Max < n) :
    limit (some text) = .error ⟨400, "invalid limit parameter: must be a number"⟩ := by
  have none : Text.int64? text = none := by
    rw [Option.eq_none_iff_forall_ne_some]
    intro n read
    obtain ⟨written, low, high⟩ := Text.int64?_eq_some_iff.1 read
    have := other n written
    omega
  rw [limit_given given, none]
  rfl

end

/-- A request for a history that the guard lets through, for an account that is there, with a limit. -/
structure AsksHistory (g : Gateway) (r : Request) (segment exchange : String) (account : Account)
    (text : String) : Prop where
  passed : Passed g r segment .withdrawalHistory
  method : r.method = "GET" ∨ r.method = "HEAD"
  read : exchangeId? segment = some exchange
  account : g.registry.account exchange
    (requestedSubAccount r.headers (Form.decode (bytesOf r.query))) = .ok account
  limit : Form.get? (Form.decode (bytesOf r.query)) "limit" = some text
  given : text ≠ ""

/-- What comes of the limit of a request for a history. -/
structure LimitTaken (g : Gateway) (r : Request) (segment exchange : String) (account : Account)
    (text : String) (served : Served) : Prop where
  clamped : ∀ n, Text.Writes text.toList n → 0 < n → n ≤ Text.int64Max →
    ∀ backend, g.registry.backend exchange = .ok backend →
      served.calls = [⟨.listWithdrawalHistory (some (min n (2 ^ 32 - 1)).toNat)
        (given (Form.get? (Form.decode (bytesOf r.query)) "page_token")), account⟩]
  unlinked : ∀ n, Text.Writes text.toList n → 0 < n → n ≤ Text.int64Max →
    (∀ backend, g.registry.backend exchange ≠ .ok backend) →
      served.calls = [] ∧ served.response.status = 501
  nothing : ∀ n, Text.Writes text.toList n → n ≤ 0 → Text.int64Min ≤ n →
    served.calls = [] ∧ served.response = shaped (.exchange segment .withdrawalHistory) r.method
      (.refused ⟨400, "invalid limit parameter: must be greater than 0"⟩)
  other : (∀ n, Text.Writes text.toList n → n < Text.int64Min ∨ Text.int64Max < n) →
    served.calls = [] ∧ served.response = shaped (.exchange segment .withdrawalHistory) r.method
      (.refused ⟨400, "invalid limit parameter: must be a number"⟩)

section

variable {g : Gateway} {r : Request} {segment exchange : String} {account : Account} {text : String}

/-- The plan is made out of the limit alone. -/
theorem AsksHistory.plan_eq (asks : AsksHistory g r segment exchange account text) :
    plan g.registry exchange .withdrawalHistory r =
      (Gateway.limit (some text)).map fun limit =>
        ⟨requestedSubAccount r.headers (Form.decode (bytesOf r.query)),
          .listWithdrawalHistory limit
            (Gateway.given (Form.get? (Form.decode (bytesOf r.query)) "page_token")), []⟩ := by
  rw [plan, asks.account, asks.limit]
  cases Gateway.limit (some text) <;> rfl

theorem AsksHistory.served (asks : AsksHistory g r segment exchange account text) (now : Int) :
    (g.serve now r).calls = (g.carryOut segment .withdrawalHistory r).calls ∧
      (g.serve now r).response = shaped (.exchange segment .withdrawalHistory) r.method
        (g.carryOut segment .withdrawalHistory r).response := by
  have allowed : (Place.exchange segment .withdrawalHistory).allows r.method = true := by
    rcases asks.method with method | method
    all_goals
      rw [method]
      rfl
  obtain ⟨_, same, calls, response⟩ := asks.passed.serve_eq now
  rw [if_pos allowed] at same
  subst same
  exact ⟨calls, response⟩

theorem AsksHistory.refused (asks : AsksHistory g r segment exchange account text) {refusal : Refusal}
    (bad : Gateway.limit (some text) = .error refusal) (now : Int) :
    (g.serve now r).calls = [] ∧
      (g.serve now r).response =
        shaped (.exchange segment .withdrawalHistory) r.method (.refused refusal) := by
  have planned := asks.plan_eq
  rw [bad] at planned
  rw [(asks.served now).1, (asks.served now).2, carryOut, asks.read]
  dsimp only
  rw [planned]
  exact ⟨rfl, rfl⟩

theorem AsksHistory.run (asks : AsksHistory g r segment exchange account text) {limit : Option Nat}
    (good : Gateway.limit (some text) = .ok limit) :
    ∃ p, g.carryOut segment .withdrawalHistory r = g.run exchange p ∧
      p.operation = .listWithdrawalHistory limit
        (Gateway.given (Form.get? (Form.decode (bytesOf r.query)) "page_token")) ∧
      g.registry.account exchange p.subaccount = .ok account := by
  have planned := asks.plan_eq
  rw [good] at planned
  refine ⟨⟨_, _, []⟩, ?_, rfl, asks.account⟩
  rw [carryOut, asks.read]
  dsimp only
  rw [planned]
  rfl

/-- Every limit is cut or refused, and what is refused reaches no exchange. -/
theorem limit_taken (asks : AsksHistory g r segment exchange account text) (now : Int) :
    LimitTaken g r segment exchange account text (g.serve now r) where
  clamped n written positive fits backend linked := by
    obtain ⟨p, carried, operation, acting⟩ := asks.run (limit_of_pos asks.given written positive fits)
    rw [(asks.served now).1, carried, calls_run, acting, linked, operation]
  unlinked n written positive fits unlinked := by
    obtain ⟨p, carried, _, acting⟩ := asks.run (limit_of_pos asks.given written positive fits)
    rw [(asks.served now).1, (asks.served now).2, status_shaped, carried]
    exact run_of_unlinked acting unlinked
  nothing n written nonpos fits := asks.refused (limit_of_nonpos asks.given written nonpos fits) now
  other outside := asks.refused (limit_of_other asks.given outside) now

end

/-- A request for the history of the desk with this limit. -/
def limitedTo (text : String) : Request :=
  { withToken "GET" "withdrawal-history" with query := "limit=" ++ text }

/-- What the desk's exchange is asked for. -/
def historyCall (limit : Nat) : Call :=
  ⟨.listWithdrawalHistory (some limit) none, ⟨"okx", none⟩⟩

/-- With a sign and zeros in front, and one more than what fits in 32 bits. -/
theorem limit_taken_padded :
    (readerGateway.serve 0 (limitedTo "%2B0000000000000000000004294967296")).calls =
        [historyCall 4294967295] ∧
      LimitTaken readerGateway (limitedTo "%2B0000000000000000000004294967296") "okx" "okx"
        ⟨"okx", none⟩ "+0000000000000000000004294967296"
        (readerGateway.serve 0 (limitedTo "%2B0000000000000000000004294967296")) := by
  refine ⟨by decide +kernel, limit_taken ⟨⟨by decide +kernel, by decide +kernel, ?_⟩, .inl rfl, by decide,
    by decide +kernel, by decide +kernel, by decide⟩ 0⟩
  exact ⟨.bearer "reader", by decide +kernel⟩

/-- One more than what fits in 64 bits is a number, and is refused for not being one. -/
theorem number_not_taken :
    Text.Writes "9223372036854775808".toList 9223372036854775808 ∧
      AsksHistory readerGateway (limitedTo "9223372036854775808") "okx" "okx" ⟨"okx", none⟩
        "9223372036854775808" ∧
      (∃ backend, readerGateway.registry.backend "okx" = .ok backend) ∧
      (readerGateway.serve 0 (limitedTo "9223372036854775808")).calls = [] ∧
      (readerGateway.serve 0 (limitedTo "9223372036854775808")).response =
        .refused ⟨400, "invalid limit parameter: must be a number"⟩ := by
  refine ⟨Text.writes_iff.2 (by decide), ⟨⟨by decide +kernel, by decide +kernel, ?_⟩, .inl rfl, by decide,
    by decide +kernel, by decide +kernel, by decide⟩, ⟨_, rfl⟩, by decide +kernel, by decide +kernel⟩
  exact ⟨.bearer "reader", by decide +kernel⟩

end Gateway

end Countersign
