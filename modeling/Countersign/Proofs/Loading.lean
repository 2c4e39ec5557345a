import Countersign.Proofs.Admission
import Countersign.Proofs.HexText

/-! A gateway starts with every credential of its settings, or it does not start: each reference and each
key has its place in the policy, and of those that cannot be had the first one is reported. -/
namespace Countersign

namespace Text

theorem toList_dropFront_append {mark s : String} {rest : List Char}
    (shape : s.toList = mark.toList ++ rest) : (dropFront mark s).toList = rest := by
  have front : mark.toList.isPrefixOf s.toList = true := by
    rw [List.isPrefixOf_iff_prefix, shape]
    exact List.prefix_append _ _
  rw [dropFront, if_pos front, String.toList_ofList, shape, ← String.length_toList, List.drop_left]

theorem dropFront_eq_self {mark s : String} (other : ∀ rest, s.toList ≠ mark.toList ++ rest) :
    dropFront mark s = s := by
  rw [dropFront, if_neg]
  intro front
  obtain ⟨rest, shape⟩ := List.isPrefixOf_iff_prefix.1 front
  exact other rest shape.symm

end Text

namespace Key

/-- The digits of a key stand between blanks, behind at most one `0x`. The `x` is no digit, so that no
text can be taken in both ways. -/
theorem digitsOf_eq_iff {text : String} {digits : List Char}
    (hex : ∀ c ∈ digits, Hex.isDigit c = true) : (digitsOf text).toList = digits ↔
      (Text.trim text).toList = digits ∨ (Text.trim text).toList = '0' :: 'x' :: digits := by
  have mark (rest : List Char) : "0x".toList ++ rest = '0' :: 'x' :: rest := by simp
  rw [digitsOf]
  by_cases marked : ∃ rest, (Text.trim text).toList = '0' :: 'x' :: rest
  · obtain ⟨rest, front⟩ := marked
    rw [Text.toList_dropFront_append (front.trans (mark rest).symm), front]
    constructor
    · rintro rfl
      exact .inr rfl
    · rintro (rfl | behind)
      · have letter : Hex.isDigit 'x' = true := hex 'x' (by simp)
        exact absurd letter (by decide)
      · simpa using behind
  · rw [Text.dropFront_eq_self fun rest shape => marked ⟨rest, shape.trans (mark rest)⟩]
    constructor
    · exact .inl
    · rintro (plain | behind)
      · exact plain
      · exact absurd ⟨digits, behind⟩ marked

/-- A public key as settings may write it: its digits between blanks, behind at most one `0x`. -/
structure Written (text : String) (digits : List Char) : Prop where
  shape : (Text.trim text).toList = digits ∨ (Text.trim text).toList = '0' :: 'x' :: digits
  hex : ∀ c ∈ digits, Hex.isDigit c = true
  length : digits.length = 64

theorem written_iff {text : String} {digits : List Char} :
    Written text digits ↔ (digitsOf text).toList = digits ∧
      (∀ c ∈ digits, Hex.isDigit c = true) ∧ digits.length = 64 := by
  constructor
  · rintro ⟨shape, hex, length⟩
    exact ⟨(digitsOf_eq_iff hex).2 shape, hex, length⟩
  · rintro ⟨same, hex, length⟩
    exact ⟨(digitsOf_eq_iff hex).1 same, hex, length⟩

end Key

namespace VerifyingKey

variable {text : String}

theorem ofHex_eq_ok_iff {key : VerifyingKey} :
    ofHex text = .ok key ↔ Hex.decode (Key.digitsOf text) = .ok key.bytes := by
  obtain ⟨bytes, length⟩ := key
  rw [ofHex]
  cases Hex.decode (Key.digitsOf text) with
  | error why => simp
  | ok read =>
    simp only [ofBytes, Outcome.dite_eq_ok_iff, Except.ok.injEq, VerifyingKey.mk.injEq]
    exact ⟨fun ⟨_, same⟩ => same, fun same => ⟨same ▸ length, same⟩⟩

/-- What is read as a key is 64 digits, and the key is what they say. -/
theorem ofHex_eq_ok_iff_written {key : VerifyingKey} : ofHex text = .ok key ↔
    ∃ digits, Key.Written text digits ∧
      Text.lower (String.ofList digits) = Hex.encode key.bytes := by
  rw [ofHex_eq_ok_iff]
  constructor
  · intro read
    obtain ⟨length, hex⟩ := (Hex.exists_decode_iff _).1 ⟨key.bytes, read, key.length_bytes⟩
    refine ⟨_, Key.written_iff.2 ⟨rfl, hex, length⟩, ?_⟩
    rw [String.ofList_toList]
    exact Hex.decode_eq_ok_iff.1 read
  · rintro ⟨digits, written, lower⟩
    obtain ⟨rfl, _⟩ := Key.written_iff.1 written
    rw [String.ofList_toList] at lower
    exact Hex.decode_eq_ok_iff.2 lower

theorem exists_ofHex_iff :
    (∃ key, ofHex text = .ok key) ↔ ∃ digits, Key.Written text digits := by
  constructor
  · rintro ⟨key, read⟩
    obtain ⟨digits, written, _⟩ := ofHex_eq_ok_iff_written.1 read
    exact ⟨digits, written⟩
  · rintro ⟨digits, written⟩
    obtain ⟨rfl, hex, length⟩ := Key.written_iff.1 written
    obtain ⟨bytes, read, short⟩ := (Hex.exists_decode_iff 32).2 ⟨length, hex⟩
    exact ⟨⟨bytes, short⟩, ofHex_eq_ok_iff.2 read⟩

/-- What settings write for a key makes one verifier, which decides by the bytes that the digits say
and by nothing else. -/
theorem exists_verifier_iff {verifier : Verifier} :
    (∃ key, ofHex text = .ok key ∧ verifier = key.verifier) ↔
      ∃ digits bytes, Key.Written text digits ∧ Text.lower (String.ofList digits) = Hex.encode bytes ∧
        ∀ message signature,
          verifier.accepts message signature = Ed25519.verify bytes message signature := by
  constructor
  · rintro ⟨key, read, rfl⟩
    obtain ⟨digits, written, lower⟩ := ofHex_eq_ok_iff_written.1 read
    exact ⟨digits, key.bytes, written, lower, accepts_verifier key⟩
  · rintro ⟨digits, bytes, written, lower, accepts⟩
    obtain ⟨key, read⟩ := exists_ofHex_iff.2 ⟨digits, written⟩
    obtain ⟨rfl, _⟩ := Key.written_iff.1 written
    rw [String.ofList_toList, ← Hex.decode_eq_ok_iff, ofHex_eq_ok_iff.1 read] at lower
    cases lower
    refine ⟨key, read, ?_⟩
    ext message signature
    rw [accepts, accepts_verifier]

end VerifyingKey

/-- The reference of an entry stands for something. -/
def TokenEntry.Loads {ε : Type} (resolver : Settings.Resolver ε) (entry : TokenEntry) : Prop :=
  ∃ secret, resolver.load entry.token = .ok secret ∧ secret ≠ ""

namespace Settings

variable {ε : Type} {s : Settings} {resolver : Resolver ε} {fault : Fault}

theorem exists_tokenOf_iff {entry : TokenEntry} :
    (∃ token, tokenOf resolver entry = .ok token) ↔ entry.Loads resolver := by
  simp only [tokenOf_eq_ok_iff]
  constructor
  · rintro ⟨token, resolved, nonempty, _⟩
    exact ⟨token.secret, resolved, nonempty⟩
  · rintro ⟨secret, resolved, nonempty⟩
    exact ⟨⟨entry.id, secret⟩, resolved, nonempty, rfl⟩

theorem tokenOf_eq_error_iff {entry : TokenEntry} : tokenOf resolver entry = .error fault ↔
    (∃ why, resolver.load entry.token = .error why ∧
        fault = .tokenNotLoaded entry.id (resolver.message why)) ∨
      resolver.load entry.token = .ok "" ∧ fault = .emptyToken entry.id := by
  rw [tokenOf]
  cases resolver.load entry.token with
  | error why => simp [eq_comm (a := fault)]
  | ok secret =>
    by_cases none : secret = ""
    · simp [none, eq_comm (a := fault)]
    · simp [none]

/-- The keys are read in their order, and the first that cannot be read is named by its place. -/
theorem verifiersFrom_eq_error_iff {index : Nat} {entries : List KeyEntry} :
    verifiersFrom index entries = .error fault ↔
      ∃ front entry back why, entries = front ++ entry :: back ∧
        (∀ e ∈ front, ∃ key, VerifyingKey.ofHex e.key = .ok key) ∧
          VerifyingKey.ofHex entry.key = .error why ∧
            fault = .badKey (index + front.length) why := by
  induction entries generalizing index with
  | nil => simp [verifiersFrom]
  | cons first rest ih =>
    rw [verifiersFrom, verifierOf_eq, Outcome.bind_eq_error_iff]
    simp only [Outcome.bind_pure_eq_error_iff, Outcome.map_eq_ok_iff, Outcome.mapError_eq_ok_iff,
      Outcome.map_eq_error_iff, Outcome.mapError_eq_error_iff, ih]
    constructor
    · rintro (⟨why, bad, rfl⟩ | ⟨_, ⟨key, read, _⟩, front, entry, back, why, rfl, before, bad, rfl⟩)
      · exact ⟨[], first, rest, why, rfl, fun _ absent => absurd absent List.not_mem_nil, bad, rfl⟩
      · refine ⟨first :: front, entry, back, why, rfl, ?_, bad, ?_⟩
        · exact List.forall_mem_cons.2 ⟨⟨key, read⟩, before⟩
        · rw [List.length_cons, Nat.add_assoc, Nat.add_comm 1]
    · rintro ⟨front, entry, back, why, shape, before, bad, rfl⟩
      cases front with
      | nil =>
        obtain ⟨rfl, rfl⟩ := List.cons.inj shape
        exact .inl ⟨why, bad, rfl⟩
      | cons _ more =>
        obtain ⟨rfl, rfl⟩ := List.cons.inj shape
        obtain ⟨⟨key, read⟩, others⟩ := List.forall_mem_cons.1 before
        refine .inr ⟨_, ⟨key, read, rfl⟩, more, entry, back, why, rfl, others, bad, ?_⟩
        rw [List.length_cons, Nat.add_assoc, Nat.add_comm 1]

/-- All that settings name, in a policy: an entry for an entry, in their order. -/
structure HeldBy (s : Settings) (resolver : Resolver ε) (p : Access.Policy) : Prop where
  tokens : List.Forall₂
    (fun entry token =>
      resolver.load entry.token = .ok token.secret ∧ token.secret ≠ "" ∧ token.id = entry.id)
    s.tokens p.tokens
  verifiers : List.Forall₂
    (fun entry verifier => ∃ digits bytes, Key.Written entry.key digits ∧
      Text.lower (String.ofList digits) = Hex.encode bytes ∧
      ∀ message signature,
        verifier.accepts message signature = Ed25519.verify bytes message signature)
    s.keys p.verifiers
  publicRead : p.publicRead = s.publicRead

/-- The first of the credentials that cannot be had, the tokens before the keys, with what is said
about it. -/
inductive FirstUnloaded (s : Settings) (resolver : Resolver ε) : Fault → String → Prop
  | notLoaded {front entry back why} (shape : s.tokens = front ++ entry :: back)
      (before : ∀ e ∈ front, e.Loads resolver) (failed : resolver.load entry.token = .error why) :
      FirstUnloaded s resolver (.tokenNotLoaded entry.id (resolver.message why))
        ("failed to load bearer token " ++ entry.id ++ ": " ++ resolver.message why)
  | empty {front entry back} (shape : s.tokens = front ++ entry :: back)
      (before : ∀ e ∈ front, e.Loads resolver) (nothing : resolver.load entry.token = .ok "") :
      FirstUnloaded s resolver (.emptyToken entry.id)
        ("bearer token " ++ entry.id ++ " resolved to an empty value")
  | key {front entry back why} (tokens : ∀ e ∈ s.tokens, e.Loads resolver)
      (shape : s.keys = front ++ entry :: back)
      (before : ∀ e ∈ front, ∃ digits, Key.Written e.key digits)
      (bad : ∀ digits, ¬ Key.Written entry.key digits)
      (reason : VerifyingKey.ofHex entry.key = .error why) :
      FirstUnloaded s resolver (.badKey front.length why)
        ("failed to create ed25519 verifier " ++ toString front.length ++ ": " ++ keyMessage why)

theorem policy_eq_ok_iff_heldBy {p : Access.Policy} :
    s.policy resolver = .ok p ↔ s.HeldBy resolver p := by
  simp only [policy_eq_ok_iff, tokenOf_eq_ok_iff, Outcome.exists_forall₂_map_iff,
    VerifyingKey.exists_verifier_iff]
  constructor
  · rintro ⟨isOpen, tokens, verifiers⟩
    exact ⟨tokens, verifiers, isOpen⟩
  · rintro ⟨tokens, verifiers, isOpen⟩
    exact ⟨isOpen, tokens, verifiers⟩

theorem exists_tokensOf_iff :
    (∃ tokens, s.tokensOf resolver = .ok tokens) ↔ ∀ e ∈ s.tokens, e.Loads resolver := by
  simp only [tokensOf, Outcome.exists_mapM_iff, exists_tokenOf_iff]

theorem exists_verifiers_iff : (∃ verifiers, s.verifiers = .ok verifiers) ↔
    ∀ e ∈ s.keys, ∃ digits, Key.Written e.key digits := by
  simp only [← VerifyingKey.exists_ofHex_iff, verifiers, verifiersFrom_eq_ok_iff]
  rw [← Outcome.exists_forall₂_iff]
  constructor
  · rintro ⟨_, keys, read, _⟩
    exact ⟨keys, read⟩
  · rintro ⟨keys, read⟩
    exact ⟨_, keys, read, rfl⟩

theorem policy_eq_error_iff :
    s.policy resolver = .error fault ↔ s.FirstUnloaded resolver fault fault.message := by
  rw [policy, Outcome.bind_eq_error_iff]
  simp only [Outcome.bind_pure_eq_error_iff]
  constructor
  · rintro (noToken | ⟨tokens, loaded, noKey⟩)
    · obtain ⟨front, entry, back, shape, before, failed⟩ := Outcome.mapM_eq_error_iff.1 noToken
      replace before : ∀ e ∈ front, e.Loads resolver := fun e member =>
        exists_tokenOf_iff.1 (before e member)
      rcases tokenOf_eq_error_iff.1 failed with ⟨why, reason, rfl⟩ | ⟨nothing, rfl⟩
      · exact .notLoaded shape before reason
      · exact .empty shape before nothing
    · obtain ⟨front, entry, back, why, shape, before, bad, rfl⟩ := verifiersFrom_eq_error_iff.1 noKey
      rw [Nat.zero_add]
      refine .key (exists_tokensOf_iff.1 ⟨tokens, loaded⟩) shape ?_ ?_ bad
      · exact fun e member => VerifyingKey.exists_ofHex_iff.1 (before e member)
      · intro digits written
        obtain ⟨key, read⟩ := VerifyingKey.exists_ofHex_iff.2 ⟨digits, written⟩
        rw [bad] at read
        cases read
  · have noToken {front back : List TokenEntry} {entry : TokenEntry}
        (shape : s.tokens = front ++ entry :: back) (before : ∀ e ∈ front, e.Loads resolver)
        (failed : tokenOf resolver entry = .error fault) : s.tokensOf resolver = .error fault := by
      refine Outcome.mapM_eq_error_iff.2 ⟨front, entry, back, shape, ?_, failed⟩
      exact fun e member => exists_tokenOf_iff.2 (before e member)
    generalize said : fault.message = text
    intro first
    cases first with
    | notLoaded shape before failed =>
      exact .inl (noToken shape before (tokenOf_eq_error_iff.2 (.inl ⟨_, failed, rfl⟩)))
    | empty shape before nothing =>
      exact .inl (noToken shape before (tokenOf_eq_error_iff.2 (.inr ⟨nothing, rfl⟩)))
    | @key front entry back why tokens shape before bad reason =>
      obtain ⟨held, loaded⟩ := exists_tokensOf_iff.2 tokens
      refine .inr ⟨held, loaded, verifiersFrom_eq_error_iff.2 ?_⟩
      refine ⟨front, entry, back, why, shape, ?_, reason, by rw [Nat.zero_add]⟩
      exact fun e member => VerifyingKey.exists_ofHex_iff.2 (before e member)

/-- The settings of a gateway make a policy just if every credential can be had. It then holds all of
them, and otherwise the first that cannot be had is reported. -/
theorem policy_holds_all_or_reports_first {ε : Type} (s : Settings) (resolver : Resolver ε) :
    ((∃ p, s.policy resolver = .ok p) ↔ (∀ entry ∈ s.tokens, entry.Loads resolver) ∧
        ∀ entry ∈ s.keys, ∃ digits, Key.Written entry.key digits) ∧
      (∀ p, s.policy resolver = .ok p ↔ s.HeldBy resolver p) ∧
      ∀ fault, s.policy resolver = .error fault ↔ s.FirstUnloaded resolver fault fault.message := by
  refine ⟨?_, fun p => policy_eq_ok_iff_heldBy, fun fault => policy_eq_error_iff⟩
  rw [← exists_tokensOf_iff, ← exists_verifiers_iff]
  simp only [policy, Outcome.bind_eq_ok_iff, Outcome.pure_eq_ok_iff]
  constructor
  · rintro ⟨_, tokens, loaded, verifiers, read, _⟩
    exact ⟨⟨tokens, loaded⟩, verifiers, read⟩
  · rintro ⟨⟨tokens, loaded⟩, verifiers, read⟩
    exact ⟨_, tokens, loaded, verifiers, read, rfl⟩

end Settings

end Countersign
