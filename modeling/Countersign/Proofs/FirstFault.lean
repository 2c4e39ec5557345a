import Countersign.Proofs.Acceptance
import Countersign.Proofs.SignedText

/-! Verification as a row of checks. A request is accepted if none of them finds a fault; otherwise the
first that finds one decides what is answered. -/
namespace Countersign

namespace Outcome

variable {ε α β : Type}

/-- A check is the faults that it finds. What is found at last is what the first check finds that finds
anything. -/
def FirstFault : List (ε → Prop) → ε → Prop
  | [], _ => False
  | check :: later, e => check e ∨ (∀ e', ¬ check e') ∧ FirstFault later e

theorem firstFault_append {front back : List (ε → Prop)} {e : ε} :
    FirstFault (front ++ back) e ↔
      FirstFault front e ∨ (∀ e', ¬ FirstFault front e') ∧ FirstFault back e := by
  induction front with
  | nil => simp [FirstFault]
  | cons check later ih =>
    simp only [List.cons_append, FirstFault, ih]
    by_cases quiet : ∀ e', ¬ check e'
    · simp [quiet]
    · simp [quiet]

/-- A run fails just as these checks say. -/
def Checked (checks : List (ε → Prop)) (x : Except ε α) : Prop :=
  ∀ e, x = .error e ↔ FirstFault checks e

theorem Checked.ok (a : α) : Checked [] (.ok a : Except ε α) := by
  intro e
  simp [FirstFault]

theorem Checked.single {check : ε → Prop} {x : Except ε α} (fails : ∀ e, x = .error e ↔ check e) :
    Checked [check] x := by
  intro e
  simp [FirstFault, fails e]

/-- The checks of a later step come after those of the step before it, and only if that succeeds. -/
theorem Checked.bind {front back : List (ε → Prop)} {x : Except ε α} {f : α → Except ε β}
    (first : Checked front x) (later : ∀ a, x = .ok a → Checked back (f a)) :
    Checked (front ++ back) (x >>= f) := by
  intro e
  rw [bind_eq_error_iff, firstFault_append, first e]
  apply or_congr_right
  -- The later step runs just if the checks of the first are all quiet.
  cases ran : x with
  | error why =>
    have found : FirstFault front why := (first why).1 ran
    constructor
    · rintro ⟨a, fine, _⟩
      cases fine
    · rintro ⟨none, _⟩
      exact absurd found (none why)
  | ok a =>
    have quiet : ∀ e', ¬ FirstFault front e' := by
      intro e' found
      rw [(first e').2 found] at ran
      cases ran
    simp [quiet, later a ran e]

theorem Checked.guard {c : Prop} [Decidable c] {e : ε} {check : ε → Prop} {back : List (ε → Prop)}
    {f : β → Except ε α} {x : Except ε α} (finds : ∀ e', check e' ↔ c ∧ e' = e)
    (later : ¬ c → Checked back x) : Checked (check :: back) (if c then throw e >>= f else x) := by
  intro e'
  simp only [FirstFault, finds]
  split
  · rename_i met
    have failed : (throw e >>= f) = (.error e : Except ε α) := rfl
    simp [met, failed, eq_comm]
  · rename_i unmet
    simp [unmet, later unmet e']

end Outcome

open Outcome (Checked FirstFault)

namespace Signature

/-! ### The checks -/

/-- The first value of a header is there, is not empty, and is this text. -/
def Shows (h : Headers) (name text : String) : Prop :=
  ∃ value, h.get? name = some value ∧ value ≠ [] ∧ Headers.textOf? value = some text

/-- A header shows a text with this meaning. -/
def Means {α : Type} (h : Headers) (name : String) (read : String → Except Malformation α)
    (meaning : α) : Prop :=
  ∃ text, Shows h name text ∧ read text = .ok meaning

section

variable (h : Headers) (name : String)

def Absent (f : Fault) : Prop :=
  (∀ value, h.get? name = some value → value = []) ∧ f = .missingHeader name

def Unreadable (f : Fault) : Prop :=
  (∃ value, h.get? name = some value ∧ value ≠ [] ∧ Headers.textOf? value = none) ∧
    f = .malformedHeader name .badValue

def Meaningless {α : Type} (read : String → Except Malformation α) (f : Fault) : Prop :=
  ∃ text why, Shows h name text ∧ read text = .error why ∧ f = .malformedHeader name why

def Uncovered (component : String) (f : Fault) : Prop :=
  ∃ params, Means h inputName Params.read params ∧ component ∉ params.components ∧
    f = .missingComponent component

end

section

variable (r : Request)

def Mismatched (f : Fault) : Prop :=
  ∃ digest, Means r.headers contentDigestName Labelled.read digest ∧
    Sha2.sha256 r.body ≠ digest.bytes ∧ f = .digestMismatch

def Unsupported (f : Fault) : Prop :=
  ∃ params c, Means r.headers inputName Params.read params ∧
    FirstUnsupported params.components c ∧ f = .unsupportedComponent c

/-- No key accepts the signature of what was received. -/
def Unaccepted (verifiers : List Verifier) (f : Fault) : Prop :=
  ∃ digest signature params text, Means r.headers contentDigestName Labelled.read digest ∧
    Means r.headers signatureName Labelled.read signature ∧
    Means r.headers inputName Params.read params ∧ base params r digest = .ok text ∧
    (∀ v ∈ verifiers, v.accepts (bytesOf text) signature.bytes = false) ∧ f = .invalidSignature

end

/-- All three headers have to be there and be text before any of them is read. -/
def headerChecks (h : Headers) : List (Fault → Prop) :=
  [contentDigestName, signatureName, inputName].flatMap (fun name => [Absent h name, Unreadable h name]) ++
    [Meaningless h contentDigestName Labelled.read, Meaningless h signatureName Labelled.read,
      Meaningless h inputName Params.read]

/-- The digest comes before the components, and no key is asked before all else is in order. -/
def checks (verifiers : List Verifier) (required : List String) (r : Request) : List (Fault → Prop) :=
  headerChecks r.headers ++ ((Params.requestParts ++ required).map (Uncovered r.headers) ++
    [Mismatched r, Unsupported r, Unaccepted r verifiers])

/-- Nothing is at fault, and one of the keys accepts. -/
structure Accepted (verifiers : List Verifier) (required : List String) (r : Request)
    (digest signature : Labelled) (params : Params) : Prop where
  readDigest : Means r.headers contentDigestName Labelled.read digest
  readSignature : Means r.headers signatureName Labelled.read signature
  readParams : Means r.headers inputName Params.read params
  covered : ∀ name ∈ Params.requestParts ++ required, name ∈ params.components
  matching : Sha2.sha256 r.body = digest.bytes
  supported : ∀ c ∈ params.components, Supported c
  accepted : ∃ text, base params r digest = .ok text ∧
    ∃ v ∈ verifiers, v.accepts (bytesOf text) signature.bytes = true

/-! ### Each step and its checks -/

section

variable {h : Headers} {name text : String}

theorem givenText_eq_ok_iff_shows : givenText h name = .ok text ↔ Shows h name text := by
  rw [givenText_eq_ok_iff, Headers.isGiven, Headers.text?, Shows]
  cases h.get? name with
  | none => simp
  | some value => simp

theorem Shows.unique {text' : String} (shows' : Shows h name text') (shown : Shows h name text) :
    text' = text := by
  obtain ⟨value, here, _, read⟩ := shown
  obtain ⟨value', here', _, read'⟩ := shows'
  rw [here, Option.some.injEq] at here'
  rw [here', read', Option.some.injEq] at read
  exact read

theorem checked_givenText : Checked [Absent h name, Unreadable h name] (givenText h name) := by
  intro f
  simp only [FirstFault, Absent, Unreadable, givenText, Headers.isGiven, Headers.text?]
  rcases Option.eq_none_or_eq_some (h.get? name) with none | ⟨value, some⟩
  · simp [none, eq_comm]
  · cases value with
    | nil => simp [some, eq_comm]
    | cons b rest =>
      rcases Option.eq_none_or_eq_some (Headers.textOf? (b :: rest)) with none | ⟨text, read⟩
      · simp [some, none, eq_comm]
      · simp [some, read]

variable {α : Type} {read : String → Except Malformation α}

/-- What a header says has one meaning. -/
theorem Means.unique {meaning meaning' : α} (means' : Means h name read meaning')
    (means : Means h name read meaning) : meaning' = meaning := by
  obtain ⟨text, shown, here⟩ := means
  obtain ⟨text', shown', here'⟩ := means'
  rw [shown'.unique shown, here, Except.ok.injEq] at here'
  exact here'.symm

theorem checked_read (shown : Shows h name text) :
    Checked [Meaningless h name read] ((read text).mapError (.malformedHeader name)) := by
  apply Checked.single
  intro f
  constructor
  · intro failed
    cases found : read text with
    | error why =>
      rw [found] at failed
      cases failed
      exact ⟨text, why, shown, found, rfl⟩
    | ok meaning =>
      rw [found] at failed
      cases failed
  · rintro ⟨text', why, shown', found, rfl⟩
    rw [shown'.unique shown] at found
    rw [found]
    rfl

end

theorem checked_carried (h : Headers) : Checked (headerChecks h) (Carried.read h) := by
  refine checked_givenText.bind fun digestText hd => ?_
  refine checked_givenText.bind fun signatureText hs => ?_
  refine checked_givenText.bind fun inputText hi => ?_
  refine (checked_read (givenText_eq_ok_iff_shows.1 hd)).bind fun digest _ => ?_
  refine (checked_read (givenText_eq_ok_iff_shows.1 hs)).bind fun signature _ => ?_
  exact (checked_read (givenText_eq_ok_iff_shows.1 hi)).bind fun params _ => .ok _

theorem checked_covered {h : Headers} {params : Params} (means : Means h inputName Params.read params)
    (names : List String) : Checked (names.map (Uncovered h)) (checkCovered params names) := by
  have uncovered (name : String) (f : Fault) :
      Uncovered h name f ↔ name ∉ params.components ∧ f = .missingComponent name := by
    constructor
    · rintro ⟨found, here, absent, rfl⟩
      rw [here.unique means] at absent
      exact ⟨absent, rfl⟩
    · rintro ⟨absent, rfl⟩
      exact ⟨params, means, absent, rfl⟩
  induction names with
  | nil => exact .ok ()
  | cons name rest ih =>
    intro f
    have later := ih f
    simp only [List.map_cons, FirstFault, uncovered] at later ⊢
    rw [checkCovered, Params.covers, ← later]
    by_cases covered : name ∈ params.components
    · simp [covered]
    · simp [covered, eq_comm]

namespace Carried

variable {said : Carried}

theorem in_iff_means {h : Headers} :
    said.In h ↔ Means h contentDigestName Labelled.read said.digest ∧
      Means h signatureName Labelled.read said.signature ∧
      Means h inputName Params.read said.params := by
  constructor
  · rintro ⟨digest, signature, params⟩
    simp only [givenText_eq_ok_iff_shows] at digest signature params
    exact ⟨digest, signature, params⟩
  · rintro ⟨digest, signature, params⟩
    simp only [Means, ← givenText_eq_ok_iff_shows] at digest signature params
    exact ⟨digest, signature, params⟩

variable {r : Request} (inside : said.In r.headers)
include inside

theorem checked_judge (verifiers : List Verifier) (required : List String) :
    Checked ((Params.requestParts ++ required).map (Uncovered r.headers) ++
      [Mismatched r, Unsupported r, Unaccepted r verifiers]) (said.judge verifiers required r) := by
  obtain ⟨digest, signature, params⟩ := in_iff_means.1 inside
  have mismatched (f : Fault) : Mismatched r f ↔
      (Labelled.ofBody r.body).bytes ≠ said.digest.bytes ∧ f = .digestMismatch := by
    constructor
    · rintro ⟨found, here, differ, rfl⟩
      rw [here.unique digest] at differ
      exact ⟨differ, rfl⟩
    · rintro ⟨differ, rfl⟩
      exact ⟨_, digest, differ, rfl⟩
  have unsupported (f : Fault) : base said.params r said.digest = .error f ↔ Unsupported r f := by
    rw [base_eq_error_iff]
    constructor
    · rintro ⟨c, first, rfl⟩
      exact ⟨_, c, params, first, rfl⟩
    · rintro ⟨found, c, here, first, rfl⟩
      rw [here.unique params] at first
      exact ⟨c, first, rfl⟩
  refine (checked_covered params _).bind fun _ _ => .guard mismatched fun _ => ?_
  refine (Checked.single unsupported).bind fun text made => .single fun f => ?_
  constructor
  · intro failed
    split at failed
    · cases failed
    · rename_i none
      cases failed
      refine ⟨_, _, _, text, digest, signature, params, made, ?_, rfl⟩
      simpa using none
  · rintro ⟨d, s, p, text', hd, hs, hp, made', none, rfl⟩
    rw [hd.unique digest, hp.unique params, made, Except.ok.injEq] at made'
    rw [hs.unique signature, ← made'] at none
    have quiet : verifiers.any (·.accepts (bytesOf text) said.signature.bytes) = false := by
      simpa using none
    simp only [quiet]
    rfl

end Carried

variable {verifiers : List Verifier} {required : List String} {r : Request}

theorem checked_verify :
    Checked (checks verifiers required r) (verify verifiers required r) := by
  rw [verify_eq_judge]
  refine (checked_carried r.headers).bind fun said read => ?_
  exact said.checked_judge (Carried.read_eq_ok_iff.1 read) verifiers required

theorem verify_eq_ok_iff_accepted {params : Params} :
    verify verifiers required r = .ok params ↔
      ∃ digest signature, Accepted verifiers required r digest signature params := by
  rw [verify_eq_ok_iff]
  constructor
  · rintro ⟨said, inside, judged⟩
    obtain ⟨hd, hs, hp⟩ := Carried.in_iff_means.1 inside
    obtain ⟨rfl, covered, matching, text, made, accepted⟩ := Carried.judge_eq_ok_iff.1 judged
    refine ⟨said.digest, said.signature, hd, hs, hp, covered, matching, (base_eq_ok_iff.1 made).1,
      text, made, ?_⟩
    simpa using accepted
  · rintro ⟨digest, signature, hd, hs, hp, covered, matching, _, text, made, accepted⟩
    refine ⟨⟨digest, signature, params⟩, Carried.in_iff_means.2 ⟨hd, hs, hp⟩, ?_⟩
    refine Carried.judge_eq_ok_iff.2 ⟨rfl, covered, matching, text, made, ?_⟩
    simpa using accepted

/-- A request is accepted just if nothing is at fault and a key accepts its signature. Otherwise it is
refused with the fault of the first check that finds one. -/
theorem verify_exact (verifiers : List Verifier) (required : List String) (r : Request) :
    (∀ params, verify verifiers required r = .ok params ↔
      ∃ digest signature, Accepted verifiers required r digest signature params) ∧
    ∀ fault, verify verifiers required r = .error fault ↔
      FirstFault (checks verifiers required r) fault :=
  ⟨fun _ => verify_eq_ok_iff_accepted, checked_verify⟩

end Signature

end Countersign
