import Countersign.Proofs.Faithful
import Countersign.Proofs.Relevance

/-! Signing in place, seen through all values of a header map. A seal replaces what stands under its three
names and leaves the rest, so that signing again changes nothing. A seal that does not fit stops halfway,
and what went in before stays. -/
namespace Countersign

namespace Headers

/-- All values of a name, in their order. -/
def values (h : Headers) (name : String) : List Bytes :=
  (h.entries.filter (·.1 == Text.lower name)).map Prod.snd

/-- Every name has the same values in the same order. The order of the names does not count. -/
def Same (h h' : Headers) : Prop := ∀ name, h.values name = h'.values name

variable {h : Headers} {name other : String}

theorem values_congr (alike : Text.lower name = Text.lower other) : h.values name = h.values other := by
  rw [values, values, alike]

/-- The value that is read is the first of all. -/
theorem get?_eq_head? (h : Headers) (name : String) : h.get? name = (h.values name).head? := by
  have first (entries : List (String × Bytes)) (key : String) :
      entries.lookup key = (entries.find? (·.1 == key)).map Prod.snd := by
    induction entries with
    | nil => rfl
    | cons entry rest ih =>
      obtain ⟨k, value⟩ := entry
      by_cases here : k = key
      · subst here
        simp
      · have differ : (key == k) = false := by simpa using Ne.symm here
        simp [List.lookup_cons, differ, here, ih]
  simpa [get?, values] using first h.entries (Text.lower name)

theorem values_insert (h : Headers) (name other : String) (value : Bytes) :
    (h.insert name value).values other =
      if Text.lower other = Text.lower name then [value] else h.values other := by
  simp only [values, insert, append, remove, List.filter_append, List.filter_filter]
  split
  · rename_i alike
    simp [alike]
  · rename_i differ
    have apart (e : String × Bytes) :
        (e.1 == Text.lower other && e.1 != Text.lower name) = (e.1 == Text.lower other) := by
      by_cases here : e.1 = Text.lower other
      · simp [here, differ]
      · simp [here]
    simp [apart, Ne.symm differ]

/-! ### Texts that are put in one after the other -/

/-- The map once these texts went in. -/
def placed (pairs : List (String × String)) (h : Headers) : Headers :=
  pairs.foldl (fun h pair => h.insert pair.1 (bytesOf pair.2)) h

/-- The names of these texts, as the map knows them. -/
def placedNames (pairs : List (String × String)) : List String := pairs.map (Text.lower ·.1)

/-- These texts went in and nothing else did. -/
structure After (pairs : List (String × String)) (h h' : Headers) : Prop where
  written : ∀ pair ∈ pairs, h'.values pair.1 = [bytesOf pair.2]
  others : ∀ name, Text.lower name ∉ placedNames pairs → h'.values name = h.values name

theorem after_placed {pairs : List (String × String)} (apart : (placedNames pairs).Nodup)
    (h : Headers) : After pairs h (placed pairs h) := by
  induction pairs generalizing h with
  | nil => exact ⟨nofun, fun _ _ => rfl⟩
  | cons first rest ih =>
    rw [placedNames, List.map_cons, List.nodup_cons] at apart
    obtain ⟨written, others⟩ := ih apart.2 (h.insert first.1 (bytesOf first.2))
    constructor
    · intro pair listed
      rcases List.mem_cons.1 listed with rfl | later
      · exact (others _ apart.1).trans (by rw [values_insert, if_pos rfl])
      · exact written pair later
    · intro name absent
      rw [placedNames, List.map_cons, List.mem_cons, not_or] at absent
      exact (others name absent.2).trans (by rw [values_insert, if_neg absent.1])

/-- The map is still the same just if the texts stood there before, each of them alone. -/
theorem After.same_iff {pairs : List (String × String)} {h h' : Headers} (after : After pairs h h') :
    h.Same h' ↔ ∀ pair ∈ pairs, h.values pair.1 = [bytesOf pair.2] := by
  constructor
  · intro same pair listed
    rw [same, after.written pair listed]
  · intro before name
    by_cases listed : Text.lower name ∈ placedNames pairs
    · obtain ⟨pair, inside, alike⟩ := List.mem_map.1 listed
      rw [values_congr alike.symm, values_congr (h := h') alike.symm, before pair inside,
        after.written pair inside]
    · exact (after.others name listed).symm

end Headers

namespace Signature

/-- The texts of a seal under their names, in the order in which they go in. -/
def Seal.pairs (s : Seal) : List (String × String) :=
  [(contentDigestName, s.contentDigest), (inputName, s.signatureInput),
    (signatureName, s.signature)]

/-- The names that a seal takes for itself. -/
def sealNames : List String := [contentDigestName, inputName, signatureName]

theorem Seal.placedNames_pairs (s : Seal) : Headers.placedNames s.pairs = sealNames := by
  have lowered : Text.lower contentDigestName = contentDigestName ∧
      Text.lower inputName = inputName ∧ Text.lower signatureName = signatureName := by decide
  simp [Headers.placedNames, pairs, sealNames, lowered]

theorem Seal.after_headers (s : Seal) (h : Headers) : Headers.After s.pairs h (s.headers h) := by
  apply Headers.after_placed
  rw [s.placedNames_pairs]
  decide

/-! ### A seal that does not fit -/

/-- Placing stops at the first text that is no value; those before it have gone in. -/
theorem place_eq_error_iff {pairs : List (String × String)} {h h' : Headers} {fault : Fault} :
    place pairs h = (.error fault, h') ↔
      ∃ front name text back, pairs = front ++ (name, text) :: back ∧
        (∀ pair ∈ front, Headers.IsValue pair.2) ∧ ¬ Headers.IsValue text ∧
        fault = .malformedHeader name .badValue ∧ h' = Headers.placed front h := by
  induction pairs generalizing h with
  | nil =>
    constructor
    · intro failed
      cases failed
    · rintro ⟨front, name, text, back, shape, _⟩
      exact absurd shape.symm (List.append_ne_nil_of_right_ne_nil front (List.cons_ne_nil _ back))
  | cons first rest ih =>
    obtain ⟨key, value⟩ := first
    rw [place]
    cases made : Headers.valueOf? value with
    | none =>
      have unfit : ¬ Headers.IsValue value := by
        intro fits
        rw [Headers.valueOf?_eq_some_iff.2 ⟨fits, rfl⟩] at made
        cases made
      constructor
      · intro failed
        cases failed
        exact ⟨[], key, value, rest, rfl, List.forall_mem_nil _, unfit, rfl, rfl⟩
      · rintro ⟨front, name, text, back, shape, before, _, rfl, rfl⟩
        cases front with
        | nil =>
          obtain ⟨same, _⟩ := List.cons.inj shape
          cases same
          rfl
        | cons pair more =>
          obtain ⟨rfl, _⟩ := List.cons.inj shape
          exact absurd (before _ List.mem_cons_self) unfit
    | some bytes =>
      obtain ⟨fits, rfl⟩ := Headers.valueOf?_eq_some_iff.1 made
      simp only [ih]
      constructor
      · rintro ⟨front, name, text, back, rfl, before, unfit, why, rfl⟩
        refine ⟨(key, value) :: front, name, text, back, rfl, ?_, unfit, why, rfl⟩
        exact List.forall_mem_cons.2 ⟨fits, before⟩
      · rintro ⟨front, name, text, back, shape, before, unfit, why, rfl⟩
        cases front with
        | nil =>
          obtain ⟨same, _⟩ := List.cons.inj shape
          cases same
          exact absurd fits unfit
        | cons pair more =>
          obtain ⟨rfl, rfl⟩ := List.cons.inj shape
          exact ⟨more, name, text, back, rfl, (List.forall_mem_cons.1 before).2, unfit, why, rfl⟩

/-- Where a seal stopped: the texts in front of the one that is no value went in, and only they. -/
structure Seal.Stopped (s : Seal) (front : List (String × String)) (h h' : Headers) (fault : Fault) :
    Prop where
  after : Headers.After front h h'
  fit : ∀ pair ∈ front, Headers.IsValue pair.2
  unfit : ∃ name text back, s.pairs = front ++ (name, text) :: back ∧ ¬ Headers.IsValue text ∧
    fault = .malformedHeader name .badValue

theorem Seal.exists_stopped {s : Seal} {h h' : Headers} {fault : Fault}
    (failed : s.apply h = (.error fault, h')) : ∃ front, s.Stopped front h h' fault := by
  obtain ⟨front, name, text, back, shape, fit, unfit, why, rfl⟩ := place_eq_error_iff.1 failed
  refine ⟨front, ?_, fit, name, text, back, shape, unfit, why⟩
  apply Headers.after_placed
  have apart : (Headers.placedNames s.pairs).Nodup := by
    rw [s.placedNames_pairs]
    decide
  rw [Headers.placedNames, show s.pairs = _ from shape, List.map_append] at apart
  exact (List.nodup_append.1 apart).1

/-- A seal that a signer makes stops at the list of what is covered, behind the digest. -/
theorem Seal.stopped_at_input {made : Seal} {body bytes : Bytes} {params : Params}
    (parts : Seal.mk (Labelled.ofBody body).render params.header
      (Labelled.ofSignature bytes).render = made) {h h' : Headers} {fault : Fault}
    (failed : made.apply h = (.error fault, h')) :
    ¬ Headers.IsValue params.header ∧ fault = .malformedHeader inputName .badValue ∧
      Headers.After [(contentDigestName, (Labelled.ofBody body).render)] h h' := by
  have unfit : ¬ Headers.IsValue params.header := by
    intro fits
    rw [(Seal.apply_eq_ok_iff parts).2 ⟨fits, rfl⟩] at failed
    cases failed
  have fit : ∀ pair ∈ [(contentDigestName, (Labelled.ofBody body).render)],
      Headers.IsValue pair.2 := by
    intro pair listed
    obtain rfl := List.mem_singleton.1 listed
    exact (Labelled.isText_render (show Headers.IsText "sha-256" by decide)).isValue
  have stopped : made.apply h = (.error (.malformedHeader inputName .badValue),
      Headers.placed [(contentDigestName, (Labelled.ofBody body).render)] h) := by
    rw [← parts]
    exact place_eq_error_iff.2
      ⟨_, inputName, _, [(signatureName, _)], rfl, fit, unfit, rfl, rfl⟩
  rw [stopped] at failed
  cases failed
  exact ⟨unfit, rfl, Headers.after_placed (by simp [Headers.placedNames]) h⟩

/-- Signing fails before there is a seal, or where the seal stops. -/
theorem sign_eq_error_iff {signer : Signer} {created : Int} {extra : List String} {r r' : Request}
    {fault : Fault} :
    sign signer created extra r = (.error fault, r') ↔
      (base (Params.new created extra) r (Labelled.ofBody r.body) = .error fault ∧ r' = r) ∨
        ∃ made headers, Seal.make signer created extra r = .ok made ∧
          made.apply r.headers = (.error fault, headers) ∧ r' = { r with headers } := by
  have refused : Seal.make signer created extra r = .error fault ↔
      base (Params.new created extra) r (Labelled.ofBody r.body) = .error fault :=
    Outcome.bind_pure_eq_error_iff
  rw [← refused]
  unfold sign
  cases Seal.make signer created extra r with
  | error why => simp [eq_comm]
  | ok made =>
    cases applied : made.apply r.headers
    simp [applied, eq_comm]

/-- Signing that fails leaves behind what went in before. A seal stops at its first text that is no value
and leaves the ones in front of it; where signing fails, that is nothing if a name is not supported, and
the digest if one does not fit into a header. The headers are as they were just if what is left stood
there already. -/
theorem stopped_or_untouched (s : Seal) (h : Headers) (signer : Signer) (created : Int)
    (extra : List String) (r : Request) :
    (∀ h' fault, s.apply h = (.error fault, h') →
      ∃ front, s.Stopped front h h' fault ∧
        (h.Same h' ↔ ∀ pair ∈ front, h.values pair.1 = [bytesOf pair.2])) ∧
    ∀ r' fault, sign signer created extra r = (.error fault, r') →
      (∃ c, FirstUnsupported (Params.new created extra).components c ∧
        fault = .unsupportedComponent c ∧ r' = r) ∨
      ((∀ e ∈ extra, Supported (Params.componentName e)) ∧
        (∃ e ∈ extra, ¬ Headers.IsValue (Params.componentName e)) ∧
        fault = .malformedHeader inputName .badValue ∧ SameParts r r' ∧
        Headers.After [(contentDigestName, (Labelled.ofBody r.body).render)] r.headers r'.headers ∧
        (r.headers.Same r'.headers ↔
          r.headers.values contentDigestName = [bytesOf (Labelled.ofBody r.body).render])) := by
  constructor
  · intro h' fault failed
    obtain ⟨front, stopped⟩ := s.exists_stopped failed
    exact ⟨front, stopped, stopped.after.same_iff⟩
  · intro r' fault failed
    rcases sign_eq_error_iff.1 failed with ⟨refused, rfl⟩ | ⟨made, headers, sealed, applied, rfl⟩
    · obtain ⟨c, first, why⟩ := base_eq_error_iff.1 refused
      exact .inl ⟨c, first, why, rfl⟩
    · obtain ⟨text, signedText, parts⟩ := Seal.make_eq_ok_iff.1 sealed
      obtain ⟨unfit, why, after⟩ := Seal.stopped_at_input parts applied
      have supported : ∀ e ∈ extra, Supported (Params.componentName e) :=
        Params.forall_named (.inr (by decide)) (base_eq_ok_iff.1 signedText).1
      have name : ∃ e ∈ extra, ¬ Headers.IsValue (Params.componentName e) := by
        by_contra all
        push Not at all
        exact unfit ((Params.forall_mem_header_new fun _ text =>
          (Headers.byte_of_isTextChar text).2).2 all)
      have same := after.same_iff
      rw [List.forall_mem_singleton] at same
      exact .inr ⟨supported, name, why, ⟨rfl, rfl, rfl, rfl⟩, after, same⟩

/-- Names that are supported and do not all fit into a header stop the signing behind the digest. -/
theorem sign_of_unfit (signer : Signer) (created : Int) {extra : List String} (r : Request)
    (supported : ∀ e ∈ extra, Supported (Params.componentName e))
    (unfit : ∃ e ∈ extra, ¬ Headers.IsValue (Params.componentName e)) :
    ∃ headers, sign signer created extra r =
        (.error (.malformedHeader inputName .badValue), { r with headers }) ∧
      Headers.After [(contentDigestName, (Labelled.ofBody r.body).render)] r.headers headers := by
  cases done : sign signer created extra r with
  | mk result r' =>
    cases result with
    | ok =>
      obtain ⟨e, listed, noValue⟩ := unfit
      have signable := sign_succeeds_iff.1 (congrArg Prod.fst done)
      exact absurd (signable e listed).value noValue
    | error fault =>
      rcases sign_eq_error_iff.1 done with ⟨refused, _⟩ | ⟨made, headers, sealed, applied, rfl⟩
      · have declared : ∀ name ∈ (Params.new created extra).components, Supported name :=
          Params.forall_mem_new (by decide) supported
        obtain ⟨text, signedText⟩ := exists_base r (Labelled.ofBody r.body) declared
        rw [signedText] at refused
        cases refused
      · obtain ⟨text, _, parts⟩ := Seal.make_eq_ok_iff.1 sealed
        obtain ⟨_, rfl, after⟩ := Seal.stopped_at_input parts applied
        exact ⟨headers, rfl, after⟩

/-- A seal whose list holds a line break. -/
def broken : Seal := ⟨"sha-256=:x:", "iam=(bad\nname);", "iam=:x:"⟩

theorem apply_broken (h : Headers) : broken.apply h =
    (.error (.malformedHeader inputName .badValue), h.insert contentDigestName (bytesOf "sha-256=:x:")) :=
  place_eq_error_iff.2 ⟨[(contentDigestName, "sha-256=:x:")], inputName, "iam=(bad\nname);",
    [(signatureName, "iam=:x:")], rfl, by decide, by decide, rfl, rfl⟩

/-- A line break, put down after a seal that is stale: the digest is the new one, and the signature is
still the old one. -/
theorem stopped_stale :
    (∃ front, broken.Stopped front stale.headers
      (stale.headers.insert contentDigestName (bytesOf "sha-256=:x:"))
      (.malformedHeader inputName .badValue)) ∧
    ∃ headers, sign someKey.signer 1 [" Sub-Account", "x\ny"] stale =
        (.error (.malformedHeader inputName .badValue), { stale with headers }) ∧
      stale.headers.values contentDigestName = [[]] ∧
      headers.values contentDigestName = [bytesOf (Labelled.ofBody stale.body).render] ∧
      headers.values signatureName = [bytesOf "iam=:x:", []] := by
  obtain ⟨applied, signed⟩ := stopped_or_untouched broken stale.headers someKey.signer 1
    [" Sub-Account", "x\ny"] stale
  obtain ⟨front, stopped, _⟩ := applied _ _ (apply_broken stale.headers)
  obtain ⟨headers, failed, _⟩ := sign_of_unfit someKey.signer 1 stale
    (show ∀ e ∈ [" Sub-Account", "x\ny"], Supported (Params.componentName e) by decide)
    ⟨"x\ny", by decide, by decide⟩
  have unsupported : ¬ ∃ c, FirstUnsupported
      (Params.new 1 [" Sub-Account", "x\ny"]).components c ∧
        Fault.malformedHeader inputName .badValue = .unsupportedComponent c ∧
          { stale with headers } = stale := by simp
  obtain ⟨_, _, _, _, after, _⟩ := (signed _ _ failed).resolve_left unsupported
  have written := after.written
  rw [List.forall_mem_singleton] at written
  refine ⟨⟨front, stopped⟩, headers, failed, by decide, written, ?_⟩
  rw [after.others signatureName (by decide)]
  decide

/-- A seal whose list holds a line break leaves its digest behind, and so does the signing of a request
that had none. -/
theorem digest_left_behind :
    broken.apply .empty = (.error (.malformedHeader inputName .badValue),
        ⟨[(contentDigestName, bytesOf "sha-256=:x:")]⟩) ∧
      ∃ headers, sign someKey.signer 1 ["x\ny"] unsigned =
          (.error (.malformedHeader inputName .badValue), { unsigned with headers }) ∧
        unsigned.headers.values contentDigestName = [] ∧
        headers.values contentDigestName = [bytesOf (Labelled.ofBody unsigned.body).render] := by
  refine ⟨apply_broken .empty, ?_⟩
  obtain ⟨headers, failed, after⟩ := sign_of_unfit someKey.signer 1 unsigned
    (show ∀ e ∈ ["x\ny"], Supported (Params.componentName e) by decide)
    ⟨"x\ny", by decide, by decide⟩
  have written := after.written
  rw [List.forall_mem_singleton] at written
  exact ⟨headers, failed, rfl, written⟩

/-! ### A seal that replaces another -/

/-- The map under a seal: all that stood under other names, and behind it the three texts. -/
theorem Seal.entries_headers (s : Seal) (h : Headers) : (s.headers h).entries =
    h.entries.filter (fun e => e.1 ∉ sealNames) ++ s.pairs.map fun pair => (pair.1, bytesOf pair.2) := by
  have lowered : Text.lower contentDigestName = contentDigestName ∧
      Text.lower inputName = inputName ∧ Text.lower signatureName = signatureName := by decide
  have apart : contentDigestName ≠ inputName ∧ contentDigestName ≠ signatureName ∧
      inputName ≠ signatureName := by decide
  have kept (e : String × Bytes) : (e.1 != signatureName && (e.1 != inputName &&
      e.1 != contentDigestName)) = decide (e.1 ∉ sealNames) := by
    rw [Bool.eq_iff_iff]
    simp [sealNames]
    tauto
  simp [Seal.headers, Headers.insert, Headers.append, Headers.remove, List.filter_append,
    List.filter_filter, lowered, apart, pairs, kept]

/-- A seal on top of itself is the seal alone. -/
theorem Seal.headers_headers (s : Seal) (h : Headers) : s.headers (s.headers h) = s.headers h := by
  have own : (s.pairs.map fun pair => (pair.1, bytesOf pair.2)).filter
      (fun e => decide (e.1 ∉ sealNames)) = [] := by
    simp [pairs, sealNames]
  have same : (s.headers (s.headers h)).entries = (s.headers h).entries := by
    rw [entries_headers, entries_headers, List.filter_append, own, List.append_nil,
      List.filter_filter]
    simp
  exact congrArg Headers.mk same

/-- The same requests but for what stands under the names of a seal. -/
structure SameUnsealed (a b : Request) : Prop where
  parts : SameParts a b
  values : ∀ name, Text.lower name ∉ sealNames → a.headers.values name = b.headers.values name

section

variable {signer : Signer} {created : Int} {extra : List String}
  (coverable : ∀ e ∈ extra, Coverable (Params.componentName e))
include coverable

/-- No name under which a seal stands is read off a header when the seal is made: the digest is that of
the body, and the other two are not covered. -/
theorem shownValue_of_sameUnsealed {a b : Request} (same : SameUnsealed a b) {digest : Labelled}
    {name : String} (declared : name ∈ (Params.new created extra).components) :
    shownValue a digest name = shownValue b digest name := by
  by_cases isDigest : name = contentDigestName
  · rw [isDigest, shownValue_digest, shownValue_digest]
  have apart := apart_of_coverable coverable declared
  have other : Text.lower name ∉ sealNames := by
    rw [Params.lower_of_mem_new declared]
    simp [sealNames, isDigest, apart]
  refine shownValue_congr same.parts fun _ => ?_
  rw [Headers.get?_eq_head?, Headers.get?_eq_head?, same.values name other]

theorem Seal.make_of_sameUnsealed {a b : Request} (same : SameUnsealed a b) :
    Seal.make signer created extra a = Seal.make signer created extra b := by
  have text : base (Params.new created extra) a (Labelled.ofBody a.body) =
      base (Params.new created extra) b (Labelled.ofBody a.body) :=
    base_eq_of_shownValue_eq fun _ declared => shownValue_of_sameUnsealed coverable same declared
  rw [Seal.make, Seal.make, text, same.parts.body]

end

/-- Under any seal a request is the same but for the seal. -/
theorem sameUnsealed_headers (made : Seal) (r : Request) :
    SameUnsealed { r with headers := made.headers r.headers } r where
  parts := ⟨rfl, rfl, rfl, rfl⟩
  values name other := by
    rw [← made.placedNames_pairs] at other
    exact (made.after_headers r.headers).others name other

/-- Signing forgets the seals that were there before. Requests that are the same but for them are both
signed, and then have the same headers: one value under each name of the seal, and under all other names
the values that were there. Signing once more changes nothing. -/
theorem sign_forgets (signer : Signer) (created : Int) {extra : List String}
    (coverable : ∀ e ∈ extra, Coverable (Params.componentName e)) {a b : Request}
    (same : SameUnsealed a b) :
    ∃ a' b', sign signer created extra a = (.ok (), a') ∧ sign signer created extra b = (.ok (), b') ∧
      a'.headers.Same b'.headers ∧
      (∀ name ∈ sealNames, ∃ value, a'.headers.values name = [value]) ∧
      SameUnsealed a' a ∧ SameUnsealed b' b ∧ sign signer created extra a' = (.ok (), a') := by
  obtain ⟨made, sealed, done⟩ := exists_sign signer created coverable a
  obtain ⟨made', sealed', done'⟩ := exists_sign signer created coverable b
  obtain rfl : made = made' := by
    rw [Seal.make_of_sameUnsealed coverable same, sealed', Except.ok.injEq] at sealed
    exact sealed.symm
  have after := made.after_headers a.headers
  have after' := made.after_headers b.headers
  refine ⟨_, _, done, done', ?_, ?_, sameUnsealed_headers made a, sameUnsealed_headers made b, ?_⟩
  · intro name
    by_cases other : Text.lower name ∈ Headers.placedNames made.pairs
    · obtain ⟨pair, listed, alike⟩ := List.mem_map.1 other
      dsimp only
      rw [Headers.values_congr alike.symm, after.written pair listed,
        Headers.values_congr (h := made.headers b.headers) alike.symm, after'.written pair listed]
    · dsimp only
      rw [after.others name other, after'.others name other]
      exact same.values name (made.placedNames_pairs ▸ other)
  · intro name listed
    have named : name ∈ made.pairs.map Prod.fst := listed
    obtain ⟨pair, inside, rfl⟩ := List.mem_map.1 named
    exact ⟨_, after.written pair inside⟩
  · obtain ⟨again, resealed, redone⟩ := exists_sign signer created coverable
      { a with headers := made.headers a.headers }
    obtain rfl : made = again := by
      rw [Seal.make_of_sameUnsealed coverable (sameUnsealed_headers made a), sealed,
        Except.ok.injEq] at resealed
      exact resealed
    rw [redone, made.headers_headers]

/-- Without the stale signatures, but with two lists of what they covered. -/
def restaled : Request :=
  { stale with headers :=
      ((Headers.empty.append inputName [0xff]).append inputName []).append subAccountName [0xff] }

/-- Whatever was signed before, and even if the digest is asked for once more. -/
theorem sign_forgets_stale : ∃ a b,
    sign someKey.signer 1 ["Sub-Account", "Content-Digest"] stale = (.ok (), a) ∧
      sign someKey.signer 1 ["Sub-Account", "Content-Digest"] restaled = (.ok (), b) ∧
      a.headers.Same b.headers ∧ b.headers.values subAccountName = [[0xff]] ∧
      sign someKey.signer 1 ["Sub-Account", "Content-Digest"] a = (.ok (), a) := by
  have coverable : ∀ e ∈ ["Sub-Account", "Content-Digest"],
      Coverable (Params.componentName e) := by
    simp only [List.forall_mem_cons, List.not_mem_nil, false_implies, implies_true, and_true]
    exact ⟨⟨by decide, by decide, by decide⟩, ⟨by decide, by decide, by decide⟩⟩
  have same : SameUnsealed stale restaled := by
    refine ⟨⟨rfl, rfl, rfl, rfl⟩, fun name other => ?_⟩
    have shape : stale.headers.entries = [(signatureName, bytesOf "iam=:x:"), (signatureName, []),
        (subAccountName, [0xff]), (contentDigestName, [])] := by decide
    have shape' : restaled.headers.entries =
        [(inputName, [0xff]), (inputName, []), (subAccountName, [0xff])] := by decide
    simp only [sealNames, List.mem_cons, List.not_mem_nil, or_false, not_or] at other
    obtain ⟨digest, input, signature⟩ := other
    simp [Headers.values, shape, shape', List.filter_cons, Ne.symm digest, Ne.symm input,
      Ne.symm signature]
  obtain ⟨a, b, signedA, signedB, alike, _, _, kept, again⟩ :=
    sign_forgets someKey.signer 1 coverable same
  refine ⟨a, b, signedA, signedB, alike, ?_, again⟩
  rw [kept.values subAccountName (by decide)]
  decide

end Signature

end Countersign
