import Countersign.Signature.Seal
import Countersign.Proofs.Canonical

/-! What a signer declares. Names of headers stay names when they are put down, so that the text
under a signature is plain. -/
namespace Countersign

namespace Text

theorem isDigit_ne_newline {c : Char} (digit : isDigit c = true) : c ≠ '\n' := by
  rintro rfl
  revert digit
  decide

theorem oneLine_ofInt (n : Int) : OneLine (ofInt n) := by
  have digits : '\n' ∉ decimal n.natAbs := fun member =>
    isDigit_ne_newline (List.all_eq_true.1 (all_isDigit_decimal n.natAbs) _ member) rfl
  rw [OneLine, ofInt, String.toList_ofList]
  split
  · simp [digits]
  · exact digits

/-- Beyond ASCII nothing has a lower case. -/
theorem toLower_of_le {c : Char} (beyond : 128 ≤ c.toNat) : c.toLower = c := by
  have code : c.toNat = c.val.toNat := rfl
  have last : 'Z'.val.toNat = 90 := rfl
  have noCapital : ¬ (c.val ≥ 'A'.val ∧ c.val ≤ 'Z'.val) := by
    rw [UInt32.le_iff_toNat_le]
    omega
  exact dif_neg noCapital

/-- Lower case takes nothing into ASCII. -/
theorem ascii_of_toLower {c : Char} (ascii : c.toLower.toNat < 128) : c.toNat < 128 := by
  by_contra beyond
  rw [toLower_of_le (Nat.le_of_not_lt beyond)] at ascii
  exact beyond ascii

/-- A letter in lower case stays as it is. -/
theorem toLower_toLower (c : Char) : c.toLower.toLower = c.toLower := by
  by_cases ascii : c.toNat < 128
  · exact forall_ascii c ascii (by decide +kernel)
  · have kept := toLower_of_le (Nat.le_of_not_lt ascii)
    rw [kept, kept]

theorem lower_lower (s : String) : lower (lower s) = lower s := by
  rw [lower, lower, String.toList_ofList, List.map_map]
  simp only [Function.comp_def, toLower_toLower]

end Text

namespace Headers

/-- Marks that no name of a header holds. -/
def marks : List Char := [' ', ')', '\n', '@']

theorem isTokenChar_ascii {c : Char} (token : isTokenChar c = true) : c.toNat < 128 := by
  have alphanumeric : c.isAlphanum =
      ((decide (c.val ≥ 'A'.val ∧ c.val ≤ 'Z'.val) || (c.val ≥ 'a'.val && c.val ≤ 'z'.val)) ||
        (c.val ≥ '0'.val && c.val ≤ '9'.val)) := rfl
  rw [isTokenChar, alphanumeric] at token
  simp only [Bool.or_eq_true, Bool.and_eq_true, decide_eq_true_eq, List.contains_iff_mem,
    UInt32.le_iff_toNat_le, ge_iff_le] at token
  have code : c.toNat = c.val.toNat := rfl
  have upperEnd : 'Z'.val.toNat = 90 := rfl
  have lowerEnd : 'z'.val.toNat = 122 := rfl
  have digitEnd : '9'.val.toNat = 57 := rfl
  have others : "!#$%&'*+-.^_`|~".toList.all (·.toNat < 128) = true := by decide
  rcases token with ((upper | lower) | digit) | mark
  · omega
  · omega
  · omega
  · simpa using List.all_eq_true.1 others c mark

theorem isTokenChar_lower {c : Char} (token : isTokenChar c = true) :
    isTokenChar c.toLower = true ∧ c ∉ marks ∧ Text.isBlank c = false := by
  have ascii := isTokenChar_ascii token
  revert token
  exact forall_ascii c ascii (by decide +kernel)

end Headers

namespace Signature.Params

theorem mem_addComponent {components : List String} {extra name : String} :
    name ∈ addComponent components extra ↔
      name ∈ components ∨ (componentName extra = name ∧ name ≠ "") := by
  unfold addComponent
  dsimp only
  split
  · rename_i known
    rw [Bool.or_eq_true, String.isEmpty_iff, List.contains_iff_mem] at known
    constructor
    · exact .inl
    · rintro (here | ⟨rfl, given⟩)
      · exact here
      · exact known.resolve_left given
  · rename_i fresh
    rw [Bool.or_eq_true, String.isEmpty_iff, not_or] at fresh
    rw [List.mem_append, List.mem_singleton]
    constructor
    · rintro (here | rfl)
      · exact .inl here
      · exact .inr ⟨rfl, fresh.1⟩
    · rintro (here | ⟨rfl, _⟩)
      · exact .inl here
      · exact .inr rfl

theorem mem_foldl_addComponent {components extra : List String} {name : String} :
    name ∈ extra.foldl addComponent components ↔
      name ∈ components ∨ ∃ e ∈ extra, componentName e = name ∧ name ≠ "" := by
  induction extra generalizing components with
  | nil => simp
  | cons e rest ih =>
    rw [List.foldl_cons, ih, mem_addComponent, or_assoc]
    simp only [List.mem_cons, exists_eq_or_imp]

/-- What is declared: the standard components, and what the extras name. -/
theorem mem_new {created : Int} {extra : List String} {name : String} :
    name ∈ (new created extra).components ↔
      name ∈ standard ∨ ∃ e ∈ extra, componentName e = name ∧ name ≠ "" :=
  mem_foldl_addComponent

theorem covers_new_subAccount {created : Int} {extra : List String} :
    subAccountName ∈ (new created extra).components ↔
      ∃ e ∈ extra, componentName e = subAccountName := by
  have apart : subAccountName ∉ standard := by decide
  have given : subAccountName ≠ "" := by decide
  simp [mem_new, apart, given]

/-- Nothing is taken off a name of a header when it is put down. -/
theorem isToken_componentName {name : String} (token : Headers.isToken name = true) :
    Headers.isToken (componentName name) = true := by
  rw [Headers.isToken, Bool.and_eq_true, List.all_eq_true, Bool.not_eq_true', ← Bool.not_eq_true,
    List.isEmpty_iff] at token
  obtain ⟨notEmpty, chars⟩ := token
  have noBlank : ∀ c ∈ name.toList, Text.isBlank c = false := fun c member =>
    (Headers.isTokenChar_lower (chars c member)).2.2
  have trimmed : (Text.trim name).toList = name.toList := by
    rw [Text.toList_trim, Text.dropEnds_eq_self noBlank]
  rw [Headers.isToken, componentName, Text.lower, String.toList_ofList, trimmed, Bool.and_eq_true,
    List.all_map, List.all_eq_true, Bool.not_eq_true', ← Bool.not_eq_true, List.isEmpty_iff,
    List.map_eq_nil_iff]
  exact ⟨notEmpty, fun c member => (Headers.isTokenChar_lower (chars c member)).1⟩

theorem isTokenChar_of_mem {name : String} (token : Headers.isToken name = true) {c : Char}
    (member : c ∈ name.toList) : Headers.isTokenChar c = true := by
  rw [Headers.isToken, Bool.and_eq_true, List.all_eq_true] at token
  exact token.2 c member

theorem not_mem_marks {name : String} (token : Headers.isToken name = true) {c : Char}
    (member : c ∈ name.toList) : c ∉ Headers.marks :=
  (Headers.isTokenChar_lower (isTokenChar_of_mem token member)).2.1

/-- What holds of the standard components and of all that is named holds of all that is declared. -/
theorem forall_mem_new {created : Int} {extra : List String} {P : String → Prop}
    (base : ∀ name ∈ standard, P name) (named : ∀ e ∈ extra, P (componentName e)) :
    ∀ name ∈ (new created extra).components, P name := by
  intro name declared
  rcases mem_new.1 declared with isBase | ⟨e, inExtra, rfl, _⟩
  · exact base name isBase
  · exact named e inExtra

/-- What holds of all that is declared, and of no name at all, holds of each extra. -/
theorem forall_named {created : Int} {extra : List String} {P : String → Prop} (blank : P "")
    (all : ∀ name ∈ (new created extra).components, P name) : ∀ e ∈ extra, P (componentName e) := by
  intro e inExtra
  by_cases empty : componentName e = ""
  · rwa [empty]
  · exact all _ (mem_new.2 (.inr ⟨e, inExtra, rfl, empty⟩))

/-- Names without a mark of their own can be listed. -/
theorem listed_new_of_apart {created : Int} {extra : List String}
    (apart : ∀ e ∈ extra, ' ' ∉ (componentName e).toList ∧ ')' ∉ (componentName e).toList) :
    Listed (new created extra).components := by
  have all : ∀ name ∈ (new created extra).components, ' ' ∉ name.toList ∧ ')' ∉ name.toList :=
    forall_mem_new (by decide) apart
  refine ⟨?_, fun name declared => (all name declared).1, fun name declared => (all name declared).2⟩
  intro none
  have declared : "@method" ∈ (new created extra).components := mem_new.2 (.inl (by decide))
  rw [none] at declared
  cases declared

section

variable {created : Int} {extra : List String}
  (tokens : ∀ e ∈ extra, Headers.isToken (componentName e) = true)
include tokens

theorem listed_new : Listed (new created extra).components := by
  apply listed_new_of_apart
  intro e inExtra
  exact ⟨fun blank => not_mem_marks (tokens e inExtra) blank (by decide),
    fun close => not_mem_marks (tokens e inExtra) close (by decide)⟩

theorem oneLine_of_mem_new {name : String} (declared : name ∈ (new created extra).components) :
    Text.OneLine name := by
  refine forall_mem_new (by decide) (fun e inExtra newline => ?_) name declared
  exact not_mem_marks (tokens e inExtra) newline (by decide)

theorem supported_of_mem_new {name : String} (declared : name ∈ (new created extra).components) :
    Supported name := by
  refine forall_mem_new (by decide) (fun e inExtra => .inr fun mark => ?_) name declared
  exact not_mem_marks (tokens e inExtra) (List.mem_of_mem_head? mark) (by decide)

theorem oneLine_render_new : Text.OneLine (new created extra).render := by
  apply oneLine_render
  · intro name declared
    exact oneLine_of_mem_new tokens declared
  · intro pair listed
    have number := Text.oneLine_ofInt created
    rw [Text.OneLine] at number
    obtain rfl : pair = ("created", createdText created) := List.mem_singleton.1 listed
    simp [Text.OneLine, createdText, number]

end

end Signature.Params

namespace Signature

/-- The text under a signature of a request on one line that covers headers is plain. -/
theorem plain_new {created : Int} {extra : List String} {r : Request} (lines : r.OneLine)
    (tokens : ∀ e ∈ extra, Headers.isToken (Params.componentName e) = true) :
    Plain (Params.new created extra) r (Labelled.ofBody r.body) where
  listed := Params.listed_new tokens
  names := fun _ declared => Params.oneLine_of_mem_new tokens declared
  values := fun c _ => oneLine_shownValue r _ lines (Labelled.oneLine_label_ofBody r.body) c
  params := Params.oneLine_render_new tokens

/-- A seal is made of the text that is signed. -/
theorem Seal.make_eq_ok_iff {signer : Signer} {created : Int} {extra : List String} {r : Request}
    {made : Seal} :
    Seal.make signer created extra r = .ok made ↔
      ∃ text, base (Params.new created extra) r (Labelled.ofBody r.body) = .ok text ∧
        Seal.mk (Labelled.ofBody r.body).render (Params.new created extra).header
          (Labelled.ofSignature (signer.sign (bytesOf text))).render = made := by
  simp only [Seal.make, Outcome.bind_eq_ok_iff, Outcome.pure_eq_ok_iff]

/-- Covering headers by their names is never refused. -/
theorem exists_seal (signer : Signer) (created : Int) {extra : List String} (r : Request)
    (tokens : ∀ e ∈ extra, Headers.isToken (Params.componentName e) = true) :
    ∃ made, Seal.make signer created extra r = .ok made := by
  obtain ⟨text, made⟩ := exists_base r (Labelled.ofBody r.body)
    fun _ (declared : _ ∈ (Params.new created extra).components) =>
      Params.supported_of_mem_new tokens declared
  exact ⟨_, Seal.make_eq_ok_iff.2 ⟨text, made, rfl⟩⟩

end Signature

end Countersign
