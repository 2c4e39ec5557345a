import Countersign.Proofs.Declared
import Mathlib.Data.List.Induction
import Mathlib.Logic.Relation

/-! What a signer is asked to cover. The components of a signature are the standard ones and then what
the extras name, each once and in the order in which they first name it. Of the extras nothing else
counts: not the case, nor the blanks, nor what is named again. -/
namespace Countersign

namespace Text

theorem isBlank_toLower (c : Char) : isBlank c.toLower = isBlank c := by
  by_cases ascii : c.toNat < 128
  · exact forall_ascii c ascii (by decide +kernel)
  · rw [toLower_of_le (Nat.le_of_not_lt ascii)]

theorem dropEnds_map {α β : Type} (p : β → Bool) (f : α → β) (l : List α) :
    dropEnds p (l.map f) = (dropEnds (p ∘ f) l).map f := by
  rw [dropEnds, dropEnds, List.dropWhile_map, ← List.map_reverse, List.dropWhile_map,
    ← List.map_reverse]

/-- Taking blanks off and putting in lower case can be done in either order. -/
theorem trim_lower (s : String) : trim (lower s) = lower (trim s) := by
  have same : isBlank ∘ Char.toLower = isBlank := funext isBlank_toLower
  rw [← String.toList_inj, toList_trim, lower, lower, String.toList_ofList, String.toList_ofList,
    dropEnds_map, same, toList_trim]

theorem trim_eq_empty_iff {s : String} : trim s = "" ↔ allBlank s = true := by
  constructor
  · intro empty
    obtain ⟨front, back, before, behind, whole⟩ := exists_trim_around s
    rw [allBlank, List.all_eq_true] at before behind ⊢
    rw [whole, empty]
    simpa [or_imp, forall_and] using ⟨before, behind⟩
  · intro blank
    have around : trim (s ++ "" ++ "") = trim "" := trim_around blank rfl ""
    rw [String.append_empty, String.append_empty] at around
    exact around.trans rfl

end Text

namespace Signature.Params

variable {name other : String}

theorem componentName_eq_of_lower (same : Text.lower name = Text.lower other) :
    componentName name = componentName other := by
  rw [componentName, ← Text.trim_lower, same, Text.trim_lower, componentName]

theorem componentName_eq_empty_iff : componentName name = "" ↔ Text.allBlank name = true := by
  rw [← Text.trim_eq_empty_iff, componentName, Text.lower, ← String.toList_inj, ← String.toList_inj]
  simp

/-- The names that are added to the standard ones: of the names that are given all but the blank and the
standard ones, each once, in the order in which they come first. -/
structure Added (names added : List String) : Prop where
  mem_iff : ∀ name, name ∈ added ↔ name ∈ names ∧ name ≠ "" ∧ name ∉ standard
  ordered : added.Pairwise fun a b => names.idxOf a < names.idxOf b

section

variable {names added : List String}

/-- What comes last moves no name that is there already. -/
theorem Added.ordered_append (before : Added names added) (name : String) :
    added.Pairwise fun a b => (names ++ [name]).idxOf a < (names ++ [name]).idxOf b := by
  refine before.ordered.imp_of_mem fun {a b} inAdded inAdded' earlier => ?_
  rwa [List.idxOf_append_of_mem ((before.mem_iff a).1 inAdded).1,
    List.idxOf_append_of_mem ((before.mem_iff b).1 inAdded').1]

theorem Added.known (before : Added names added) (known : name = "" ∨ name ∈ standard ++ added) :
    Added (names ++ [name]) added := by
  refine ⟨fun other => ?_, before.ordered_append name⟩
  rw [before.mem_iff, List.mem_append, List.mem_singleton]
  constructor
  · rintro ⟨given, rest⟩
    exact ⟨.inl given, rest⟩
  · rintro ⟨given | rfl, notEmpty, apart⟩
    · exact ⟨given, notEmpty, apart⟩
    · have member := known.resolve_left notEmpty
      rw [List.mem_append] at member
      exact (before.mem_iff _).1 (member.resolve_left apart)

theorem Added.fresh (before : Added names added) (given : name ≠ "")
    (fresh : name ∉ standard ++ added) : Added (names ++ [name]) (added ++ [name]) := by
  rw [List.mem_append, not_or] at fresh
  have unnamed : name ∉ names := fun member =>
    fresh.2 ((before.mem_iff name).2 ⟨member, given, fresh.1⟩)
  constructor
  · intro other
    rw [List.mem_append, List.mem_append, before.mem_iff, List.mem_singleton]
    constructor
    · rintro (⟨there, rest⟩ | rfl)
      · exact ⟨.inl there, rest⟩
      · exact ⟨.inr rfl, given, fresh.1⟩
    · rintro ⟨there | rfl, rest⟩
      · exact .inl ⟨there, rest⟩
      · exact .inr rfl
  · rw [List.pairwise_append]
    refine ⟨before.ordered_append name, List.pairwise_singleton _ _, ?_⟩
    intro a inAdded b last
    obtain rfl := List.mem_singleton.1 last
    have there := ((before.mem_iff a).1 inAdded).1
    rw [List.idxOf_append_of_mem there, List.idxOf_append_of_notMem unnamed]
    exact Nat.lt_of_lt_of_le (List.idxOf_lt_length_of_mem there) (Nat.le_add_right _ _)

end

theorem components_new (created : Int) (extra : List String) :
    (new created extra).components = extra.foldl addComponent standard := rfl

/-- One name after the other is added, or is there already. -/
theorem exists_added (created : Int) (extra : List String) : ∃ added,
    (new created extra).components = standard ++ added ∧ Added (extra.map componentName) added := by
  rw [components_new]
  -- By the last extra: the list so far decides what is known, and that is what `Added` says of it.
  induction extra using List.reverseRecOn with
  | nil => exact ⟨[], rfl, by simp, .nil⟩
  | append_singleton extra e ih =>
    obtain ⟨added, shape, before⟩ := ih
    rw [List.foldl_append, shape, List.foldl_cons, List.foldl_nil, List.map_append, List.map_singleton,
      addComponent]
    split
    · rename_i known
      rw [Bool.or_eq_true, String.isEmpty_iff, List.contains_iff_mem] at known
      exact ⟨added, rfl, before.known known⟩
    · rename_i fresh
      rw [Bool.or_eq_true, String.isEmpty_iff, List.contains_iff_mem, not_or] at fresh
      exact ⟨_, List.append_assoc .., before.fresh fresh.1 fresh.2⟩

theorem nodup_new (created : Int) (extra : List String) : (new created extra).components.Nodup := by
  have base : standard.Nodup := by decide
  have folded (components : List String) (distinct : components.Nodup) :
      (extra.foldl addComponent components).Nodup := by
    induction extra generalizing components with
    | nil => exact distinct
    | cons e rest ih =>
      rw [List.foldl_cons]
      exact ih _ (nodup_addComponent e distinct)
  rw [components_new]
  exact folded standard base

/-- A change of a list of names that changes nothing in what they say: a name in another case, or without
the blanks around it; or one entry less, that is blank or has been there before. -/
inductive Edit : List String → List String → Prop
  | letters (front back : List String) {name other : String}
      (same : Text.lower name = Text.lower other) :
      Edit (front ++ name :: back) (front ++ other :: back)
  | blanks (front back : List String) {before behind : String} (name : String)
      (first : Text.allBlank before = true) (last : Text.allBlank behind = true) :
      Edit (front ++ (before ++ name ++ behind) :: back) (front ++ name :: back)
  | blank (front back : List String) {name : String} (nothing : Text.allBlank name = true) :
      Edit (front ++ name :: back) (front ++ back)
  | repetition (front back : List String) {name : String} (earlier : name ∈ front) :
      Edit (front ++ name :: back) (front ++ back)

/-- Lists that come from each other by such changes. -/
def SameNames : List String → List String → Prop := Relation.EqvGen Edit

section

variable {names others : List String}

theorem Edit.around (edit : Edit names others) (front back : List String) :
    Edit (front ++ names ++ back) (front ++ others ++ back) := by
  cases edit with
  | letters before behind same =>
    simpa using Edit.letters (front ++ before) (behind ++ back) same
  | blanks before behind name first last =>
    simpa using Edit.blanks (front ++ before) (behind ++ back) name first last
  | blank before behind nothing =>
    simpa using Edit.blank (front ++ before) (behind ++ back) nothing
  | repetition before behind earlier =>
    simpa using Edit.repetition (front ++ before) (behind ++ back) (List.mem_append_right _ earlier)

theorem SameNames.around (same : SameNames names others) (front back : List String) :
    SameNames (front ++ names ++ back) (front ++ others ++ back) := by
  induction same with
  | rel names others edit => exact .rel _ _ (edit.around front back)
  | refl names => exact .refl _
  | symm names others _ ih => exact ih.symm
  | trans names middle others _ _ first second => exact first.trans _ _ _ second

/-- A name that is there already adds nothing, and neither does a blank one. -/
theorem addComponent_eq_self {components : List String} {name : String}
    (known : componentName name = "" ∨ componentName name ∈ components) :
    addComponent components name = components := by
  rw [addComponent, if_pos]
  rwa [Bool.or_eq_true, String.isEmpty_iff, List.contains_iff_mem]

theorem addComponent_congr {name other : String} (same : componentName name = componentName other)
    (components : List String) : addComponent components name = addComponent components other := by
  rw [addComponent, addComponent, same]

/-- No change is seen in what is added. -/
theorem Edit.foldl_eq (edit : Edit names others) (components : List String) :
    names.foldl addComponent components = others.foldl addComponent components := by
  cases edit with
  | letters front back same =>
    rw [List.foldl_append, List.foldl_append, List.foldl_cons, List.foldl_cons,
      addComponent_congr (componentName_eq_of_lower same)]
  | blanks front back name first last =>
    have same : componentName (_ ++ name ++ _) = componentName name :=
      congrArg Text.lower (Text.trim_around first last name)
    rw [List.foldl_append, List.foldl_append, List.foldl_cons, List.foldl_cons,
      addComponent_congr same]
  | blank front back nothing =>
    rw [List.foldl_append, List.foldl_append, List.foldl_cons,
      addComponent_eq_self (.inl (componentName_eq_empty_iff.2 nothing))]
  | @repetition front back name earlier =>
    have known : componentName name = "" ∨
        componentName name ∈ front.foldl addComponent components := by
      rw [or_iff_not_imp_left]
      exact fun given => mem_foldl_addComponent.2 (.inr ⟨name, earlier, rfl, given⟩)
    rw [List.foldl_append, List.foldl_append, List.foldl_cons, addComponent_eq_self known]

theorem SameNames.foldl_eq (same : SameNames names others) (components : List String) :
    names.foldl addComponent components = others.foldl addComponent components := by
  induction same with
  | rel names others edit => exact edit.foldl_eq components
  | refl names => rfl
  | symm names others _ ih => exact ih.symm
  | trans names middle others _ _ first second => exact first.trans second

/-- A name can be put in the place of what it is declared as. -/
theorem sameNames_componentName (front : List String) (name : String) :
    SameNames (front ++ [name]) (front ++ [componentName name]) := by
  obtain ⟨before, behind, first, last, whole⟩ := Text.exists_trim_around name
  have trimmed : Edit (front ++ [name]) (front ++ [Text.trim name]) := by
    conv => lhs; rw [whole]
    exact .blanks front [] (Text.trim name) first last
  have lowered : Edit (front ++ [Text.trim name]) (front ++ [componentName name]) :=
    .letters front [] (Text.lower_lower _).symm
  exact .trans _ _ _ (.rel _ _ trimmed) (.rel _ _ lowered)

/-- Every list of names can be changed into what is declared of it. -/
theorem sameNames_foldl (names : List String) :
    SameNames names (names.foldl addComponent []) := by
  induction names using List.reverseRecOn with
  | nil => exact .refl _
  | append_singleton names name ih =>
    have front : SameNames (names ++ [name]) (names.foldl addComponent [] ++ [name]) := by
      simpa using ih.around [] [name]
    -- The last name takes the form in which it is declared, and then stays or goes as a whole.
    refine .trans _ _ _ (.trans _ _ _ front (sameNames_componentName _ name)) ?_
    rw [List.foldl_append, List.foldl_cons, List.foldl_nil]
    generalize names.foldl addComponent [] = declared
    rw [addComponent]
    split
    · rename_i known
      rw [Bool.or_eq_true, String.isEmpty_iff, List.contains_iff_mem] at known
      rcases known with empty | earlier
      · have nothing : Text.allBlank (componentName name) = true := by rw [empty]; rfl
        simpa using Relation.EqvGen.rel _ _ (Edit.blank declared [] nothing)
      · simpa using Relation.EqvGen.rel _ _ (Edit.repetition declared [] earlier)
    · exact .refl _

end

theorem components_new_eq (created : Int) (extra : List String) :
    (new created extra).components = (standard ++ extra).foldl addComponent [] := by
  have base : standard.foldl addComponent [] = standard := by decide
  rw [components_new, List.foldl_append, base]

theorem new_congr {created : Int} {extra other : List String}
    (same : (new created extra).components = (new created other).components) :
    new created extra = new created other := by
  rw [new, new, ← components_new created extra, ← components_new created other, same]

/-- Extras make the same parameters just if behind the standard names they are the same names. -/
theorem new_eq_new_iff {created : Int} {extra other : List String} :
    new created extra = new created other ↔ SameNames (standard ++ extra) (standard ++ other) := by
  constructor
  · intro same
    have components := congrArg Params.components same
    rw [components_new_eq, components_new_eq] at components
    have left := sameNames_foldl (standard ++ extra)
    rw [components] at left
    exact left.trans _ _ _ (sameNames_foldl (standard ++ other)).symm
  · intro same
    apply new_congr
    rw [components_new_eq, components_new_eq, same.foldl_eq]

/-- The components that come out, taken for extras, come out again. -/
theorem new_components_new (created : Int) (extra : List String) :
    new created (new created extra).components = new created extra := by
  have known : (standard ++ standard).foldl addComponent [] = standard.foldl addComponent [] := by
    decide
  have again : SameNames (standard ++ (standard ++ extra))
      (standard ++ (new created extra).components) := by
    rw [components_new_eq]
    simpa using (sameNames_foldl (standard ++ extra)).around standard []
  apply new_congr
  rw [components_new_eq, ← again.foldl_eq, ← List.append_assoc, List.foldl_append, known,
    ← List.foldl_append, components_new_eq]

/-- The components are the standard ones and, in the order in which they come first, the names of the
extras that are neither blank nor standard. Another spelling of the extras changes nothing, and behind the
standard names nothing but another spelling goes unseen. -/
theorem new_exact (created : Int) (extra : List String) :
    (new created extra).components.Nodup ∧
    (∃ added, (new created extra).components =
        ["@method", "@path", "@query", "content-digest"] ++ added ∧
      Added (extra.map fun e => Text.lower (Text.trim e)) added) ∧
    (∀ e ∈ extra, Text.allBlank e = false →
      (new created extra).covers (Text.lower (Text.trim e)) = true) ∧
    (∀ other, SameNames extra other → new created extra = new created other) ∧
    (∀ other, new created extra = new created other ↔
      SameNames (standard ++ extra) (standard ++ other)) ∧
    new created (new created extra).components = new created extra := by
  refine ⟨nodup_new created extra, exists_added created extra, fun e inExtra given => ?_,
    fun other same => ?_, fun other => new_eq_new_iff, new_components_new created extra⟩
  · have named : componentName e ≠ "" := by
      rwa [Ne, componentName_eq_empty_iff, Bool.not_eq_true]
    rw [covers, List.contains_iff_mem]
    exact mem_new.2 (.inr ⟨e, inExtra, rfl, named⟩)
  · rw [new_eq_new_iff]
    simpa using same.around standard []

/-- A name between blanks, a blank one, and the first one again in lower case. -/
def untidy : List String := ["\tX-Request-Id ", "", "sub-account", "x-request-id"]

theorem new_exact_untidy :
    SameNames untidy ["x-request-id", "sub-account"] ∧
      new 1 untidy = new 1 ["x-request-id", "sub-account"] ∧
      (new 1 untidy).covers "x-request-id" = true := by
  have trimmed : Edit untidy ["X-Request-Id", "", "sub-account", "x-request-id"] :=
    @Edit.blanks [] ["", "sub-account", "x-request-id"] "\t" " " "X-Request-Id" rfl rfl
  have lowered : Edit ["X-Request-Id", "", "sub-account", "x-request-id"]
      ["x-request-id", "", "sub-account", "x-request-id"] := .letters [] _ (by decide)
  have given : Edit ["x-request-id", "", "sub-account", "x-request-id"]
      ["x-request-id", "sub-account", "x-request-id"] := .blank ["x-request-id"] _ rfl
  have once : Edit ["x-request-id", "sub-account", "x-request-id"]
      ["x-request-id", "sub-account"] := .repetition ["x-request-id", "sub-account"] [] (by decide)
  have same : SameNames untidy ["x-request-id", "sub-account"] :=
    .trans _ _ _ (.rel _ _ trimmed) (.trans _ _ _ (.rel _ _ lowered)
      (.trans _ _ _ (.rel _ _ given) (.rel _ _ once)))
  obtain ⟨_, _, covered, respelled, _⟩ := new_exact 1 untidy
  exact ⟨same, respelled _ same, covered "\tX-Request-Id " (by decide) (by decide)⟩

end Signature.Params

end Countersign
