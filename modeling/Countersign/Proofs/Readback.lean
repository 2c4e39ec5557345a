import Countersign.Proofs.Canonical

/-! What a signature covers survives being written down: a well-formed list reads back from its
header, and only well-formed lists are read. -/
namespace Countersign.Signature.Params

/-- What can be told apart once it is written: no mark of the header stands where it would be taken
for one. -/
structure WellFormed (p : Params) : Prop where
  label : '=' ∉ p.label.toList
  listed : Listed p.components
  keys : ∀ pair ∈ p.attributes, '=' ∉ pair.1.toList ∧ ';' ∉ pair.1.toList
  values : ∀ pair ∈ p.attributes, '=' ∉ pair.2.toList ∧ ';' ∉ pair.2.toList

/-- Between the marks stand the keys and values that were read. -/
theorem wellFormed_of_read {value : String} {p : Params} (found : read value = .ok p) :
    WellFormed p := by
  obtain ⟨before, inside, after, _, ⟨label, _, _⟩, _, pairs⟩ := read_eq_ok found
  have marks : ∀ pair ∈ p.attributes, ∀ part ∈ [pair.1.toList, pair.2.toList],
      '=' ∉ part ∧ ';' ∉ part := by
    intro pair member part isPart
    obtain ⟨segment, inSegments, split⟩ := mem_readPairs pairs member
    rw [← split] at isPart
    constructor
    · exact not_mem_of_mem_splitOn isPart
    · intro mark
      exact not_mem_of_mem_splitOn inSegments (mem_of_mem_splitOn isPart mark)
  refine ⟨label, listed_of_read found, ?_, ?_⟩
  · intro pair member
    exact marks pair member _ List.mem_cons_self
  · intro pair member
    exact marks pair member _ (by simp)

theorem toList_renderPair (pair : String × String) :
    (renderPair pair).toList = pair.1.toList ++ '=' :: pair.2.toList := by
  simp [renderPair, String.toList_append]

/-- A written pair is no blank segment, and its equals sign is the only one. -/
theorem readPairs_renderPair {attributes : List (String × String)}
    (keys : ∀ pair ∈ attributes, '=' ∉ pair.1.toList)
    (values : ∀ pair ∈ attributes, '=' ∉ pair.2.toList) :
    readPairs (attributes.map fun pair => (renderPair pair).toList) = .ok attributes := by
  induction attributes with
  | nil => rfl
  | cons pair rest ih =>
    have shape := toList_renderPair pair
    have given : (renderPair pair).toList.all Text.isBlank = false := by
      rw [shape, List.all_append, List.all_cons]
      simp [show Text.isBlank '=' = false by decide]
    have split : (renderPair pair).toList.splitOn '=' = [pair.1.toList, pair.2.toList] := by
      rw [shape, List.splitOn_append_cons_self_of_not_mem (keys pair List.mem_cons_self),
        List.splitOn_eq_singleton (values pair List.mem_cons_self)]
    rw [List.map_cons, readPairs, given, split,
      ih (fun p member => keys p (List.mem_cons_of_mem _ member))
        (fun p member => values p (List.mem_cons_of_mem _ member))]
    simp [Except.map]

/-- Behind the closing parenthesis stand the pairs, each after a semicolon. -/
theorem readPairs_splitOn {attributes : List (String × String)}
    (keys : ∀ pair ∈ attributes, '=' ∉ pair.1.toList ∧ ';' ∉ pair.1.toList)
    (values : ∀ pair ∈ attributes, '=' ∉ pair.2.toList ∧ ';' ∉ pair.2.toList) :
    readPairs ((';' :: List.intercalate [';'] ((attributes.map renderPair).map String.toList)).splitOn
      ';') = .ok attributes := by
  have blank (segments : List (List Char)) : readPairs ([] :: segments) = readPairs segments := rfl
  have front (rest : List Char) : (';' :: rest).splitOn ';' = [] :: rest.splitOn ';' := by
    simp [List.splitOn_cons_eq_if_modifyHead]
  rw [front, blank]
  cases attributes with
  | nil => rfl
  | cons pair rest =>
    have apart : ∀ l ∈ ((pair :: rest).map renderPair).map String.toList, ';' ∉ l := by
      intro l member
      obtain ⟨text, written, rfl⟩ := List.mem_map.1 member
      obtain ⟨q, listed, rfl⟩ := List.mem_map.1 written
      rw [toList_renderPair]
      simp [(keys q listed).2, (values q listed).2]
    rw [List.splitOn_intercalate _ apart (by simp), List.map_map]
    exact readPairs_renderPair (fun q listed => (keys q listed).1) fun q listed =>
      (values q listed).1

theorem read_header {p : Params} (plain : WellFormed p) : read p.header = .ok p := by
  have shape : p.header.toList = p.label.toList ++ '=' :: p.render.toList := by
    simp [header, String.toList_append]
  have cutLabel : Text.cut '=' p.header.toList = some (p.label.toList, p.render.toList) :=
    Text.cut_eq_some_iff.2 ⟨shape, plain.label⟩
  let pairs := List.intercalate [';'] ((p.attributes.map renderPair).map String.toList)
  have cutOpen : Text.cut '(' p.render.toList =
      some ([], inside p.components ++ ')' :: ';' :: pairs) :=
    Text.cut_eq_some_iff.2 ⟨toList_render p, by simp⟩
  have cutClose : Text.cut ')' (inside p.components ++ ')' :: ';' :: pairs) =
      some (inside p.components, ';' :: pairs) :=
    Text.cut_eq_some_iff.2 ⟨rfl, not_mem_inside (by decide) plain.listed.noClose⟩
  rw [read, cutLabel]
  dsimp only
  rw [cutOpen]
  dsimp only
  rw [cutClose]
  dsimp only
  rw [readPairs_splitOn plain.keys plain.values, plain.listed.splitOn_inside]
  simp [Except.map, Function.comp_def]

/-- What is written but for the label determines components and attributes. -/
theorem eq_of_render_eq {p q : Params} (hp : WellFormed p) (hq : WellFormed q)
    (same : p.render = q.render) : p.components = q.components ∧ p.attributes = q.attributes := by
  have relabelled : WellFormed { q with label := p.label } :=
    ⟨hp.label, hq.listed, hq.keys, hq.values⟩
  have header : p.header = header { q with label := p.label } := by
    rw [Params.header, Params.header, same]
    rfl
  have read := read_header hp
  rw [header, read_header relabelled, Except.ok.injEq] at read
  rw [← read]
  exact ⟨rfl, rfl⟩

/-- The header reads back exactly if what it writes is well formed. Whatever reads is well formed, and
so reads again once it is rendered anew. -/
theorem parse_header_iff_wellFormed :
    (∀ p : Params, parse p.header = .ok p ↔ WellFormed p) ∧
    ∀ value p, parse value = .ok p → WellFormed p ∧ parse p.header = .ok p := by
  have wellFormed {value : String} {p : Params} (found : parse value = .ok p) : WellFormed p :=
    wellFormed_of_read (Outcome.mapError_eq_ok_iff.1 found)
  have back {p : Params} (plain : WellFormed p) : parse p.header = .ok p :=
    Outcome.mapError_eq_ok_iff.2 (read_header plain)
  constructor
  · intro p
    exact ⟨wellFormed, back⟩
  · intro value p found
    exact ⟨wellFormed found, back (wellFormed found)⟩

/-- A header with text before its list, a doubled blank, blank segments and a parenthesis in a value
means what a tidier one means. -/
theorem parse_header_of_untidy :
    ∃ p : Params,
      parse "iam=x (@method  a();; created=\"1\";\t;k=(v);" = .ok p ∧
      p.header = "iam=(@method  a(); created=\"1\";k=(v)" ∧
      WellFormed p ∧ parse p.header = .ok p := by
  have read : parse "iam=x (@method  a();; created=\"1\";\t;k=(v);" =
      .ok ⟨"iam", ["@method", "", "a("], [(" created", "\"1\""), ("k", "(v)")]⟩ := by
    decide +kernel
  exact ⟨_, read, by decide +kernel, parse_header_iff_wellFormed.2 _ _ read⟩

end Countersign.Signature.Params
