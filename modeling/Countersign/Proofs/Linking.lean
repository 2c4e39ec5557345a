import Countersign.Proofs.Naming
import Mathlib.Data.List.Dedup

/-! Linking backends, one after the other. Whatever links were tried, a registry knows the exchanges of
its settings, and each of them has the backend that was linked to it last. -/
namespace Countersign

/-- The entry of the settings that counts for an id: the last one. -/
def Settings.Decides (s : Settings) (id : String) (e : Exchange) : Prop :=
  ∃ before after, s.exchanges = before ++ e :: after ∧ e.id = id ∧ ∀ other ∈ after, other.id ≠ id

theorem Settings.decides_iff {s : Settings} {id : String} {e : Exchange} :
    s.Decides id e ↔ s.exchanges.reverse.find? (·.id == id) = some e := by
  rw [List.find?_eq_some_iff_append, Decides]
  constructor
  · rintro ⟨before, after, shape, same, later⟩
    refine ⟨by simpa using same, after.reverse, before.reverse, by simp [shape], ?_⟩
    intro other member
    simpa using later other (List.mem_reverse.1 member)
  · rintro ⟨same, after, before, shape, later⟩
    refine ⟨before.reverse, after.reverse, ?_, by simpa using same, ?_⟩
    · rw [← List.reverse_reverse s.exchanges, shape]
      simp
    · intro other member
      simpa using later other (List.mem_reverse.1 member)

namespace Registry

variable {β : Type} {s : Settings} {r : Registry β} {id : String}

/-- A link as it leaves the registry: one that fails leaves it as it was. -/
def afterLink (r : Registry β) (link : String × β) : Registry β := (r.link? link.1 link.2).getD r

/-- Links in their order. -/
def afterLinks (r : Registry β) (links : List (String × β)) : Registry β := links.foldl afterLink r

/-- What was linked to an exchange last. -/
def lastLink? (links : List (String × β)) (id : String) : Option β := links.reverse.lookup id

theorem lastLink?_cons (link : String × β) (links : List (String × β)) (id : String) :
    lastLink? (link :: links) id =
      (lastLink? links id).or (if id = link.1 then some link.2 else none) := by
  obtain ⟨linked, backend⟩ := link
  rw [lastLink?, List.reverse_cons, List.lookup_append, lastLink?]
  by_cases same : id = linked
  · simp only [same, List.lookup_cons_self, if_true]
  · have differ : (id == linked) = false := by simpa using same
    simp only [List.lookup_cons, differ, List.lookup_nil, if_neg same]

/-- The last link that names an exchange has only links to others behind it. -/
theorem lastLink?_eq_some_iff {links : List (String × β)} {backend : β} :
    lastLink? links id = some backend ↔
      ∃ before after, links = before ++ (id, backend) :: after ∧ ∀ link ∈ after, link.1 ≠ id := by
  rw [lastLink?, List.lookup_eq_some_iff]
  constructor
  · rintro ⟨after, before, shape, later⟩
    refine ⟨before.reverse, after.reverse, ?_, ?_⟩
    · rw [← List.reverse_reverse links, shape]
      simp
    · intro link member same
      exact absurd (later link (List.mem_reverse.1 member)) (by simp [same])
  · rintro ⟨before, after, shape, later⟩
    refine ⟨after.reverse, before.reverse, by simp [shape], ?_⟩
    intro link member
    simpa using Ne.symm (later link (List.mem_reverse.1 member))

theorem lastLink?_eq_none_iff {links : List (String × β)} :
    lastLink? links id = none ↔ ∀ link ∈ links, link.1 ≠ id := by
  rw [lastLink?, List.lookup_eq_none_iff]
  constructor
  · intro others link member same
    exact absurd (others link (List.mem_reverse.2 member)) (by simp [same])
  · intro others link member
    simpa using Ne.symm (others link (List.mem_reverse.1 member))

/-- Only links to the exchange itself count. -/
theorem lastLink?_congr {links links' : List (String × β)}
    (same : links'.filter (·.1 == id) = links.filter (·.1 == id)) :
    lastLink? links' id = lastLink? links id := by
  have only (links : List (String × β)) :
      lastLink? (links.filter (·.1 == id)) id = lastLink? links id := by
    induction links with
    | nil => rfl
    | cons link rest ih =>
      by_cases here : link.1 = id
      · rw [List.filter_cons_of_pos (by simpa using here), lastLink?_cons, lastLink?_cons, ih]
      · rw [List.filter_cons_of_neg (by simpa using here), lastLink?_cons, ih,
          if_neg (Ne.symm here), Option.or_none]
  rw [← only links', same, only]

/-! ### One link, and a row of links -/

theorem link?_eq_none_iff {backend : β} : r.link? id backend = none ↔ r.get? id = none := by
  rw [link?, Option.map_eq_none_iff]

/-- A link concerns the backend of its own exchange and nothing else. -/
theorem get?_afterLink (link : String × β) (id : String) :
    (r.afterLink link).get? id = (r.get? id).map fun entry =>
      { entry with backend := (if id = link.1 then some link.2 else none).or entry.backend } := by
  obtain ⟨linked, backend⟩ := link
  rw [afterLink, link?]
  cases found : r.get? linked with
  | none =>
    rw [Option.map_none, Option.getD_none]
    by_cases same : id = linked
    · rw [same, found]
      rfl
    · simp [same]
  | some entry =>
    rw [Option.map_some, Option.getD_some, get?, lookup_put]
    by_cases same : id = linked
    · subst same
      simp [found]
    · simp [same, get?]

theorem listing_afterLink (link : String × β) : (r.afterLink link).listing = r.listing := by
  rw [afterLink]
  cases linked : r.link? link.1 link.2 with
  | none => rfl
  | some r' => exact listing_of_link? linked

/-- After a row of links each exchange has the last backend that was linked to it, or the one it had. -/
theorem get?_afterLinks (links : List (String × β)) (id : String) :
    (r.afterLinks links).get? id = (r.get? id).map fun entry =>
      { entry with backend := (lastLink? links id).or entry.backend } := by
  induction links generalizing r with
  | nil => simp [afterLinks, lastLink?]
  | cons link rest ih =>
    change ((r.afterLink link).afterLinks rest).get? id = _
    rw [ih, get?_afterLink, Option.map_map]
    congr 1
    funext entry
    simp only [Function.comp_apply, lastLink?_cons, Option.or_assoc]

theorem listing_afterLinks (links : List (String × β)) :
    (r.afterLinks links).listing = r.listing := by
  induction links generalizing r with
  | nil => rfl
  | cons link rest ih =>
    change ((r.afterLink link).afterLinks rest).listing = _
    rw [ih, listing_afterLink]

/-- Links that fail may as well not be tried. -/
theorem afterLinks_filter {known : String → Bool} (sound : ∀ id, known id = (r.get? id).isSome)
    (links : List (String × β)) :
    r.afterLinks (links.filter fun link => known link.1) = r.afterLinks links := by
  induction links generalizing r with
  | nil => rfl
  | cons link rest ih =>
    have later : ∀ id, known id = ((r.afterLink link).get? id).isSome := by
      intro id
      rw [get?_afterLink, Option.isSome_map, sound]
    change _ = (r.afterLink link).afterLinks rest
    rw [← ih later]
    by_cases here : known link.1 = true
    · rw [List.filter_cons_of_pos (by exact here)]
      rfl
    · have missing : r.link? link.1 link.2 = none := by
        rw [link?_eq_none_iff]
        simpa [sound] using here
      rw [List.filter_cons_of_neg (by exact here), afterLink, missing, Option.getD_none]

/-! ### How many exchanges there are -/

theorem map_fst_put (id : String) (entry : Registered β) (entries : List (String × Registered β)) :
    (put id entry entries).map Prod.fst =
      if id ∈ entries.map Prod.fst then entries.map Prod.fst
      else entries.map Prod.fst ++ [id] := by
  split
  · rename_i known
    induction entries with
    | nil => cases known
    | cons first rest ih =>
      obtain ⟨other, old⟩ := first
      rw [put]
      split
      · rename_i here
        simp [here]
      · rename_i differ
        rw [List.map_cons, List.mem_cons] at known
        rw [List.map_cons, List.map_cons, ih (known.resolve_left (Ne.symm differ))]
  · rename_i unknown
    rw [put_of_not_mem unknown]
    simp

theorem nodup_put {id : String} {entry : Registered β} {entries : List (String × Registered β)}
    (distinct : (entries.map Prod.fst).Nodup) : ((put id entry entries).map Prod.fst).Nodup := by
  rw [map_fst_put]
  split
  · exact distinct
  · rename_i unknown
    rw [List.nodup_append]
    refine ⟨distinct, List.nodup_singleton id, ?_⟩
    rintro other before _ here rfl
    exact unknown (List.mem_singleton.1 here ▸ before)

theorem nodup_ofSettings (s : Settings) :
    ((ofSettings s : Registry β).entries.map Prod.fst).Nodup := by
  have step (entries : List (String × Registered β)) (exchanges : List Exchange)
      (distinct : (entries.map Prod.fst).Nodup) :
      ((exchanges.foldl (fun entries e => put e.id ⟨e, none⟩ entries) entries).map
        Prod.fst).Nodup := by
    induction exchanges generalizing entries with
    | nil => exact distinct
    | cons e rest ih => exact ih _ (nodup_put distinct)
  exact step [] s.exchanges List.nodup_nil

theorem mem_map_fst_iff : id ∈ r.entries.map Prod.fst ↔ r.get? id ≠ none := by
  rw [get?, ne_eq, List.lookup_eq_none_iff, not_forall₂, List.mem_map]
  refine exists_congr fun named => ?_
  rw [exists_prop, bne_iff_ne, not_not, eq_comm (a := id)]

/-- An id is known just if an exchange of the settings has it. -/
theorem get?_ofSettings_eq_none_iff :
    (ofSettings s : Registry β).get? id = none ↔ ∀ e ∈ s.exchanges, e.id ≠ id := by
  rw [get?_ofSettings, Option.map_eq_none_iff, List.find?_eq_none]
  simp

/-- An exchange that the settings list several times counts once. -/
theorem size_ofSettings (s : Settings) :
    (ofSettings s : Registry β).size = (s.exchanges.map Exchange.id).dedup.length := by
  have keys : ((ofSettings s : Registry β).entries.map Prod.fst).Perm
      (s.exchanges.map Exchange.id).dedup := by
    rw [List.perm_ext_iff_of_nodup (nodup_ofSettings s) (List.nodup_dedup _)]
    intro id
    rw [mem_map_fst_iff, ne_eq, get?_ofSettings_eq_none_iff, List.mem_dedup, List.mem_map]
    push Not
    rfl
  rw [size, ← List.length_map, keys.length_eq]

/-! ### What is answered after a run -/

/-- What a registry of these settings answers to whoever made these links. -/
structure AnswersAfter (s : Settings) (links : List (String × β)) (r : Registry β) : Prop where
  succeeds : ∀ id backend, (r.link? id backend).isSome ↔ ∃ e ∈ s.exchanges, e.id = id
  failing : ∀ id backend, (∀ e ∈ s.exchanges, e.id ≠ id) → r.afterLink (id, backend) = r
  tried : r = (ofSettings s).afterLinks
    (links.filter fun link => s.exchanges.any fun e => e.id == link.1)
  size : r.size = (ofSettings s : Registry β).size ∧
    r.size = (s.exchanges.map Exchange.id).dedup.length
  account : ∀ id name, r.account id name = (ofSettings s : Registry β).account id name
  subaccountId? : ∀ id name,
    r.subaccountId? id name = (ofSettings s : Registry β).subaccountId? id name
  main : ∀ id e, s.Decides id e → r.account id none = .ok ⟨id, none⟩
  known : ∀ id e, s.Decides id e → ∀ name sub, e.subaccount? name = some sub →
    r.account id (some name) = .ok ⟨id, some sub⟩ ∧ r.subaccountId? id name = .ok (some sub.id)
  unnamed : ∀ id e, s.Decides id e → ∀ name, e.subaccount? name = none →
    r.account id (some name) =
        .error ⟨404, "subaccount " ++ name ++ " for exchange " ++ id ++ " not found"⟩ ∧
      r.subaccountId? id name = .ok none
  linked : ∀ id e before backend after, s.Decides id e →
    links = before ++ (id, backend) :: after → (∀ link ∈ after, link.1 ≠ id) →
      r.backend id = .ok backend
  unlinked : ∀ id e, s.Decides id e → (∀ link ∈ links, link.1 ≠ id) →
    r.backend id = .error ⟨501, "exchange " ++ id ++ " has no backend linked"⟩
  unknown : ∀ id, (∀ e ∈ s.exchanges, e.id ≠ id) →
    (∀ name, r.account id name = .error ⟨404, "exchange not found: " ++ id⟩) ∧
      (∀ name, r.subaccountId? id name = .error ⟨404, "exchange not found: " ++ id⟩) ∧
        r.backend id = .error ⟨404, "exchange not found: " ++ id⟩
  ordered : ∀ id links', links'.filter (·.1 == id) = links.filter (·.1 == id) →
    ((ofSettings s).afterLinks links').backend id = r.backend id

theorem backend_of_found {entry : Registered β} (found : r.get? id = some entry) :
    r.backend id = match entry.backend with
      | some backend => .ok backend
      | none => .error ⟨501, "exchange " ++ id ++ " has no backend linked"⟩ := by
  rw [backend, registered_eq_ok_iff.2 found, Outcome.ok_bind]
  cases entry.backend <;> rfl

theorem backend_of_unknown (missing : r.get? id = none) :
    r.backend id = .error ⟨404, "exchange not found: " ++ id⟩ := by
  rw [backend, registered_of_unknown missing]
  rfl

/-- What is answered about names depends on the exchanges alone. -/
theorem names_afterLinks (links : List (String × β)) (id : String) :
    (∀ name, (r.afterLinks links).account id name = r.account id name) ∧
      ∀ name, (r.afterLinks links).subaccountId? id name = r.subaccountId? id name := by
  have after := get?_afterLinks (r := r) links id
  cases found : r.get? id with
  | none =>
    rw [found, Option.map_none] at after
    constructor
    · intro name
      rw [account_of_unknown after, account_of_unknown found]
    · intro name
      rw [subaccountId?_of_unknown after, subaccountId?_of_unknown found]
  | some entry =>
    rw [found, Option.map_some] at after
    constructor
    · intro name
      rw [account_of_found after, account_of_found found]
    · intro name
      rw [subaccountId?_of_found after, subaccountId?_of_found found]

/-- The entry of an exchange after a run: the last exchange with its id, and the last backend. -/
theorem get?_of_decides {e : Exchange} (decides : s.Decides id e) (links : List (String × β)) :
    ((ofSettings s).afterLinks links).get? id = some ⟨e, lastLink? links id⟩ := by
  rw [get?_afterLinks, get?_ofSettings, Settings.decides_iff.1 decides]
  simp

theorem get?_eq_none_of_unknown (missing : ∀ e ∈ s.exchanges, e.id ≠ id)
    (links : List (String × β)) : ((ofSettings s).afterLinks links).get? id = none := by
  rw [get?_afterLinks, get?_ofSettings_eq_none_iff.2 missing, Option.map_none]

/-- After any run of links a registry answers as its settings and the last links say. -/
theorem answers_after_links (s : Settings) (links : List (String × β)) :
    AnswersAfter s links ((ofSettings s).afterLinks links) where
  succeeds id backend := by
    rw [link?, Option.isSome_map, get?_afterLinks, Option.isSome_map, Option.isSome_iff_ne_none,
      ne_eq, get?_ofSettings_eq_none_iff]
    push Not
    rfl
  failing id backend missing := by
    have none : link? _ id backend = none :=
      link?_eq_none_iff.2 (get?_eq_none_of_unknown missing links)
    rw [afterLink, none, Option.getD_none]
  tried := by
    have sound (id : String) : (s.exchanges.any fun e => e.id == id) =
        ((ofSettings s : Registry β).get? id).isSome := by
      rw [Bool.eq_iff_iff, Option.isSome_iff_ne_none, ne_eq, get?_ofSettings_eq_none_iff]
      simp
    exact (afterLinks_filter sound links).symm
  size := by
    have same : ((ofSettings s).afterLinks links).size = (ofSettings s : Registry β).size := by
      have lengths := congrArg List.length (listing_afterLinks (r := ofSettings s) links)
      rwa [listing, listing, List.length_map, List.length_map] at lengths
    exact ⟨same, same.trans (size_ofSettings s)⟩
  account id name := (names_afterLinks links id).1 name
  subaccountId? id name := (names_afterLinks links id).2 name
  main id e decides := account_of_found (get?_of_decides decides links) none
  known id e decides name sub here := by
    have found := get?_of_decides decides links
    rw [account_of_found found, subaccountId?_of_found found]
    simp [here]
  unnamed id e decides name here := by
    have found := get?_of_decides decides links
    rw [account_of_found found, subaccountId?_of_found found]
    simp [here]
  linked id e before backend after decides shape later := by
    have last := lastLink?_eq_some_iff.2 ⟨before, after, shape, later⟩
    rw [backend_of_found (get?_of_decides decides links), last]
  unlinked id e decides never := by
    rw [backend_of_found (get?_of_decides decides links), lastLink?_eq_none_iff.2 never]
  unknown id missing := by
    have none := get?_eq_none_of_unknown missing links
    exact ⟨account_of_unknown none, subaccountId?_of_unknown none, backend_of_unknown none⟩
  ordered id links' same := by
    have last := lastLink?_congr same
    cases found : (ofSettings s : Registry β).get? id with
    | none =>
      rw [get?_ofSettings_eq_none_iff] at found
      rw [backend_of_unknown (get?_eq_none_of_unknown found links'),
        backend_of_unknown (get?_eq_none_of_unknown found links)]
    | some entry =>
      have after (links : List (String × β)) := get?_afterLinks (r := ofSettings s) links id
      rw [found] at after
      rw [backend_of_found (after links'), backend_of_found (after links), last]

/-- An exchange that is listed twice and linked twice, with a link that fails in between. -/
example :
    let s : Settings := { exchanges := [⟨"okx", [⟨"1001", none⟩]⟩, ⟨"okx", [⟨"1002", none⟩]⟩] }
    let r := (ofSettings s).afterLinks [("okx", 1), ("bybit", 2), ("okx", 3)]
    r.size = 1 ∧ r.backend "okx" = .ok 3 ∧ r.subaccountId? "okx" "1001" = .ok none := by
  decide

end Registry

end Countersign
