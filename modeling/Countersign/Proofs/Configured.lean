import Countersign.Exchange.Registry
import Countersign.Settings.Check
import Countersign.Proofs.Outcome
import Mathlib.Data.List.Nodup
import Mathlib.Data.List.Pairwise

/-! Registries of settings. Whatever is linked to them, they know the exchanges of the settings and no
others, and find in each of them the sub-accounts that are configured there. -/
namespace Countersign

namespace Settings

/-- Names that are given and stand for one thing each, none of them one that was seen before. -/
structure Fresh (seen names : List String) : Prop where
  given : ∀ name ∈ names, name ≠ "" ∧ name ∉ seen
  distinct : names.Nodup

theorem fresh_cons {seen rest : List String} {name : String} :
    Fresh seen (name :: rest) ↔ (name ≠ "" ∧ name ∉ seen) ∧ Fresh (name :: seen) rest := by
  constructor
  · rintro ⟨given, distinct⟩
    obtain ⟨first, later⟩ := List.forall_mem_cons.1 given
    obtain ⟨outside, distinct⟩ := List.nodup_cons.1 distinct
    refine ⟨first, fun other member => ⟨(later other member).1, ?_⟩, distinct⟩
    rw [List.mem_cons, not_or]
    exact ⟨fun same => outside (same ▸ member), (later other member).2⟩
  · rintro ⟨first, given, distinct⟩
    have unseen (other : String) (member : other ∈ rest) : other ≠ name ∧ other ∉ seen := by
      simpa using (given other member).2
    refine ⟨List.forall_mem_cons.2 ⟨first, fun other member => ?_⟩, List.nodup_cons.2 ⟨?_, distinct⟩⟩
    · exact ⟨(given other member).1, (unseen other member).2⟩
    · exact fun member => (unseen name member).1 rfl

theorem checkExchanges_eq_ok_iff {seen : List String} {exchanges : List Exchange} :
    checkExchanges seen exchanges = .ok () ↔
      Fresh seen (exchanges.map Exchange.id) ∧ ∀ e ∈ exchanges, (subaccountNames e).Nodup := by
  induction exchanges generalizing seen with
  | nil => exact ⟨fun _ => ⟨⟨nofun, List.nodup_nil⟩, nofun⟩, fun _ => rfl⟩
  | cons e rest ih =>
    have step : checkExchanges seen (e :: rest) = .ok () ↔ (e.id ≠ "" ∧ e.id ∉ seen) ∧
        (subaccountNames e).Nodup ∧ checkExchanges (e.id :: seen) rest = .ok () := by
      have apart : firstRepeated [] (subaccountNames e) = none ↔ (subaccountNames e).Nodup := by
        simp [firstRepeated_eq_none_iff]
      rw [checkExchanges, ← apart]
      by_cases empty : e.id = ""
      · simp [empty]
      by_cases known : e.id ∈ seen
      · simp [empty, known]
      · cases firstRepeated [] (subaccountNames e) <;> simp [empty, known]
    rw [step, ih, List.map_cons, fresh_cons, List.forall_mem_cons,
      and_left_comm (a := (subaccountNames e).Nodup), and_assoc (b := Fresh _ _)]

/-- No id stands for two exchanges, and within an exchange no name for two sub-accounts. -/
theorem unique_of_check {s : Settings} (checked : s.check = .ok ()) :
    (s.exchanges.map Exchange.id).Nodup ∧ ∀ e ∈ s.exchanges, (subaccountNames e).Nodup := by
  obtain ⟨_, _, exchanges⟩ := Outcome.bind_eq_ok_iff.1 checked
  obtain ⟨fresh, names⟩ := checkExchanges_eq_ok_iff.1 exchanges
  exact ⟨fresh.distinct, names⟩

end Settings

/-- A sub-account goes by its id and by its nickname. -/
def Subaccount.GoesBy (sub : Subaccount) (name : String) : Prop :=
  sub.id = name ∨ sub.nickname = some name

namespace Exchange

variable {e : Exchange} {name : String} {sub : Subaccount}

theorem of_subaccount?_eq_some (found : e.subaccount? name = some sub) :
    sub ∈ e.subaccounts ∧ sub.GoesBy name := by
  rcases Option.or_eq_some_iff.1 found with byId | ⟨_, byNickname⟩
  · exact ⟨List.mem_of_find?_eq_some byId, .inl (by simpa using List.find?_some byId)⟩
  · exact ⟨List.mem_of_find?_eq_some byNickname, .inr (by simpa using List.find?_some byNickname)⟩

theorem exists_subaccount? (member : sub ∈ e.subaccounts) (named : sub.GoesBy name) :
    ∃ other, e.subaccount? name = some other := by
  rw [← Option.ne_none_iff_exists', subaccount?, ne_eq, Option.or_eq_none_iff,
    List.find?_eq_none, List.find?_eq_none]
  rintro ⟨noId, noNickname⟩
  rcases named with byId | byNickname
  · exact noId sub member (by simpa using byId)
  · exact noNickname sub member (by simpa using byNickname)

/-- Where names are unique, each of them finds the one that goes by it. -/
theorem subaccount?_eq_some (unique : (Settings.subaccountNames e).Nodup)
    (member : sub ∈ e.subaccounts) (named : sub.GoesBy name) : e.subaccount? name = some sub := by
  obtain ⟨other, found⟩ := exists_subaccount? member named
  obtain ⟨listed, alike⟩ := of_subaccount?_eq_some found
  have inNames {s : Subaccount} (goes : s.GoesBy name) : name ∈ s.id :: s.nickname.toList := by
    rcases goes with byId | byNickname
    · exact List.mem_cons.2 (.inl byId.symm)
    · exact List.mem_cons_of_mem _ (by simp [byNickname])
  have same : other = sub := by
    by_contra differ
    rw [Settings.subaccountNames, List.nodup_flatMap] at unique
    have : Std.Symm (Function.onFun List.Disjoint fun s : Subaccount => s.id :: s.nickname.toList) :=
      ⟨fun _ _ apart _ here there => apart there here⟩
    exact unique.2.forall listed member differ (inNames alike) (inNames named)
  rw [found, same]

end Exchange

namespace Registry

variable {β : Type}

theorem lookup_put (id other : String) (entry : Registered β)
    (entries : List (String × Registered β)) :
    (put id entry entries).lookup other =
      if other = id then some entry else entries.lookup other := by
  induction entries with
  | nil =>
    by_cases same : other = id
    · simp [put, same]
    · simp [put, same]
  | cons first rest ih =>
    obtain ⟨key, old⟩ := first
    by_cases here : key = id
    · subst here
      by_cases same : other = key
      · simp [put, same]
      · have differ : (other == key) = false := by simpa using same
        simp [put, same, List.lookup_cons, differ]
    · rw [put, if_neg here, List.lookup_cons, List.lookup_cons, ih]
      by_cases same : other = key
      · subst same
        simp [here]
      · have differ : (other == key) = false := by simpa using same
        simp [differ]

/-- The registry of settings, with what was linked to it since. -/
inductive Configured (s : Settings) : Registry β → Prop
  | initial : Configured s (ofSettings s)
  | linked {r r' : Registry β} {id : String} {backend : β} (before : Configured s r)
      (link : r.link? id backend = some r') : Configured s r'

/-- Linking changes no exchange. -/
theorem exchange_get?_of_link? {r r' : Registry β} {id : String} {backend : β}
    (link : r.link? id backend = some r') (other : String) :
    (r'.get? other).map Registered.exchange = (r.get? other).map Registered.exchange := by
  obtain ⟨entry, found, rfl⟩ := Option.map_eq_some_iff.1 link
  rw [get?, lookup_put]
  split
  · rename_i same
    rw [same, found]
    rfl
  · rfl

/-- Of the exchanges with an id the last one counts, and nothing is linked to it. -/
theorem get?_ofSettings (s : Settings) (id : String) :
    (ofSettings s : Registry β).get? id =
      (s.exchanges.reverse.find? (·.id == id)).map fun e => ⟨e, none⟩ := by
  have step (entries : List (String × Registered β)) (exchanges : List Exchange) :
      (exchanges.foldl (fun entries e => put e.id ⟨e, none⟩ entries) entries).lookup id =
        ((exchanges.reverse.find? (·.id == id)).map fun e => ⟨e, none⟩).or (entries.lookup id) := by
    induction exchanges generalizing entries with
    | nil => rfl
    | cons e rest ih =>
      rw [List.foldl_cons, ih, lookup_put, List.reverse_cons, List.find?_append]
      by_cases same : id = e.id
      · cases rest.reverse.find? (·.id == id) <;> simp [same]
      · have differ : (e.id == id) = false := by simpa using Ne.symm same
        simp [same, differ]
  simpa [ofSettings, get?] using step [] s.exchanges

theorem exchange_get?_ofSettings (s : Settings) (id : String) :
    ((ofSettings s : Registry β).get? id).map Registered.exchange =
      s.exchanges.reverse.find? (·.id == id) := by
  rw [get?_ofSettings, Option.map_map]
  exact Option.map_id'

namespace Configured

variable {s : Settings} {r : Registry β} (configured : Configured s r)
include configured

theorem exchange_get? (id : String) :
    (r.get? id).map Registered.exchange = s.exchanges.reverse.find? (·.id == id) := by
  induction configured with
  | initial => exact exchange_get?_ofSettings s id
  | linked _ link ih => rw [exchange_get?_of_link? link, ih]

/-- Where ids are unique, each exchange is found. -/
theorem exists_entry (unique : (s.exchanges.map Exchange.id).Nodup) {e : Exchange}
    (known : e ∈ s.exchanges) : ∃ entry, r.get? e.id = some entry ∧ entry.exchange = e := by
  have found : s.exchanges.reverse.find? (·.id == e.id) = some e := by
    have one : ∀ other ∈ s.exchanges.reverse, other.id = e.id → other = e := fun other member same =>
      List.inj_on_of_nodup_map unique (List.mem_reverse.1 member) known same
    cases here : s.exchanges.reverse.find? (·.id == e.id) with
    | none => exact absurd (List.find?_eq_none.1 here e (List.mem_reverse.2 known)) (by simp)
    | some other =>
      rw [one other (List.mem_of_find?_eq_some here) (by simpa using List.find?_some here)]
  rw [← configured.exchange_get?, Option.map_eq_some_iff] at found
  exact found

theorem mem_of_get? {id : String} {entry : Registered β} (found : r.get? id = some entry) :
    entry.exchange ∈ s.exchanges ∧ entry.exchange.id = id := by
  have exchange := configured.exchange_get? id
  rw [found, Option.map_some] at exchange
  have known := List.mem_of_find?_eq_some exchange.symm
  exact ⟨List.mem_reverse.1 known, by simpa using List.find?_some exchange.symm⟩

end Configured

section

variable {r : Registry β} {id : String} {name : Option String} {account : Account}

theorem registered_eq_ok_iff {entry : Registered β} :
    r.registered id = .ok entry ↔ r.get? id = some entry := by
  unfold registered
  cases r.get? id with
  | none => simp
  | some entry => simp

/-- An account is that of a known exchange, and has a sub-account just if one is named; that one is
known to the exchange. -/
theorem account_eq_ok_iff :
    r.account id name = .ok account ↔
      account.exchange = id ∧ ∃ entry, r.get? id = some entry ∧
        name.map entry.exchange.subaccount? = account.subaccount.map some := by
  obtain ⟨exchange, subaccount⟩ := account
  rw [Registry.account, Outcome.bind_eq_ok_iff]
  simp only [registered_eq_ok_iff, ← exists_and_left]
  refine exists_congr fun entry => ?_
  cases name with
  | none =>
    cases subaccount with
    | none => simp [eq_comm, and_comm]
    | some sub => simp
  | some n =>
    cases here : entry.exchange.subaccount? n with
    | none =>
      cases subaccount with
      | none => simp [here]
      | some sub => simp [here]
    | some sub =>
      cases subaccount with
      | none => simp [here]
      | some other => simp [here, eq_comm, and_comm, and_assoc]

end

end Registry

end Countersign
