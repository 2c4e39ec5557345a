import Countersign.Proofs.Configured

/-! What a name stands for. In settings that pass their check it is one thing at most, and it does not
matter in which order things are listed. -/
namespace Countersign

namespace Settings

/-- Ids are given, and no name stands for two things. -/
structure Unambiguous (s : Settings) : Prop where
  tokens : ∀ entry ∈ s.tokens, entry.id ≠ ""
  tokensApart : (s.tokens.map TokenEntry.id).Nodup
  exchanges : ∀ e ∈ s.exchanges, e.id ≠ ""
  exchangesApart : (s.exchanges.map Exchange.id).Nodup
  subaccountsApart : ∀ e ∈ s.exchanges, (subaccountNames e).Nodup

theorem fresh_nil_iff {α : Type} {id : α → String} {listed : List α} :
    Fresh [] (listed.map id) ↔ (∀ a ∈ listed, id a ≠ "") ∧ (listed.map id).Nodup := by
  constructor
  · rintro ⟨given, distinct⟩
    exact ⟨fun a member => (given (id a) (List.mem_map_of_mem member)).1, distinct⟩
  · rintro ⟨given, distinct⟩
    refine ⟨List.forall_mem_map.2 fun a member => ⟨given a member, ?_⟩, distinct⟩
    exact List.not_mem_nil

theorem checkTokens_eq_ok_iff {seen : List String} {tokens : List TokenEntry} :
    checkTokens seen tokens = .ok () ↔ Fresh seen (tokens.map TokenEntry.id) := by
  induction tokens generalizing seen with
  | nil => exact ⟨fun _ => ⟨nofun, List.nodup_nil⟩, fun _ => rfl⟩
  | cons entry rest ih =>
    rw [List.map_cons, fresh_cons, ← ih, checkTokens]
    by_cases empty : entry.id = ""
    · simp [empty]
    by_cases known : entry.id ∈ seen
    · simp [empty, known]
    · simp [empty, known]

/-- The check passes just if names are unambiguous. -/
theorem check_eq_ok_iff {s : Settings} : s.check = .ok () ↔ s.Unambiguous := by
  rw [check, Outcome.bind_eq_ok_iff, checkExchanges_eq_ok_iff, fresh_nil_iff]
  constructor
  · rintro ⟨_, checked, ⟨exchanges, exchangesApart⟩, subaccountsApart⟩
    obtain ⟨tokens, tokensApart⟩ := fresh_nil_iff.1 (checkTokens_eq_ok_iff.1 checked)
    exact ⟨tokens, tokensApart, exchanges, exchangesApart, subaccountsApart⟩
  · rintro ⟨tokens, tokensApart, exchanges, exchangesApart, subaccountsApart⟩
    have checked := checkTokens_eq_ok_iff.2 (fresh_nil_iff.2 ⟨tokens, tokensApart⟩)
    exact ⟨(), checked, ⟨exchanges, exchangesApart⟩, subaccountsApart⟩

end Settings

instance Subaccount.decidableGoesBy (sub : Subaccount) (name : String) : Decidable (sub.GoesBy name) :=
  inferInstanceAs (Decidable (_ ∨ _))

theorem Subaccount.goesBy_iff {sub : Subaccount} {name : String} :
    sub.GoesBy name ↔ name ∈ sub.id :: sub.nickname.toList := by
  rw [GoesBy, List.mem_cons, Option.mem_toList, eq_comm (a := name)]

namespace Exchange

/-- A name finds the sub-account that goes by it, and there is one at most. -/
structure Definite (e : Exchange) : Prop where
  found : ∀ name sub, e.subaccount? name = some sub ↔ sub ∈ e.subaccounts ∧ sub.GoesBy name
  single : ∀ name, (e.subaccounts.filter fun sub => sub.GoesBy name).length ≤ 1

/-- The same exchange, with its sub-accounts in any order. -/
structure Reordered (e e' : Exchange) : Prop where
  id : e'.id = e.id
  subaccounts : e'.subaccounts.Perm e.subaccounts

variable {e e' : Exchange}

theorem subaccount?_eq_some_iff (unique : (Settings.subaccountNames e).Nodup) {name : String}
    {sub : Subaccount} : e.subaccount? name = some sub ↔ sub ∈ e.subaccounts ∧ sub.GoesBy name :=
  ⟨of_subaccount?_eq_some, fun ⟨listed, goes⟩ => subaccount?_eq_some unique listed goes⟩

theorem definite_of_nodup (unique : (Settings.subaccountNames e).Nodup) : e.Definite where
  found _ _ := subaccount?_eq_some_iff unique
  single name := by
    have apart := (List.nodup_flatMap.1 unique).2.filter fun sub => sub.GoesBy name
    have goes (sub : Subaccount) (member : sub ∈ e.subaccounts.filter fun sub => sub.GoesBy name) :
        name ∈ sub.id :: sub.nickname.toList :=
      Subaccount.goesBy_iff.1 (of_decide_eq_true (List.mem_filter.1 member).2)
    -- Two that go by the name would share it.
    cases shape : e.subaccounts.filter fun sub => sub.GoesBy name with
    | nil => exact Nat.zero_le 1
    | cons first others =>
      cases others with
      | nil => exact Nat.le_refl 1
      | cons second rest =>
        rw [shape] at apart goes
        have disjoint := List.rel_of_pairwise_cons apart List.mem_cons_self
        have later := goes second (List.mem_cons_of_mem _ List.mem_cons_self)
        exact absurd later (disjoint (goes first List.mem_cons_self))

theorem Reordered.nodup (same : e.Reordered e') (unique : (Settings.subaccountNames e).Nodup) :
    (Settings.subaccountNames e').Nodup :=
  (same.subaccounts.flatMap_right _).nodup_iff.2 unique

/-- Where names are unique, the order of the sub-accounts does not matter. -/
theorem Reordered.subaccount?_eq (same : e.Reordered e')
    (unique : (Settings.subaccountNames e).Nodup) (name : String) :
    e'.subaccount? name = e.subaccount? name := by
  refine Option.ext fun sub => ?_
  rw [subaccount?_eq_some_iff (same.nodup unique), subaccount?_eq_some_iff unique,
    same.subaccounts.mem_iff]

end Exchange

namespace Settings

/-- The same exchanges, each with the same sub-accounts, in any order. -/
def Reordered (s s' : Settings) : Prop :=
  ∃ exchanges, List.Forall₂ Exchange.Reordered s.exchanges exchanges ∧
    s'.exchanges.Perm exchanges

end Settings

namespace Registry

variable {β : Type} {r r' : Registry β} {s : Settings} {id : String}

/-- The exchanges under their ids, whatever is linked to them. -/
def listing (r : Registry β) : List (String × Exchange) :=
  r.entries.map fun named => (named.1, named.2.exchange)

theorem put_of_not_mem {entry : Registered β} {entries : List (String × Registered β)}
    (unknown : id ∉ entries.map Prod.fst) : put id entry entries = entries ++ [(id, entry)] := by
  induction entries with
  | nil => rfl
  | cons first rest ih =>
    obtain ⟨other, old⟩ := first
    rw [List.map_cons, List.mem_cons, not_or] at unknown
    rw [put, if_neg (Ne.symm unknown.1), ih unknown.2, List.cons_append]

theorem map_exchange_put {entry old : Registered β} {entries : List (String × Registered β)}
    (found : entries.lookup id = some old) (same : entry.exchange = old.exchange) :
    (put id entry entries).map (fun named => (named.1, named.2.exchange)) =
      entries.map fun named => (named.1, named.2.exchange) := by
  induction entries with
  | nil => cases found
  | cons first rest ih =>
    obtain ⟨other, there⟩ := first
    by_cases here : other = id
    · subst here
      rw [List.lookup_cons_self, Option.some.injEq] at found
      simp [put, same, found]
    · have differ : (id == other) = false := by simpa using Ne.symm here
      rw [List.lookup_cons, differ] at found
      rw [put, if_neg here, List.map_cons, List.map_cons, ih found]

theorem listing_of_link? {backend : β} (link : r.link? id backend = some r') :
    r'.listing = r.listing := by
  obtain ⟨entry, found, rfl⟩ := Option.map_eq_some_iff.1 link
  exact map_exchange_put found rfl

/-- Where ids are unique, the registry of settings has one entry for each exchange. -/
theorem listing_ofSettings (unique : (s.exchanges.map Exchange.id).Nodup) :
    (ofSettings s : Registry β).listing = s.exchanges.map fun e => (e.id, e) := by
  have step (entries : List (String × Registered β)) (exchanges : List Exchange)
      (distinct : (entries.map Prod.fst ++ exchanges.map Exchange.id).Nodup) :
      exchanges.foldl (fun entries e => put e.id ⟨e, none⟩ entries) entries =
        entries ++ exchanges.map fun e => (e.id, ⟨e, none⟩) := by
    induction exchanges generalizing entries with
    | nil => rw [List.foldl_nil, List.map_nil, List.append_nil]
    | cons e rest ih =>
      have unknown : e.id ∉ entries.map Prod.fst := by
        intro known
        exact (List.nodup_append.1 distinct).2.2 _ known _ List.mem_cons_self rfl
      rw [List.foldl_cons, put_of_not_mem unknown, ih, List.append_assoc, List.map_cons]
      · rfl
      · simpa using distinct
  rw [listing, ofSettings, step [] s.exchanges (by simpa using unique)]
  simp

theorem Configured.listing_eq (configured : r.Configured s)
    (unique : (s.exchanges.map Exchange.id).Nodup) :
    r.listing = s.exchanges.map fun e => (e.id, e) := by
  induction configured with
  | initial => exact listing_ofSettings unique
  | linked _ link ih => rw [listing_of_link? link, ih]

theorem account_of_found {entry : Registered β} (found : r.get? id = some entry) (name : Option String) :
    r.account id name = match name with
      | none => .ok ⟨id, none⟩
      | some name => match entry.exchange.subaccount? name with
        | some sub => .ok ⟨id, some sub⟩
        | none => .error ⟨404, "subaccount " ++ name ++ " for exchange " ++ id ++ " not found"⟩ := by
  rw [account, registered_eq_ok_iff.2 found, Outcome.ok_bind]
  cases name with
  | none => rfl
  | some name =>
    dsimp only
    cases entry.exchange.subaccount? name <;> rfl

theorem subaccountId?_of_found {entry : Registered β} (found : r.get? id = some entry) (name : String) :
    r.subaccountId? id name = .ok ((entry.exchange.subaccount? name).map Subaccount.id) := by
  rw [subaccountId?, registered_eq_ok_iff.2 found]
  rfl

theorem registered_of_unknown (missing : r.get? id = none) :
    r.registered id = .error ⟨404, "exchange not found: " ++ id⟩ := by
  rw [registered, missing]
  rfl

theorem account_of_unknown (missing : r.get? id = none) (name : Option String) :
    r.account id name = .error ⟨404, "exchange not found: " ++ id⟩ := by
  rw [account, registered_of_unknown missing]
  rfl

theorem subaccountId?_of_unknown (missing : r.get? id = none) (name : String) :
    r.subaccountId? id name = .error ⟨404, "exchange not found: " ++ id⟩ := by
  rw [subaccountId?, registered_of_unknown missing]
  rfl

/-- What a registry answers about names: it follows the exchanges of the settings. -/
structure Follows (r : Registry β) (s : Settings) : Prop where
  listing : r.listing = s.exchanges.map fun e => (e.id, e)
  size : r.size = s.exchanges.length
  main : ∀ e ∈ s.exchanges, r.account e.id none = .ok ⟨e.id, none⟩
  known : ∀ e ∈ s.exchanges, ∀ name sub, e.subaccount? name = some sub →
    r.account e.id (some name) = .ok ⟨e.id, some sub⟩ ∧
      r.subaccountId? e.id name = .ok (some sub.id)
  unknown : ∀ e ∈ s.exchanges, ∀ name, e.subaccount? name = none →
    r.account e.id (some name) =
        .error ⟨404, "subaccount " ++ name ++ " for exchange " ++ e.id ++ " not found"⟩ ∧
      r.subaccountId? e.id name = .ok none
  nowhere : ∀ id, (∀ e ∈ s.exchanges, e.id ≠ id) →
    (∀ name, r.account id name = .error ⟨404, "exchange not found: " ++ id⟩) ∧
      ∀ name, r.subaccountId? id name = .error ⟨404, "exchange not found: " ++ id⟩
  settled : ∀ id name resolved, r.subaccountId? id name = .ok (some resolved) →
    r.subaccountId? id resolved = .ok (some resolved)

theorem follows_of_unambiguous (configured : r.Configured s) (clear : s.Unambiguous) :
    r.Follows s where
  listing := configured.listing_eq clear.exchangesApart
  size := by
    have lengths := congrArg List.length (configured.listing_eq clear.exchangesApart)
    rwa [Registry.listing, List.length_map, List.length_map] at lengths
  main e listed := by
    obtain ⟨entry, found, rfl⟩ := configured.exists_entry clear.exchangesApart listed
    rw [account_of_found found]
  known e listed name sub here := by
    obtain ⟨entry, found, rfl⟩ := configured.exists_entry clear.exchangesApart listed
    rw [account_of_found found, subaccountId?_of_found found]
    dsimp only
    rw [here]
    exact ⟨rfl, rfl⟩
  unknown e listed name none := by
    obtain ⟨entry, found, rfl⟩ := configured.exists_entry clear.exchangesApart listed
    rw [account_of_found found, subaccountId?_of_found found]
    dsimp only
    rw [none]
    exact ⟨rfl, rfl⟩
  nowhere id other := by
    have missing : r.get? id = none := by
      cases found : r.get? id with
      | none => rfl
      | some entry =>
        obtain ⟨listed, same⟩ := configured.mem_of_get? found
        exact absurd same (other _ listed)
    exact ⟨account_of_unknown missing, subaccountId?_of_unknown missing⟩
  settled id name resolved answered := by
    rw [subaccountId?, Outcome.map_eq_ok_iff] at answered
    obtain ⟨entry, registered, answered⟩ := answered
    have found := registered_eq_ok_iff.1 registered
    obtain ⟨sub, here, rfl⟩ := Option.map_eq_some_iff.1 answered
    have unique := clear.subaccountsApart _ (configured.mem_of_get? found).1
    rw [subaccountId?_of_found found, Exchange.subaccount?_eq_some unique
      (Exchange.of_subaccount?_eq_some here).1 (.inl rfl)]
    rfl

end Registry

namespace Settings

variable {s s' : Settings}

namespace Reordered

theorem exists_reordered (same : s.Reordered s') {e : Exchange} (listed : e ∈ s.exchanges) :
    ∃ e' ∈ s'.exchanges, e.Reordered e' := by
  obtain ⟨exchanges, alike, order⟩ := same
  obtain ⟨e', listed, alike⟩ := Outcome.exists_input alike.flip listed
  exact ⟨e', order.mem_iff.2 listed, alike⟩

theorem exists_original (same : s.Reordered s') {e' : Exchange} (listed : e' ∈ s'.exchanges) :
    ∃ e ∈ s.exchanges, e.Reordered e' := by
  obtain ⟨exchanges, alike, order⟩ := same
  exact Outcome.exists_input alike (order.mem_iff.1 listed)

theorem nodup_ids (same : s.Reordered s') (unique : (s.exchanges.map Exchange.id).Nodup) :
    (s'.exchanges.map Exchange.id).Nodup := by
  obtain ⟨exchanges, alike, order⟩ := same
  have ids : s.exchanges.map Exchange.id = exchanges.map Exchange.id := by
    rw [← List.forall₂_eq_eq_eq, List.forall₂_map_left_iff, List.forall₂_map_right_iff]
    exact alike.imp fun _ _ same => same.id.symm
  rw [(order.map Exchange.id).nodup_iff, ← ids]
  exact unique

end Reordered

/-- Names stand for the same things in both, and registries answer alike. -/
structure SameNames (s s' : Settings) : Prop where
  subaccount? : ∀ e ∈ s.exchanges, ∀ e' ∈ s'.exchanges, e'.id = e.id →
    ∀ name, e'.subaccount? name = e.subaccount? name
  account : ∀ (β : Type) (r r' : Registry β), r.Configured s → r'.Configured s' →
    ∀ id name, r'.account id name = r.account id name
  subaccountId? : ∀ (β : Type) (r r' : Registry β), r.Configured s → r'.Configured s' →
    ∀ id name, r'.subaccountId? id name = r.subaccountId? id name

/-- An id is known to both registries or to none, and names find the same under it. -/
theorem Reordered.get? (same : s.Reordered s') (clear : s.Unambiguous) {β : Type}
    {r r' : Registry β} (configured : r.Configured s) (configured' : r'.Configured s') (id : String) :
    r.get? id = none ∧ r'.get? id = none ∨ ∃ entry entry', r.get? id = some entry ∧
      r'.get? id = some entry' ∧ ∀ name, entry'.exchange.subaccount? name =
        entry.exchange.subaccount? name := by
  cases found : r.get? id with
  | none =>
    left
    refine ⟨rfl, ?_⟩
    cases found' : r'.get? id with
    | none => rfl
    | some entry' =>
      obtain ⟨listed', rfl⟩ := configured'.mem_of_get? found'
      obtain ⟨e, listed, alike⟩ := same.exists_original listed'
      obtain ⟨entry, known, _⟩ := configured.exists_entry clear.exchangesApart listed
      rw [← alike.id, found] at known
      cases known
  | some entry =>
    right
    obtain ⟨listed, rfl⟩ := configured.mem_of_get? found
    obtain ⟨e', listed', alike⟩ := same.exists_reordered listed
    obtain ⟨entry', found', rfl⟩ :=
      configured'.exists_entry (same.nodup_ids clear.exchangesApart) listed'
    rw [alike.id] at found'
    exact ⟨entry, entry', rfl, found',
      alike.subaccount?_eq (clear.subaccountsApart _ listed)⟩

theorem Reordered.sameNames (same : s.Reordered s') (clear : s.Unambiguous) : s.SameNames s' where
  subaccount? e listed e' listed' sameId name := by
    obtain ⟨original, known, alike⟩ := same.exists_original listed'
    obtain rfl : original = e :=
      List.inj_on_of_nodup_map clear.exchangesApart known listed (alike.id.symm.trans sameId)
    exact alike.subaccount?_eq (clear.subaccountsApart _ known) name
  account β r r' configured configured' id name := by
    obtain ⟨missing, missing'⟩ | ⟨entry, entry', found, found', alike⟩ :=
      same.get? clear configured configured' id
    · rw [Registry.account_of_unknown missing, Registry.account_of_unknown missing']
    · rw [Registry.account_of_found found, Registry.account_of_found found']
      simp only [alike]
  subaccountId? β r r' configured configured' id name := by
    obtain ⟨missing, missing'⟩ | ⟨entry, entry', found, found', alike⟩ :=
      same.get? clear configured configured' id
    · rw [Registry.subaccountId?_of_unknown missing, Registry.subaccountId?_of_unknown missing']
    · rw [Registry.subaccountId?_of_found found, Registry.subaccountId?_of_found found', alike]

/-- Settings pass their check just if names are unambiguous. In those that do, a name finds the one
sub-account that goes by it, registries follow, and no order matters. -/
theorem names_definite :
    (∀ s : Settings, s.check = .ok () ↔ s.Unambiguous) ∧
    ∀ s : Settings, s.check = .ok () →
      (∀ e ∈ s.exchanges, e.Definite) ∧
      (∀ (β : Type) (r : Registry β), r.Configured s → r.Follows s) ∧
      ∀ s', s.Reordered s' → s.SameNames s' := by
  refine ⟨fun _ => check_eq_ok_iff, fun s checked => ?_⟩
  have clear := check_eq_ok_iff.1 checked
  refine ⟨fun e listed => ?_, fun β r configured => ?_, fun s' same => same.sameNames clear⟩
  · exact Exchange.definite_of_nodup (clear.subaccountsApart e listed)
  · exact Registry.follows_of_unambiguous configured clear

/-- Two exchanges that use the same names for different things. -/
def twoDesks : Settings where
  exchanges :=
    [⟨"okx", [⟨"1001", some "desk-a"⟩, ⟨"1002", some "1003"⟩]⟩, ⟨"bybit", [⟨"desk-a", none⟩]⟩]

/-- The same, listed the other way round. -/
def twoDesksBack : Settings where
  exchanges :=
    [⟨"bybit", [⟨"desk-a", none⟩]⟩, ⟨"okx", [⟨"1002", some "1003"⟩, ⟨"1001", some "desk-a"⟩]⟩]

theorem names_definite_twoDesks :
    twoDesks.check = .ok () ∧
      (Registry.ofSettings twoDesksBack : Registry Unit).account "okx" (some "1003") =
        (Registry.ofSettings twoDesks : Registry Unit).account "okx" (some "1003") ∧
      (Registry.ofSettings twoDesks : Registry Unit).account "okx" (some "1003") =
        .ok ⟨"okx", some ⟨"1002", some "1003"⟩⟩ ∧
      (Registry.ofSettings twoDesks : Registry Unit).size = 2 := by
  have checked : twoDesks.check = .ok () := by decide
  obtain ⟨definite, follows, ordered⟩ := names_definite.2 twoDesks checked
  have same : twoDesks.Reordered twoDesksBack :=
    ⟨twoDesksBack.exchanges.reverse, .cons ⟨rfl, .swap _ _ []⟩ (.cons ⟨rfl, .refl _⟩ .nil),
      (List.reverse_perm _).symm⟩
  have found : Exchange.subaccount? ⟨"okx", [⟨"1001", some "desk-a"⟩, ⟨"1002", some "1003"⟩]⟩ "1003" =
      some ⟨"1002", some "1003"⟩ := by
    rw [(definite _ List.mem_cons_self).found]
    exact ⟨List.mem_cons_of_mem _ List.mem_cons_self, .inr rfl⟩
  have registry := follows Unit (.ofSettings twoDesks) .initial
  refine ⟨checked, ?_, (registry.known _ List.mem_cons_self _ _ found).1, registry.size⟩
  exact (ordered _ same).account Unit _ _ .initial .initial _ _

end Settings

end Countersign
