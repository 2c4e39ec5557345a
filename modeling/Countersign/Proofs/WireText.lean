import Countersign.Proofs.IntegerText
import Countersign.Settings.Basic
import Countersign.Wire.Envelope

/-! Everything that travels or is kept as JSON reads back as it was written: lists element by element,
and the records of settings inside one another. -/
namespace Countersign

namespace Json

theorem reads_bool (b : Bool) : Reads bool (Value.bool b).write b := by
  intro offset rest _
  cases b <;> rfl

/-- A name of a choice, as it stands between quotes. -/
theorem reads_variant {α : Type} {ofName? : String → Option α} {expected name : String} {value : α}
    (known : ofName? name = some value) :
    Reads (variant ofName? expected) (Value.string name).write value := by
  intro offset rest stops
  have read := reads_stringOr "variant identifier" name offset rest stops
  have written : (Value.string name).write = writeText name := by rw [Value.write]
  rw [written]
  rw [encodeChars_writeText, List.cons_append] at read ⊢
  rw [variant, atValue, skipBlanks_of_notBlank (by decide)]
  dsimp only
  rw [if_neg (by decide), if_pos (by decide), choice, read, Outcome.ok_bind]
  dsimp only
  rw [known]
  rfl

/-! ### Lists -/

/-- What is written begins neither with a blank nor as a list goes on or ends. -/
def Opens (written : List Char) : Prop :=
  ∃ b more, encodeChars written = b :: more ∧ Cursor.isBlank b = false ∧ b ≠ 0x2c ∧ b ≠ 0x5d

theorem opens_object (fields : List (String × Value)) : Opens (Value.object fields).write := by
  rw [Value.write]
  exact ⟨0x7b, _, rfl, rfl, by decide, by decide⟩

def writeElements : Bool → List Value → List Char
  | _, [] => []
  | first, v :: rest => separator first ++ v.write ++ writeElements false rest

theorem writeItems_eq (items : List Value) : Value.writeItems items = writeElements true items := by
  induction items with
  | nil => rfl
  | cons v rest ih =>
    cases rest with
    | nil => simp [Value.writeItems, writeElements, separator]
    | cons w others => simp_all [Value.writeItems, writeElements, separator]

theorem stops_writeElements (items : List Value) (rest : Bytes) :
    Stops (encodeChars (writeElements false items) ++ 0x5d :: rest) := by
  intro b first
  cases items with
  | nil =>
    obtain rfl : 0x5d = b := by simpa [writeElements] using first
    exact .inr (.inl rfl)
  | cons v others =>
    have comma : encodeChars (writeElements false (v :: others)) =
        0x2c :: encodeChars (v.write ++ writeElements false others) := rfl
    rw [comma] at first
    obtain rfl : 0x2c = b := by simpa using first
    exact .inl rfl

/-- The cursor stands behind the separator, if there is one. -/
theorem element?_written {written : List Char} (opens : Opens written) (first : Bool) (offset : Nat)
    (rest : Bytes) :
    element? first ⟨offset, encodeChars (separator first) ++ (encodeChars written ++ rest)⟩ =
      .ok (some ⟨offset + (encodeChars (separator first)).length, encodeChars written ++ rest⟩) := by
  obtain ⟨b, more, bytes, notBlank, notComma, notEnd⟩ := opens
  rw [bytes, List.cons_append]
  cases first with
  | true =>
    show element? true ⟨offset, b :: (more ++ rest)⟩ = _
    rw [element?, skipBlanks_of_notBlank notBlank]
    dsimp only
    split
    · rename_i none
      cases none
    · rename_i ends
      exact absurd (List.cons.inj ends).1 notEnd
    · rename_i goesOn
      exact absurd (List.cons.inj goesOn).1 notComma
    · rfl
  | false =>
    show element? false ⟨offset, 0x2c :: b :: (more ++ rest)⟩ = _
    rw [element?, skipBlanks_of_notBlank (by decide)]
    dsimp only
    split
    · rename_i none
      cases none
    · rename_i ends
      cases ends
    · simp only [Cursor.next, Bool.false_eq_true, if_false, skipBlanks_of_notBlank notBlank]
      split
      · rename_i ends
        exact absurd (List.cons.inj ends).1 notEnd
      · rename_i none
        cases none
      · rfl
    · rename_i noComma
      exact absurd rfl (noComma _)

section

variable {α : Type} {reader : Reader α} {write : α → Value}
  (opens : ∀ v, Opens (write v).write)
include opens

theorem length_le_length_writeElements (first : Bool) (values : List α) :
    values.length ≤ (encodeChars (writeElements first (values.map write))).length := by
  induction values generalizing first with
  | nil => exact Nat.zero_le _
  | cons v rest ih =>
    obtain ⟨b, more, bytes, _⟩ := opens v
    have later := ih false
    have given : 1 ≤ (encodeChars (write v).write).length := by simp [bytes]
    simp only [List.map_cons, writeElements, encodeChars_append, List.length_append,
      List.length_cons]
    omega

variable (reads : ∀ v, Reads reader (write v).write v)
include reads

/-- Elements that were written are read one by one, up to the bracket. -/
theorem elements_written (values : List α) {fuel : Nat} (enough : values.length < fuel)
    (first : Bool) (offset : Nat) (rest : Bytes) :
    elements reader fuel first
        ⟨offset, encodeChars (writeElements first (values.map write)) ++ 0x5d :: rest⟩ =
      .ok (values,
        ⟨offset + (encodeChars (writeElements first (values.map write))).length + 1, rest⟩) := by
  -- Each element takes one unit of fuel, and the last unit is for the bracket.
  induction values generalizing fuel first offset with
  | nil =>
    cases fuel with
    | zero => cases enough
    | succ fuel => rfl
  | cons v others ih =>
    cases fuel with
    | zero => cases enough
    | succ fuel =>
      rw [List.map_cons, writeElements, encodeChars_append, encodeChars_append, List.append_assoc,
        List.append_assoc, elements, element?_written (opens v), Outcome.ok_bind]
      dsimp only
      rw [reads v _ _ (stops_writeElements _ rest), Outcome.ok_bind]
      dsimp only
      rw [ih (Nat.lt_of_succ_lt_succ enough), Outcome.ok_bind]
      simp only [List.length_append, Nat.add_assoc]
      rfl

theorem reads_list (values : List α) :
    Reads (list reader) (Value.list (values.map write)).write values := by
  intro offset rest _
  have bytes : encodeChars (Value.list (values.map write)).write =
      0x5b :: (encodeChars (writeElements true (values.map write)) ++ [0x5d]) := by
    rw [Value.write, writeItems_eq, List.cons_append, encodeChars_cons, encodeChars_append]
    rfl
  have enough : values.length <
      (0x5b :: (encodeChars (writeElements true (values.map write)) ++ 0x5d :: rest)).length + 1 := by
    have short := length_le_length_writeElements opens true values
    simp only [List.length_cons, List.length_append]
    omega
  rw [bytes, List.cons_append, List.append_assoc, List.singleton_append, list, atValue,
    skipBlanks_of_notBlank (by decide)]
  dsimp only
  rw [if_pos (by decide), Cursor.next]
  dsimp only
  rw [elements_written opens reads values enough]
  simp only [List.length_cons, List.length_append, List.length_nil, Nat.add_assoc, Nat.add_comm 1]

end

namespace Record

variable {α β : Type} {r : Record α}

theorem Fills.value {reader : Reader β} {value : Value} {v : β} (reads : Reads reader value.write v)
    {record final : α} {name : String} {required : Bool} {set : β → α → α}
    {rest : List (String × Value)}
    (found : r.fields.find? (·.name == name) = some (Field.of name required reader set))
    (others : Fills r (set v record) rest final) : Fills r record ((name, value) :: rest) final :=
  .entry found (reads.field name required set record) others

/-- Different names, with those of all fields that have to be there among them. -/
theorem Complete.of_required {names : List String} (distinct : names.Nodup)
    (required : ∀ f ∈ r.fields, f.required = true → f.name ∈ names) : Complete r [] names where
  distinct := distinct
  fresh := nofun
  required f field needed := .inr (required f field needed)

end Record

end Json

open Json (Reads Record)

namespace Envelope

theorem reads_toJson (e : Envelope) : Reads record.reader e.toJson.write e := by
  have fills : record.Fills record.blank
      [("code", .int e.code.toInt), ("status", .string e.status), ("message", .string e.message)] e :=
    .value (Json.reads_int32 e.code) rfl (.text rfl (.text rfl (.done e)))
  exact Record.reads_object fills (.of_required (by simp) (by simp [record, Json.Field.of]))

end Envelope

namespace Health

theorem reads_toJson (h : Health) : Reads record.reader h.toJson.write h := by
  have fills : record.Fills record.blank [("status", .string h.status)] h := .text rfl (.done h)
  exact Record.reads_object fills (.of_required (by simp) (by simp [record, Json.Field.of]))

end Health

namespace TokenEntry

theorem reads_toJson (e : TokenEntry) : Reads record.reader e.toJson.write e := by
  have fills : record.Fills record.blank [("id", .string e.id), ("token", .string e.token)] e :=
    .text rfl (.text rfl (.done e))
  exact Record.reads_object fills (.of_required (by simp) (by simp [record, Json.Field.of]))

end TokenEntry

namespace KeyEntry

theorem reads_toJson (e : KeyEntry) : Reads record.reader e.toJson.write e := by
  have algorithm : Reads KeyAlgorithm.reader (Json.Value.string e.algorithm.name).write
      e.algorithm := by
    cases e.algorithm
    exact Json.reads_variant rfl
  have fills : record.Fills record.blank
      [("algorithm", .string e.algorithm.name), ("key", .string e.key)] e :=
    .value algorithm rfl (.text rfl (.done e))
  exact Record.reads_object fills (.of_required (by simp) (by simp [record, Json.Field.of]))

end KeyEntry

namespace Subaccount

theorem reads_toJson (s : Subaccount) : Reads record.reader s.toJson.write s := by
  have fills : record.Fills record.blank
      (("id", .string s.id) :: Json.givenField "alias" s.nickname) s := by
    rw [← List.append_nil (Json.givenField _ _)]
    exact .text rfl (.given rfl rfl (.done s))
  refine Record.reads_object fills (.of_required ?_ (by simp [record, Json.Field.of]))
  cases s.nickname <;> simp [Json.givenField]

end Subaccount

namespace Exchange

theorem reads_toJson (e : Exchange) : Reads record.reader e.toJson.write e := by
  have subaccounts := Json.reads_list (fun _ => Json.opens_object _) Subaccount.reads_toJson
    e.subaccounts
  have fills : record.Fills record.blank
      [("id", .string e.id), ("subaccounts", .list (e.subaccounts.map Subaccount.toJson))] e :=
    .text rfl (.value subaccounts rfl (.done e))
  exact Record.reads_object fills (.of_required (by simp) (by simp [record, Json.Field.of]))

end Exchange

namespace Settings

theorem reads_toJson (s : Settings) : Reads record.reader s.toJson.write s := by
  have tokens := Json.reads_list (fun _ => Json.opens_object _) TokenEntry.reads_toJson s.tokens
  have keys := Json.reads_list (fun _ => Json.opens_object _) KeyEntry.reads_toJson s.keys
  have exchanges := Json.reads_list (fun _ => Json.opens_object _) Exchange.reads_toJson s.exchanges
  have fills : record.Fills record.blank
      [("listen", .string s.listen), ("public_read_endpoints", .bool s.publicRead),
        ("bearer_tokens", .list (s.tokens.map TokenEntry.toJson)),
        ("public_keys", .list (s.keys.map KeyEntry.toJson)),
        ("exchanges", .list (s.exchanges.map Exchange.toJson))] s :=
    .text rfl (.value (Json.reads_bool _) rfl (.value tokens rfl (.value keys rfl
      (.value exchanges rfl (.done s)))))
  exact Record.reads_object fills (.of_required (by simp) (by simp [record, Json.Field.of]))

end Settings

/-- Values of a type are read as they were written, and so differ where they are written differently;
and whatever text a value was read from, the text that it is written as says the same. -/
structure Survives {α : Type} (read : Bytes → Except Json.Fault α) (toJson : α → Json.Value) :
    Prop where
  back : ∀ v, read (bytesOf (toJson v).compact) = .ok v
  apart : ∀ v w, (toJson v).compact = (toJson w).compact → v = w
  again : ∀ text v, read text = .ok v → read (bytesOf (toJson v).compact) = .ok v

theorem Survives.of_back {α : Type} {read : Bytes → Except Json.Fault α} {toJson : α → Json.Value}
    (back : ∀ v, read (bytesOf (toJson v).compact) = .ok v) : Survives read toJson where
  back := back
  apart v w same := by
    have read := back v
    rw [same, back w] at read
    exact (Except.ok.inj read).symm
  again _ v _ := back v

/-- Bodies of requests and answers and the settings of a gateway all survive being written as JSON. -/
theorem json_survives :
    Survives Transfer.ofBytes Transfer.toJson ∧
    Survives Withdrawal.ofBytes Withdrawal.toJson ∧
    Survives Envelope.ofBytes Envelope.toJson ∧
    Survives Health.ofBytes Health.toJson ∧
    Survives Settings.ofBytes Settings.toJson :=
  ⟨.of_back Transfer.ofBytes_compact, .of_back Withdrawal.ofBytes_compact,
    .of_back fun e => e.reads_toJson.whole, .of_back fun h => h.reads_toJson.whole,
    .of_back fun s => s.reads_toJson.whole⟩

/-- Settings with fields out of order, one that is unknown, lists for records, an older name of the
algorithm, an empty alias and one that is not there. -/
def looseText : String :=
  "\x7b\"exchanges\":[[\"okx\",[\x7b\"alias\":\"\",\"id\":\"1001\"\x7d,[\"1002\"]]]],\"note\":[1e999]," ++
    " \"public_keys\":[\x7b\"key\":\"\\u0000é\",\"algorithm\":\"ed255\"\x7d],\"listen\":\"\"\x7d"

theorem json_survives_loose :
    ∃ s : Settings, Settings.ofBytes (bytesOf looseText) = .ok s ∧
      s.exchanges = [⟨"okx", [⟨"1001", some ""⟩, ⟨"1002", none⟩]⟩] ∧
      s.toJson.compact ≠ looseText ∧ Settings.ofBytes (bytesOf s.toJson.compact) = .ok s := by
  have read : Settings.ofBytes (bytesOf looseText) =
      .ok ⟨"", false, [], [⟨.ed25519, "\x00é"⟩],
        [⟨"okx", [⟨"1001", some ""⟩, ⟨"1002", none⟩]⟩]⟩ := by decide +kernel
  exact ⟨_, read, rfl, by decide +kernel, json_survives.2.2.2.2.again _ _ read⟩

end Countersign
