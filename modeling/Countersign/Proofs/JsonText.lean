import Countersign.Wire.Withdrawal
import Countersign.Proofs.Encoding
import Countersign.Proofs.Outcome

/-! What is written as JSON is read again: strings character by character, with their escapes undone,
and records field by field. -/
namespace Countersign

namespace Json

/-- Neither a quote nor a backslash nor a control: a byte that stands for itself. -/
def IsPlain (b : UInt8) : Prop := b ≠ 0x22 ∧ b ≠ 0x5c ∧ 0x20 ≤ b

theorem textFrom_plain {bytes : Bytes} (plain : ∀ b ∈ bytes, IsPlain b) (out : Bytes) (offset : Nat)
    (rest : Bytes) :
    textFrom out offset (bytes ++ rest) =
      textFrom (bytes.reverse ++ out) (offset + bytes.length) rest := by
  induction bytes generalizing out offset with
  | nil => rfl
  | cons b more ih =>
    obtain ⟨notQuote, notSlash, high⟩ := plain b List.mem_cons_self
    have step : textFrom out offset (b :: (more ++ rest)) =
        textFrom (b :: out) (offset + 1) (more ++ rest) := by
      have printable : ¬ b < 0x20 := UInt8.not_lt.2 high
      rw [textFrom.eq_def]
      dsimp only
      rw [if_neg (by simpa using notQuote), if_neg (by simpa using notSlash), if_neg printable]
    rw [List.cons_append, step, ih (fun b member => plain b (List.mem_cons_of_mem _ member))]
    simp [Nat.add_assoc, Nat.add_comm 1]

/-- A character that is not escaped is a row of bytes that stand for themselves. -/
theorem isPlain_of_mem_encodeChar {c : Char} (notQuote : c ≠ '"') (notSlash : c ≠ '\\')
    (high : 0x20 ≤ c.toNat) {b : UInt8} (member : b ∈ String.utf8EncodeChar c) : IsPlain b := by
  have apart (mark : Char) (other : c ≠ mark) (ascii : mark.toNat < 128) :
      b ≠ UInt8.ofNat mark.toNat := by
    rintro rfl
    have code := toNat_byte_of_ascii ascii
    have same := toNat_eq_of_mem_encodeChar member (by rw [code]; exact ascii)
    rw [code] at same
    exact other (Char.toNat_inj.1 same)
  refine ⟨apart '"' notQuote (by decide), apart '\\' notSlash (by decide), ?_⟩
  rw [UInt8.le_iff_toNat_le]
  change 32 ≤ b.toNat
  rcases encodeChar_cases c with ⟨single, small⟩ | beyond
  · rw [single, List.mem_singleton] at member
    rw [member, toNat_byte_of_ascii small]
    exact high
  · have := beyond b member
    omega

theorem fourDigits?_control {n : Nat} (small : n < 0x20) :
    fourDigits? 0x30 0x30 (UInt8.ofNat (Hex.digit (n / 16)).toNat)
      (UInt8.ofNat (Hex.digit (n % 16)).toNat) = some n := by
  have zero : Hex.value? 0x30 = some 0 := by decide
  have low := Hex.value?_digit (n % 16) (by omega)
  have high := Hex.value?_digit (n / 16) (by omega)
  simp only [fourDigits?, zero, high, low, Option.bind_eq_bind, Option.bind_some, Option.pure_def]
  congr 1
  omega

theorem encodeChar_digit {n : Nat} (small : n < 16) :
    String.utf8EncodeChar (Hex.digit n) = [UInt8.ofNat (Hex.digit n).toNat] := by
  have ascii : ∀ n < 16, (Hex.digit n).toNat < 128 := by decide
  exact encodeChar_of_ascii (ascii n small)

/-- An escape of a control by its number. -/
theorem textFrom_byNumber {c : Char} (small : c.toNat < 0x20) (out : Bytes) (offset : Nat)
    (rest : Bytes) :
    textFrom out offset (encodeChars ['\\', 'u', '0', '0', Hex.digit (c.toNat / 16),
        Hex.digit (c.toNat % 16)] ++ rest) = textFrom (pushChar out c) (offset + 6) rest := by
  have bytes : encodeChars ['\\', 'u', '0', '0', Hex.digit (c.toNat / 16),
      Hex.digit (c.toNat % 16)] = [0x5c, 0x75, 0x30, 0x30,
        UInt8.ofNat (Hex.digit (c.toNat / 16)).toNat,
        UInt8.ofNat (Hex.digit (c.toNat % 16)).toNat] := by
    simp only [encodeChars_cons, encodeChar_digit (show c.toNat / 16 < 16 by omega),
      encodeChar_digit (show c.toNat % 16 < 16 by omega)]
    rfl
  have noPair : isTrailing c.toNat = false ∧ isLeading c.toNat = false := by
    simp only [isTrailing, isLeading, Bool.and_eq_false_iff, decide_eq_false_iff_not]
    omega
  rw [bytes]
  simp only [List.cons_append, List.nil_append]
  rw [textFrom]
  simp only [fourDigits?_control small, noPair, Char.ofNat_toNat]
  rfl

theorem textFrom_escape (c : Char) (out : Bytes) (offset : Nat) (rest : Bytes) :
    textFrom out offset (encodeChars (escape c) ++ rest) =
      textFrom (pushChar out c) (offset + (encodeChars (escape c)).length) rest := by
  by_cases quote : c = '"'
  · subst quote; rfl
  by_cases slash : c = '\\'
  · subst slash; rfl
  by_cases newline : c = '\n'
  · subst newline; rfl
  by_cases carriage : c = '\r'
  · subst carriage; rfl
  by_cases tab : c = '\t'
  · subst tab; rfl
  by_cases back : c.toNat = 0x08
  · obtain rfl : c = Char.ofNat 0x08 := by rw [← back, Char.ofNat_toNat]
    rfl
  by_cases feed : c.toNat = 0x0c
  · obtain rfl : c = Char.ofNat 0x0c := by rw [← feed, Char.ofNat_toNat]
    rfl
  by_cases control : c.toNat < 0x20
  · have shape : escape c = ['\\', 'u', '0', '0', Hex.digit (c.toNat / 16),
        Hex.digit (c.toNat % 16)] := by
      simp only [escape, quote, slash, newline, carriage, tab, back, feed, control, if_false,
        if_true]
    have length : (encodeChars (escape c)).length = 6 := by
      rw [shape]
      simp only [encodeChars_cons, encodeChar_digit (show c.toNat / 16 < 16 by omega),
        encodeChar_digit (show c.toNat % 16 < 16 by omega)]
      rfl
    rw [length, shape, textFrom_byNumber control]
  · have shape : escape c = [c] := by
      simp only [escape, quote, slash, newline, carriage, tab, back, feed, control, if_false]
    rw [shape, encodeChars_cons, encodeChars_nil, List.append_nil]
    exact textFrom_plain (fun b => isPlain_of_mem_encodeChar quote slash (Nat.le_of_not_lt control))
      out offset rest

/-- Escapes are undone, character by character. -/
theorem textFrom_escapes (l : List Char) (out : Bytes) (offset : Nat) (rest : Bytes) :
    textFrom out offset (encodeChars (l.flatMap escape) ++ rest) =
      textFrom ((encodeChars l).reverse ++ out)
        (offset + (encodeChars (l.flatMap escape)).length) rest := by
  induction l generalizing out offset with
  | nil => rfl
  | cons c more ih =>
    rw [List.flatMap_cons, encodeChars_append, List.append_assoc, textFrom_escape, ih,
      encodeChars_cons, pushChar]
    simp [Nat.add_assoc]

/-- What may stand behind a value: nothing, or a mark that no value goes on with. -/
def Stops (rest : Bytes) : Prop := ∀ b ∈ rest.head?, b = 0x2c ∨ b = 0x5d ∨ b = 0x7d

/-- The reader takes a value from what was written, all of it and nothing of what follows. -/
def Reads {α : Type} (reader : Reader α) (written : List Char) (value : α) : Prop :=
  ∀ offset rest, Stops rest →
    reader ⟨offset, encodeChars written ++ rest⟩ =
      .ok (value, ⟨offset + (encodeChars written).length, rest⟩)

/-- What stands between the quotes, and the closing quote. -/
theorem text_written (s : String) (offset : Nat) (rest : Bytes) :
    text ⟨offset, encodeChars (s.toList.flatMap escape ++ ['"']) ++ rest⟩ =
      .ok (s, ⟨offset + (encodeChars (s.toList.flatMap escape ++ ['"'])).length, rest⟩) := by
  have quote : encodeChars ['"'] = [0x22] := rfl
  rw [text, encodeChars_append, quote, List.append_assoc, textFrom_escapes, List.singleton_append,
    textFrom.eq_def]
  dsimp only
  rw [if_pos (by decide), finishText, List.append_nil, List.reverse_reverse, decode?_encodeChars,
    String.ofList_toList, List.length_append, Nat.add_assoc]
  rfl

theorem skipBlanks_of_notBlank {b : UInt8} (plain : Cursor.isBlank b = false) (offset : Nat)
    (rest : Bytes) : Cursor.skipBlanks ⟨offset, b :: rest⟩ = ⟨offset, b :: rest⟩ := by
  simp [Cursor.skipBlanks, Cursor.skipBlanks.go, plain]

theorem encodeChars_writeText (s : String) :
    encodeChars (writeText s) = 0x22 :: encodeChars (s.toList.flatMap escape ++ ['"']) := rfl

theorem reads_stringOr (expected s : String) : Reads (stringOr expected) (writeText s) s := by
  intro offset rest _
  rw [encodeChars_writeText, List.cons_append, stringOr, atValue]
  rw [skipBlanks_of_notBlank (by decide)]
  dsimp only
  rw [if_pos (by decide), Cursor.next]
  dsimp only
  rw [text_written, List.length_cons, Nat.add_assoc, Nat.add_comm 1]

theorem reads_string (s : String) : Reads string (writeText s) s := reads_stringOr _ s

/-- A value that does not begin as null does is there. -/
theorem Reads.optional {α : Type} {reader : Reader α} {written : List Char} {value : α}
    (reads : Reads reader written value) {first : UInt8} {more : Bytes}
    (begins : encodeChars written = first :: more) (plain : Cursor.isBlank first = false)
    (notNull : first ≠ 0x6e) : Reads (optional reader) written (some value) := by
  intro offset rest stops
  have read := reads offset rest stops
  rw [begins, List.cons_append] at read ⊢
  rw [Json.optional, skipBlanks_of_notBlank plain]
  dsimp only
  split
  · rename_i null
    exact absurd (List.cons.inj null).1 notNull
  · rw [read]
    rfl

theorem Reads.field {α β : Type} {reader : Reader β} {written : List Char} {value : β}
    (reads : Reads reader written value) (name : String) (required : Bool) (set : β → α → α)
    (record : α) :
    Reads ((Field.of name required reader set).read record) written (set value record) := by
  intro offset rest stops
  show (reader _).map _ = _
  rw [reads offset rest stops]
  rfl

theorem Reads.whole {α : Type} {reader : Reader α} {written : List Char} {value : α}
    (reads : Reads reader written value) :
    whole reader (bytesOf (String.ofList written)) = .ok value := by
  have read := reads 0 [] nofun
  rw [List.append_nil] at read
  rw [Json.whole, bytesOf_ofList, Cursor.start, read]
  rfl

theorem colon_written (offset : Nat) (rest : Bytes) :
    colon ⟨offset, 0x3a :: rest⟩ = .ok ⟨offset + 1, rest⟩ := rfl

theorem key?_end (first : Bool) (offset : Nat) (rest : Bytes) :
    key? first ⟨offset, 0x7d :: rest⟩ = .ok none := rfl

/-! ### Records -/

/-- A name and its value. -/
def writeEntry (entry : String × Value) : List Char := writeText entry.1 ++ ':' :: entry.2.write

/-- What stands before an entry. -/
def separator (first : Bool) : List Char := if first then [] else [',']

def writeEntries : Bool → List (String × Value) → List Char
  | _, [] => []
  | first, entry :: rest => separator first ++ writeEntry entry ++ writeEntries false rest

theorem writeFields_eq (entries : List (String × Value)) :
    Value.writeFields entries = writeEntries true entries := by
  induction entries with
  | nil => rfl
  | cons entry rest ih =>
    obtain ⟨name, value⟩ := entry
    cases rest with
    | nil => simp [Value.writeFields, writeEntries, writeEntry, separator]
    | cons second others => simp_all [Value.writeFields, writeEntries, writeEntry, separator]

theorem key?_written (first : Bool) (offset : Nat) (rest : Bytes) :
    key? first ⟨offset, encodeChars (separator first ++ ['"']) ++ rest⟩ =
      .ok (some ⟨offset + (encodeChars (separator first ++ ['"'])).length, rest⟩) := by
  cases first <;> rfl

namespace Record

variable {α : Type} {r : Record α}

/-- Each entry belongs to a field that reads it, and together they turn one record into another. -/
inductive Fills (r : Record α) : α → List (String × Value) → α → Prop
  | done (record : α) : Fills r record [] record
  | entry {record record' final : α} {name : String} {value : Value} {field : Field α}
      {rest : List (String × Value)} (found : r.fields.find? (·.name == name) = some field)
      (reads : Reads (field.read record) value.write record') (others : Fills r record' rest final) :
      Fills r record ((name, value) :: rest) final

theorem stops_writeEntries (entries : List (String × Value)) (rest : Bytes) :
    Stops (encodeChars (writeEntries false entries) ++ 0x7d :: rest) := by
  intro b first
  cases entries with
  | nil =>
    obtain rfl : 0x7d = b := by simpa [writeEntries] using first
    exact .inr (.inr rfl)
  | cons entry others =>
    have comma : encodeChars (writeEntries false (entry :: others)) =
        0x2c :: encodeChars (writeEntry entry ++ writeEntries false others) := rfl
    rw [comma] at first
    obtain rfl : 0x2c = b := by simpa using first
    exact .inl rfl

/-- An entry that was written is read, and its name noted. -/
theorem readEntry_written {name : String} {value : Value} {field : Field α} {seen : List String}
    {record record' : α} (found : r.fields.find? (·.name == name) = some field) (fresh : name ∉ seen)
    (reads : Reads (field.read record) value.write record') (offset : Nat) {rest : Bytes}
    (stops : Stops rest) :
    r.readEntry name seen record ⟨offset, encodeChars (':' :: value.write) ++ rest⟩ =
      .ok (name :: seen, record',
        ⟨offset + (encodeChars (':' :: value.write)).length, rest⟩) := by
  have mark : encodeChars (':' :: value.write) = 0x3a :: encodeChars value.write := rfl
  rw [mark, List.cons_append, readEntry, found]
  dsimp only
  rw [if_neg (by simpa using fresh), colon_written, Outcome.ok_bind,
    reads (offset + 1) rest stops, Outcome.ok_bind, List.length_cons, Nat.add_assoc,
    Nat.add_comm 1]
  rfl

/-- The names to come are different from each other and from those seen, and no field that has to be
there will be missing. -/
structure Complete (r : Record α) (seen names : List String) : Prop where
  distinct : names.Nodup
  fresh : ∀ name ∈ names, name ∉ seen
  required : ∀ f ∈ r.fields, f.required = true → f.name ∈ seen ∨ f.name ∈ names

theorem Complete.next {seen names : List String} {name : String}
    (complete : Complete r seen (name :: names)) : Complete r (name :: seen) names := by
  obtain ⟨outside, distinct⟩ := List.nodup_cons.1 complete.distinct
  refine ⟨distinct, ?_, ?_⟩
  · intro other later
    rw [List.mem_cons, not_or]
    refine ⟨?_, complete.fresh other (List.mem_cons_of_mem _ later)⟩
    rintro rfl
    exact outside later
  · intro f field needed
    rcases complete.required f field needed with here | to_come
    · exact .inl (List.mem_cons_of_mem _ here)
    · rcases List.mem_cons.1 to_come with same | later
      · exact .inl (same ▸ List.mem_cons_self)
      · exact .inr later

theorem Complete.missing?_eq_none {seen : List String} (complete : Complete r seen []) :
    r.missing? seen = none := by
  rw [missing?, Option.map_eq_none_iff, List.find?_eq_none]
  intro f field missing
  obtain ⟨needed, absent⟩ : f.required = true ∧ f.name ∉ seen := by simpa using missing
  rcases complete.required f field needed with here | later
  · exact absent here
  · cases later

/-- Entries that were written are read one by one, up to the brace. -/
theorem readEntries_written {record final : α} {entries : List (String × Value)}
    (fills : Fills r record entries final) {fuel : Nat} (enough : entries.length < fuel) (first : Bool)
    {seen : List String} (complete : Complete r seen (entries.map Prod.fst)) (offset : Nat)
    (rest : Bytes) :
    r.readEntries fuel first seen record
        ⟨offset, encodeChars (writeEntries first entries) ++ 0x7d :: rest⟩ =
      .ok (final, ⟨offset + (encodeChars (writeEntries first entries)).length + 1, rest⟩) := by
  induction fills generalizing fuel first seen offset with
  | done record =>
    cases fuel with
    | zero => cases enough
    | succ fuel =>
      have none : r.missing? seen = none := complete.missing?_eq_none
      show r.readEntries (fuel + 1) first seen record ⟨offset, 0x7d :: rest⟩ = _
      rw [readEntries, key?_end, Outcome.ok_bind]
      dsimp only
      rw [none]
      rfl
  | @entry record record' final name value field others found reads _ ih =>
    cases fuel with
    | zero => cases enough
    | succ fuel =>
      have parts : encodeChars (writeEntries first ((name, value) :: others)) =
          encodeChars (separator first ++ ['"']) ++
            (encodeChars (name.toList.flatMap escape ++ ['"']) ++
              (encodeChars (':' :: value.write) ++ encodeChars (writeEntries false others))) := by
        simp [writeEntries, writeEntry, writeText, encodeChars_cons]
      rw [parts]
      simp only [List.append_assoc, List.length_append]
      rw [readEntries, key?_written, Outcome.ok_bind]
      dsimp only
      rw [text_written, Outcome.ok_bind]
      dsimp only
      rw [readEntry_written found (complete.fresh name List.mem_cons_self) reads _
        (stops_writeEntries others rest), Outcome.ok_bind]
      dsimp only
      rw [ih (Nat.lt_of_succ_lt_succ enough) false complete.next]
      simp only [Nat.add_assoc]

theorem length_le_length_writeEntries (first : Bool) (entries : List (String × Value)) :
    entries.length ≤ (encodeChars (writeEntries first entries)).length := by
  induction entries generalizing first with
  | nil => exact Nat.zero_le _
  | cons entry rest ih =>
    have quote : (encodeChars (writeEntry entry)).length =
        (encodeChars (entry.1.toList.flatMap escape ++ ['"'] ++ ':' :: entry.2.write)).length + 1 :=
      rfl
    have later := ih false
    simp only [writeEntries, encodeChars_append, List.length_append, List.length_cons] at quote ⊢
    omega

/-- A record that is written field by field is read as it was. -/
theorem reads_object {entries : List (String × Value)} {record : α}
    (fills : Fills r r.blank entries record) (complete : Complete r [] (entries.map Prod.fst)) :
    Reads r.reader (Value.object entries).write record := by
  intro offset rest _
  have bytes : encodeChars (Value.object entries).write =
      0x7b :: (encodeChars (writeEntries true entries) ++ [0x7d]) := by
    rw [Value.write, writeFields_eq, List.cons_append, encodeChars_cons, encodeChars_append]
    rfl
  rw [bytes, List.cons_append, List.append_assoc, List.singleton_append, reader, atValue]
  rw [skipBlanks_of_notBlank (by decide)]
  dsimp only
  have enough : entries.length <
      (0x7b :: (encodeChars (writeEntries true entries) ++ 0x7d :: rest)).length + 1 := by
    have short := length_le_length_writeEntries true entries
    simp only [List.length_cons, List.length_append]
    omega
  rw [if_pos (by decide), Cursor.next]
  dsimp only
  rw [readEntries_written fills enough true complete]
  simp only [List.length_cons, List.length_append, List.length_nil, Nat.add_assoc, Nat.add_comm 1]

theorem Fills.text {record final : α} {name : String} {required : Bool} {s : String}
    {set : String → α → α} {rest : List (String × Value)}
    (found : r.fields.find? (·.name == name) = some (Field.of name required string set))
    (others : Fills r (set s record) rest final) :
    Fills r record ((name, .string s) :: rest) final :=
  .entry found ((reads_string s).field name required set record) others

/-- A text that is absent leaves no entry, and the record as it was. -/
theorem Fills.given {record final : α} {name : String} {required : Bool} {value : Option String}
    {set : Option String → α → α} {rest : List (String × Value)}
    (found : r.fields.find? (·.name == name) = some (Field.of name required (optional string) set))
    (unset : set none record = record) (others : Fills r (set value record) rest final) :
    Fills r record (givenField name value ++ rest) final := by
  cases value with
  | none => rwa [unset] at others
  | some s =>
    have read := (reads_string s).optional (encodeChars_writeText s) (by decide) (by decide)
    exact .entry found (read.field name required set record) others

theorem names_givenField (name : String) (value : Option String) :
    ((givenField name value).map Prod.fst).Sublist [name] := by
  cases value with
  | none => exact List.nil_sublist _
  | some s => exact List.Sublist.refl _

/-- Where no field has to be there, some of the names in their order are complete. -/
theorem Complete.of_sublist {names all : List String} (some : names.Sublist all)
    (distinct : all.Nodup) (optional : r.fields.all (!·.required) = true) : Complete r [] names where
  distinct := distinct.sublist some
  fresh := nofun
  required := by
    intro f field needed
    have free := List.all_eq_true.1 optional f field
    rw [needed] at free
    cases free

end Record

end Json

open Json (Record)

namespace Transfer

theorem fills (t : Transfer) : record.Fills record.blank t.fields t := by
  rw [fields, List.append_assoc, List.append_assoc, ← List.append_nil (Json.givenField "to_type" _)]
  refine .given rfl rfl (.text rfl ?_)
  exact .given rfl rfl (.given rfl rfl (.given rfl rfl (.given rfl rfl (.done t))))

theorem complete (t : Transfer) : record.Complete [] (t.fields.map Prod.fst) := by
  have names : (t.fields.map Prod.fst).Sublist
      (["symbol"] ++ "amount" :: (["from"] ++ ["to"] ++ ["from_type"] ++ ["to_type"])) := by
    simp only [fields, List.map_append, List.map_cons]
    refine (Record.names_givenField _ _).append (.cons_cons _ ?_)
    exact (((Record.names_givenField _ _).append (Record.names_givenField _ _)).append
      (Record.names_givenField _ _)).append (Record.names_givenField _ _)
  exact .of_sublist names (by decide) (by decide)

/-- A transfer is read as it was written: absent and empty sides stay apart. -/
theorem ofBytes_compact (t : Transfer) : ofBytes (bytesOf t.toJson.compact) = .ok t :=
  (Record.reads_object t.fills t.complete).whole

end Transfer

namespace Withdrawal

theorem fills (w : Withdrawal) : record.Fills record.blank w.fields w := by
  rw [fields, List.append_assoc]
  exact .text rfl (.given rfl rfl (.given rfl rfl (.text rfl (.done w))))

theorem complete (w : Withdrawal) : record.Complete [] (w.fields.map Prod.fst) := by
  have names : (w.fields.map Prod.fst).Sublist
      ("address" :: (["symbol"] ++ ["network"] ++ ["amount"])) := by
    simp only [fields, List.map_append, List.map_cons, List.map_nil]
    refine .cons_cons _ (((Record.names_givenField _ _).append (Record.names_givenField _ _)).append
      (List.Sublist.refl _))
  exact .of_sublist names (by decide) (by decide)

theorem ofBytes_compact (w : Withdrawal) : ofBytes (bytesOf w.toJson.compact) = .ok w :=
  (Record.reads_object w.fills w.complete).whole

end Withdrawal

end Countersign
