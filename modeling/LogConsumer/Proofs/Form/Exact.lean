import LogConsumer.Form
import Mathlib.Data.List.Nodup

/-!
# Exact forms

A form is exact for the values that it stores if each of them is read back from what is written for
it, and nothing else is ever read (`Form.Exact`). So what was read from any JSON value, in whatever
spelling and with whatever fields beside those that matter, is read again after it was written
(`Form.Exact.restores`). Each way to make a form from others keeps exactness, so the forms of
records need no more than the forms of their fields.
-/
namespace LogConsumer

namespace Form

variable {α : Type}

/-- The form reads back the values that it stores, and reads no others. -/
structure Exact (form : Form α) (stores : α → Prop) : Prop where
  /-- A value that is stored is read back. -/
  decode_encode : ∀ {value}, stores value → form.decode (form.encode value) = some value
  /-- What is read can be stored. -/
  stores_of_decode : ∀ {json value}, form.decode json = some value → stores value

/-- Just these values are read back after they were written, and so is whatever is read at all. -/
structure Restores (form : Form α) (stores : α → Prop) : Prop where
  /-- A value is read back exactly if it is one of them. -/
  decode_encode_iff : ∀ value, form.decode (form.encode value) = some value ↔ stores value
  /-- What is read is written and read again as it is. -/
  decode_again : ∀ json value, form.decode json = some value →
    form.decode (form.encode value) = some value

/-- An exact form restores what it stores. -/
theorem Exact.restores {form : Form α} {stores : α → Prop} (exact : form.Exact stores) :
    form.Restores stores where
  decode_encode_iff _ := ⟨exact.stores_of_decode, exact.decode_encode⟩
  decode_again _ _ read := exact.decode_encode (exact.stores_of_decode read)

/-- Nothing is written as null. -/
def NeverNull (form : Form α) : Prop :=
  ∀ value, form.encode value ≠ .null

/-- An integer that fits the width is read. -/
theorem integer_decode {width : Width} {value : Int} (fits : width.holds value = true) :
    (integer width).decode (.int value) = some value :=
  if_pos fits

/-- Integers of a width are stored exactly. -/
theorem integer_exact (width : Width) :
    (integer width).Exact fun value => width.holds value = true where
  decode_encode fits := integer_decode fits
  stores_of_decode {json value} read := by
    cases json with
    | int stored =>
      simp only [integer] at read
      split at read
      · rename_i fits
        cases read
        exact fits
      · cases read
    | _ => cases read

/-- Natural numbers that fit a word of 64 bits are stored exactly. -/
theorem natural_exact : natural.Exact fun value => Width.word64.holds value = true where
  decode_encode {value} fits := by
    simp only [natural]
    rw [integer_decode fits, Option.map_some, Int.toNat_natCast]
  stores_of_decode {json value} read := by
    obtain ⟨number, stored, rfl⟩ := Option.map_eq_some_iff.mp read
    have fits := (integer_exact .word64).stores_of_decode stored
    have bounds := (Width.holds_iff _ _).mp fits
    have nonneg : (number.toNat : Int) = number := Int.toNat_of_nonneg bounds.1
    rwa [nonneg]

/-- Words are stored exactly, all of them. -/
theorem word_exact : word.Exact fun _ => True where
  decode_encode {value} _ := by
    have bound := value.toNat_lt
    have fits : Width.word64.holds value.toNat = true := by
      rw [Width.holds_iff]
      simp only [Width.low, Width.high]
      omega
    have read := natural_exact.decode_encode fits
    simp only [word]
    rw [read, Option.map_some, UInt64.ofNat_toNat]
  stores_of_decode _ := trivial

/-- Bytes are stored exactly, all of them. -/
theorem byte_exact : byte.Exact fun _ => True where
  decode_encode {value} _ := by
    have bound := value.toNat_lt
    have fits : Width.byte.holds value.toNat = true := by
      rw [Width.holds_iff]
      simp only [Width.low, Width.high]
      omega
    simp only [byte]
    rw [integer_decode fits, Option.map_some, Int.toNat_natCast, UInt8.ofNat_toNat]
  stores_of_decode _ := trivial

/-- Texts are stored exactly, all of them. -/
theorem text_exact : text.Exact fun _ => True where
  decode_encode _ := rfl
  stores_of_decode _ := trivial

/-- Items that are read one after the other from what is written for them are read back. -/
theorem mapM_decode_map {β : Type} {items : List α} {write : α → β} {read : β → Option α}
    (each : ∀ item ∈ items, read (write item) = some item) :
    (items.map write).mapM read = some items := by
  induction items with
  | nil => rfl
  | cons item items ih =>
    obtain ⟨here, later⟩ := List.forall_mem_cons.mp each
    rw [List.map_cons, List.mapM_cons, here, ih later]
    rfl

/-- What is read item by item was read of one of them. -/
theorem exists_of_mem_mapM_decode {β : Type} {stored : List β} {items : List α}
    {read : β → Option α} (done : stored.mapM read = some items) {item : α}
    (inside : item ∈ items) : ∃ json, read json = some item := by
  induction stored generalizing items with
  | nil =>
    cases done
    cases inside
  | cons first stored ih =>
    rw [List.mapM_cons] at done
    obtain ⟨value, here, rest⟩ := Option.bind_eq_some_iff.mp done
    obtain ⟨values, later, made⟩ := Option.bind_eq_some_iff.mp rest
    cases made
    obtain rfl | there := List.mem_cons.mp inside
    · exact ⟨first, here⟩
    · exact ih later there

variable {form : Form α} {stores : α → Prop}

/-- A list is stored exactly if its items are. -/
theorem list_exact (exact : form.Exact stores) :
    form.list.Exact fun values => ∀ value ∈ values, stores value where
  decode_encode fits := mapM_decode_map fun value inside => exact.decode_encode (fits value inside)
  stores_of_decode {json values} read value inside := by
    cases json with
    | arr items =>
      obtain ⟨item, here⟩ := exists_of_mem_mapM_decode read inside
      exact exact.stores_of_decode here
    | _ => cases read

/-- A value that may be missing is read as one that is there wherever it is not null. -/
theorem option_decode {json : Json} (present : json ≠ .null) :
    form.option.decode json = (form.decode json).map some := by
  cases json with
  | null => exact absurd rfl present
  | _ => rfl

/-- A value that may be missing is stored exactly if it is when it is there, and is not null then.
-/
theorem option_exact (exact : form.Exact stores) (neverNull : form.NeverNull) :
    form.option.Exact fun value? => ∀ value ∈ value?, stores value where
  decode_encode {value?} fits := by
    cases value? with
    | none => rfl
    | some value =>
      have read := exact.decode_encode (fits value rfl)
      change form.option.decode (form.encode value) = _
      rw [option_decode (neverNull value), read]
      rfl
  stores_of_decode {json value?} read value inside := by
    obtain rfl : value? = some value := inside
    by_cases missing : json = .null
    · subst missing
      cases read
    · rw [option_decode missing] at read
      obtain ⟨_, here, same⟩ := Option.map_eq_some_iff.mp read
      cases same
      exact exact.stores_of_decode here

/-- Sequences of bytes are stored exactly, all of them, although they are read from texts too. -/
theorem bytes_exact : bytes.Exact fun _ => True where
  decode_encode {_} _ := (list_exact byte_exact).decode_encode fun _ _ => trivial
  stores_of_decode _ := trivial

/-- Texts by name are stored exactly, all of them. -/
theorem texts_exact : texts.Exact fun _ => True where
  decode_encode {table} _ := by
    have entries : (table.entries.map fun entry => (entry.1, Json.str entry.2)).mapM
        (fun field => (text.decode field.2).map (field.1, ·)) = some table.entries :=
      mapM_decode_map fun _ _ => rfl
    have made := congrArg (Option.map Table.ofList) entries
    rw [Option.map_some, Table.ofList_entries] at made
    exact made
  stores_of_decode _ := trivial

/-- The values of a closed type are stored exactly, all of them, if each is listed and no two have
the same name. -/
theorem named_exact {values : List α} {name : α → String} (listed : ∀ value, value ∈ values)
    (apart : (values.map name).Nodup) : (named values name).Exact fun _ => True where
  decode_encode {value} _ := by
    have found : values.find? (fun other => name other = name value) = some value := by
      cases first : values.find? (fun other => name other = name value) with
      | none => simpa using List.find?_eq_none.mp first value (listed value)
      | some other =>
        have same : name other = name value := by simpa using List.find?_some first
        rw [List.inj_on_of_nodup_map apart (listed other) (listed value) same]
    exact found
  stores_of_decode _ := trivial

section Fields

variable {β : Type} {name : String} {fields : Fields} {value : α} {next : α → Option β}

/-- A field that must be there is read back from where it was written. -/
theorem Exact.required (exact : form.Exact stores) (fits : stores value)
    (written : fields.lookup name = some (form.encode value)) :
    (form.required name fields).bind next = next value := by
  have read : form.required name fields = some value := by
    unfold Form.required
    rw [written]
    exact exact.decode_encode fits
  rw [read, Option.bind_some]

/-- A field that has a default is read back from where it was written. -/
theorem Exact.defaulted (exact : form.Exact stores) (fits : stores value) {default : α}
    (written : fields.lookup name = some (form.encode value)) :
    (form.defaulted name default fields).bind next = next value := by
  have read : form.defaulted name default fields = some value := by
    unfold Form.defaulted
    rw [written]
    exact exact.decode_encode fits
  rw [read, Option.bind_some]

/-- What is read of a field that must be there can be stored. -/
theorem Exact.of_required (exact : form.Exact stores)
    (read : form.required name fields = some value) : stores value := by
  obtain ⟨_, _, here⟩ := Option.bind_eq_some_iff.mp read
  exact exact.stores_of_decode here

/-- What is read of a field that has a default can be stored, if the default can. -/
theorem Exact.of_defaulted (exact : form.Exact stores) {default : α} (standard : stores default)
    (read : form.defaulted name default fields = some value) : stores value := by
  unfold Form.defaulted at read
  split at read
  · exact exact.stores_of_decode read
  · cases read
    exact standard

/-- What is read of a field that may be missing can be stored where it is there. -/
theorem Exact.of_optional {value? : Option α}
    (exact : form.option.Exact fun value? => ∀ value ∈ value?, stores value)
    (read : form.optional name fields = some value?) : ∀ value ∈ value?, stores value := by
  have missing : ∀ value ∈ (none : Option α), stores value := nofun
  exact exact.of_defaulted missing read

end Fields

end Form

end LogConsumer
