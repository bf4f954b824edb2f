/-
# TOML values

The tree that a TOML document stands for, and how derived serializers go through
it: a struct is a table of its fields, a field without a value is left out, and a
table with a key that is no field's is turned away. A codec is lawful if it reads
back what it wrote.
-/

import Mathlib.Data.List.Sort

namespace Toml

inductive Value
  | string (text : String)
  | integer (value : Int)
  | float (text : String)
  | boolean (b : Bool)
  | datetime (text : String)
  | array (items : List Value)
  | table (entries : List (String × Value))

/-- A table's entries. -/
abbrev Table : Type := List (String × Value)

/-- What a document or a value is turned away for. -/
inductive DeError
  | malformed (message : String)
  | invalidType (expected : String)
  | unknownField (key : String)
  | missingField (key : String)
  | unknownVariant (name : String)
  | custom (message : String)
  deriving DecidableEq

namespace Value

/-! ## Accessors -/

def get (value : Value) (key : String) : Option Value :=
  match value with
  | table entries => entries.lookup key
  | _ => none

def asInteger : Value → Option Int
  | integer value => some value
  | _ => none

def asTable : Value → Except DeError Table
  | table entries => .ok entries
  | _ => .error (.invalidType "a table")

/-- The keys of every table come in order, as in the map that holds them. -/
inductive Canonical : Value → Prop
  | string (text : String) : Canonical (.string text)
  | integer (value : Int) : Canonical (.integer value)
  | float (text : String) : Canonical (.float text)
  | boolean (b : Bool) : Canonical (.boolean b)
  | datetime (text : String) : Canonical (.datetime text)
  | array {items : List Value} (each : ∀ item ∈ items, Canonical item) : Canonical (.array items)
  | table {entries : Table} (ordered : (entries.map Prod.fst).Pairwise (· < ·))
      (each : ∀ entry ∈ entries, Canonical entry.2) : Canonical (.table entries)

end Value

/-! ## Codecs -/

/-- `Serialize` and `Deserialize` of a type. -/
structure Codec (α : Type) where
  serialize : α → Value
  deserialize : Value → Except DeError α

variable {α β : Type}

/-- What is written is in order and is read back. -/
class Codec.Lawful (codec : Codec α) : Prop where
  canonical : ∀ value, (codec.serialize value).Canonical
  roundTrip : ∀ value, codec.deserialize (codec.serialize value) = .ok value

namespace Codec

def string : Codec String where
  serialize := .string
  deserialize
    | .string text => .ok text
    | _ => .error (.invalidType "a string")

instance : string.Lawful := ⟨.string, fun _ => rfl⟩

def u32 : Codec UInt32 where
  serialize := fun value => .integer value.toNat
  deserialize
    | .integer value =>
        if 0 ≤ value ∧ value < 4294967296 then .ok (.ofNat value.toNat)
        else .error (.invalidType "u32")
    | _ => .error (.invalidType "u32")

instance : u32.Lawful where
  canonical := fun value => .integer _
  roundTrip := by
    intro value
    have hrange : (0 : Int) ≤ value.toNat ∧ (value.toNat : Int) < 4294967296 := by
      have hlt := value.toNat_lt
      omega
    simp only [u32, hrange, and_self, if_true]
    rw [Int.toNat_natCast, UInt32.ofNat_toNat]

theorem mapM_map_ok {ε : Type} {write : α → β} {read : β → Except ε α}
    (values : List α) (h : ∀ value ∈ values, read (write value) = .ok value) :
    (values.map write).mapM read = .ok values := by
  induction values with
  | nil => rfl
  | cons value rest ih =>
      rw [List.map_cons, List.mapM_cons, h value List.mem_cons_self,
        ih fun other hmem => h other (List.mem_cons_of_mem _ hmem)]
      rfl

def list (codec : Codec α) : Codec (List α) where
  serialize := fun values => .array (values.map codec.serialize)
  deserialize
    | .array items => items.mapM codec.deserialize
    | _ => .error (.invalidType "a sequence")

instance (codec : Codec α) [lawful : codec.Lawful] : codec.list.Lawful where
  canonical := by
    intro values
    apply Value.Canonical.array
    intro item hitem
    obtain ⟨value, _, rfl⟩ := List.mem_map.mp hitem
    exact lawful.canonical value
  roundTrip := fun _ => mapM_map_ok _ fun value _ => lawful.roundTrip value

/-- `#[serde(try_from, into)]`: a type that is written as another one and checks
what it is read from. -/
def via (codec : Codec β) (into : α → β) (tryFrom : β → Except String α) : Codec α where
  serialize := fun value => codec.serialize (into value)
  deserialize := fun value =>
    match codec.deserialize value with
    | .error error => .error error
    | .ok found =>
        match tryFrom found with
        | .ok accepted => .ok accepted
        | .error message => .error (.custom message)

theorem via_lawful (codec : Codec β) [lawful : codec.Lawful] {into : α → β}
    {tryFrom : β → Except String α} (h : ∀ value, tryFrom (into value) = .ok value) :
    (codec.via into tryFrom).Lawful where
  canonical := fun value => lawful.canonical (into value)
  roundTrip := by
    intro value
    simp only [via, lawful.roundTrip, h]

end Codec

/-! ## Structs -/

/-- The fields that have a value. -/
def present (fields : List (String × Option Value)) : Table :=
  fields.filterMap fun field => field.2.map fun value => (field.1, value)

/-- The fields of a struct in the order of their keys, each with its value if it
is written. -/
structure Fields where
  entries : List (String × Option Value)
  ordered : (entries.map Prod.fst).Pairwise (· < ·)

namespace Fields

def table (fields : Fields) : Table := present fields.entries

def without (fields : Fields) (key : String) : Fields where
  entries := fields.entries.filter fun field => field.1 != key
  ordered := fields.ordered.sublist (List.filter_sublist.map Prod.fst)

end Fields

namespace Table

/-- `#[serde(deny_unknown_fields)]`. -/
def expect (table : Table) (known : List String) : Except DeError Unit :=
  match table.find? fun entry => !known.contains entry.1 with
  | some entry => .error (.unknownField entry.1)
  | none => .ok ()

def field (table : Table) (codec : Codec α) (key : String) : Except DeError α :=
  match table.lookup key with
  | some value => codec.deserialize value
  | none => .error (.missingField key)

/-- `#[serde(default)]`. -/
def fieldOr (table : Table) (codec : Codec α) (key : String) (default : α) : Except DeError α :=
  match table.lookup key with
  | some value => codec.deserialize value
  | none => .ok default

/-- A field whose type is an `Option`. -/
def fieldOption (table : Table) (codec : Codec α) (key : String) : Except DeError (Option α) :=
  match table.lookup key with
  | some value => do return some (← codec.deserialize value)
  | none => .ok none

/-- `#[serde(tag)]`: the variant's name and the entries that are left. -/
def tagged (table : Table) (key : String) : Except DeError (String × Table) := do
  let name ← table.field .string key
  return (name, table.filter fun entry => entry.1 != key)

end Table

/-! ## Reading a struct back -/

theorem keys_present (fields : List (String × Option Value)) :
    ((present fields).map Prod.fst).Sublist (fields.map Prod.fst) := by
  induction fields with
  | nil => exact .slnil
  | cons field rest ih =>
      obtain ⟨key, _ | value⟩ := field
      · exact ih.cons key
      · exact ih.cons_cons key

theorem lookup_eq_none_of_notMem {table : Table} {key : String}
    (h : key ∉ table.map Prod.fst) : table.lookup key = none := by
  rw [List.lookup_eq_none_iff]
  intro entry hentry
  exact bne_iff_ne.mpr fun heq => h (heq ▸ List.mem_map_of_mem hentry)

theorem lookup_present {fields : List (String × Option Value)}
    (hordered : (fields.map Prod.fst).Pairwise (· < ·)) (key : String) :
    (present fields).lookup key = (fields.lookup key).join := by
  induction fields with
  | nil => rfl
  | cons field rest ih =>
      obtain ⟨hfirst, hrest⟩ := List.pairwise_cons.mp hordered
      obtain ⟨name, value⟩ := field
      have hlater : (present rest).lookup key = (rest.lookup key).join := ih hrest
      by_cases hkey : key = name
      · subst hkey
        rw [List.lookup_cons_self]
        cases value with
        | some value => exact List.lookup_cons_self
        | none =>
            apply lookup_eq_none_of_notMem
            intro hmem
            exact String.lt_irrefl key (hfirst key ((keys_present rest).subset hmem))
      · have hother : (key == name) = false := beq_false_of_ne hkey
        cases value with
        | some value =>
            change List.lookup key ((name, value) :: present rest) = _
            rw [List.lookup_cons, List.lookup_cons, hother]
            exact hlater
        | none =>
            rw [List.lookup_cons, hother]
            exact hlater

theorem filter_present (fields : List (String × Option Value)) (key : String) :
    (present fields).filter (fun entry => entry.1 != key) =
      present (fields.filter fun field => field.1 != key) := by
  induction fields with
  | nil => rfl
  | cons field rest ih =>
      unfold present at ih ⊢
      obtain ⟨other, _ | value⟩ := field <;> by_cases hother : other = key <;> simp [hother, ih]

namespace Fields

variable {fields : Fields}

theorem canonical_table
    (h : ∀ field ∈ fields.entries, ∀ value ∈ field.2, Value.Canonical value) :
    (Value.table fields.table).Canonical := by
  apply Value.Canonical.table
  · exact fields.ordered.sublist (keys_present fields.entries)
  · intro entry hentry
    obtain ⟨field, hfield, hvalue⟩ := List.mem_filterMap.mp hentry
    obtain ⟨value, hsome, rfl⟩ := Option.map_eq_some_iff.mp hvalue
    exact h field hfield value hsome

theorem expect_table {known : List String} (h : fields.entries.map Prod.fst ⊆ known) :
    fields.table.expect known = .ok () := by
  have hnone : fields.table.find? (fun entry => !known.contains entry.1) = none := by
    rw [List.find?_eq_none]
    intro entry hentry
    have hknown := h ((keys_present fields.entries).subset (List.mem_map_of_mem hentry))
    simpa using hknown
  rw [Table.expect, hnone]

variable {codec : Codec α} {key : String} {value : α}

section Lawful

variable [lawful : codec.Lawful]

theorem field_table (h : fields.entries.lookup key = some (some (codec.serialize value))) :
    fields.table.field codec key = .ok value := by
  rw [Table.field, table, lookup_present fields.ordered, h]
  exact lawful.roundTrip value

theorem fieldOr_table {default : α}
    (h : fields.entries.lookup key = some (some (codec.serialize value))) :
    fields.table.fieldOr codec key default = .ok value := by
  rw [Table.fieldOr, table, lookup_present fields.ordered, h]
  exact lawful.roundTrip value

theorem fieldOption_table {found : Option α}
    (h : fields.entries.lookup key = some (found.map codec.serialize)) :
    fields.table.fieldOption codec key = .ok found := by
  rw [Table.fieldOption, table, lookup_present fields.ordered, h]
  cases found with
  | none => rfl
  | some value =>
      change (do return some (← codec.deserialize (codec.serialize value))) = _
      rw [lawful.roundTrip]
      rfl

end Lawful

/-- `skip_serializing_if`: what is left out is the default. -/
theorem fieldOr_absent {default : α} (h : fields.entries.lookup key = some none) :
    fields.table.fieldOr codec key default = .ok default := by
  rw [Table.fieldOr, table, lookup_present fields.ordered, h]
  rfl

theorem tagged_table {name : String}
    (h : fields.entries.lookup key = some (some (.string name))) :
    fields.table.tagged key = .ok (name, (fields.without key).table) := by
  have hname : fields.table.field .string key = .ok name := field_table h
  rw [Table.tagged, hname]
  exact congrArg (fun rest => Except.ok (name, rest)) (filter_present fields.entries key)

end Fields

/-! ## Documents -/

/-- `toml::to_string_pretty` and `toml::from_str`. -/
class Text where
  toStringPretty : Value → Except String String
  fromStr : String → Except DeError Value

/-- A document that was written reads as the value it was written for. -/
class LawfulText [Text] : Prop where
  fromStr_toStringPretty : ∀ {value : Value} {text : String}, value.Canonical →
    Text.toStringPretty value = .ok text → Text.fromStr text = .ok value

end Toml
