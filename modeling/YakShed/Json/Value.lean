/-
# JSON values

The values a JSON parser returns, with its accessors and its compact printing.
An object is the list of its fields in the order in which they are printed.
-/

import Mathlib.Data.List.Infix

namespace Json

/-- Integers from here on are no `u64`. -/
def u64Limit : Int := 18446744073709551616

/-- Integers from here on are no `i64`. -/
def i64Limit : Int := 9223372036854775808

/-- An integer within 64 bits, or a float as the text that is printed for it. -/
inductive Number
  | integer (value : Int)
  | float (text : String)
  deriving DecidableEq

inductive Value
  | null
  | bool (b : Bool)
  | number (n : Number)
  | string (text : String)
  | array (items : List Value)
  | object (fields : List (String × Value))

/-- An object's fields. -/
abbrev Fields : Type := List (String × Value)

/-- The value of a key. -/
def Fields.get (fields : Fields) (key : String) : Option Value := fields.lookup key

def Fields.containsKey (fields : Fields) (key : String) : Bool := (fields.get key).isSome

namespace Value

/-! ## Accessors -/

/-- The value of an object's key. No other value has keys. -/
def get (value : Value) (key : String) : Option Value :=
  match value with
  | object fields => Fields.get fields key
  | _ => none

def asStr : Value → Option String
  | string text => some text
  | _ => none

def asBool : Value → Option Bool
  | bool b => some b
  | _ => none

def asU64 : Value → Option Nat
  | number (.integer value) => if 0 ≤ value ∧ value < u64Limit then some value.toNat else none
  | _ => none

def asI64 : Value → Option Int
  | number (.integer value) => if -i64Limit ≤ value ∧ value < i64Limit then some value else none
  | _ => none

def asArray : Value → Option (List Value)
  | array items => some items
  | _ => none

def asObject : Value → Option Fields
  | object fields => some fields
  | _ => none

def isNull : Value → Bool
  | null => true
  | _ => false

/-- The text of an object's string field. -/
def str (value : Value) (key : String) : Option String := (value.get key).bind asStr

/-! ## Printing -/

def hexDigit (n : Nat) : Char := "0123456789abcdef".toList.getD n '0'

/-- A character of a string literal. -/
def escape (c : Char) : List Char :=
  match c.toNat with
  | 0x22 => ['\\', '"']
  | 0x5c => ['\\', '\\']
  | 0x08 => ['\\', 'b']
  | 0x09 => ['\\', 't']
  | 0x0a => ['\\', 'n']
  | 0x0c => ['\\', 'f']
  | 0x0d => ['\\', 'r']
  | n => if n < 0x20 then ['\\', 'u', '0', '0', hexDigit (n / 16), hexDigit (n % 16)] else [c]

def literal (text : String) : String :=
  "\"" ++ String.ofList (text.toList.flatMap escape) ++ "\""

def Number.toText : Number → String
  | .integer value => toString value
  | .float text => text

mutual

/-- The compact printing of a value. -/
def toText : Value → String
  | null => "null"
  | bool b => if b then "true" else "false"
  | number n => Number.toText n
  | string text => literal text
  | array items => "[" ++ ",".intercalate (itemTexts items) ++ "]"
  | object fields => "\x7b" ++ ",".intercalate (fieldTexts fields) ++ "\x7d"

def itemTexts : List Value → List String
  | [] => []
  | item :: rest => toText item :: itemTexts rest

def fieldTexts : List (String × Value) → List String
  | [] => []
  | (key, value) :: rest => (literal key ++ ":" ++ toText value) :: fieldTexts rest

end

/-! ## String leaves -/

mutual

/-- Applies a function to every string of a value. Keys are no strings of it. -/
def mapStrings (f : String → String) : Value → Value
  | null => null
  | bool b => bool b
  | number n => number n
  | string text => string (f text)
  | array items => array (mapItems f items)
  | object fields => object (mapFields f fields)

def mapItems (f : String → String) : List Value → List Value
  | [] => []
  | item :: rest => mapStrings f item :: mapItems f rest

def mapFields (f : String → String) : List (String × Value) → List (String × Value)
  | [] => []
  | (key, value) :: rest => (key, mapStrings f value) :: mapFields f rest

end

variable {f : String → String} {value : Value} {key : String}

theorem mapItems_eq_map (items : List Value) : mapItems f items = items.map (mapStrings f) := by
  induction items with
  | nil => rfl
  | cons item rest ih => rw [mapItems, ih, List.map_cons]

theorem get_mapFields (fields : Fields) :
    Fields.get (mapFields f fields) key = (Fields.get fields key).map (mapStrings f) := by
  unfold Fields.get
  induction fields with
  | nil => rfl
  | cons entry rest ih =>
      obtain ⟨key', value⟩ := entry
      rw [mapFields, List.lookup_cons, List.lookup_cons, ih]
      cases key == key' with
      | true => rfl
      | false => rfl

/-- The keys of a value stay in place. -/
theorem get_mapStrings : (value.mapStrings f).get key = (value.get key).map (mapStrings f) := by
  cases value with
  | object fields => exact get_mapFields fields
  | null => rfl
  | bool b => rfl
  | number n => rfl
  | string text => rfl
  | array items => rfl

theorem asStr_mapStrings : (value.mapStrings f).asStr = value.asStr.map f := by
  cases value with
  | string text => rfl
  | null => rfl
  | bool b => rfl
  | number n => rfl
  | array items => rfl
  | object fields => rfl

theorem str_mapStrings : (value.mapStrings f).str key = (value.str key).map f := by
  unfold str
  rw [get_mapStrings]
  cases value.get key with
  | none => rfl
  | some found => exact asStr_mapStrings

theorem asArray_mapStrings :
    (value.mapStrings f).asArray = value.asArray.map (List.map (mapStrings f)) := by
  cases value with
  | array items => exact congrArg some (mapItems_eq_map items)
  | null => rfl
  | bool b => rfl
  | number n => rfl
  | string text => rfl
  | object fields => rfl

end Value

end Json
