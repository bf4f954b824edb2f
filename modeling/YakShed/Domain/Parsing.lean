/-
# Reading identifiers

The constructors that identifiers go through when they are read from text, each
with the theorem that what an identifier is written as is read as that identifier.
-/

import YakShed.Domain.Credentials

namespace YakShed

theorem bind_ok {ε α β : Type} {first : Except ε α} {rest : α → Except ε β} {value : β}
    (h : first >>= rest = .ok value) : ∃ found, first = .ok found ∧ rest found = .ok value := by
  cases first with
  | error error => cases h
  | ok found => exact ⟨found, rfl, h⟩

/-! ## Checked text -/

/-- A constructor that makes a value of a text if it passes the check. -/
def checked {α : Type} (check : String → Except ValidationError Unit)
    (make : (value : String) → check value = .ok () → α) (value : String) :
    Except ValidationError α :=
  match h : check value with
  | .ok () => .ok (make value h)
  | .error error => .error error

theorem checked_of_accepted {α : Type} {check : String → Except ValidationError Unit}
    {make : (value : String) → check value = .ok () → α} {value : String}
    (h : check value = .ok ()) : checked check make value = .ok (make value h) := by
  unfold checked
  split
  · rfl
  · next error herror =>
      rw [h] at herror
      cases herror

def CredentialSlot.new : String → Except ValidationError CredentialSlot :=
  checked (requireIdentifier "credential slot") CredentialSlot.mk

def ProviderStateRootId.new : String → Except ValidationError ProviderStateRootId :=
  checked checkProviderStateRootId ProviderStateRootId.mk

def SecretBackendId.new : String → Except ValidationError SecretBackendId :=
  checked (requireIdentifier "secret backend id") SecretBackendId.mk

def SecretLocator.new : String → Except ValidationError SecretLocator :=
  checked checkSecretLocator SecretLocator.mk

theorem CredentialSlot.new_value (slot : CredentialSlot) : new slot.value = .ok slot :=
  checked_of_accepted slot.accepted

theorem ProviderStateRootId.new_value (root : ProviderStateRootId) : new root.value = .ok root :=
  checked_of_accepted root.accepted

theorem SecretBackendId.new_value (id : SecretBackendId) : new id.value = .ok id :=
  checked_of_accepted id.accepted

theorem SecretLocator.new_value (locator : SecretLocator) : new locator.value = .ok locator :=
  checked_of_accepted locator.accepted

/-! ## Backends -/

namespace SecretBackendSettings

/-- The settings that a kind and its parts stand for. -/
def ofParts : String → Option String → Option String → Option String →
    Except ValidationError SecretBackendSettings
  | "local-os", none, none, none => .ok localOs
  | "onepassword", some account, none, executable
  | "onepassword-cli", some account, none, executable => .ok (onePassword account executable)
  | "onepassword", none, none, _ | "onepassword-cli", none, none, _ =>
      .error ⟨"onepassword secret backend requires an account"⟩
  | "environment", none, none, none => .ok environment
  | "memory", none, none, none => .ok memory
  | "local-file", none, some path, none => .ok (localFile path)
  | "local-file", none, none, none => .error ⟨"local-file secret backend requires a path"⟩
  | kind, _, _, _ =>
      .error ⟨"unsupported or inconsistent secret backend settings for kind: " ++ kind⟩

/-- `from_config_parts`. -/
def fromConfigParts (kind : String) (account path executable : Option String) :
    Except ValidationError SecretBackendSettings := do
  let settings ← ofParts kind account path executable
  settings.validate
  return settings

/-- The account, the path and the executable that are written. -/
def configParts : SecretBackendSettings → Option String × Option String × Option String
  | onePassword account executable => (some account, none, executable)
  | localFile path => (none, some path, none)
  | localOs | environment | memory => (none, none, none)

theorem fromConfigParts_configParts {settings : SecretBackendSettings}
    (h : settings.validate = .ok ()) :
    fromConfigParts settings.kind settings.configParts.1 settings.configParts.2.1
      settings.configParts.2.2 = .ok settings := by
  cases settings with
  | localOs | environment | memory => rfl
  | onePassword account executable =>
      change (onePassword account executable).validate >>= (fun _ => _) = _
      rw [h]
      rfl
  | localFile path =>
      change (localFile path).validate >>= (fun _ => _) = _
      rw [h]
      rfl

theorem validate_of_fromConfigParts {kind : String} {account path executable : Option String}
    {settings : SecretBackendSettings}
    (h : fromConfigParts kind account path executable = .ok settings) :
    settings.validate = .ok () := by
  unfold fromConfigParts at h
  obtain ⟨found, _, hrest⟩ := bind_ok h
  obtain ⟨_, hvalid, hsame⟩ := bind_ok hrest
  cases hsame
  exact hvalid

end SecretBackendSettings

/-! ## UUIDs -/

namespace Uuid

/-- The value of a hexadecimal digit, of either case. -/
def hexValue (c : Char) : Option Nat :=
  if '0' ≤ c ∧ c ≤ '9' then some (c.toNat - 48)
  else if 'a' ≤ c ∧ c ≤ 'f' then some (c.toNat - 87)
  else if 'A' ≤ c ∧ c ≤ 'F' then some (c.toNat - 55)
  else none

/-- The number that a sequence of digits continues. -/
def parseHex : Nat → List Char → Option Nat
  | value, [] => some value
  | value, c :: rest => (hexValue c).bind fun digit => parseHex (16 * value + digit) rest

def parseHyphenated (text : List Char) : Option Nat :=
  if text[8]? = some '-' ∧ text[13]? = some '-' ∧ text[18]? = some '-' ∧ text[23]? = some '-' then
    parseHex 0 (text.take 8 ++ (text.drop 9).take 4 ++ (text.drop 14).take 4 ++
      (text.drop 19).take 4 ++ text.drop 24)
  else none

/-- `Uuid::parse_str`: plain, hyphenated, braced or as a URN. -/
def parseStr (value : String) : Option (BitVec 128) :=
  let text := value.toList
  let number :=
    match text.length with
    | 32 => parseHex 0 text
    | 36 => parseHyphenated text
    | 38 =>
        if text.head? = some '\x7b' ∧ text.getLast? = some '\x7d' then
          parseHyphenated ((text.drop 1).take 36)
        else none
    | 45 => if text.take 9 = "urn:uuid:".toList then parseHyphenated (text.drop 9) else none
    | _ => none
  number.map (BitVec.ofNat 128)

theorem hexValue_hexDigit {value : Nat} (h : value < 16) :
    hexValue (hexDigit value) = some value := by
  have htable : ∀ value < 16, hexValue (hexDigit value) = some value := by decide
  exact htable value h

theorem parseHex_append (value : Nat) (first second : List Char) :
    parseHex value (first ++ second) =
      (parseHex value first).bind fun value => parseHex value second := by
  induction first generalizing value with
  | nil => rfl
  | cons c rest ih =>
      rw [List.cons_append, parseHex, parseHex]
      cases hexValue c with
      | none => rfl
      | some digit => exact ih _

/-- The leading digits of a number. -/
theorem parseHex_digits (value : Nat) (hvalue : value < 16 ^ 32) {count : Nat}
    (hcount : count ≤ 32) :
    parseHex 0 ((List.range count).map fun index => hexDigit (value / 16 ^ (31 - index) % 16)) =
      some (value / 16 ^ (32 - count)) := by
  induction count with
  | zero => exact congrArg some (Nat.div_eq_of_lt hvalue).symm
  | succ count ih =>
      rw [List.range_succ, List.map_append, parseHex_append, ih (Nat.le_of_succ_le hcount)]
      change (hexValue (hexDigit (value / 16 ^ (31 - count) % 16))).bind _ = _
      rw [hexValue_hexDigit (Nat.mod_lt _ (by decide))]
      apply congrArg some
      have hplace : 32 - count = (31 - count) + 1 := by omega
      have hlast : 32 - (count + 1) = 31 - count := by omega
      rw [hplace, hlast, pow_succ, ← Nat.div_div_eq_div_mul]
      exact Nat.div_add_mod _ _

theorem parseHex_hexDigits (id : Uuid) : parseHex 0 id.hexDigits = some id.bits.toNat := by
  have hpow : (2 : Nat) ^ 128 = 16 ^ 32 := by decide
  have hdigits := parseHex_digits id.bits.toNat (hpow ▸ id.bits.isLt) (le_refl 32)
  rwa [Nat.sub_self, pow_zero, Nat.div_one] at hdigits

theorem parseHyphenated_groups {first second third fourth fifth : List Char}
    (hfirst : first.length = 8) (hsecond : second.length = 4) (hthird : third.length = 4)
    (hfourth : fourth.length = 4) :
    parseHyphenated (first ++ '-' :: second ++ '-' :: third ++ '-' :: fourth ++ '-' :: fifth) =
      parseHex 0 (first ++ second ++ third ++ fourth ++ fifth) := by
  unfold parseHyphenated
  simp [List.getElem?_append, List.drop_append, List.drop_of_length_le, hfirst, hsecond, hthird,
    hfourth]

/-- The canonical text of an identifier is read as its bits. -/
theorem parseStr_toText (id : Uuid) : parseStr id.toText = some id.bits := by
  have hlength := id.length_hexDigits
  have hchars : id.toText.toList = id.hexDigits.take 8 ++ '-' :: (id.hexDigits.drop 8).take 4 ++
      '-' :: (id.hexDigits.drop 12).take 4 ++ '-' :: (id.hexDigits.drop 16).take 4 ++
      '-' :: id.hexDigits.drop 20 := by
    rw [toText, String.toList_ofList]
  have hcount : id.toText.toList.length = 36 := by
    rw [hchars]
    simp [hlength]
  have hnumber : parseHyphenated id.toText.toList = some id.bits.toNat := by
    rw [hchars, parseHyphenated_groups (by simp [hlength]) (by simp [hlength]) (by simp [hlength])
      (by simp [hlength]), ← id.parseHex_hexDigits]
    apply congrArg
    simp only [List.append_assoc]
    have hblock : ∀ place, (id.hexDigits.drop place).take 4 ++ id.hexDigits.drop (place + 4) =
        id.hexDigits.drop place := by
      intro place
      rw [← List.drop_drop, List.take_append_drop]
    rw [hblock 16, hblock 12, hblock 8, List.take_append_drop]
  simp only [parseStr, hcount, hnumber]
  exact congrArg some (BitVec.ofNat_toNat _ _ |>.trans (BitVec.setWidth_eq _))

end Uuid

/-- What the `uuid` crate says of a text that `Uuid::parse_str` rejects. -/
class UuidErrors where
  display : String → String

section Identifiers

variable [UuidErrors]

/-- `parse_uuid_v7`. -/
def parseUuidV7 (field value : String) : Except ValidationError Uuid :=
  match Uuid.parseStr value with
  | none => .error ⟨"invalid " ++ field ++ ": " ++ UuidErrors.display value⟩
  | some bits =>
      if h : isUuidV7 bits = true then .ok ⟨bits, h⟩
      else .error ⟨field ++ " must be a UUIDv7"⟩

theorem parseUuidV7_toText (field : String) (id : Uuid) :
    parseUuidV7 field id.toText = .ok id := by
  simp only [parseUuidV7, Uuid.parseStr_toText]
  exact dif_pos id.isV7

def ConnectionId.fromStr (value : String) : Except ValidationError ConnectionId :=
  (parseUuidV7 "connection id" value).map ConnectionId.mk

def WorkItemId.fromStr (value : String) : Except ValidationError WorkItemId :=
  (parseUuidV7 "work item id" value).map WorkItemId.mk

def RunId.fromStr (value : String) : Except ValidationError RunId :=
  (parseUuidV7 "run id" value).map RunId.mk

theorem ConnectionId.fromStr_toText (id : ConnectionId) : fromStr id.uuid.toText = .ok id := by
  rw [fromStr, parseUuidV7_toText]
  rfl

theorem WorkItemId.fromStr_toText (id : WorkItemId) : fromStr id.uuid.toText = .ok id := by
  rw [fromStr, parseUuidV7_toText]
  rfl

theorem RunId.fromStr_toText (id : RunId) : fromStr id.uuid.toText = .ok id := by
  rw [fromStr, parseUuidV7_toText]
  rfl

end Identifiers

end YakShed
