/-
# Domain values

Identifiers, provider-owned names and the text rules they are checked against.
Every value that the source validates once in its constructor carries the
outcome of that check as a field, so no later module re-proves it.
-/

import Mathlib.Algebra.BigOperators.Group.List.Basic
import Mathlib.Algebra.Order.Ring.Nat
import Mathlib.Data.List.Sort

namespace YakShed

/-! ## Text rules -/

/-- Code points with the Unicode `White_Space` property, which `str::trim`
removes from both ends. -/
def isWhitespace (c : Char) : Bool :=
  (9 ≤ c.toNat && c.toNat ≤ 13) || c.toNat == 0x20 || c.toNat == 0x85 || c.toNat == 0xA0 ||
    c.toNat == 0x1680 || (0x2000 ≤ c.toNat && c.toNat ≤ 0x200A) || c.toNat == 0x2028 ||
    c.toNat == 0x2029 || c.toNat == 0x202F || c.toNat == 0x205F || c.toNat == 0x3000

/-- Code points of the general category `Cc`, as `char::is_control` has it. -/
def isControl (c : Char) : Bool :=
  c.toNat < 0x20 || (0x7F ≤ c.toNat && c.toNat ≤ 0x9F)

/-- `value.trim().is_empty()`. -/
def trimIsEmpty (value : String) : Bool :=
  value.toList.all isWhitespace

/-- A violated domain value invariant. -/
structure ValidationError where
  message : String
  deriving DecidableEq, Repr

def requireNonempty (field value : String) : Except ValidationError Unit :=
  if trimIsEmpty value then .error ⟨field ++ " cannot be empty"⟩ else .ok ()

/-! ## Identifiers -/

/-- The version nibble is 7 and the variant is RFC 4122. -/
def isUuidV7 (bits : BitVec 128) : Bool :=
  bits.extractLsb' 76 4 == 7#4 && bits.extractLsb' 62 2 == 2#2

/-- A UUID as every identifier newtype holds it: all their constructors go
through `validate_uuid_v7` or `Uuid::now_v7`. -/
structure Uuid where
  bits : BitVec 128
  isV7 : isUuidV7 bits = true
  deriving DecidableEq, Repr

namespace Uuid

/-- The canonical text order of UUIDs is the numeric order of their bits. -/
instance : LE Uuid := ⟨fun first second => first.bits.toNat ≤ second.bits.toNat⟩

instance : LT Uuid := ⟨fun first second => first.bits.toNat < second.bits.toNat⟩

instance : DecidableLE Uuid := fun first second =>
  inferInstanceAs (Decidable (first.bits.toNat ≤ second.bits.toNat))

instance : DecidableLT Uuid := fun first second =>
  inferInstanceAs (Decidable (first.bits.toNat < second.bits.toNat))

def hexDigit (value : Nat) : Char :=
  if value < 10 then Char.ofNat (48 + value) else Char.ofNat (87 + value)

/-- The 32 hexadecimal digits, most significant first. -/
def hexDigits (id : Uuid) : List Char :=
  (List.range 32).map fun index => hexDigit (id.bits.toNat / 16 ^ (31 - index) % 16)

/-- Hyphenated lowercase text, as `Display` writes it. -/
def toText (id : Uuid) : String :=
  let digits := id.hexDigits
  String.ofList (digits.take 8 ++ '-' :: (digits.drop 8).take 4 ++ '-' :: (digits.drop 12).take 4 ++
    '-' :: (digits.drop 16).take 4 ++ '-' :: digits.drop 20)

theorem hexDigit_injOn {first second : Nat} (hfirst : first < 16) (hsecond : second < 16)
    (h : hexDigit first = hexDigit second) : first = second := by
  have htable : ∀ first < 16, ∀ second < 16, hexDigit first = hexDigit second →
      first = second := by
    decide
  exact htable first hfirst second hsecond h

/-- A number is determined by its digits. -/
theorem mod_pow_eq_of_digits {base first second : Nat} (count : Nat)
    (h : ∀ place < count, first / base ^ place % base = second / base ^ place % base) :
    first % base ^ count = second % base ^ count := by
  induction count with
  | zero => rw [pow_zero, Nat.mod_one, Nat.mod_one]
  | succ count ih =>
      have hlow := ih fun place hplace => h place (Nat.lt_succ_of_lt hplace)
      rw [pow_succ, Nat.mod_mul, Nat.mod_mul, hlow, h count (Nat.lt_succ_self count)]

theorem hexDigits_injective {first second : Uuid} (h : first.hexDigits = second.hexDigits) :
    first = second := by
  have hdigit : ∀ place < 32, first.bits.toNat / 16 ^ place % 16 =
      second.bits.toNat / 16 ^ place % 16 := by
    intro place hplace
    have hat := congrArg (·[31 - place]?) h
    have hindex : 31 - place < 32 := by omega
    simp only [hexDigits, List.getElem?_map, List.getElem?_range hindex, Option.map_some,
      Option.some.injEq] at hat
    have hback : 31 - (31 - place) = place := by omega
    rw [hback] at hat
    exact hexDigit_injOn (Nat.mod_lt _ (by decide)) (Nat.mod_lt _ (by decide)) hat
  have hbits : first.bits.toNat = second.bits.toNat := by
    have hmod := mod_pow_eq_of_digits 32 hdigit
    have hpow : 16 ^ 32 = 2 ^ 128 := by decide
    rw [hpow, Nat.mod_eq_of_lt first.bits.isLt, Nat.mod_eq_of_lt second.bits.isLt] at hmod
    exact hmod
  obtain ⟨bits, isV7⟩ := first
  obtain rfl := BitVec.eq_of_toNat_eq hbits
  rfl

@[simp] theorem length_hexDigits (id : Uuid) : id.hexDigits.length = 32 := by
  rw [hexDigits, List.length_map, List.length_range]

/-- No two identifiers are written the same. -/
theorem toText_injective : Function.Injective toText := by
  intro first second h
  have hchars := String.ofList_injective h
  simp only [List.append_assoc, List.cons_append] at hchars
  obtain ⟨hfirst, hchars⟩ := List.append_inj hchars (by simp)
  obtain ⟨hsecond, hchars⟩ := List.append_inj (List.tail_eq_of_cons_eq hchars) (by simp)
  obtain ⟨hthird, hchars⟩ := List.append_inj (List.tail_eq_of_cons_eq hchars) (by simp)
  obtain ⟨hfourth, hchars⟩ := List.append_inj (List.tail_eq_of_cons_eq hchars) (by simp)
  have hfifth := List.tail_eq_of_cons_eq hchars
  have hjoin : ∀ digits : List Char, digits = digits.take 8 ++ ((digits.drop 8).take 4 ++
      ((digits.drop 12).take 4 ++ ((digits.drop 16).take 4 ++ digits.drop 20))) := by
    intro digits
    have hblock : ∀ place, (digits.drop place).take 4 ++ digits.drop (place + 4) =
        digits.drop place := by
      intro place
      rw [← List.drop_drop, List.take_append_drop]
    rw [hblock 16, hblock 12, hblock 8, List.take_append_drop]
  apply hexDigits_injective
  rw [hjoin first.hexDigits, hfirst, hsecond, hthird, hfourth, hfifth, ← hjoin]

end Uuid

structure ProjectId where
  uuid : Uuid
  deriving DecidableEq, Repr

structure WorkItemId where
  uuid : Uuid
  deriving DecidableEq, Repr

structure ConnectionId where
  uuid : Uuid
  deriving DecidableEq, Repr

structure RunId where
  uuid : Uuid
  deriving DecidableEq, Repr

structure TimelineBatchId where
  uuid : Uuid
  deriving DecidableEq, Repr

structure TimelineItemId where
  uuid : Uuid
  deriving DecidableEq, Repr

structure ApprovalRequestId where
  uuid : Uuid
  deriving DecidableEq, Repr

structure AuditEventId where
  uuid : Uuid
  deriving DecidableEq, Repr

/-- A UTC instant as Unix epoch milliseconds. -/
structure UtcTimestamp where
  unixMillis : Int
  deriving DecidableEq, Repr

/-! ## Provider-owned names -/

/-- The checks of `NamespacedProviderId::new` in the order it makes them. -/
def checkNamespacedProviderId (ns value : String) : Except ValidationError Unit := do
  requireNonempty "provider namespace" ns
  requireNonempty "provider id" value
  if 128 < ns.utf8ByteSize || ns.toList.any isControl then
    throw ⟨"invalid provider namespace"⟩
  if 4096 < value.utf8ByteSize || value.toList.any isControl then
    throw ⟨"invalid provider id"⟩

/-- An opaque provider-owned identifier paired with its namespace. -/
structure NamespacedProviderId where
  ns : String
  value : String
  accepted : checkNamespacedProviderId ns value = .ok ()

namespace NamespacedProviderId

instance : DecidableEq NamespacedProviderId
  | ⟨ns, value, _⟩, ⟨ns', value', _⟩ =>
    decidable_of_iff (ns = ns' ∧ value = value') (by simp)

def new (ns value : String) : Except ValidationError NamespacedProviderId :=
  match h : checkNamespacedProviderId ns value with
  | .ok () => .ok ⟨ns, value, h⟩
  | .error error => .error error

theorem new_of_accepted {ns value : String} (h : checkNamespacedProviderId ns value = .ok ()) :
    new ns value = .ok ⟨ns, value, h⟩ := by
  unfold new
  split
  · rfl
  · simp_all

end NamespacedProviderId

def requireProviderComponent (field value : String) (maxLen : Nat)
    : Except ValidationError Unit := do
  requireNonempty field value
  if maxLen < value.utf8ByteSize || value.toList.any isControl then
    throw ⟨"invalid " ++ field⟩

/-- The checks of `ProviderRunIdentity::new` in the order it makes them. -/
def checkProviderRunIdentity (ns runtimeId sessionId runId : String) :
    Except ValidationError Unit := do
  requireProviderComponent "provider namespace" ns 128
  requireProviderComponent "provider runtime id" runtimeId 4096
  requireProviderComponent "provider session id" sessionId 4096
  requireProviderComponent "provider run id" runId 4096

/-- The lossless provider-owned identity of one run across runtime and session
scopes. -/
structure ProviderRunIdentity where
  ns : String
  runtimeId : String
  sessionId : String
  runId : String
  accepted : checkProviderRunIdentity ns runtimeId sessionId runId = .ok ()

namespace ProviderRunIdentity

instance : DecidableEq ProviderRunIdentity
  | ⟨ns, runtimeId, sessionId, runId, _⟩, ⟨ns', runtimeId', sessionId', runId', _⟩ =>
    decidable_of_iff (ns = ns' ∧ runtimeId = runtimeId' ∧ sessionId = sessionId' ∧ runId = runId')
      (by simp)

def new (ns runtimeId sessionId runId : String) : Except ValidationError ProviderRunIdentity :=
  match h : checkProviderRunIdentity ns runtimeId sessionId runId with
  | .ok () => .ok ⟨ns, runtimeId, sessionId, runId, h⟩
  | .error error => .error error

theorem new_of_accepted {ns runtimeId sessionId runId : String}
    (h : checkProviderRunIdentity ns runtimeId sessionId runId = .ok ()) :
    new ns runtimeId sessionId runId = .ok ⟨ns, runtimeId, sessionId, runId, h⟩ := by
  unfold new
  split
  · rfl
  · next error herror =>
      rw [h] at herror
      cases herror

end ProviderRunIdentity

end YakShed
