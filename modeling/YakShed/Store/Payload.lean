/-
# What a batch receipt identifies

The receipt of a batch keeps a hash of its items. The bytes that are hashed
determine the items: every variable length stands in front of what it counts, and
a tag tells whether there is a provider identity.
-/

import YakShed.Collections.Encoding
import YakShed.Store.Timeline

namespace YakShed

open Encoding (SelfDelimiting tagged)

/-- The lengths that a `u64` can hold. -/
def FitsU64 (length : Nat) : Prop := length < 256 ^ 8

/-! ## Primitive encodings -/

theorem selfDelimiting_toLeBytes : SelfDelimiting FitsU64 toLeBytes := by
  apply SelfDelimiting.ofWidth
  · intro value
    show ((List.range 8).map _).length = 8
    rw [List.length_map, List.length_range]
  intro first second hfirst hsecond heq
  have hdigit : ∀ place < 8, first / 256 ^ place % 256 = second / 256 ^ place % 256 := by
    intro place hplace
    have hat := congrArg (·[place]?) heq
    simp only [toLeBytes, List.getElem?_map, List.getElem?_range hplace, Option.map_some,
      Option.some.injEq] at hat
    have hbyte := congrArg UInt8.toNat hat
    rwa [UInt8.toNat_ofNat_of_lt' (Nat.mod_lt _ (by decide)),
      UInt8.toNat_ofNat_of_lt' (Nat.mod_lt _ (by decide))] at hbyte
  have hmod := Uuid.mod_pow_eq_of_digits 8 hdigit
  rwa [Nat.mod_eq_of_lt hfirst, Nat.mod_eq_of_lt hsecond] at hmod

theorem selfDelimiting_addBytes :
    SelfDelimiting (fun bytes : List UInt8 => FitsU64 bytes.length) addBytes := by
  have hbyte : SelfDelimiting (fun _ : UInt8 => True) fun byte => [byte] := by
    apply SelfDelimiting.ofWidth
    · intro byte
      rfl
    · intro first second _ _ heq
      exact (List.cons.inj heq).1
  have hcounted := hbyte.counted selfDelimiting_toLeBytes
  intro first second rest rest' hfirst hsecond heq
  apply hcounted first second rest rest' ⟨hfirst, fun _ _ => trivial⟩ ⟨hsecond, fun _ _ => trivial⟩
  show toLeBytes first.length ++ first.flatMap _ ++ rest =
    toLeBytes second.length ++ second.flatMap _ ++ rest'
  rwa [List.flatMap_singleton', List.flatMap_singleton']

theorem utf8Bytes_injective : Function.Injective utf8Bytes := by
  intro first second heq
  apply String.toByteArray_inj.mp
  apply ByteArray.ext
  exact Array.toList_inj.mp heq

theorem length_utf8Bytes (text : String) : (utf8Bytes text).length = text.utf8ByteSize := by
  show text.toByteArray.data.toList.length = _
  rw [Array.length_toList]
  exact String.size_toByteArray

/-- A text, with its length in bytes in front. -/
theorem selfDelimiting_text :
    SelfDelimiting (fun text : String => FitsU64 text.utf8ByteSize)
      fun text => addBytes (utf8Bytes text) := by
  apply selfDelimiting_addBytes.comap utf8Bytes _ utf8Bytes_injective
  intro text htext
  rwa [length_utf8Bytes]

/-! ## Items -/

/-- Every length in an item is one that a `u64` can hold. -/
structure NewTimelineItem.Bounded (item : NewTimelineItem) : Prop where
  kind : FitsU64 item.kind.utf8ByteSize
  body : FitsU64 item.body.utf8ByteSize
  provider : ∀ provider, item.providerId = some provider →
    FitsU64 provider.ns.utf8ByteSize ∧ FitsU64 provider.value.utf8ByteSize

def providerPayload (provider : NamespacedProviderId) : List UInt8 :=
  addBytes (utf8Bytes provider.ns) ++ addBytes (utf8Bytes provider.value)

theorem selfDelimiting_providerPayload :
    SelfDelimiting (fun provider : NamespacedProviderId =>
      FitsU64 provider.ns.utf8ByteSize ∧ FitsU64 provider.value.utf8ByteSize) providerPayload := by
  have hboth := selfDelimiting_text.pair selfDelimiting_text
  apply hboth.comap (fun provider : NamespacedProviderId => (provider.ns, provider.value))
  · intro provider hprovider
    exact hprovider
  · rintro ⟨ns, value, _⟩ ⟨ns', value', _⟩ heq
    cases heq
    rfl

theorem utf8ByteSize_ofList_le (chars : List Char) :
    (String.ofList chars).utf8ByteSize ≤ 4 * chars.length := by
  rw [← length_utf8Bytes]
  show (chars.flatMap String.utf8EncodeChar).toByteArray.data.toList.length ≤ _
  rw [List.data_toByteArray, List.toList_toArray]
  induction chars with
  | nil => exact Nat.le_refl 0
  | cons c rest ih =>
      have hc := c.utf8Size_le_four
      rw [List.flatMap_cons, List.length_append, String.length_utf8EncodeChar, List.length_cons]
      omega

theorem fitsU64_toText (id : Uuid) : FitsU64 id.toText.utf8ByteSize := by
  have hsize := utf8ByteSize_ofList_le id.toText.toList
  rw [String.ofList_toList] at hsize
  have hlength : id.toText.toList.length = 36 := by
    rw [Uuid.toText, String.toList_ofList]
    simp
  have hbound : 4 * 36 < 256 ^ 8 := by decide
  rw [hlength] at hsize
  exact Nat.lt_of_le_of_lt hsize hbound

theorem itemPayload_eq (item : NewTimelineItem) :
    itemPayload item = addBytes (utf8Bytes item.id.uuid.toText) ++
      (addBytes (utf8Bytes item.kind) ++
        (addBytes (utf8Bytes item.body) ++ tagged 1 0 providerPayload item.providerId)) := by
  unfold itemPayload
  cases item.providerId with
  | none => simp only [List.append_assoc, tagged]
  | some provider => simp only [List.append_assoc, tagged, providerPayload]

theorem selfDelimiting_itemPayload : SelfDelimiting NewTimelineItem.Bounded itemPayload := by
  have htag : (1 : UInt8) ≠ 0 := by decide
  have hfields := selfDelimiting_text.pair (selfDelimiting_text.pair (selfDelimiting_text.pair
    (selfDelimiting_providerPayload.tagged htag)))
  rw [funext itemPayload_eq]
  apply hfields.comap fun item : NewTimelineItem =>
    (item.id.uuid.toText, item.kind, item.body, item.providerId)
  · intro item hitem
    exact ⟨fitsU64_toText _, hitem.kind, hitem.body, hitem.provider⟩
  · rintro ⟨⟨id⟩, kind, body, provider⟩ ⟨⟨id'⟩, kind', body', provider'⟩ heq
    simp only [Prod.mk.injEq] at heq
    obtain ⟨hid, rfl, rfl, rfl⟩ := heq
    rw [Uuid.toText_injective hid]

/-- The bytes that are hashed determine the items, in their order. -/
theorem timelinePayload_injective {items items' : List NewTimelineItem}
    (hcount : FitsU64 items.length) (hitems : ∀ item ∈ items, item.Bounded)
    (hcount' : FitsU64 items'.length) (hitems' : ∀ item ∈ items', item.Bounded)
    (heq : timelinePayload items = timelinePayload items') : items = items' := by
  unfold timelinePayload at heq
  rw [List.append_assoc, List.append_assoc _ _ (items'.flatMap itemPayload)] at heq
  apply (selfDelimiting_itemPayload.counted selfDelimiting_toLeBytes).injective
    ⟨hcount, hitems⟩ ⟨hcount', hitems'⟩
  exact List.append_cancel_left heq

/-- A command with a provider identity. -/
def sampleCommand : NewTimelineItem where
  id := ⟨⟨BitVec.ofNat 128 (7 * 2 ^ 76 + 2 * 2 ^ 62 + 48), by decide⟩⟩
  kind := "command"
  body := ""
  providerId := some ⟨"mock", "1", by decide⟩

/-- A message that the provider did not name. -/
def sampleMessage (body : String) : NewTimelineItem where
  id := ⟨⟨BitVec.ofNat 128 (7 * 2 ^ 76 + 2 * 2 ^ 62 + 49), by decide⟩⟩
  kind := "message"
  body := body
  providerId := none

/-- The items of a batch, whose messages need several bytes for a character. -/
def sampleItems : List NewTimelineItem :=
  [sampleMessage "¿tests?", sampleCommand, sampleMessage ""]

theorem sampleItems_bounded : ∀ item ∈ sampleItems, item.Bounded := by
  have hmessage : ∀ body : String, FitsU64 body.utf8ByteSize → (sampleMessage body).Bounded := by
    intro body hbody
    exact ⟨(by decide : 7 < 256 ^ 8), hbody, fun provider hnone => by cases hnone⟩
  intro item hitem
  simp only [sampleItems, List.mem_cons, List.not_mem_nil, or_false] at hitem
  rcases hitem with rfl | rfl | rfl
  · exact hmessage _ (by decide : 8 < 256 ^ 8)
  · refine ⟨(by decide : 7 < 256 ^ 8), (by decide : 0 < 256 ^ 8), ?_⟩
    rintro provider ⟨⟩
    exact ⟨(by decide : 4 < 256 ^ 8), (by decide : 1 < 256 ^ 8)⟩
  · exact hmessage _ (by decide : 0 < 256 ^ 8)

/-- The batch has the bytes of no reordering, and those of one list of items. -/
theorem timelinePayload_injective_sample :
    [sampleMessage "¿tests?"] ++ [sampleCommand, sampleMessage ""] = sampleItems ∧
      timelinePayload sampleItems.reverse ≠ timelinePayload sampleItems := by
  have hcount : FitsU64 sampleItems.length := (by decide : 3 < 256 ^ 8)
  constructor
  · exact timelinePayload_injective hcount sampleItems_bounded hcount sampleItems_bounded rfl
  · intro heq
    have hsame : sampleItems.reverse = sampleItems := by
      apply timelinePayload_injective (by rwa [List.length_reverse]) _
        hcount sampleItems_bounded heq
      intro item hitem
      exact sampleItems_bounded item (List.mem_reverse.mp hitem)
    exact absurd hsame (by decide)

end YakShed
