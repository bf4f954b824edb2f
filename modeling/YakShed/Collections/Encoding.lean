/-
# Self-delimiting encodings

An encoding whose values can be read off the front of a longer string in one way
only. Such encodings compose: what is written one after the other, under a tag, or
with a count in front can again be read in one way only, so that a whole message
determines what was written into it.
-/

import Mathlib.Data.List.Basic

namespace Encoding

variable {α β σ : Type}

/-- Where two encodings of allowed values are followed by anything at all, the values
and what follows them agree. -/
def SelfDelimiting (allowed : α → Prop) (encode : α → List σ) : Prop :=
  ∀ first second rest rest', allowed first → allowed second →
    encode first ++ rest = encode second ++ rest' → first = second ∧ rest = rest'

/-- A value that may be missing, with a tag that tells whether it is. -/
def tagged (present absent : σ) (encode : α → List σ) : Option α → List σ
  | some value => [present] ++ encode value
  | none => [absent]

namespace SelfDelimiting

variable {allowed : α → Prop} {encode : α → List σ}

/-- Nothing has to follow. -/
theorem injective (h : SelfDelimiting allowed encode) {first second : α} (hfirst : allowed first)
    (hsecond : allowed second) (heq : encode first = encode second) : first = second :=
  (h first second [] [] hfirst hsecond (congrArg (· ++ []) heq)).1

/-- Encodings of one width are delimited by it. -/
theorem ofWidth {width : Nat} (hwidth : ∀ value, (encode value).length = width)
    (hinjective : ∀ first second, allowed first → allowed second → encode first = encode second →
      first = second) : SelfDelimiting allowed encode := by
  intro first second rest rest' hfirst hsecond heq
  have hlength : (encode first).length = (encode second).length :=
    (hwidth first).trans (hwidth second).symm
  obtain ⟨hencoded, hrest⟩ := List.append_inj heq hlength
  exact ⟨hinjective first second hfirst hsecond hencoded, hrest⟩

/-- A value of another type is written as one that represents it. -/
theorem comap (h : SelfDelimiting allowed encode) (represent : β → α) {allowed' : β → Prop}
    (hallowed : ∀ value, allowed' value → allowed (represent value))
    (hinjective : Function.Injective represent) :
    SelfDelimiting allowed' fun value => encode (represent value) := by
  intro first second rest rest' hfirst hsecond heq
  have hread := h _ _ rest rest' (hallowed first hfirst) (hallowed second hsecond) heq
  exact ⟨hinjective hread.1, hread.2⟩

/-- Two values, one after the other. -/
theorem pair (h : SelfDelimiting allowed encode) {allowed' : β → Prop} {encode' : β → List σ}
    (h' : SelfDelimiting allowed' encode') :
    SelfDelimiting (fun both : α × β => allowed both.1 ∧ allowed' both.2)
      fun both => encode both.1 ++ encode' both.2 := by
  rintro ⟨first, first'⟩ ⟨second, second'⟩ rest rest' hfirst hsecond heq
  rw [List.append_assoc, List.append_assoc] at heq
  obtain ⟨rfl, heq'⟩ := h _ _ _ _ hfirst.1 hsecond.1 heq
  obtain ⟨rfl, hrest⟩ := h' _ _ _ _ hfirst.2 hsecond.2 heq'
  exact ⟨rfl, hrest⟩

/-- A value that may be missing, under a tag. -/
theorem tagged (h : SelfDelimiting allowed encode) {present absent : σ} (htag : present ≠ absent) :
    SelfDelimiting (fun value : Option α => ∀ found, value = some found → allowed found)
      (Encoding.tagged present absent encode) := by
  intro first second rest rest' hfirst hsecond heq
  cases first with
  | none =>
      cases second with
      | none => exact ⟨rfl, List.append_cancel_left heq⟩
      | some found => exact absurd (List.cons.inj heq).1.symm htag
  | some found =>
      cases second with
      | none => exact absurd (List.cons.inj heq).1 htag
      | some found' =>
          obtain ⟨rfl, hrest⟩ := h found found' rest rest' (hfirst found rfl) (hsecond found' rfl)
            (List.cons.inj heq).2
          exact ⟨rfl, hrest⟩

/-- As many values as are expected. -/
theorem flatMap (h : SelfDelimiting allowed encode) {values values' : List α} {rest rest' : List σ}
    (hcount : values.length = values'.length) (hvalues : ∀ value ∈ values, allowed value)
    (hvalues' : ∀ value ∈ values', allowed value)
    (heq : values.flatMap encode ++ rest = values'.flatMap encode ++ rest') :
    values = values' ∧ rest = rest' := by
  induction values generalizing values' with
  | nil =>
      cases values' with
      | nil => exact ⟨rfl, heq⟩
      | cons value' tail' => cases hcount
  | cons value tail ih =>
      cases values' with
      | nil => cases hcount
      | cons value' tail' =>
          rw [List.flatMap_cons, List.flatMap_cons, List.append_assoc, List.append_assoc] at heq
          obtain ⟨rfl, heq'⟩ := h value value' _ _ (hvalues value List.mem_cons_self)
            (hvalues' value' List.mem_cons_self) heq
          obtain ⟨rfl, hrest⟩ := ih (Nat.succ.inj hcount)
            (fun other hother => hvalues other (List.mem_cons_of_mem _ hother))
            (fun other hother => hvalues' other (List.mem_cons_of_mem _ hother)) heq'
          exact ⟨rfl, hrest⟩

/-- A list, with its length in front. -/
theorem counted (h : SelfDelimiting allowed encode) {counts : Nat → Prop}
    {encodeCount : Nat → List σ} (hcount : SelfDelimiting counts encodeCount) :
    SelfDelimiting (fun values : List α => counts values.length ∧ ∀ value ∈ values, allowed value)
      fun values => encodeCount values.length ++ values.flatMap encode := by
  intro values values' rest rest' hvalues hvalues' heq
  rw [List.append_assoc, List.append_assoc] at heq
  obtain ⟨hlength, heq'⟩ := hcount _ _ _ _ hvalues.1 hvalues'.1 heq
  exact h.flatMap hlength hvalues.2 hvalues'.2 heq'

end SelfDelimiting

end Encoding
