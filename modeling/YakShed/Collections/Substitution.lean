/-
# Replacing a pattern in a list

`substitute` goes through a list from the left and puts a marker in the place
of every occurrence of a pattern, as a string's `replace` does. A marker that
shares no element with a word separates what it is put between: such a word
occurs in the result only where it occurred before, and the pattern itself,
when it is such a word, does not occur any more. A separator between joined
lists keeps such words apart in the same way.
-/

import Mathlib.Data.List.Infix

namespace List

variable {α : Type} [DecidableEq α]

/-- The scan of `substitute`, with the elements of the last match that are
still to be passed over. -/
def substituteFrom (pattern marker : List α) : Nat → List α → List α
  | _, [] => []
  | skip + 1, _ :: rest => substituteFrom pattern marker skip rest
  | 0, a :: rest =>
      if pattern <+: a :: rest then
        marker ++ substituteFrom pattern marker (pattern.length - 1) rest
      else a :: substituteFrom pattern marker 0 rest

/-- Replaces every occurrence of a pattern by a marker. The empty pattern occurs
before every element and at the end. -/
def substitute (pattern marker text : List α) : List α :=
  if pattern = [] then text.flatMap (fun a => marker ++ [a]) ++ marker
  else substituteFrom pattern marker 0 text

/-- No element of the word is one of the marker's. -/
def Avoids (word marker : List α) : Prop := ∀ a ∈ word, a ∉ marker

instance (word marker : List α) : Decidable (word.Avoids marker) :=
  inferInstanceAs (Decidable (∀ a ∈ word, a ∉ marker))

variable {pattern marker word text rest : List α}

omit [DecidableEq α] in
theorem Avoids.tail {a : α} (havoids : (a :: word).Avoids marker) : word.Avoids marker :=
  fun b hb => havoids b (mem_cons_of_mem a hb)

omit [DecidableEq α] in
/-- A word that avoids a marker does not begin inside one. -/
theorem Avoids.infix_of_append (havoids : word.Avoids marker) (hword : word ≠ [])
    (h : word <:+: marker ++ rest) : word <:+: rest := by
  induction marker with
  | nil => exact h
  | cons m marker ih =>
      rw [cons_append, infix_cons_iff] at h
      rcases h with hprefix | hinfix
      · obtain ⟨a, word', rfl⟩ := exists_cons_of_ne_nil hword
        have heq : a = m := (cons_prefix_cons.mp hprefix).1
        exact absurd (heq ▸ mem_cons_self) (havoids a mem_cons_self)
      · have havoids' : word.Avoids marker :=
          fun a ha hmem => havoids a ha (mem_cons_of_mem m hmem)
        exact ih havoids' hinfix

/-- What the result begins with, as long as it is no marker, the text begins with. -/
theorem prefix_of_prefix_substituteFrom (hmarker : marker ≠ []) (havoids : word.Avoids marker)
    (h : word <+: substituteFrom pattern marker 0 text) : word <+: text := by
  induction text generalizing word with
  | nil => exact h
  | cons a text ih =>
      cases word with
      | nil => exact nil_prefix
      | cons b word =>
          unfold substituteFrom at h
          split at h
          · obtain ⟨m, marker', rfl⟩ := exists_cons_of_ne_nil hmarker
            have heq : b = m := (cons_prefix_cons.mp h).1
            exact absurd (heq ▸ mem_cons_self) (havoids b mem_cons_self)
          · obtain ⟨rfl, hrest⟩ := cons_prefix_cons.mp h
            exact cons_prefix_cons.mpr ⟨rfl, ih havoids.tail hrest⟩

theorem infix_of_infix_substituteFrom (hmarker : marker ≠ []) (hword : word ≠ [])
    (havoids : word.Avoids marker) {skip : Nat}
    (h : word <:+: substituteFrom pattern marker skip text) : word <:+: text := by
  induction text generalizing skip with
  | nil => exact h
  | cons a text ih =>
      cases skip with
      | succ skip => exact (ih h).trans (suffix_cons a text).isInfix
      | zero =>
          unfold substituteFrom at h
          split at h
          · exact (ih (havoids.infix_of_append hword h)).trans (suffix_cons a text).isInfix
          · rcases infix_cons_iff.mp h with hprefix | hinfix
            · obtain ⟨b, word, rfl⟩ := exists_cons_of_ne_nil hword
              obtain ⟨rfl, hrest⟩ := cons_prefix_cons.mp hprefix
              have hrest := prefix_of_prefix_substituteFrom hmarker havoids.tail hrest
              exact (cons_prefix_cons.mpr ⟨rfl, hrest⟩).isInfix
            · exact (ih hinfix).trans (suffix_cons a text).isInfix

theorem not_infix_substituteFrom (hmarker : marker ≠ []) (hpattern : pattern ≠ [])
    (havoids : pattern.Avoids marker) {skip : Nat} :
    ¬ pattern <:+: substituteFrom pattern marker skip text := by
  induction text generalizing skip with
  | nil =>
      intro h
      exact hpattern (infix_nil.mp h)
  | cons a text ih =>
      cases skip with
      | succ skip => exact ih
      | zero =>
          intro h
          unfold substituteFrom at h
          split at h
          · exact ih (havoids.infix_of_append hpattern h)
          · next hmiss =>
            rcases infix_cons_iff.mp h with hprefix | hinfix
            · obtain ⟨b, word, rfl⟩ := exists_cons_of_ne_nil hpattern
              obtain ⟨rfl, hrest⟩ := cons_prefix_cons.mp hprefix
              have hrest := prefix_of_prefix_substituteFrom hmarker havoids.tail hrest
              exact hmiss (cons_prefix_cons.mpr ⟨rfl, hrest⟩)
            · exact ih hinfix

/-- Replacing a pattern does not make a word occur that avoids the marker. -/
theorem infix_of_infix_substitute (hpattern : pattern ≠ []) (hmarker : marker ≠ [])
    (hword : word ≠ []) (havoids : word.Avoids marker)
    (h : word <:+: substitute pattern marker text) : word <:+: text := by
  unfold substitute at h
  rw [if_neg hpattern] at h
  exact infix_of_infix_substituteFrom hmarker hword havoids h

/-- A pattern that avoids the marker does not occur where it was replaced. -/
theorem not_infix_substitute (hpattern : pattern ≠ []) (hmarker : marker ≠ [])
    (havoids : pattern.Avoids marker) : ¬ pattern <:+: substitute pattern marker text := by
  unfold substitute
  rw [if_neg hpattern]
  exact not_infix_substituteFrom hmarker hpattern havoids

/-- What the result begins with, as long as it is no marker, the text begins with. -/
theorem prefix_of_prefix_substitute (hpattern : pattern ≠ []) (hmarker : marker ≠ [])
    (havoids : word.Avoids marker) (h : word <+: substitute pattern marker text) :
    word <+: text := by
  unfold substitute at h
  rw [if_neg hpattern] at h
  exact prefix_of_prefix_substituteFrom hmarker havoids h

/-! ## Separators -/

omit [DecidableEq α] in
theorem Avoids.prefix_of_append (havoids : word.Avoids marker) (hmarker : marker ≠ [])
    (h : word <+: text ++ (marker ++ rest)) : word <+: text := by
  induction text generalizing word with
  | nil =>
      cases word with
      | nil => exact nil_prefix
      | cons b word =>
          obtain ⟨m, marker', rfl⟩ := exists_cons_of_ne_nil hmarker
          have heq : b = m := (cons_prefix_cons.mp h).1
          exact absurd (heq ▸ mem_cons_self) (havoids b mem_cons_self)
  | cons a text ih =>
      cases word with
      | nil => exact nil_prefix
      | cons b word =>
          obtain ⟨rfl, hrest⟩ := cons_prefix_cons.mp h
          exact cons_prefix_cons.mpr ⟨rfl, ih havoids.tail hrest⟩

omit [DecidableEq α] in
/-- A word that avoids a separator lies on one side of it. -/
theorem Avoids.infix_or_infix (havoids : word.Avoids marker) (hmarker : marker ≠ [])
    (hword : word ≠ []) (h : word <:+: text ++ (marker ++ rest)) :
    word <:+: text ∨ word <:+: rest := by
  induction text with
  | nil => exact .inr (havoids.infix_of_append hword h)
  | cons a text ih =>
      rcases infix_cons_iff.mp h with hprefix | hinfix
      · have hprefix : word <+: (a :: text) ++ (marker ++ rest) := hprefix
        exact .inl (havoids.prefix_of_append hmarker hprefix).isInfix
      · rcases ih hinfix with htext | hrest
        · exact .inl (htext.trans (suffix_cons a text).isInfix)
        · exact .inr hrest

omit [DecidableEq α] in
/-- A word that avoids the separator occurs in one of the lists that are joined. -/
theorem Avoids.infix_of_intercalate {texts : List (List α)} (havoids : word.Avoids marker)
    (hmarker : marker ≠ []) (hword : word ≠ []) (h : word <:+: marker.intercalate texts) :
    ∃ text ∈ texts, word <:+: text := by
  induction texts with
  | nil => exact absurd (infix_nil.mp h) hword
  | cons text rest ih =>
      cases rest with
      | nil =>
          rw [intercalate_singleton] at h
          exact ⟨text, mem_cons_self, h⟩
      | cons other rest =>
          rw [intercalate_cons_cons, append_assoc] at h
          rcases havoids.infix_or_infix hmarker hword h with htext | hrest
          · exact ⟨text, mem_cons_self, htext⟩
          · obtain ⟨found, hmem, hfound⟩ := ih hrest
            exact ⟨found, mem_cons_of_mem text hmem, hfound⟩

end List
