/-
**`str.lower`.**

ASCII letters are lowered by their code. What every other character is lowered to is a table of Unicode,
which may look at the characters around it (a final sigma does).

* `Lowering`: such a table. Two characters outside ASCII lower to ASCII letters, the Kelvin sign and the
  dotted capital I; every other one stays outside;
* `Lowering.lower`: the lower case of a text;
* `exists_spelling`: a word of ASCII characters in it, without a `k` and without an `i` at its end, is spelt
  by ASCII characters.
-/

import Mathlib.Data.List.Basic
import Mathlib.Data.List.Infix

namespace CosMonitor

/-- The Kelvin sign, whose lower case is `k`. -/
def kelvinSign : Char := '\u212a'

/-- The dotted capital I, whose lower case is `i` with a combining dot. -/
def dottedI : Char := '\u0130'

/-- The combining dot above. -/
def combiningDot : Char := '\u0307'

/-- The lower case of the characters outside ASCII, given what stands before and after them. -/
structure Lowering where
  other : List Char → Char → List Char → List Char
  kelvin : ∀ before after, other before kelvinSign after = ['k']
  dotted : ∀ before after, other before dottedI after = ['i', combiningDot]
  beyond : ∀ before character after, 128 ≤ character.toNat → character ≠ kelvinSign →
    character ≠ dottedI → other before character after ≠ [] ∧
      ∀ lowered ∈ other before character after, 128 ≤ lowered.toNat

namespace Lowering

/-- A table that leaves every other character as it is. -/
def plain : Lowering where
  other := fun _ character _ =>
    if character = kelvinSign then ['k']
    else if character = dottedI then ['i', combiningDot]
    else [character]
  kelvin := fun _ _ => rfl
  dotted := fun _ _ => rfl
  beyond := by
    intro _ character _ outside notKelvin notDotted
    rw [if_neg notKelvin, if_neg notDotted]
    exact ⟨List.cons_ne_nil _ _, List.forall_mem_singleton.mpr outside⟩

variable (lowering : Lowering)

/-- The lower case of a character, given what stands around it. -/
def character (before : List Char) (character : Char) (after : List Char) : List Char :=
  if character.toNat < 128 then [character.toLower] else lowering.other before character after

/-- The lower case of a part of a text, given the rest. -/
def within (before after : List Char) : List Char → List Char
  | [] => []
  | first :: rest =>
      lowering.character before first (rest ++ after) ++ within (before ++ [first]) after rest

/-- `text.lower()`. -/
def lower (text : List Char) : List Char :=
  lowering.within [] [] text

variable {lowering} {before after : List Char}

theorem within_append (first second : List Char) :
    lowering.within before after (first ++ second) =
      lowering.within before (second ++ after) first ++ lowering.within (before ++ first) after second := by
  induction first generalizing before with
  | nil => simp [within]
  | cons character rest ih =>
      rw [List.cons_append, within, within, ih, List.append_assoc, List.append_assoc, List.append_assoc]
      rfl

theorem within_ascii {text : List Char} (ascii : ∀ character ∈ text, character.toNat < 128) :
    lowering.within before after text = text.map Char.toLower := by
  induction text generalizing before with
  | nil => rfl
  | cons first rest ih =>
      obtain ⟨isAscii, others⟩ := List.forall_mem_cons.mp ascii
      rw [within, ih others, character, if_pos isAscii]
      rfl

theorem ascii_infix {part text : List Char} (ascii : ∀ character ∈ part, character.toNat < 128)
    (occurs : part <:+: text) : part.map Char.toLower <:+: lowering.lower text := by
  obtain ⟨front, back, rfl⟩ := occurs
  unfold lower
  rw [within_append, within_append, within_ascii ascii]
  exact List.infix_append _ _ _

/-! ### Words of the lower case -/

theorem forall_ascii {holds : Char → Prop} (all : ∀ code < 128, holds (Char.ofNat code)) {character : Char}
    (ascii : character.toNat < 128) : holds character := by
  rw [← Char.ofNat_toNat character]
  exact all _ ascii

theorem toLower_ascii {character : Char} (ascii : character.toNat < 128) :
    character.toLower.toNat < 128 ∧ character.toLower.toLower = character.toLower :=
  @forall_ascii (fun character => character.toLower.toNat < 128 ∧
    character.toLower.toLower = character.toLower) (by decide) character ascii

/-- **ASCII characters of a lower case** do not change any more. -/
theorem lower_fixed {text : List Char} {lowered : Char} (member : lowered ∈ lowering.within before after text)
    (ascii : lowered.toNat < 128) : lowered.toLower = lowered := by
  induction text generalizing before with
  | nil => cases member
  | cons first rest ih =>
      rw [within, List.mem_append] at member
      rcases member with here | later
      · unfold character at here
        split at here
        · rename_i isAscii
          obtain rfl := List.mem_singleton.mp here
          exact (toLower_ascii isAscii).2
        · rename_i outside
          by_cases isKelvin : first = kelvinSign
          · rw [isKelvin, lowering.kelvin] at here
            obtain rfl := List.mem_singleton.mp here
            decide
          · by_cases isDotted : first = dottedI
            · rw [isDotted, lowering.dotted] at here
              rcases List.mem_pair.mp here with rfl | rfl
              · decide
              · decide
            · have high := (lowering.beyond before first (rest ++ after) (not_lt.mp outside) isKelvin
                isDotted).2 lowered here
              omega
      · exact ih later

theorem spelling_head {first wanted : Char} {rest word : List Char}
    (ascii : ∀ character ∈ wanted :: word, character.toNat < 128) (noKelvin : wanted ≠ 'k')
    (noDotted : (wanted :: word).getLast? ≠ some 'i')
    (occurs : wanted :: word <+: lowering.within before after (first :: rest)) :
    first.toNat < 128 ∧ first.toLower = wanted ∧
      word <+: lowering.within (before ++ [first]) after rest := by
  obtain ⟨isAscii, others⟩ := List.forall_mem_cons.mp ascii
  rw [within, character] at occurs
  split at occurs
  · rename_i small
    rw [List.singleton_append, List.cons_prefix_cons] at occurs
    exact ⟨small, occurs.1.symm, occurs.2⟩
  · rename_i outside
    exfalso
    by_cases isKelvin : first = kelvinSign
    · rw [isKelvin, lowering.kelvin, List.singleton_append, List.cons_prefix_cons] at occurs
      exact noKelvin occurs.1
    · by_cases isDotted : first = dottedI
      · rw [isDotted, lowering.dotted, List.cons_append, List.cons_prefix_cons] at occurs
        obtain ⟨rfl, occurs⟩ := occurs
        cases word with
        | nil => exact noDotted rfl
        | cons next word =>
            rw [List.singleton_append, List.cons_prefix_cons] at occurs
            have high := others next List.mem_cons_self
            rw [occurs.1] at high
            exact absurd high (by decide)
      · obtain ⟨some, high⟩ := lowering.beyond before first (rest ++ after) (not_lt.mp outside) isKelvin
          isDotted
        cases made : lowering.other before first (rest ++ after) with
        | nil => exact some made
        | cons lowered more =>
            rw [made, List.cons_append, List.cons_prefix_cons] at occurs
            have beyond := high lowered (by rw [made]; exact List.mem_cons_self)
            rw [← occurs.1] at beyond
            omega

theorem exists_spelling_prefix {word text : List Char} (ascii : ∀ character ∈ word, character.toNat < 128)
    (noKelvin : 'k' ∉ word) (noDotted : word.getLast? ≠ some 'i')
    (occurs : word <+: lowering.within before after text) :
    ∃ spelt, spelt <+: text ∧ (∀ character ∈ spelt, character.toNat < 128) ∧
      spelt.map Char.toLower = word := by
  induction word generalizing before text with
  | nil => exact ⟨[], List.nil_prefix, fun _ absent => (nomatch absent), rfl⟩
  | cons wanted word ih =>
      cases text with
      | nil => cases List.prefix_nil.mp occurs
      | cons first rest =>
          obtain ⟨isAscii, others⟩ := List.forall_mem_cons.mp ascii
          rw [List.mem_cons, not_or] at noKelvin
          obtain ⟨small, same, occursRest⟩ :=
            spelling_head ascii (Ne.symm noKelvin.1) noDotted occurs
          have noDottedRest : word.getLast? ≠ some 'i' := by
            cases word with
            | nil => exact fun impossible => (nomatch impossible)
            | cons next word => rwa [List.getLast?_cons_cons] at noDotted
          obtain ⟨spelt, front, speltAscii, lowered⟩ :=
            ih others noKelvin.2 noDottedRest occursRest
          exact ⟨first :: spelt, List.cons_prefix_cons.mpr ⟨rfl, front⟩,
            List.forall_mem_cons.mpr ⟨small, speltAscii⟩, by rw [List.map_cons, same, lowered]⟩

/-- **A word of a lower case is spelt in the text**, where it has no `k` and does not end with `i`. -/
theorem exists_spelling {word text : List Char} (ascii : ∀ character ∈ word, character.toNat < 128)
    (noKelvin : 'k' ∉ word) (noDotted : word.getLast? ≠ some 'i')
    (occurs : word <:+: lowering.within before after text) :
    ∃ spelt, spelt <:+: text ∧ (∀ character ∈ spelt, character.toNat < 128) ∧
      spelt.map Char.toLower = word := by
  induction text generalizing before with
  | nil =>
      rw [within, List.infix_nil] at occurs
      exact ⟨[], List.nil_infix, fun _ absent => (nomatch absent), occurs.symm⟩
  | cons first rest ih =>
      cases word with
      | nil => exact ⟨[], List.nil_infix, fun _ absent => (nomatch absent), rfl⟩
      | cons wanted word =>
          -- It begins with the lower case of the first character, inside it, or after it.
          by_cases atFront : wanted :: word <+: lowering.within before after (first :: rest)
          · obtain ⟨spelt, front, speltAscii, lowered⟩ :=
              exists_spelling_prefix ascii noKelvin noDotted atFront
            exact ⟨spelt, front.isInfix, speltAscii, lowered⟩
          have later : wanted :: word <:+: lowering.within (before ++ [first]) after rest := by
            obtain ⟨isAscii, others⟩ := List.forall_mem_cons.mp ascii
            rw [within, character] at occurs atFront
            split at occurs
            · rename_i small
              rw [if_pos small] at atFront
              rw [List.singleton_append, List.infix_cons_iff] at occurs
              exact occurs.resolve_left (by rwa [List.singleton_append] at atFront)
            · rename_i outside
              rw [if_neg outside] at atFront
              have noneInside : ∀ lowered ∈ (lowering.other before first (rest ++ after)).tail,
                  128 ≤ lowered.toNat := by
                intro lowered member
                by_cases isKelvin : first = kelvinSign
                · rw [isKelvin, lowering.kelvin] at member
                  cases member
                · by_cases isDotted : first = dottedI
                  · rw [isDotted, lowering.dotted] at member
                    obtain rfl := List.mem_singleton.mp member
                    decide
                  · exact (lowering.beyond before first (rest ++ after) (not_lt.mp outside) isKelvin
                      isDotted).2 lowered (List.mem_of_mem_tail member)
              -- Inside the lower case of one character only its first is an ASCII character.
              have skip : ∀ {inside : List Char}, (∀ lowered ∈ inside, 128 ≤ lowered.toNat) →
                  wanted :: word <:+: inside ++ lowering.within (before ++ [first]) after rest →
                  wanted :: word <:+: lowering.within (before ++ [first]) after rest := by
                intro inside high occurs
                induction inside with
                | nil => exact occurs
                | cons lowered more ihInside =>
                    obtain ⟨isHigh, othersHigh⟩ := List.forall_mem_cons.mp high
                    rw [List.cons_append, List.infix_cons_iff] at occurs
                    rcases occurs with here | there
                    · rw [List.cons_prefix_cons] at here
                      rw [here.1] at isAscii
                      omega
                    · exact ihInside othersHigh there
              cases made : lowering.other before first (rest ++ after) with
              | nil =>
                  rw [made] at occurs
                  exact occurs
              | cons lowered more =>
                  rw [made] at occurs atFront noneInside
                  rw [List.cons_append, List.infix_cons_iff] at occurs
                  exact skip noneInside (occurs.resolve_left atFront)
          obtain ⟨spelt, inside, speltAscii, lowered⟩ := ih later
          exact ⟨spelt, inside.trans (List.suffix_cons first rest).isInfix, speltAscii, lowered⟩

end Lowering

end CosMonitor
