/-
**Which predictions the matcher finds in every evidence that contains them.**

* `Legible`: a prediction that stays readable when JSON escapes it: printable ASCII characters, special ones
  at its ends only, no `k` and no `i` at its end (which characters outside ASCII can be lowered to);
* `legible_found`: evidence that contains a legible prediction matches it;
* `FoundEverywhere.survives`, `FoundEverywhere.noKelvin`, `FoundEverywhere.noDotted`: any other prediction,
  up to one, is missed by evidence of one key that contains it;
* `prediction_found_iff`: both together, and what becomes of predictions with other characters: no evidence
  at all matches them (`illegible_missed`). Every prediction of the hypothesis templates is such a prediction
  (`templates_illegible`).
-/

import CosMonitor.Reasoning.PredictionMatcher

namespace CosMonitor

/-! ### Legible predictions -/

section Legible

/-- A lower-case prediction that stays readable when JSON escapes it. -/
structure Legible (phrase : List Char) : Prop where
  printable : ∀ character ∈ phrase, CosMonitor.printable character = true
  survives : Escaping.Survives '\\' specialChar phrase
  noKelvin : 'k' ∉ phrase
  noDotted : phrase.getLast? ≠ some 'i'

/-- How every object that is not empty begins. -/
def objectOpening : List Char := ['\x7b', '"']

variable {std : Stdlib} {lowering : Lowering} {evidence : List (String × Json)} {prediction : String}

theorem toLower_printable {character : Char} (isPrintable : printable character = true) :
    printable character.toLower = true ∧
      (Escaping.escapeSymbol '\\' specialChar character).map Char.toLower =
        Escaping.escapeSymbol '\\' specialChar character.toLower :=
  @Lowering.forall_ascii (fun character => printable character = true →
    printable character.toLower = true ∧
      (Escaping.escapeSymbol '\\' specialChar character).map Char.toLower =
        Escaping.escapeSymbol '\\' specialChar character.toLower) (by decide +kernel) character
    (printable_ascii isPrintable) isPrintable

theorem printable_of_toLower {character : Char} (ascii : character.toNat < 128)
    (isPrintable : printable character.toLower = true) : printable character = true :=
  @Lowering.forall_ascii (fun character => printable character.toLower = true →
    printable character = true) (by decide +kernel) character ascii isPrintable

theorem lower_escape {text : List Char} (isPrintable : ∀ character ∈ text, printable character = true) :
    (Escaping.escape '\\' specialChar text).map Char.toLower =
      Escaping.escape '\\' specialChar (text.map Char.toLower) := by
  induction text with
  | nil => rfl
  | cons character rest ih =>
      obtain ⟨here, others⟩ := List.forall_mem_cons.mp isPrintable
      rw [Escaping.escape_cons, List.map_append, ih others, (toLower_printable here).2]
      rfl

/-- **Evidence that contains a legible prediction matches it.** The prediction is spelt by ASCII characters
of some string, and survives the escapes around them. -/
theorem legible_found (legible : Legible (lowering.lower prediction.toList))
    (mentioned : Mentioned lowering evidence prediction) :
    evidenceMatchesPrediction std lowering evidence prediction = true := by
  obtain ⟨text, inside, occurs⟩ := mentioned
  have ascii : ∀ character ∈ lowering.lower prediction.toList, character.toNat < 128 :=
    fun character member => printable_ascii (legible.printable character member)
  obtain ⟨spelt, ⟨front, back, whole⟩, speltAscii, lowered⟩ :=
    Lowering.exists_spelling ascii legible.noKelvin legible.noDotted occurs
  have speltPrintable : ∀ character ∈ spelt, printable character = true := fun character member => by
    refine printable_of_toLower (speltAscii character member) (legible.printable _ ?_)
    rw [← lowered]
    exact List.mem_map_of_mem member
  -- What is written for the spelling is part of the serialised evidence.
  have written : Escaping.escape '\\' specialChar spelt <:+: dumps std (.obj evidence) := by
    refine List.IsInfix.trans ?_ (quoted_within (.obj evidence) inside)
    refine List.IsInfix.trans ?_ (List.suffix_cons _ _).isInfix
    refine List.IsInfix.trans ?_ List.infix_append_left
    rw [← whole, List.flatMap_append, List.flatMap_append, ← flatMap_escapeChar speltPrintable]
    exact List.infix_append _ _ _
  have writtenAscii : ∀ character ∈ Escaping.escape '\\' specialChar spelt, character.toNat < 128 := by
    rw [← flatMap_escapeChar speltPrintable]
    intro character member
    obtain ⟨original, -, isWritten⟩ := List.mem_flatMap.mp member
    exact printable_ascii (escapeChar_isPrintable original character isWritten)
  have found := @Lowering.ascii_infix lowering _ _ writtenAscii written
  rw [lower_escape speltPrintable, lowered] at found
  exact decide_eq_true ((legible.survives.within rfl).trans found)

theorem opening_found (opens : lowering.lower prediction.toList = objectOpening)
    (mentioned : Mentioned lowering evidence prediction) :
    evidenceMatchesPrediction std lowering evidence prediction = true := by
  obtain ⟨text, inside, -⟩ := mentioned
  cases evidence with
  | nil => cases inside
  | cons field rest =>
      obtain ⟨key, value⟩ := field
      have begins : objectOpening <:+: dumps std (.obj ((key, value) :: rest)) := by
        rw [dumps, JsonStyle.chars_obj]
        exact ⟨[], _, rfl⟩
      have ascii : ∀ character ∈ objectOpening, character.toNat < 128 := fun character member =>
        printable_ascii (List.all_eq_true.mp (by decide) character member)
      have found := @Lowering.ascii_infix lowering _ _ ascii begins
      refine decide_eq_true ?_
      rw [opens]
      exact found

end Legible

/-! ### Evidence that is missed -/

section Missed

/-- Evidence of one key. -/
def keyed (word : List Char) : List (String × Json) :=
  [(String.ofList word, .null)]

variable {std : Stdlib} {lowering : Lowering} {prediction : String}

theorem dumps_keyed (word : List Char) :
    dumps std (.obj (keyed word)) =
      objectOpening ++ word.flatMap (escapeChar true) ++ "\": null\x7d".toList := by
  rw [dumps, keyed, JsonStyle.chars_obj]
  show '\x7b' :: (dumpsText true (String.ofList word) ++ ':' :: ' ' :: (defaultStyle std).chars .null ++
    ['\x7d']) = _
  rw [JsonStyle.chars, dumpsText, String.toList_ofList]
  simp [objectOpening]

theorem lower_keyed (word : List Char) :
    lowering.lower (dumps std (.obj (keyed word))) =
      objectOpening ++ (word.flatMap (escapeChar true)).map Char.toLower ++ "\": null\x7d".toList := by
  have ascii : ∀ character ∈ dumps std (.obj (keyed word)), character.toNat < 128 := by
    rw [dumps_keyed]
    intro character member
    refine printable_ascii ?_
    rcases List.mem_append.mp member with first | last
    · rcases List.mem_append.mp first with isOpening | isWritten
      · exact List.all_eq_true.mp (by decide) character isOpening
      · obtain ⟨original, -, written⟩ := List.mem_flatMap.mp isWritten
        exact escapeChar_isPrintable original character written
    · exact List.all_eq_true.mp (by decide) character last
  rw [Lowering.lower, Lowering.within_ascii ascii, dumps_keyed, List.map_append, List.map_append]
  rfl

/-- The matcher finds a prediction wherever it is mentioned. -/
def FoundEverywhere (std : Stdlib) (lowering : Lowering) (prediction : String) : Prop :=
  ∀ evidence, Mentioned lowering evidence prediction →
    evidenceMatchesPrediction std lowering evidence prediction = true

theorem FoundEverywhere.keyed (found : FoundEverywhere std lowering prediction) {word : List Char}
    (occurs : lowering.lower prediction.toList <:+: lowering.lower word) :
    lowering.lower prediction.toList <:+:
      objectOpening ++ (word.flatMap (escapeChar true)).map Char.toLower ++ "\": null\x7d".toList := by
  have matched := found (CosMonitor.keyed word) ⟨String.ofList word, List.mem_cons_self, by
    rwa [String.toList_ofList]⟩
  rw [← @lower_keyed std lowering]
  exact of_decide_eq_true matched

/-- **It is printable.** -/
theorem FoundEverywhere.printable (found : FoundEverywhere std lowering prediction) :
    ∀ character ∈ lowering.lower prediction.toList, CosMonitor.printable character = true := by
  intro character member
  have inside := (found.keyed (List.infix_refl _)).subset member
  have opening : ∀ character ∈ objectOpening, CosMonitor.printable character = true :=
    List.all_eq_true.mp (by decide)
  have ending : ∀ character ∈ "\": null\x7d".toList, CosMonitor.printable character = true :=
    List.all_eq_true.mp (by decide)
  rcases List.mem_append.mp inside with first | last
  · rcases List.mem_append.mp first with isOpening | written
    · exact opening character isOpening
    · obtain ⟨symbol, isWritten, rfl⟩ := List.mem_map.mp written
      obtain ⟨original, -, isEscaped⟩ := List.mem_flatMap.mp isWritten
      exact (toLower_printable (escapeChar_isPrintable original symbol isEscaped)).1
  · exact ending character last

theorem lowered_fixed (isPrintable : ∀ character ∈ lowering.lower prediction.toList,
    CosMonitor.printable character = true) :
    ∀ character ∈ lowering.lower prediction.toList, character.toLower = character :=
  fun character member =>
    Lowering.lower_fixed member (printable_ascii (isPrintable character member))

theorem lower_self {word : List Char} (isPrintable : ∀ character ∈ word, CosMonitor.printable character = true)
    (fixed : ∀ character ∈ word, character.toLower = character) {before after : List Char} :
    lowering.within before after word = word := by
  rw [Lowering.within_ascii fun character member => printable_ascii (isPrintable character member)]
  conv_rhs => rw [← List.map_id word]
  exact List.map_congr_left fixed

theorem lower_written {word : List Char}
    (isPrintable : ∀ character ∈ word, CosMonitor.printable character = true)
    (fixed : ∀ character ∈ word, character.toLower = character) :
    (word.flatMap (escapeChar true)).map Char.toLower = Escaping.escape '\\' specialChar word := by
  have same : word.map Char.toLower = word := by
    conv_rhs => rw [← List.map_id word]
    exact List.map_congr_left fixed
  rw [flatMap_escapeChar isPrintable, lower_escape isPrintable, same]

theorem count_escape {word : List Char} {counted : Char} (other : counted ≠ '\\') :
    (Escaping.escape '\\' specialChar word).count counted = word.count counted := by
  induction word with
  | nil => rfl
  | cons character rest ih =>
      rw [Escaping.escape_cons, List.count_append, ih, List.count_cons]
      cases isSpecial : specialChar character with
      | false =>
          rw [Escaping.escapeSymbol_plain isSpecial, List.count_singleton, Nat.add_comm]
      | true =>
          have notMark : ('\\' == counted) = false := by simpa using Ne.symm other
          rw [Escaping.escapeSymbol_special isSpecial, List.count_cons, List.count_singleton, notMark]
          exact Nat.add_comm _ _

/-- The Kelvin sign in the place of every `k`. -/
def kelvinSpelling (word : List Char) : List Char :=
  word.map fun character => if character = 'k' then kelvinSign else character

theorem lower_kelvinSpelling {word : List Char}
    (isPrintable : ∀ character ∈ word, CosMonitor.printable character = true)
    (fixed : ∀ character ∈ word, character.toLower = character) {before after : List Char} :
    lowering.within before after (kelvinSpelling word) = word := by
  induction word generalizing before with
  | nil => rfl
  | cons character rest ih =>
      obtain ⟨here, others⟩ := List.forall_mem_cons.mp isPrintable
      obtain ⟨hereFixed, othersFixed⟩ := List.forall_mem_cons.mp fixed
      rw [kelvinSpelling, List.map_cons, Lowering.within]
      have tail := @ih others othersFixed
      unfold kelvinSpelling at tail
      rw [tail]
      by_cases isK : character = 'k'
      · rw [if_pos isK, isK, Lowering.character, if_neg (by decide), lowering.kelvin]
        rfl
      · rw [if_neg isK, Lowering.character, if_pos (printable_ascii here), hereFixed]
        rfl

/-- **It has no `k`.** The Kelvin sign is lowered to one, and escaped without one. -/
theorem FoundEverywhere.noKelvin (found : FoundEverywhere std lowering prediction) :
    'k' ∉ lowering.lower prediction.toList := by
  intro member
  have isPrintable := found.printable
  have fixed := lowered_fixed isPrintable
  have occurs : lowering.lower prediction.toList <:+:
      lowering.lower (kelvinSpelling (lowering.lower prediction.toList)) := by
    have same : lowering.lower (kelvinSpelling (lowering.lower prediction.toList)) =
        lowering.lower prediction.toList := lower_kelvinSpelling isPrintable fixed
    rw [same]
  have inside := (found.keyed occurs).subset member
  have opening : 'k' ∉ objectOpening := by decide
  have ending : 'k' ∉ "\": null\x7d".toList := by decide
  rcases List.mem_append.mp inside with first | last
  · rcases List.mem_append.mp first with isOpening | written
    · exact opening isOpening
    · obtain ⟨symbol, isWritten, lowered⟩ := List.mem_map.mp written
      obtain ⟨original, spelt, isEscaped⟩ := List.mem_flatMap.mp isWritten
      obtain ⟨character, isCharacter, rfl⟩ := List.mem_map.mp spelt
      by_cases isK : character = 'k'
      · rw [if_pos isK] at isEscaped
        have escaped : 'k' ∉ (escapeChar true kelvinSign).map Char.toLower := by decide +kernel
        exact escaped (lowered ▸ List.mem_map_of_mem isEscaped)
      · rw [if_neg isK, escapeChar_printable (isPrintable character isCharacter)] at isEscaped
        unfold Escaping.escapeSymbol at isEscaped
        have same : character.toLower = character := fixed character isCharacter
        split at isEscaped
        · rcases List.mem_pair.mp isEscaped with rfl | rfl
          · exact absurd lowered (by decide)
          · exact isK (same.symm.trans lowered)
        · obtain rfl := List.mem_singleton.mp isEscaped
          exact isK (same.symm.trans lowered)
  · exact ending last

/-- **It does not end with `i`.** The dotted capital is lowered to one, and escaped without one. -/
theorem FoundEverywhere.noDotted (found : FoundEverywhere std lowering prediction) :
    (lowering.lower prediction.toList).getLast? ≠ some 'i' := by
  intro last
  obtain ⟨word, whole⟩ := List.getLast?_eq_some_iff.mp last
  have isPrintable := found.printable
  have fixed := lowered_fixed isPrintable
  have wordPrintable : ∀ character ∈ word, CosMonitor.printable character = true := fun character member =>
    isPrintable character (by rw [whole]; exact List.mem_append_left _ member)
  have wordFixed : ∀ character ∈ word, character.toLower = character := fun character member =>
    fixed character (by rw [whole]; exact List.mem_append_left _ member)
  have occurs : lowering.lower prediction.toList <:+: lowering.lower (word ++ [dottedI]) := by
    rw [whole, Lowering.lower, Lowering.within_append, lower_self wordPrintable wordFixed,
      Lowering.within, Lowering.character, if_neg (by decide), lowering.dotted]
    exact ⟨[], [combiningDot], by simp [Lowering.within]⟩
  have counted := (found.keyed occurs).sublist.count_le 'i'
  rw [whole, List.flatMap_append, List.map_append, lower_written wordPrintable wordFixed,
    List.count_append, List.count_append, List.count_append, List.count_append,
    count_escape (by decide)] at counted
  have opening : objectOpening.count 'i' = 0 := by decide
  have ending : ("\": null\x7d".toList).count 'i' = 0 := by decide
  have escaped : (([dottedI].flatMap (escapeChar true)).map Char.toLower).count 'i' = 0 := by
    decide +kernel
  have single : ['i'].count 'i' = 1 := by decide
  omega

theorem exists_pad (word : List Char) :
    ∃ pad, specialChar pad = false ∧ CosMonitor.printable pad = true ∧ pad.toLower = pad ∧
      word.head? ≠ some pad ∧ (word.drop 2).head? ≠ some pad := by
  by_contra none
  push Not at none
  have first := none 'a' rfl (by decide) (by decide)
  have second := none 'b' rfl (by decide) (by decide)
  have third := none 'c' rfl (by decide) (by decide)
  by_cases isA : word.head? = some 'a'
  · have atB := second (by rw [isA]; decide)
    have atC := third (by rw [isA]; decide)
    rw [atB] at atC
    exact absurd atC (by decide)
  · have atA := first isA
    by_cases isB : word.head? = some 'b'
    · have atC := third (by rw [isB]; decide)
      rw [atA] at atC
      exact absurd atC (by decide)
    · have atB := second isB
      rw [atA] at atB
      exact absurd atB (by decide)

section Pads

variable {word : List Char} {pad : Char} {count : Nat}

theorem plain_pads (padPlain : specialChar pad = false) (occurs : word <:+: List.replicate count pad) :
    Escaping.Plain specialChar word := fun character member => by
  rw [List.eq_of_mem_replicate (occurs.subset member)]
  exact padPlain

theorem no_pads {front back : List Char} (notFirst : word.head? ≠ some pad) (split : word = front ++ back)
    (ends : front <:+ List.replicate count pad) : front = [] := by
  cases front with
  | nil => rfl
  | cons head front =>
      have isPad : head = pad := List.eq_of_mem_replicate (ends.subset List.mem_cons_self)
      rw [split, isPad] at notFirst
      exact absurd rfl notFirst

theorem opening_survives (padPlain : specialChar pad = false) (notThird : (word.drop 2).head? ≠ some pad)
    (occurs : word <:+: objectOpening ++ List.replicate count pad) :
    word = objectOpening ∨ Escaping.Survives '\\' specialChar word := by
  have quoted : ∀ {plain : List Char}, Escaping.Plain specialChar plain →
      Escaping.Survives '\\' specialChar ('"' :: plain) := fun isPlain =>
    ⟨0, ['"'], _, 0, le_rfl, isPlain, by simp⟩
  have nothing : Escaping.Survives '\\' specialChar ([] : List Char) :=
    Escaping.Plain.survives (List.forall_mem_nil _)
  rcases List.infix_append_iff.mp occurs with inside | inside | ⟨front, back, rfl, ends, begins⟩
  · rw [objectOpening, List.infix_cons_iff, List.infix_cons_iff, List.infix_nil] at inside
    rcases inside with atStart | atQuote | rfl
    · rcases List.prefix_cons_iff.mp atStart with rfl | ⟨rest, rfl, more⟩
      · exact .inr nothing
      · rcases List.prefix_cons_iff.mp more with rfl | ⟨last, rfl, none⟩
        · exact .inr (Escaping.Plain.survives (List.forall_mem_singleton.mpr rfl))
        · rw [List.prefix_nil.mp none]
          exact .inl rfl
    · rcases List.prefix_cons_iff.mp atQuote with rfl | ⟨rest, rfl, none⟩
      · exact .inr nothing
      · rw [List.prefix_nil.mp none]
        exact .inr (quoted (List.forall_mem_nil _))
    · exact .inr nothing
  · exact .inr (plain_pads padPlain inside).survives
  · have isPlain := plain_pads padPlain begins.isInfix
    rw [objectOpening, List.suffix_cons_iff, List.suffix_cons_iff, List.suffix_nil] at ends
    rcases ends with rfl | rfl | rfl
    · -- Nothing may follow how an object begins, since it would be a pad.
      cases back with
      | nil => exact .inl rfl
      | cons first rest =>
          have isPad : first = pad := List.eq_of_mem_replicate (begins.subset List.mem_cons_self)
          rw [isPad] at notThird
          exact absurd rfl notThird
    · exact .inr (quoted isPlain)
    · exact .inr isPlain.survives

theorem ending_survives (occurs : word <:+: "\": null\x7d".toList) :
    Escaping.Survives '\\' specialChar word := by
  have quoted : ∀ {plain : List Char}, Escaping.Plain specialChar plain →
      Escaping.Survives '\\' specialChar ('"' :: plain) := fun isPlain =>
    ⟨0, ['"'], _, 0, le_rfl, isPlain, by simp⟩
  have none : ": null\x7d".toList.any specialChar = false := by decide
  have rest : Escaping.Plain specialChar ": null\x7d".toList := fun symbol member =>
    Bool.eq_false_iff.mpr (List.any_eq_false.mp none symbol member)
  have text : "\": null\x7d".toList = '"' :: ": null\x7d".toList := by decide
  rw [text, List.infix_cons_iff] at occurs
  rcases occurs with begins | inside
  · rcases List.prefix_cons_iff.mp begins with rfl | ⟨more, rfl, tail⟩
    · exact Escaping.Plain.survives (List.forall_mem_nil _)
    · exact quoted fun character member => rest character (tail.subset member)
  · exact Escaping.Plain.survives fun character member => rest character (inside.subset member)

theorem escaped_survives (padPlain : specialChar pad = false) (notFirst : word.head? ≠ some pad)
    (occurs : word <:+: Escaping.escape '\\' specialChar word ++
      (List.replicate word.length pad ++ "\": null\x7d".toList)) :
    Escaping.Survives '\\' specialChar word := by
  rcases List.infix_append_iff.mp occurs with inside | after | ⟨front, back, split, ends, begins⟩
  · exact Escaping.survives_of_within rfl inside
  · rcases List.infix_append_iff.mp after with pads | ending | ⟨front, back, split, ends, begins⟩
    · exact (plain_pads padPlain pads).survives
    · exact ending_survives ending
    · rw [no_pads notFirst split ends, List.nil_append] at split
      rw [← split] at begins
      exact ending_survives begins.isInfix
  · -- Within its length the escaped word is followed by pads.
    have short : back.length ≤ (List.replicate word.length pad).length := by
      rw [List.length_replicate, split, List.length_append]
      exact Nat.le_add_left _ _
    have pads : back <+: List.replicate word.length pad :=
      List.prefix_of_prefix_length_le begins (List.prefix_append _ _) short
    have padded : back = List.replicate back.length pad :=
      List.eq_replicate_iff.mpr ⟨rfl, fun character member =>
        List.eq_of_mem_replicate (pads.subset member)⟩
    rcases Nat.eq_zero_or_pos back.length with none | some
    · rw [List.length_eq_zero_iff.mp none, List.append_nil] at split
      rw [← split] at ends
      exact Escaping.survives_of_within rfl ends.isInfix
    · rw [padded] at split
      exact (Escaping.plain_of_overlap padPlain some ends split).survives

/-- **A word that occurs where it is escaped between pads** begins an object or survives. -/
theorem padded_survives (padPlain : specialChar pad = false) (notFirst : word.head? ≠ some pad)
    (notThird : (word.drop 2).head? ≠ some pad)
    (occurs : word <:+: objectOpening ++ (List.replicate word.length pad ++
      Escaping.escape '\\' specialChar word ++ List.replicate word.length pad) ++
        "\": null\x7d".toList) :
    word = objectOpening ∨ Escaping.Survives '\\' specialChar word := by
  have grouped : objectOpening ++ (List.replicate word.length pad ++
      Escaping.escape '\\' specialChar word ++ List.replicate word.length pad) ++ "\": null\x7d".toList =
        (objectOpening ++ List.replicate word.length pad) ++
          (Escaping.escape '\\' specialChar word ++
            (List.replicate word.length pad ++ "\": null\x7d".toList)) := by
    simp only [List.append_assoc]
  rw [grouped] at occurs
  rcases List.infix_append_iff.mp occurs with before | after | ⟨front, back, split, ends, begins⟩
  · exact opening_survives padPlain notThird before
  · exact .inr (escaped_survives padPlain notFirst after)
  · -- What ends the pads before it is a word of pads, and no longer than the word.
    have short : front.length ≤ (List.replicate word.length pad).length := by
      rw [List.length_replicate, split, List.length_append]
      exact Nat.le_add_right _ _
    have pads : front <:+ List.replicate word.length pad :=
      List.suffix_of_suffix_length_le ends (List.suffix_append _ _) short
    rw [no_pads notFirst split pads, List.nil_append] at split
    rw [← split] at begins
    exact .inr (escaped_survives padPlain notFirst begins.isInfix)

end Pads

/-- **It survives the escapes**, or begins every object. -/
theorem FoundEverywhere.survives (found : FoundEverywhere std lowering prediction) :
    lowering.lower prediction.toList = objectOpening ∨
      Escaping.Survives '\\' specialChar (lowering.lower prediction.toList) := by
  have isPrintable := found.printable
  have fixed := lowered_fixed isPrintable
  obtain ⟨pad, padPlain, padPrintable, padFixed, notFirst, notThird⟩ :=
    exists_pad (lowering.lower prediction.toList)
  revert isPrintable fixed notFirst notThird
  -- The same word is mentioned and looked for.
  suffices padded : ∀ word, word = lowering.lower prediction.toList →
      (∀ character ∈ word, CosMonitor.printable character = true) →
      (∀ character ∈ word, character.toLower = character) → word.head? ≠ some pad →
      (word.drop 2).head? ≠ some pad →
        word = objectOpening ∨ Escaping.Survives '\\' specialChar word from padded _ rfl
  intro word isWord isPrintable fixed notFirst notThird
  have pads : ∀ character ∈ List.replicate word.length pad,
      CosMonitor.printable character = true ∧ character.toLower = character := fun character member => by
    rw [List.eq_of_mem_replicate member]
    exact ⟨padPrintable, padFixed⟩
  have all : ∀ character ∈ List.replicate word.length pad ++ word ++ List.replicate word.length pad,
      CosMonitor.printable character = true ∧ character.toLower = character :=
    List.forall_mem_append.mpr ⟨List.forall_mem_append.mpr ⟨pads, fun character member =>
      ⟨isPrintable character member, fixed character member⟩⟩, pads⟩
  have allPrintable := fun character member => (all character member).1
  have allFixed := fun character member => (all character member).2
  have occurs : lowering.lower prediction.toList <:+:
      lowering.lower (List.replicate word.length pad ++ word ++ List.replicate word.length pad) := by
    rw [← isWord, Lowering.lower, lower_self allPrintable allFixed]
    exact List.infix_append _ _ _
  have inside := found.keyed occurs
  rw [lower_written allPrintable allFixed, Escaping.escape_append, Escaping.escape_append, ← isWord,
    Escaping.escape_plain (plain_pads padPlain (List.infix_refl _))] at inside
  exact padded_survives padPlain notFirst notThird inside

end Missed

/-! ### The templates -/

section Templates

/-- The `consequence_templates` of the hypothesis templates, split at the placeholder `frequency`, which is
the only one in them. -/
def hypothesisTemplates : List (String × List (List String)) :=
  [("disk_logging_verbosity_v1",
      [["El patrón de escritura de logs del proceso activo mostrará un incremento " ++
          "sostenido de líneas por minuto (frecuencia observada ", ")."],
        ["Los niveles de verbosidad configurados habrán cambiado dentro de la ventana " ++
          "de la desviación."]]),
    ("disk_retention_policy_v1",
      [["El volumen de datos retenidos por los jobs de retención mostrará un incremento " ++
          "acorde a la nueva política (frecuencia observada ", ")."],
        ["Las políticas de retención configuradas habrán cambiado dentro de la ventana " ++
          "de la desviación."]]),
    ("disk_auto_growth_v1",
      [["Los archivos de datos con auto-growth habrán crecido hasta el límite " ++
          "configurado (frecuencia observada ", ")."],
        ["Los eventos de auto-growth en el registro del motor habrán aumentado dentro " ++
          "de la ventana de la desviación."]]),
    ("backup_maintenance_schedule_v1",
      [["El job de mantenimiento aparecerá programado en un horario distinto al " ++
          "registrado previamente (frecuencia observada ", ")."],
        ["La ventana de ejecución del mantenimiento habrá cambiado dentro de la ventana " ++
          "de la desviación."]]),
    ("backup_target_capacity_v1",
      [["El espacio libre del destino de backup habrá descendido por debajo del umbral " ++
          "documentado (frecuencia observada ", ")."],
        ["Los intentos de escritura del backup habrán fallado por falta de espacio " ++
          "dentro de la ventana."]]),
    ("backup_antivirus_conflict_v1",
      [["Se registrará un análisis antivirus solapado con la ventana de backup " ++
          "(frecuencia observada ", ")."],
        ["El horario del análisis antivirus habrá cambiado dentro de la ventana " ++
          "de la desviación."]]),
    ("auth_compromised_account_v1",
      [["Los intentos de autenticación fallidos provendrán de un conjunto acotado de " ++
          "orígenes (frecuencia observada ", ")."],
        ["Se observará un patrón de credenciales probadas sobre la misma cuenta dentro " ++
          "de la ventana."]]),
    ("auth_retry_loop_v1",
      [["Los logs de la aplicación mostrarán reintentos periódicos y regulares de " ++
          "autenticación (frecuencia observada ", ")."],
        ["El origen de los reintentos será consistente con un único cliente " ++
          "de aplicación."]]),
    ("auth_external_monitoring_v1",
      [["Se identificará una herramienta de monitoreo configurada que realiza pruebas " ++
          "de autenticación (frecuencia observada ", ")."],
        ["El patrón de los intentos coincidirá con la cadencia documentada de dicha " ++
          "herramienta."]])]

/-- `consequence.format(**facts)`. -/
def formatConsequence (frequency : String) (pieces : List String) : String :=
  frequency.intercalate pieces

variable {std : Stdlib} {lowering : Lowering} {evidence : List (String × Json)} {prediction : String}

/-- A character outside ASCII whose lower case is outside too. -/
def staysBeyond (character : Char) : Bool :=
  decide (128 ≤ character.toNat) && character != kelvinSign && character != dottedI

theorem illegible_of_beyond {character : Char} {text before after : List Char} (member : character ∈ text)
    (beyond : staysBeyond character = true) :
    ∃ lowered ∈ lowering.within before after text, printable lowered = false := by
  unfold staysBeyond at beyond
  simp only [Bool.and_eq_true, decide_eq_true_eq, bne_iff_ne] at beyond
  obtain ⟨⟨outside, notKelvin⟩, notDotted⟩ := beyond
  obtain ⟨front, back, rfl⟩ := List.append_of_mem member
  rw [Lowering.within_append, Lowering.within, Lowering.character, if_neg (by omega)]
  obtain ⟨some, high⟩ :=
    lowering.beyond (before ++ front) character (back ++ after) outside notKelvin notDotted
  obtain ⟨lowered, isLowered⟩ := List.exists_mem_of_ne_nil _ some
  refine ⟨lowered, List.mem_append_right _ (List.mem_append_left _ isLowered), ?_⟩
  have isHigh := high lowered isLowered
  exact decide_eq_false fun range => by omega

/-- **A prediction with another character is never found**, by any evidence. -/
theorem illegible_missed (numerals : std.WritesNumerals) {lowered : Char}
    (member : lowered ∈ lowering.lower prediction.toList) (illegible : printable lowered = false) :
    evidenceMatchesPrediction std lowering evidence prediction = false := by
  have writtenPrintable := @dumps_printable std numerals (.obj evidence)
  have text : lowering.lower (dumps std (.obj evidence)) =
      (dumps std (.obj evidence)).map Char.toLower :=
    Lowering.within_ascii fun character isWritten =>
      printable_ascii (writtenPrintable character isWritten)
  refine decide_eq_false fun occurs => ?_
  rw [text] at occurs
  obtain ⟨character, isWritten, rfl⟩ := List.mem_map.mp (occurs.subset member)
  rw [(toLower_printable (writtenPrintable character isWritten)).1] at illegible
  cases illegible

theorem accented_head {characters : List Char} {rest : String} {others : List String}
    (accented : characters.any staysBeyond = true) :
    ∃ first later, (String.ofList characters ++ rest) :: others = first :: later ∧
      ∃ character ∈ first.toList, staysBeyond character = true := by
  obtain ⟨character, member, beyond⟩ := List.any_eq_true.mp accented
  refine ⟨_, others, rfl, character, ?_, beyond⟩
  rw [String.toList_append, String.toList_ofList]
  exact List.mem_append_left _ member

/-- **Every prediction of the templates is illegible**: each has an accented letter before its frequency. -/
theorem templates_illegible :
    ∀ template ∈ hypothesisTemplates, ∀ pieces ∈ template.2, ∃ first rest, pieces = first :: rest ∧
      ∃ character ∈ first.toList, staysBeyond character = true := by
  simp only [hypothesisTemplates, List.forall_mem_cons]
  and_intros
  all_goals first
    | exact accented_head (by decide +kernel)
    | exact fun _ absent => nomatch absent

theorem mem_formatConsequence {frequency first : String} {rest : List String} {character : Char}
    (member : character ∈ first.toList) :
    character ∈ (formatConsequence frequency (first :: rest)).toList := by
  unfold formatConsequence
  cases rest with
  | nil => simpa using member
  | cons second others =>
      rw [String.toList_intercalate, List.map_cons, List.map_cons, List.intercalate_cons_cons]
      simp [member]

/-- **When a prediction is found.** The matcher finds a prediction in every evidence with a string that
contains it, whatever the case, exactly when its lower case is legible, or is how an object begins. A
prediction with a character whose lower case is no printable ASCII character is found in no evidence at all;
the predictions of the hypothesis templates, with any frequency, are such predictions. -/
theorem prediction_found_iff (std : Stdlib) (lowering : Lowering) :
    (∀ prediction, FoundEverywhere std lowering prediction ↔
      Legible (lowering.lower prediction.toList) ∨ lowering.lower prediction.toList = objectOpening) ∧
    (std.WritesNumerals → ∀ prediction, ∀ lowered ∈ lowering.lower prediction.toList,
      printable lowered = false → ∀ evidence,
        evidenceMatchesPrediction std lowering evidence prediction = false) ∧
    (std.WritesNumerals → ∀ template ∈ hypothesisTemplates, ∀ pieces ∈ template.2,
      ∀ frequency evidence,
        evidenceMatchesPrediction std lowering evidence (formatConsequence frequency pieces) = false) := by
  refine ⟨fun prediction => ⟨fun found => ?_, ?_⟩, fun numerals prediction lowered member illegible evidence =>
    illegible_missed numerals member illegible, ?_⟩
  · rcases found.survives with opens | survives
    · exact .inr opens
    · exact .inl ⟨found.printable, survives, found.noKelvin, found.noDotted⟩
  · rintro (legible | opens) evidence mentioned
    · exact legible_found legible mentioned
    · exact opening_found opens mentioned
  · intro numerals template member pieces listed frequency evidence
    obtain ⟨first, rest, rfl, character, inside, beyond⟩ :=
      templates_illegible template member pieces listed
    obtain ⟨lowered, isLowered, illegible⟩ :=
      @illegible_of_beyond lowering _ _ [] [] (@mem_formatConsequence frequency first rest _ inside) beyond
    exact illegible_missed numerals isLowered illegible

/-- Evidence whose text is an accented word, in capitals. -/
def accentedEvidence : List (String × Json) :=
  [("detalle", .str "CAPACIDAD MáXIMA")]

/-- **An accented word is missed.** The evidence contains the prediction, up to its case, and does not match
it: the accented letter is escaped. -/
theorem accented_word_missed : ¬FoundEverywhere .constant .plain "capacidad m\u00e1xima" := by
  intro found
  have mentioned : Mentioned .plain accentedEvidence "capacidad m\u00e1xima" :=
    ⟨"CAPACIDAD M\u00e1XIMA", by decide, by decide +kernel⟩
  have missed : evidenceMatchesPrediction .constant .plain accentedEvidence "capacidad m\u00e1xima" =
      false := by
    decide +kernel
  rw [found accentedEvidence mentioned] at missed
  cases missed

end Templates

end CosMonitor
