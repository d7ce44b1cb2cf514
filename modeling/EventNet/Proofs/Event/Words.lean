import EventNet.Event.Naming

/-!
Words in event types.

An event type runs the words of an action together, each of them with a capital and the last one in the
past tense.  In words of small letters and digits nothing else is a capital, so a capital stands where a word
begins and only there, and the event type can be taken apart again: into the earlier words as they were,
and the last one in the past tense (`humps_capitalized`).  Both tenses make words of words, so an action
that an event type suggests has as many words as the action that wrote it, and two actions share an event
type only if they differ in nothing but their joints and a last word with the same past.
-/

namespace EventNet

namespace Naming

/-! ### Names made of words -/

/-- A small letter or a digit. -/
def isPlain (c : Char) : Bool :=
  c.isLower || c.isDigit

/-- A small letter, and then small letters and digits. -/
structure IsWord (w : List Char) : Prop where
  starts : ∃ c ∈ w.head?, c.isLower = true
  plain : ∀ c ∈ w, isPlain c = true

/-- One word of a name. -/
structure Word where
  chars : List Char
  isWord : IsWord chars

/-- What stands between two words. -/
inductive Joint where
  | underscore
  | hyphen

/-- How a joint is written. -/
def Joint.char : Joint → Char
  | .underscore => '_'
  | .hyphen => '-'

/-- One or more words with single joints between them. -/
structure Phrase where
  earlier : List (Word × Joint)
  last : Word

namespace Phrase

/-- How a phrase is written. -/
def text (p : Phrase) : String :=
  String.ofList (p.earlier.flatMap (fun e => e.1.chars ++ [e.2.char]) ++ p.last.chars)

/-- The words of a phrase. -/
def words (p : Phrase) : List (List Char) :=
  p.earlier.map (·.1.chars) ++ [p.last.chars]

theorem dropLast_words (p : Phrase) : p.words.dropLast = p.earlier.map (·.1.chars) :=
  List.dropLast_concat

theorem isWord_of_mem_words {p : Phrase} {v : List Char} (h : v ∈ p.words) : IsWord v := by
  rcases List.mem_append.mp h with h | h
  · obtain ⟨e, -, rfl⟩ := List.mem_map.mp h
    exact e.1.isWord
  · obtain rfl := List.mem_singleton.mp h
    exact p.last.isWord

theorem length_words (p : Phrase) : p.words.length = p.earlier.length + 1 := by
  rw [words, List.length_append, List.length_map]
  rfl

end Phrase

/-! ### Small letters and digits -/

variable {c : Char} {w : List Char}

theorem toNat_lt_of_isPlain (h : isPlain c = true) : c.toNat < 128 := by
  rcases Bool.or_eq_true_iff.mp h with hlower | hdigit
  · have hle : c.val ≤ 'z'.val := of_decide_eq_true (Bool.and_eq_true_iff.mp hlower).2
    exact Nat.lt_of_le_of_lt (UInt32.le_iff_toNat_le.mp hle) (by decide)
  · have hle : c.val ≤ '9'.val := of_decide_eq_true (Bool.and_eq_true_iff.mp hdigit).2
    exact Nat.lt_of_le_of_lt (UInt32.le_iff_toNat_le.mp hle) (by decide)

theorem isPlain_of_isLower (h : c.isLower = true) : isPlain c = true := by
  rw [isPlain, h, Bool.true_or]

/-- What holds of the characters below 128 holds of a small letter or digit. -/
theorem of_plain {P : Char → Prop} (hall : ∀ n < 128, P (Char.ofNat n)) (h : isPlain c = true) : P c := by
  have hc := hall c.toNat (toNat_lt_of_isPlain h)
  rwa [Char.ofNat_toNat] at hc

/-- Small letters and digits are in lower case, and neither capitals nor joints. -/
theorem case_of_plain (h : isPlain c = true) :
    Text.lowerChar c = [c] ∧ Text.isUppercase c = false ∧ c ≠ 'Σ' ∧ c ≠ '_' ∧ c ≠ '-' :=
  of_plain (P := fun c => isPlain c = true →
    Text.lowerChar c = [c] ∧ Text.isUppercase c = false ∧ c ≠ 'Σ' ∧ c ≠ '_' ∧ c ≠ '-')
    (by decide +kernel) h h

/-- A small letter has a capital, of which it is the lower case. -/
theorem capital_of_isLower (h : c.isLower = true) :
    Text.upperChar c = [c.toUpper] ∧ Text.isUppercase c.toUpper = true ∧
      Text.lowerChar c.toUpper = [c] :=
  of_plain (P := fun c => c.isLower = true →
    Text.upperChar c = [c.toUpper] ∧ Text.isUppercase c.toUpper = true ∧
      Text.lowerChar c.toUpper = [c])
    (by decide +kernel) (isPlain_of_isLower h) h

/-! ### Words -/

theorem isWord_cons {rest : List Char} (hc : c.isLower = true) (h : ∀ x ∈ rest, isPlain x = true) :
    IsWord (c :: rest) := by
  refine ⟨⟨c, rfl, hc⟩, fun x hx => ?_⟩
  rcases List.mem_cons.mp hx with rfl | hx
  · exact isPlain_of_isLower hc
  · exact h x hx

namespace IsWord

/-- A word is its first letter and the rest of it. -/
theorem exists_cons (h : IsWord w) :
    ∃ c rest, w = c :: rest ∧ c.isLower = true ∧ ∀ x ∈ rest, isPlain x = true := by
  obtain ⟨c, hc, hlower⟩ := h.starts
  obtain ⟨rest, rfl⟩ := List.head?_eq_some_iff.mp hc
  exact ⟨c, rest, rfl, hlower, fun x hx => h.plain x (List.mem_cons_of_mem c hx)⟩

theorem ne_nil (h : IsWord w) : w ≠ [] := by
  obtain ⟨c, rest, rfl, -⟩ := h.exists_cons
  exact List.cons_ne_nil c rest

theorem append (h : IsWord w) {ending : List Char} (hending : ∀ x ∈ ending, isPlain x = true) :
    IsWord (w ++ ending) := by
  obtain ⟨c, rest, rfl, hlower, hrest⟩ := h.exists_cons
  refine isWord_cons hlower fun x hx => ?_
  rcases List.mem_append.mp hx with hx | hx
  · exact hrest x hx
  · exact hending x hx

/-- The beginning of a word is a word. -/
theorem of_append {stem ending : List Char} (h : IsWord (stem ++ ending)) (hne : stem ≠ []) :
    IsWord stem := by
  obtain ⟨c, rest, rfl⟩ := List.exists_cons_of_ne_nil hne
  obtain ⟨x, hx, hlower⟩ := h.starts
  obtain rfl : c = x := Option.some.inj hx
  exact ⟨⟨c, rfl, hlower⟩, fun y hy => h.plain y (List.mem_append_left ending hy)⟩

end IsWord

/-! ### Tenses -/

theorem eq_of_stripEnding? {ending stem : List Char} (h : Tense.stripEnding? ending w = some stem) :
    w = stem ++ ending := by
  unfold Tense.stripEnding? at h
  split at h
  · rename_i hsuffix
    obtain ⟨before, rfl⟩ := List.isSuffixOf_iff_suffix.mp hsuffix
    rw [← Option.some.inj h, List.length_append, Nat.add_sub_cancel, List.take_left]
  · cases h

theorem past_regular_cases (w : List Char) :
    Tense.past.regular w = w ++ ['e', 'd'] ∨ ∃ c ∈ w, Tense.past.regular w = w ++ [c, 'e', 'd'] := by
  unfold Tense.past.regular
  split
  · rename_i c hlast
    split
    · exact Or.inr ⟨c, List.mem_of_getLast? hlast, rfl⟩
    · exact Or.inl rfl
  · exact Or.inl rfl

/-- A word has an ending in the past tense, and a `y` before it can have become an `i`. -/
theorem past_cases (w : List Char) :
    (∃ ending, Tense.past w = w ++ ending ∧ ∀ x ∈ ending, x = 'e' ∨ x = 'd' ∨ x ∈ w) ∨
      ∃ stem, stem ≠ [] ∧ w = stem ++ ['y'] ∧ Tense.past w = stem ++ ['i', 'e', 'd'] := by
  have hregular : ∃ ending, Tense.past.regular w = w ++ ending ∧
      ∀ x ∈ ending, x = 'e' ∨ x = 'd' ∨ x ∈ w := by
    rcases past_regular_cases w with h | ⟨c, hc, h⟩
    · exact ⟨_, h, by simp⟩
    · exact ⟨_, h, by simp [hc]⟩
  unfold Tense.past
  split
  · exact Or.inl ⟨[], (List.append_nil w).symm, by simp⟩
  split
  · exact Or.inl ⟨['d'], rfl, by simp⟩
  split
  · rename_i stem hstem
    split
    · rename_i c hlast
      split
      · exact Or.inl hregular
      · refine Or.inr ⟨stem, ?_, eq_of_stripEnding? hstem, rfl⟩
        rintro rfl
        cases hlast
    · exact Or.inl hregular
  · exact Or.inl hregular

/-- Two equal consonants are not all that is left when one of them goes. -/
theorem dropLast_ne_nil_of_isDoubled {stem : List Char} (h : Tense.isDoubled stem = true) :
    stem.dropLast ≠ [] := by
  match stem with
  | [] => cases h
  | [c] => cases h
  | c :: c' :: rest => exact List.cons_ne_nil c _

/-- A word in the present tense is some of the word, and an `e` or a `y` at most behind it. -/
theorem present_cases (w : List Char) :
    (∃ stem, w = stem ++ ['i', 'e', 'd'] ∧ Tense.present w = stem ++ ['y']) ∨
      Tense.present w = w ∨
      ∃ stem ending, stem ≠ [] ∧ stem <+: w ∧ Tense.present w = stem ++ ending ∧ ∀ x ∈ ending, x = 'e' := by
  unfold Tense.present
  split
  · rename_i stem hstem
    exact Or.inl ⟨stem, eq_of_stripEnding? hstem, rfl⟩
  refine Or.inr ?_
  split
  · exact Or.inl rfl
  rename_i stem hstem
  have hbegins : stem <+: w := ⟨['e', 'd'], (eq_of_stripEnding? hstem).symm⟩
  split
  · exact Or.inl rfl
  rename_i hempty
  have hne : stem ≠ [] := fun h => hempty (List.isEmpty_iff.mpr h)
  have hstays : ∀ {before : List Char}, before ≠ [] → before <+: stem →
      ∃ stem ending, stem ≠ [] ∧ stem <+: w ∧ before = stem ++ ending ∧ ∀ x ∈ ending, x = 'e' :=
    fun {before} hne hbefore => ⟨before, [], hne, hbefore.trans hbegins, by simp, by simp⟩
  refine Or.inr ?_
  split
  · rename_i hdoubled
    exact hstays (dropLast_ne_nil_of_isDoubled hdoubled) (List.dropLast_prefix stem)
  split
  · exact hstays hne (List.prefix_refl stem)
  split
  · exact ⟨stem, ['e'], hne, hbegins, rfl, by simp⟩
  · exact hstays hne (List.prefix_refl stem)

theorem IsWord.past (h : IsWord w) : IsWord (Tense.past w) := by
  rcases past_cases w with ⟨ending, hpast, hending⟩ | ⟨stem, hne, rfl, hpast⟩
  · rw [hpast]
    refine h.append fun x hx => ?_
    rcases hending x hx with rfl | rfl | hx
    · rfl
    · rfl
    · exact h.plain x hx
  · rw [hpast]
    exact (h.of_append hne).append (by simp [isPlain])

theorem IsWord.present (h : IsWord w) : IsWord (Tense.present w) := by
  rcases present_cases w with ⟨stem, rfl, hpresent⟩ | hsame |
    ⟨stem, ending, hne, ⟨rest, rfl⟩, hpresent, hending⟩
  · rw [hpresent]
    by_cases hstem : stem = []
    · rw [hstem]
      exact isWord_cons rfl (by simp)
    · exact (h.of_append hstem).append (by simp [isPlain])
  · rwa [hsame]
  · rw [hpresent]
    refine (h.of_append hne).append fun x hx => ?_
    rw [hending x hx]
    rfl

/-- The past tense of a word. -/
def Word.past (w : Word) : Word :=
  ⟨Tense.past w.chars, w.isWord.past⟩

/-- The present tense of a word. -/
def Word.present (w : Word) : Word :=
  ⟨Tense.present w.chars, w.isWord.present⟩

/-! ### From words to event types -/

/-- Words in lower case stay as they are. -/
theorem lowerFrom_plain (before : List Char) (h : ∀ c ∈ w, isPlain c = true) :
    Text.lowerFrom before w = w := by
  induction w generalizing before with
  | nil => rfl
  | cons c rest ih =>
      obtain ⟨hc, hrest⟩ := List.forall_mem_cons.mp h
      obtain ⟨hlower, -, hsigma, -⟩ := case_of_plain hc
      unfold Text.lowerFrom
      dsimp only
      rw [if_neg (by simpa using hsigma), hlower, ih _ hrest]
      rfl

/-- Letters and digits are read as part of a word. -/
theorem wordsFrom_plain (current rest : List Char) (h : ∀ c ∈ w, isPlain c = true) :
    wordsFrom current (w ++ rest) = wordsFrom (w.reverse ++ current) rest := by
  induction w generalizing current with
  | nil => rfl
  | cons c w ih =>
      obtain ⟨hc, hw⟩ := List.forall_mem_cons.mp h
      obtain ⟨-, -, -, hunderscore, hhyphen⟩ := case_of_plain hc
      rw [List.cons_append, wordsFrom, if_neg (by simp [hunderscore, hhyphen]), ih _ hw,
        List.reverse_cons, List.append_assoc]
      rfl

/-- A joint ends a word. -/
theorem wordsFrom_joint (j : Joint) (h : w ≠ []) (rest : List Char) :
    wordsFrom w.reverse (j.char :: rest) = w :: wordsFrom [] rest := by
  have hempty : w.reverse.isEmpty = false := by simpa using h
  have hjoint : (j.char == '_' || j.char == '-') = true := by
    cases j
    · rfl
    · rfl
  rw [wordsFrom, if_pos hjoint, hempty, List.reverse_reverse]
  rfl

theorem wordsFrom_text (earlier : List (Word × Joint)) (last : Word) :
    wordsFrom [] (earlier.flatMap (fun e => e.1.chars ++ [e.2.char]) ++ last.chars) =
      earlier.map (·.1.chars) ++ [last.chars] := by
  induction earlier with
  | nil =>
      have hread := wordsFrom_plain [] [] last.isWord.plain
      simp only [List.append_nil] at hread
      rw [List.flatMap_nil, List.nil_append, hread, wordsFrom]
      simp [last.isWord.ne_nil]
  | cons e rest ih =>
      rw [List.flatMap_cons, List.append_assoc, List.append_assoc, List.singleton_append,
        wordsFrom_plain [] _ e.1.isWord.plain, List.append_nil, wordsFrom_joint e.2 e.1.isWord.ne_nil, ih]
      rfl

/-- The words of a phrase are those between its joints. -/
theorem words_text (p : Phrase) : words p.text = p.words := by
  unfold words Phrase.text
  rw [String.toList_ofList, wordsFrom_text]
  have hlower : ∀ v ∈ p.words, Text.lowerFrom [] v = v := fun v hv =>
    lowerFrom_plain [] (Phrase.isWord_of_mem_words hv).plain
  exact (List.map_congr_left hlower).trans (List.map_id _)

theorem joinPast_append (earlier : List (List Char)) (last : List Char) :
    joinPast (earlier ++ [last]) = (earlier ++ [Tense.past last]).flatMap capitalize := by
  induction earlier with
  | nil => simp [joinPast]
  | cons v rest ih =>
      rw [List.cons_append, List.cons_append, List.flatMap_cons, ← ih]
      cases rest with
      | nil => rfl
      | cons v' rest => rfl

/-- A phrase with its last word in the past tense. -/
def Phrase.past (p : Phrase) : Phrase :=
  ⟨p.earlier, p.last.past⟩

/-- The event type of a phrase is the capitalised words of its past. -/
theorem toList_eventType_text (p : Phrase) :
    (eventType p.text).toList = p.past.words.flatMap capitalize := by
  rw [eventType, String.toList_ofList, words_text]
  exact joinPast_append _ _

/-! ### From event types to words -/

/-- Letters and digits belong to the word before them. -/
theorem humpsFrom_plain (current rest : List Char) (h : ∀ c ∈ w, isPlain c = true) :
    humpsFrom current (w ++ rest) = humpsFrom (current ++ w) rest := by
  induction w generalizing current with
  | nil => rw [List.append_nil, List.nil_append]
  | cons c w ih =>
      obtain ⟨hc, hw⟩ := List.forall_mem_cons.mp h
      obtain ⟨hlower, hcapital, -⟩ := case_of_plain hc
      rw [List.cons_append, humpsFrom, if_neg (by simp [hcapital]), hlower, ih _ hw, List.append_assoc]
      rfl

/-- Capitalised words behind a word are read as words of their own. -/
theorem humpsFrom_capitalized {current : List Char} (hcurrent : current ≠ []) {ws : List (List Char)}
    (h : ∀ v ∈ ws, IsWord v) : humpsFrom current (ws.flatMap capitalize) = current :: ws := by
  induction ws generalizing current with
  | nil =>
      rw [List.flatMap_nil, humpsFrom]
      simp [hcurrent]
  | cons v rest ih =>
      obtain ⟨hv, hrest⟩ := List.forall_mem_cons.mp h
      obtain ⟨c, v, rfl, hc, hplain⟩ := hv.exists_cons
      obtain ⟨hupper, hcapital, hlower⟩ := capital_of_isLower hc
      rw [List.flatMap_cons, capitalize, hupper, List.append_assoc, List.singleton_append, humpsFrom,
        if_pos (by simp [hcapital, hcurrent]), hlower, humpsFrom_plain _ _ hplain,
        List.singleton_append, ih (List.cons_ne_nil c v) hrest]

/-- Words come back from capitalised words. -/
theorem humps_capitalized {ws : List (List Char)} (h : ∀ v ∈ ws, IsWord v) :
    humpsFrom [] (ws.flatMap capitalize) = ws := by
  cases ws with
  | nil => rfl
  | cons v rest =>
      obtain ⟨hv, hrest⟩ := List.forall_mem_cons.mp h
      obtain ⟨c, v, rfl, hc, hplain⟩ := hv.exists_cons
      obtain ⟨hupper, hcapital, hlower⟩ := capital_of_isLower hc
      rw [List.flatMap_cons, capitalize, hupper, List.append_assoc, List.singleton_append, humpsFrom,
        if_neg (by simp), hlower, List.nil_append, humpsFrom_plain _ _ hplain, List.singleton_append,
        humpsFrom_capitalized (List.cons_ne_nil c v) hrest]

/-- The words of the past of a phrase come back from its event type. -/
theorem humps_eventType_text (p : Phrase) :
    humpsFrom [] (eventType p.text).toList = p.past.words := by
  rw [toList_eventType_text]
  exact humps_capitalized fun v hv => Phrase.isWord_of_mem_words hv

theorem joinPresent_append (earlier : List (List Char)) (last : List Char) :
    joinPresent (earlier ++ [last]) =
      earlier.flatMap (fun v => v ++ ['_']) ++ Tense.present last := by
  induction earlier with
  | nil => rfl
  | cons v rest ih =>
      rw [List.cons_append, List.flatMap_cons, List.append_assoc, List.append_assoc, ← ih]
      cases rest with
      | nil => rfl
      | cons v' rest => rfl

/-- The phrase that the event type of a phrase suggests. -/
def Phrase.returned (p : Phrase) : Phrase :=
  ⟨p.earlier.map fun e => (e.1, .underscore), p.last.past.present⟩

theorem action_eventType_text (p : Phrase) : action (eventType p.text) = p.returned.text := by
  rw [action, humps_eventType_text, Phrase.words, joinPresent_append, Phrase.text, Phrase.returned,
    List.flatMap_map, List.flatMap_map]
  rfl

/-- Two phrases have one event type exactly if they have the same earlier words, and last words with the
same past. -/
theorem eventType_text_eq_iff {p q : Phrase} : eventType p.text = eventType q.text ↔
    p.words.dropLast = q.words.dropLast ∧ Tense.past p.last.chars = Tense.past q.last.chars := by
  have hpast : ∀ p : Phrase, p.past.words = p.words.dropLast ++ [Tense.past p.last.chars] := by
    intro p
    rw [Phrase.dropLast_words]
    rfl
  constructor
  · intro h
    have hwords : p.past.words = q.past.words := by
      rw [← humps_eventType_text, ← humps_eventType_text, h]
    rw [hpast, hpast] at hwords
    obtain ⟨hearlier, hlast⟩ := List.append_inj' hwords rfl
    exact ⟨hearlier, (List.cons.inj hlast).1⟩
  · rintro ⟨hearlier, hlast⟩
    rw [← String.toList_inj, toList_eventType_text, toList_eventType_text, hpast, hpast, hearlier, hlast]

/-- **Words survive in event types.**  An action whose name is made of words comes back from its event type
as a name of as many words with `_` between them: the earlier words are as they were, and the last one has
been put into the past and back into the present.  Two such actions have the same event type exactly if
their names have as many words, the same earlier ones, and last words with the same past. -/
theorem keeps_words (p : Phrase) :
    (∃ back : Phrase, action (eventType p.text) = back.text ∧
      (∀ e ∈ back.earlier, e.2 = .underscore) ∧
      back.words.length = p.words.length ∧ back.words.dropLast = p.words.dropLast ∧
      back.last.chars = Tense.present (Tense.past p.last.chars)) ∧
    ∀ q : Phrase, eventType p.text = eventType q.text ↔
      p.words.length = q.words.length ∧ p.words.dropLast = q.words.dropLast ∧
        Tense.past p.last.chars = Tense.past q.last.chars := by
  refine ⟨⟨p.returned, action_eventType_text p, ?_, ?_, ?_, rfl⟩, fun q => ?_⟩
  · intro e he
    obtain ⟨e', -, rfl⟩ := List.mem_map.mp he
    rfl
  · rw [Phrase.length_words, Phrase.length_words]
    exact congrArg (· + 1) (List.length_map _)
  · rw [Phrase.dropLast_words, Phrase.dropLast_words, Phrase.returned, List.map_map]
    rfl
  · rw [eventType_text_eq_iff]
    refine ⟨fun h => ⟨?_, h⟩, And.right⟩
    have hlength := congrArg List.length h.1
    rw [Phrase.dropLast_words, Phrase.dropLast_words, List.length_map, List.length_map] at hlength
    rw [Phrase.length_words, Phrase.length_words, hlength]

example : action (eventType "re-open_sales-order") = "re_open_sales_order" := by
  decide +kernel

end Naming

end EventNet
