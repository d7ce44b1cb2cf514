/-!
Past and present tense of English verbs, by a few spelling rules.

A verb ends in `ed` in the past.  A final `e` is not doubled, a `y` after a consonant becomes `i`, and
a single consonant after a short vowel is doubled in words of one syllable and in a few known
endings.  The way back undoes doubling and restores a silent `e` after the endings that usually lost
one.
-/

namespace EventNet.Tense

/-- The five vowels. -/
def isVowel (c : Char) : Bool :=
  c == 'a' || c == 'e' || c == 'i' || c == 'o' || c == 'u'

/-- The number of groups of vowels, given whether the character before was one. -/
def vowelGroups (inGroup : Bool) : List Char → Nat
  | [] => 0
  | c :: rest =>
    let vowel := isVowel c
    (if vowel && !inGroup then 1 else 0) + vowelGroups vowel rest

/-- What precedes an ending. -/
def stripEnding? (ending word : List Char) : Option (List Char) :=
  if ending.isSuffixOf word then some (word.take (word.length - ending.length)) else none

/-- Endings whose consonant is doubled in longer words too. -/
def doublingEndings : List (List Char) :=
  ["fer", "mit", "cur", "pel", "trol", "gin"].map String.toList

/-- Whether the final consonant is doubled before `ed`. -/
def doublesFinal (word : List Char) : Bool :=
  match word.reverse with
  | c :: b :: a :: _ =>
    !isVowel a && isVowel b && !isVowel c && !(c == 'w' || c == 'x' || c == 'y') &&
      (vowelGroups false word == 1 || doublingEndings.any (·.isSuffixOf word))
  | _ => false

/-- The past tense of a verb. -/
def past (word : List Char) : List Char :=
  if ['e', 'd'].isSuffixOf word then word
  else if ['e'].isSuffixOf word then word ++ ['d']
  else
    match stripEnding? ['y'] word with
    | some stem =>
      match stem.getLast? with
      | some c => if isVowel c then regular word else stem ++ ['i', 'e', 'd']
      | none => regular word
    | none => regular word
where
  /-- The past tense of a verb that does not end in `e` or in `y` after a consonant. -/
  regular (word : List Char) : List Char :=
    match word.getLast? with
    | some c => if doublesFinal word then word ++ [c, 'e', 'd'] else word ++ ['e', 'd']
    | none => word ++ ['e', 'd']

/-- Endings before which `ed` has swallowed an `e`. -/
def silentEndings : List (List Char) :=
  ["at", "iz", "is", "v", "u", "dg", "c", "rs", "ur", "bl", "pl"].map String.toList

/-- Whether a stem ends in two equal consonants of which one was added. -/
def isDoubled (stem : List Char) : Bool :=
  match stem.reverse with
  | b :: a :: _ => a == b && !isVowel b && !(b == 'l' || b == 's' || b == 'f' || b == 'z')
  | _ => false

/-- The present tense of a verb in the past tense. -/
def present (word : List Char) : List Char :=
  match stripEnding? ['i', 'e', 'd'] word with
  | some stem => stem ++ ['y']
  | none =>
    match stripEnding? ['e', 'd'] word with
    | none => word
    | some stem =>
      if stem.isEmpty then word
      else if isDoubled stem then stem.dropLast
      else if ['e'].isSuffixOf stem then stem
      else if silentEndings.any (·.isSuffixOf stem) then stem ++ ['e']
      else stem

end EventNet.Tense
