import EventNet.Proofs.Expr.Parsing

/-!
Texts that are written from tokens.

A text is split into tokens from its front: blanks are passed over, and a lexeme is taken whole if
what follows does not continue it.  So a text that is put together from the lexemes of some tokens is
split into them again, and what it is parsed to is told by their derivation.
-/

namespace EventNet

namespace Lexer

/-- A text that is split into some tokens and its end, wherever it starts. -/
def Reads (cs : List Char) (words : List Token) : Prop :=
  ∀ position, ∃ ts, tokensFrom position cs = .ok ts ∧ ts.map (·.token) = words ++ [.eof]

section

variable {c : Char} {cs tail : List Char} {t : Token} {words : List Token}

theorem reads_nil : Reads [] [] := by
  intro position
  rw [tokensFrom]
  exact ⟨_, rfl, rfl⟩

theorem Reads.blank (hc : Text.isBlank c = true) (h : Reads cs words) : Reads (c :: cs) words := by
  intro position
  rw [tokensFrom, if_pos hc]
  exact h _

theorem Reads.lexeme (hc : Text.isBlank c = false)
    (hl : ∀ position, Lexer.lexeme position c (tail ++ cs) = .ok (t, tail.length))
    (h : Reads cs words) : Reads (c :: (tail ++ cs)) (t :: words) := by
  intro position
  obtain ⟨ts, hts, hwords⟩ := h (position + byteLength (c :: tail))
  refine ⟨⟨t, position⟩ :: ts, ?_, congrArg (t :: ·) hwords⟩
  rw [tokensFrom, hc, hl]
  simp [hts, Except.map]

/-- A lexeme of one character. -/
theorem Reads.single (hc : Text.isBlank c = false)
    (hl : ∀ position, Lexer.lexeme position c cs = .ok (t, 0)) (h : Reads cs words) :
    Reads (c :: cs) (t :: words) :=
  @Reads.lexeme c cs [] t words hc hl h

end

/-! ### Names -/

/-- A text that is read as an identifier. -/
def IsName (name : String) : Prop :=
  ∃ c tail, name.toList = c :: tail ∧ startsName c = true ∧ (∀ d ∈ tail, continuesName d = true) ∧
    nameToken name = .ident name

/-- A character of a class lies in one of its ranges. -/
theorem exists_range {ranges : Text.CharRanges} {n : Nat} (h : ranges.holds n = true) :
    ∃ r ∈ ranges, r.1 ≤ n ∧ n ≤ r.2 := by
  induction ranges with
  | nil => cases h
  | cons r ranges ih =>
      rw [Text.CharRanges.holds] at h
      by_cases hlow : n < r.1
      · simp [hlow] at h
      · by_cases hhigh : n ≤ r.2
        · exact ⟨r, List.mem_cons_self, Nat.le_of_not_lt hlow, hhigh⟩
        · simp only [hlow, hhigh, if_false, decide_false, Bool.false_or] at h
          obtain ⟨r', hr', hn⟩ := ih h
          exact ⟨r', List.mem_cons_of_mem r hr', hn⟩

/-- No blank is alphabetic. -/
theorem alphabetic_of_blank : ∀ r ∈ Text.blankRanges, ∀ n ∈ List.range' r.1 (r.2 + 1 - r.1),
    Text.alphabeticRanges.holds n = false := by
  decide +kernel

section

variable {c : Char}

/-- Names start at the code of the first letter or beyond. -/
theorem code_of_startsName (h : startsName c = true) : 65 ≤ c.toNat := by
  refine Nat.le_of_not_lt fun hlt => ?_
  have hletter : Text.isAlphabetic c = false := by
    unfold Text.isAlphabetic Text.CharRanges.contains Text.alphabeticRanges
    rw [Text.CharRanges.holds, if_pos hlt]
  have hscore : (c == '_') = false := by
    rw [beq_eq_false_iff_ne]
    rintro rfl
    exact absurd hlt (by decide)
  simp [startsName, hletter, hscore] at h

theorem ne_of_startsName (h : startsName c = true) {d : Char} (hd : d.toNat < 65) : c ≠ d := by
  rintro rfl
  exact absurd (code_of_startsName h) (Nat.not_le_of_lt hd)

theorem not_isDigit_of_startsName (h : startsName c = true) : c.isDigit = false := by
  have hcode := code_of_startsName h
  have hdigit : ¬ c.toNat ≤ 57 := by omega
  rw [Char.isDigit, Bool.and_eq_false_iff]
  exact Or.inr (decide_eq_false hdigit)

theorem not_isBlank_of_startsName (h : startsName c = true) : Text.isBlank c = false := by
  rw [startsName, Bool.or_eq_true] at h
  rcases h with halpha | hscore
  · rw [← Bool.not_eq_true]
    intro hblank
    obtain ⟨r, hr, hlow, hhigh⟩ := exists_range hblank
    have hmem : c.toNat ∈ List.range' r.1 (r.2 + 1 - r.1) := by
      rw [List.mem_range'_1]
      omega
    have hnone := alphabetic_of_blank r hr c.toNat hmem
    exact absurd (halpha.symm.trans hnone) nofun
  · obtain rfl := eq_of_beq hscore
    rfl

/-- A name is read up to the first character that does not continue it. -/
theorem lexeme_name {name : String} {tail cs : List Char} (hname : name.toList = c :: tail)
    (hstart : startsName c = true) (htail : ∀ d ∈ tail, continuesName d = true)
    (hnext : ∀ d, cs.head? = some d → continuesName d = false) (position : Nat) :
    lexeme position c (tail ++ cs) = .ok (nameToken name, tail.length) := by
  have hnumber : startsNumber c (tail ++ cs) = false := by
    have hdot : (c == '.') = false := by
      rw [beq_eq_false_iff_ne]
      exact ne_of_startsName hstart (by decide)
    simp [startsNumber, not_isDigit_of_startsName hstart, hdot]
  have hquote : (c == '"' || c == '\'') = false := by
    have hdouble := ne_of_startsName (d := '"') hstart (by decide)
    have hsingle := ne_of_startsName (d := '\'') hstart (by decide)
    simp [hdouble, hsingle]
  have htake : (tail ++ cs).takeWhile continuesName = tail := by
    rw [List.takeWhile_append_of_pos htail]
    cases cs with
    | nil => simp
    | cons d cs => simp [hnext d rfl]
  rw [lexeme, hnumber, hquote, hstart]
  simp [htake, ← hname]

end

theorem Reads.name {name : String} {cs : List Char} {words : List Token} (hname : IsName name)
    (hnext : ∀ d, cs.head? = some d → continuesName d = false) (h : Reads cs words) :
    Reads (name.toList ++ cs) (.ident name :: words) := by
  obtain ⟨c, tail, heq, hstart, htail, htoken⟩ := hname
  rw [heq]
  refine Reads.lexeme (not_isBlank_of_startsName hstart) (fun position => ?_) h
  rw [lexeme_name heq hstart htail hnext, htoken]

theorem Reads.name_before {name : String} {d : Char} {cs : List Char} {words : List Token}
    (hname : IsName name) (hd : continuesName d = false) (h : Reads (d :: cs) words) :
    Reads (name.toList ++ d :: cs) (.ident name :: words) := by
  refine Reads.name hname (fun d' hd' => ?_) h
  obtain rfl := Option.some.inj hd'
  exact hd

/-! ### Lexemes between blanks -/

/-- How a token is written, numbers, strings and the end of the text apart. -/
def spelling : Token → List Char
  | .ident name => name.toList
  | .true => ['t', 'r', 'u', 'e']
  | .false => ['f', 'a', 'l', 's', 'e']
  | .nil => ['n', 'i', 'l']
  | .and => ['&', '&']
  | .or => ['|', '|']
  | .not => ['!']
  | .eq => ['=', '=']
  | .ne => ['!', '=']
  | .lt => ['<']
  | .le => ['<', '=']
  | .gt => ['>']
  | .ge => ['>', '=']
  | .plus => ['+']
  | .minus => ['-']
  | .star => ['*']
  | .slash => ['/']
  | .percent => ['%']
  | .leftParen => ['(']
  | .rightParen => [')']
  | .leftBracket => ['[']
  | .rightBracket => [']']
  | .dot => ['.']
  | .comma => [',']
  | .number _ | .str _ | .eof => []

/-- A token that is read from its spelling. -/
def Spelled : Token → Prop
  | .ident name => IsName name
  | .number _ | .str _ | .eof => False
  | _ => True

/-- A text of some tokens, with a blank after each. -/
def written (words : List Token) : List Char :=
  words.flatMap fun t => spelling t ++ [' ']

theorem reads_spelling {t : Token} (ht : Spelled t) {cs : List Char} {words : List Token}
    (h : Reads (' ' :: cs) words) : Reads (spelling t ++ ' ' :: cs) (t :: words) := by
  cases t with
  | ident name => exact h.name_before ht rfl
  | number x => exact ht.elim
  | str s => exact ht.elim
  | eof => exact ht.elim
  | _ => exact h.lexeme rfl fun position => rfl

theorem reads_written {words : List Token} (h : ∀ t ∈ words, Spelled t) :
    Reads (written words) words := by
  induction words with
  | nil => exact reads_nil
  | cons t words ih =>
      have ht : Spelled t := h t List.mem_cons_self
      have hrest := ih fun t' ht' => h t' (List.mem_cons_of_mem t ht')
      have hblank : Reads (' ' :: written words) words := hrest.blank rfl
      have htext : written (t :: words) = spelling t ++ ' ' :: written words := by
        simp [written]
      rw [htext]
      exact reads_spelling ht hblank

end Lexer

namespace Grammar

/-- A text is parsed to the meaning of the derivation of its tokens if that does not go too deep. -/
theorem Derivation.parse_eq {text : String} {words : List Token}
    (h : Lexer.Reads text.toList words) (d : Derivation words) :
    Expr.parse text = within Parser.maxDepth d.phrase.depth d.phrase.tree := by
  obtain ⟨ts, hts, hwords⟩ := h 0
  have heof : .eof ∉ words := by
    rw [← d.derives]
    exact d.phrase.eof_not_mem_words
  obtain rfl := sentence_of_map_eq hwords heof
  rw [Expr.parse, tokenize, hts]
  exact d.whole_eq

/-- A text is parsed to the meaning of a derivation of its tokens that opens no more levels than
allowed. -/
theorem parse_eq_ok_iff {text : String} {e : Expr} :
    Expr.parse text = .ok e ↔ ∃ ts, tokenize text = .ok ts ∧
      ∃ d : Derivation (sentence ts), d.phrase.depth ≤ Parser.maxDepth ∧ d.phrase.tree = e := by
  rw [Expr.parse]
  cases hts : tokenize text with
  | error fault =>
      refine iff_of_false nofun ?_
      rintro ⟨ts, heq, -⟩
      cases heq
  | ok ts =>
      constructor
      · intro h
        rcases whole_cases ts with ⟨d, hfits, hwhole⟩ | ⟨fault, hwhole, -⟩
        · exact ⟨ts, rfl, d, hfits, Except.ok.inj (hwhole.symm.trans h)⟩
        · cases hwhole.symm.trans h
      · rintro ⟨_, heq, d, hfits, rfl⟩
        obtain rfl := Except.ok.inj heq
        exact d.whole_eq.trans (within_of_le hfits)

end Grammar

end EventNet
