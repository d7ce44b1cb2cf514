import EventNet.Proofs.Expr.Lexemes
import Mathlib.Data.String.Basic

/-!
What a text is split into.

`Munches` goes through a text from its front, as `tokensFrom` does: it passes over blanks, and at every
other place it takes the longest lexeme that starts there.  A text is split into tokens exactly by going
through it to its end, and if that fails there is a place, reached in the same way, where no lexeme
starts.  Positions count bytes, so each of them is the number of bytes of the text before it.
-/

namespace EventNet

namespace Lexer

/-! ### Bytes -/

theorem byteLength_append (cs ds : List Char) :
    byteLength (cs ++ ds) = byteLength cs + byteLength ds := by
  induction cs with
  | nil => exact (Nat.zero_add _).symm
  | cons c cs ih =>
      show c.utf8Size + byteLength (cs ++ ds) = c.utf8Size + byteLength cs + byteLength ds
      rw [ih, Nat.add_assoc]

theorem byteLength_eq (cs : List Char) : byteLength cs = (String.ofList cs).utf8ByteSize := by
  induction cs with
  | nil => rfl
  | cons c cs ih =>
      have hcons : String.ofList (c :: cs) = String.singleton c ++ String.ofList cs := by
        rw [← List.singleton_append, String.ofList_append]
        rfl
      rw [hcons, String.utf8ByteSize_append, String.utf8ByteSize_singleton, ← ih]
      rfl

theorem byteLength_toList (text : String) : byteLength text.toList = text.utf8ByteSize := by
  rw [byteLength_eq, String.ofList_toList]

theorem Lexeme.byteLength_pos {cs : List Char} {t : Token} (h : Lexeme cs t) :
    0 < byteLength cs := by
  obtain ⟨c, rest, rfl, -⟩ := h.alone 0
  exact Nat.lt_of_lt_of_le c.utf8Size_pos (Nat.le_add_right _ _)

/-! ### Going through a text -/

/-- A lexeme at its place in a text. -/
structure Piece where
  position : Nat
  chars : List Char
  token : Token

/-- The token of a lexeme and where it starts. -/
def Piece.spanned (p : Piece) : Spanned :=
  ⟨p.token, p.position⟩

/-- Some characters, which start at a position, are gone through up to another position, and others
are left there.  Blanks are passed over, and otherwise the longest lexeme is taken. -/
inductive Munches : (position : Nat) → List Char → List Piece → (finish : Nat) → List Char → Prop
  | done (position : Nat) (cs : List Char) : Munches position cs [] position cs
  | blank {position finish : Nat} {c : Char} {cs left : List Char} {pieces : List Piece}
      (hc : Text.isBlank c = true) (rest : Munches (position + c.utf8Size) cs pieces finish left) :
      Munches position (c :: cs) pieces finish left
  | lexeme {position finish : Nat} {cs after left : List Char} {t : Token} {pieces : List Piece}
      (hlongest : Longest cs t after)
      (rest : Munches (position + byteLength cs) after pieces finish left) :
      Munches position (cs ++ after) (⟨position, cs, t⟩ :: pieces) finish left

section

variable {position finish : Nat} {cs left : List Char} {pieces : List Piece}

/-- What is split into tokens is gone through to its end, and where that fails nothing can be taken. -/
theorem munches_tokensFrom (position : Nat) (cs : List Char) :
    (∀ tokens, tokensFrom position cs = .ok tokens →
      ∃ pieces, Munches position cs pieces (position + byteLength cs) [] ∧
        tokens = pieces.map Piece.spanned ++ [⟨.eof, position + byteLength cs⟩]) ∧
    (∀ e, tokensFrom position cs = .error e →
      ∃ pieces finish left, Munches position cs pieces finish left ∧ Stuck left) := by
  fun_induction tokensFrom position cs with
  | case1 position =>
      refine ⟨fun tokens h => ?_, fun e h => nomatch h⟩
      obtain rfl := Except.ok.inj h
      exact ⟨[], .done position [], rfl⟩
  | case2 position c rest hc ih =>
      have hbytes : position + byteLength (c :: rest) =
          position + c.utf8Size + byteLength rest := (Nat.add_assoc ..).symm
      rw [hbytes]
      refine ⟨fun tokens h => ?_, fun e h => ?_⟩
      · obtain ⟨pieces, hrest, htokens⟩ := ih.1 tokens h
        exact ⟨pieces, .blank hc hrest, htokens⟩
      · obtain ⟨pieces, finish, left, hrest, hstuck⟩ := ih.2 e h
        exact ⟨pieces, finish, left, .blank hc hrest, hstuck⟩
  | case3 position c rest hc e hscan =>
      refine ⟨fun tokens h => (nomatch h), fun e h => ?_⟩
      have hblank : Text.isBlank c = false := by simpa using hc
      exact ⟨[], position, c :: rest, .done position _, stuck_of_lexeme hblank hscan⟩
  | case4 position c rest hc t n hscan ih =>
      have hlongest := longest_of_lexeme hscan
      have hsplit : c :: rest = (c :: rest.take n) ++ rest.drop n := by
        rw [List.cons_append, List.take_append_drop]
      have hbytes : position + byteLength (c :: rest) =
          position + byteLength (c :: rest.take n) + byteLength (rest.drop n) := by
        rw [hsplit, byteLength_append, Nat.add_assoc]
      rw [hbytes, hsplit]
      refine ⟨fun tokens h => ?_, fun e h => ?_⟩
      · cases hrest : tokensFrom (position + byteLength (c :: rest.take n)) (rest.drop n) with
        | error e =>
            rw [hrest] at h
            cases h
        | ok later =>
            rw [hrest] at h
            obtain rfl := Except.ok.inj h
            obtain ⟨pieces, hmunches, rfl⟩ := ih.1 later hrest
            exact ⟨_, .lexeme hlongest hmunches, rfl⟩
      · cases hrest : tokensFrom (position + byteLength (c :: rest.take n)) (rest.drop n) with
        | error e =>
            obtain ⟨pieces, finish, left, hmunches, hstuck⟩ := ih.2 e hrest
            exact ⟨_, finish, left, .lexeme hlongest hmunches, hstuck⟩
        | ok later =>
            rw [hrest] at h
            cases h

/-- Each piece is the longest lexeme at its place. -/
theorem Munches.placed (h : Munches position cs pieces finish left) :
    ∀ p ∈ pieces, ∃ before after, cs = before ++ (p.chars ++ after) ∧
      p.position = position + byteLength before ∧ Longest p.chars p.token after := by
  induction h with
  | done => exact fun p hp => absurd hp List.not_mem_nil
  | @blank position finish c cs left pieces hc rest ih =>
      intro p hp
      obtain ⟨before, after, rfl, hposition, hlongest⟩ := ih p hp
      refine ⟨c :: before, after, rfl, ?_, hlongest⟩
      rw [hposition]
      exact Nat.add_assoc ..
  | @lexeme position finish cs after left t pieces hlongest rest ih =>
      intro p hp
      rcases List.mem_cons.mp hp with rfl | hp
      · exact ⟨[], after, rfl, rfl, hlongest⟩
      · obtain ⟨before, tail, rfl, hposition, hlater⟩ := ih p hp
        refine ⟨cs ++ before, tail, (List.append_assoc ..).symm, ?_, hlater⟩
        rw [hposition, byteLength_append, Nat.add_assoc]

/-- Going on from a place later in the text. -/
theorem Munches.left_eq (h : Munches position cs pieces finish left) :
    ∃ before, cs = before ++ left ∧ finish = position + byteLength before := by
  induction h with
  | done => exact ⟨[], rfl, rfl⟩
  | @blank position finish c cs left pieces hc rest ih =>
      obtain ⟨before, rfl, rfl⟩ := ih
      exact ⟨c :: before, rfl, Nat.add_assoc ..⟩
  | @lexeme position finish cs after left t pieces hlongest rest ih =>
      obtain ⟨before, rfl, rfl⟩ := ih
      refine ⟨cs ++ before, (List.append_assoc ..).symm, ?_⟩
      rw [byteLength_append, Nat.add_assoc]

/-- The pieces come one after the other. -/
theorem Munches.ascending (h : Munches position cs pieces finish left) :
    (∀ p ∈ pieces, position ≤ p.position ∧ p.position < finish) ∧ position ≤ finish ∧
      pieces.Pairwise fun p q => p.position < q.position := by
  induction h with
  | done => simp
  | blank hc rest ih =>
      obtain ⟨hwithin, hle, hpairs⟩ := ih
      refine ⟨fun p hp => ⟨?_, (hwithin p hp).2⟩, ?_, hpairs⟩
      · exact Nat.le_trans (Nat.le_add_right _ _) (hwithin p hp).1
      · exact Nat.le_trans (Nat.le_add_right _ _) hle
  | lexeme hlongest rest ih =>
      obtain ⟨hwithin, hle, hpairs⟩ := ih
      have hpos := hlongest.lexeme.byteLength_pos
      refine ⟨?_, by omega, List.pairwise_cons.mpr ⟨fun p hp => ?_, hpairs⟩⟩
      · intro p hp
        rcases List.mem_cons.mp hp with rfl | hp
        · dsimp only
          omega
        · have := hwithin p hp
          omega
      · have := hwithin p hp
        dsimp only
        omega

end

/-! ### Texts -/

/-- A lexeme is split into its token, if it is the whole text. -/
theorem Lexeme.tokenize {cs : List Char} {t : Token} (h : Lexeme cs t) :
    EventNet.tokenize (String.ofList cs) =
      .ok [⟨t, 0⟩, ⟨.eof, (String.ofList cs).utf8ByteSize⟩] := by
  obtain ⟨c, rest, rfl, hscan⟩ := h.alone 0
  rw [EventNet.tokenize, String.toList_ofList, tokensFrom, h.not_isBlank, hscan, ← byteLength_eq]
  simp [tokensFrom, Except.map]

theorem Lexeme.ne_eof {cs : List Char} {t : Token} (h : Lexeme cs t) : t ≠ .eof := by
  intro heof
  cases h with
  | keyword hmem =>
      have hall : ∀ k ∈ keywords, k.2 ≠ .eof := by
        simp [keywords]
      exact hall _ hmem heof
  | operator hmem =>
      have hall : ∀ o ∈ operators, o.2 ≠ .eof := by
        simp [operators]
      exact hall _ hmem heof
  | _ => cases heof

/-- A number of bytes after which a character of the text starts, or the text ends. -/
theorem isValid_byteLength {text : String} {before after : List Char}
    (h : text.toList = before ++ after) :
    (⟨byteLength before⟩ : String.Pos.Raw).IsValid text := by
  refine String.Pos.Raw.isValid_iff_exists_append.mpr
    ⟨String.ofList before, String.ofList after, ?_, ?_⟩
  · rw [← String.ofList_append, ← h, String.ofList_toList]
  · exact congrArg String.Pos.Raw.mk (byteLength_eq before)

/-- How a text and its tokens belong together. -/
structure Munched (text : String) (pieces : List Piece) (tokens : List Spanned) : Prop where
  /-- Going through the text by longest lexemes leads to its end. -/
  whole : Munches 0 text.toList pieces text.utf8ByteSize []
  /-- There is a token to each lexeme, and one for the end of the text. -/
  tokens_eq : tokens = pieces.map Piece.spanned ++ [⟨.eof, text.utf8ByteSize⟩]
  ends_once : ∀ p ∈ pieces, p.token ≠ .eof
  placed : ∀ p ∈ pieces, ∃ before after, text.toList = before ++ (p.chars ++ after) ∧
    p.position = (String.ofList before).utf8ByteSize ∧ Longest p.chars p.token after
  alone : ∀ p ∈ pieces, tokenize (String.ofList p.chars) =
    .ok [⟨p.token, 0⟩, ⟨.eof, (String.ofList p.chars).utf8ByteSize⟩]
  ascending : tokens.Pairwise fun s t => s.position < t.position
  boundaries : ∀ t ∈ tokens, (⟨t.position⟩ : String.Pos.Raw).IsValid text

/-- A place in a text, after a sequence of longest lexemes, where no lexeme starts. -/
structure Halted (text : String) (pieces : List Piece) (position : Nat) (left : List Char) :
    Prop where
  reached : Munches 0 text.toList pieces position left
  placed : ∃ before, text.toList = before ++ left ∧
    position = (String.ofList before).utf8ByteSize
  stuck : Stuck left

theorem Munches.munched {text : String} {pieces : List Piece}
    (h : Munches 0 text.toList pieces text.utf8ByteSize []) :
    Munched text pieces (pieces.map Piece.spanned ++ [⟨.eof, text.utf8ByteSize⟩]) := by
  have hplaced := h.placed
  obtain ⟨hwithin, -, hpairs⟩ := h.ascending
  refine ⟨h, rfl, fun p hp => ?_, fun p hp => ?_, fun p hp => ?_, ?_, ?_⟩
  · obtain ⟨before, after, -, -, hlongest⟩ := hplaced p hp
    exact hlongest.lexeme.ne_eof
  · obtain ⟨before, after, htext, hposition, hlongest⟩ := hplaced p hp
    rw [Nat.zero_add, byteLength_eq] at hposition
    exact ⟨before, after, htext, hposition, hlongest⟩
  · obtain ⟨before, after, -, -, hlongest⟩ := hplaced p hp
    exact hlongest.lexeme.tokenize
  · refine List.pairwise_append.mpr ⟨List.pairwise_map.mpr hpairs, List.pairwise_singleton _ _, ?_⟩
    intro s hs t ht
    obtain ⟨p, hp, rfl⟩ := List.mem_map.mp hs
    obtain rfl := List.mem_singleton.mp ht
    exact (hwithin p hp).2
  · intro t ht
    rcases List.mem_append.mp ht with hpiece | hend
    · obtain ⟨p, hp, rfl⟩ := List.mem_map.mp hpiece
      obtain ⟨before, after, htext, hposition, -⟩ := hplaced p hp
      rw [Nat.zero_add] at hposition
      show (⟨p.position⟩ : String.Pos.Raw).IsValid text
      rw [hposition]
      exact isValid_byteLength htext
    · obtain rfl := List.mem_singleton.mp hend
      have hall : (⟨byteLength text.toList⟩ : String.Pos.Raw).IsValid text :=
        isValid_byteLength (List.append_nil text.toList).symm
      rwa [byteLength_toList] at hall

/-- **A text is split into its longest lexemes, or there is a place where none starts.** -/
theorem tokenize_munches (text : String) :
    match tokenize text with
    | .ok tokens => ∃ pieces, Munched text pieces tokens
    | .error _ => ∃ pieces position left, Halted text pieces position left := by
  obtain ⟨hok, herror⟩ := munches_tokensFrom 0 text.toList
  rw [Nat.zero_add, byteLength_toList] at hok
  cases h : tokenize text with
  | ok tokens =>
      obtain ⟨pieces, hmunches, rfl⟩ := hok tokens h
      exact ⟨pieces, hmunches.munched⟩
  | error e =>
      obtain ⟨pieces, position, left, hmunches, hstuck⟩ := herror e h
      obtain ⟨before, htext, rfl⟩ := hmunches.left_eq
      refine ⟨pieces, _, left, hmunches, ⟨before, htext, ?_⟩, hstuck⟩
      rw [Nat.zero_add, byteLength_eq]

end Lexer

end EventNet
