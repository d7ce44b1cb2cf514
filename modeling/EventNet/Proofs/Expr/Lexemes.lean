import EventNet.Proofs.Expr.Spelling
import Mathlib.Data.Nat.Digits.Defs

/-!
A text is split into the longest lexemes.

`Lexeme` lists the forms of lexemes: numbers, quoted strings, keywords, identifiers and operators, each with
the token that it is read as.  It says so by itself, from the characters alone and not through what the
scanner does.  Two facts about the scanner carry everything.  What it takes is a lexeme
(`lexeme_sound`), and where a text starts with a lexeme it takes a token that reaches at least to the
end of it (`Lexeme.scanned`).  So what is taken is the longest lexeme there is, a lexeme that stands
alone is taken as a whole, and where the scanner fails no lexeme starts.  Splitting a text goes from its
front, and `Munches` follows it: a blank is passed over, and the longest lexeme is taken.
-/

namespace EventNet

namespace Lexer

/-! ### The forms of lexemes -/

/-- One or more digits. -/
def Digits (cs : List Char) : Prop :=
  cs ≠ [] ∧ ∀ c ∈ cs, c.isDigit = true

/-- The number that a digit stands for. -/
def digit (c : Char) : Nat :=
  c.toNat - '0'.toNat

/-- The number with some digits before its point and some behind it: the double nearest to it. -/
def decimalValue (ds fs : List Char) : Float :=
  Float.ofScientific (Nat.ofDigits 10 ((ds ++ fs).reverse.map digit)) true fs.length

/-- What may follow a backslash, and what it stands for there. -/
def escapes : List (Char × Char) :=
  [('n', '\n'), ('t', '\t'), ('r', '\r'), ('\\', '\\'), ('"', '"'), ('\'', '\'')]

/-- What can stand between two quotes, and the content that is written so. -/
inductive Enclosed (quote : Char) : (body content : List Char) → Prop
  | empty : Enclosed quote [] []
  | plain {c : Char} {body content : List Char} (hquote : c ≠ quote) (hslash : c ≠ '\\')
      (rest : Enclosed quote body content) : Enclosed quote (c :: body) (c :: content)
  | escape {c x : Char} {body content : List Char} (hescape : (c, x) ∈ escapes)
      (rest : Enclosed quote body content) : Enclosed quote ('\\' :: c :: body) (x :: content)

/-- The names that are no identifiers. -/
def keywords : List (List Char × Token) :=
  [(['t', 'r', 'u', 'e'], .true), (['f', 'a', 'l', 's', 'e'], .false), (['n', 'i', 'l'], .nil),
   (['n', 'u', 'l', 'l'], .nil)]

/-- The operators. -/
def operators : List (List Char × Token) :=
  [(['&', '&'], .and), (['|', '|'], .or), (['=', '='], .eq), (['!', '='], .ne), (['<', '='], .le),
   (['>', '='], .ge), (['!'], .not), (['<'], .lt), (['>'], .gt), (['+'], .plus), (['-'], .minus),
   (['*'], .star), (['/'], .slash), (['%'], .percent), (['('], .leftParen), ([')'], .rightParen),
   (['['], .leftBracket), ([']'], .rightBracket), (['.'], .dot), ([','], .comma)]

/-- The characters of a lexeme, and the token they are read as. -/
inductive Lexeme : List Char → Token → Prop
  | whole {ds : List Char} (hds : Digits ds) : Lexeme ds (.number (decimalValue ds []))
  | decimal {ds fs : List Char} (hds : Digits ds) (hfs : Digits fs) :
      Lexeme (ds ++ '.' :: fs) (.number (decimalValue ds fs))
  /-- The digits before the point may be left out, but not those behind it. -/
  | fraction {fs : List Char} (hfs : Digits fs) :
      Lexeme ('.' :: fs) (.number (decimalValue [] fs))
  | quoted {quote : Char} {body content : List Char} (hquote : quote = '"' ∨ quote = '\'')
      (hbody : Enclosed quote body content) :
      Lexeme (quote :: (body ++ [quote])) (.str (String.ofList content))
  | keyword {cs : List Char} {t : Token} (h : (cs, t) ∈ keywords) : Lexeme cs t
  /-- A letter or an underscore, and then letters, numerals and underscores.  Letters and numerals are those
  of the Unicode Character Database. -/
  | identifier {c : Char} {tail : List Char} (hc : Text.isAlphabetic c = true ∨ c = '_')
      (htail : ∀ d ∈ tail, Text.isAlphanumeric d = true ∨ d = '_')
      (hfree : ∀ t, (c :: tail, t) ∉ keywords) :
      Lexeme (c :: tail) (.ident (String.ofList (c :: tail)))
  | operator {cs : List Char} {t : Token} (h : (cs, t) ∈ operators) : Lexeme cs t

/-! ### Digits -/

section

variable {c : Char} {cs ds fs tail : List Char}

theorem ne_point_of_isDigit (h : c.isDigit = true) : c ≠ '.' := by
  rintro rfl
  exact absurd h (by decide)

theorem takeWhile_digits (h : ∀ d ∈ ds, d.isDigit = true) (tail : List Char) :
    (ds ++ tail).takeWhile Char.isDigit = ds ++ tail.takeWhile Char.isDigit :=
  List.takeWhile_append_of_pos h

theorem takeWhile_digits_point (h : ∀ d ∈ ds, d.isDigit = true) (tail : List Char) :
    (ds ++ '.' :: tail).takeWhile Char.isDigit = ds := by
  rw [takeWhile_digits h, List.takeWhile_cons_of_neg (by decide), List.append_nil]

theorem take_length_takeWhile (p : Char → Bool) (cs : List Char) :
    cs.take (cs.takeWhile p).length = cs.takeWhile p :=
  (List.prefix_iff_eq_take.mp (List.takeWhile_prefix p)).symm

theorem takeWhile_append_drop (p : Char → Bool) (cs : List Char) :
    cs.takeWhile p ++ cs.drop (cs.takeWhile p).length = cs := by
  calc cs.takeWhile p ++ cs.drop (cs.takeWhile p).length
      = cs.take (cs.takeWhile p).length ++ cs.drop (cs.takeWhile p).length := by
        rw [take_length_takeWhile]
    _ = cs := List.take_append_drop _ _

theorem isDigit_of_mem_takeWhile (h : c ∈ cs.takeWhile Char.isDigit) : c.isDigit = true :=
  List.all_eq_true.mp List.all_takeWhile c h

theorem foldl_digits (cs : List Char) :
    cs.foldl (fun n c => n * 10 + (c.toNat - '0'.toNat)) 0 =
      Nat.ofDigits 10 (cs.reverse.map digit) := by
  rw [Nat.ofDigits_eq_foldr, List.foldr_map, List.foldr_reverse]
  congr
  funext n c
  simp only [digit, Nat.cast_id]
  omega

theorem numberValue_digits (h : ∀ d ∈ ds, d.isDigit = true) : numberValue ds = decimalValue ds [] := by
  have hpoint : ∀ d ∈ ds, (d != '.') = true := fun d hd => bne_iff_ne.mpr (ne_point_of_isDigit (h d hd))
  have hend : ds.dropWhile (· != '.') = [] := by
    rw [← List.append_nil ds]
    exact List.dropWhile_append_of_pos hpoint
  rw [numberValue, List.filter_eq_self.mpr hpoint, hend, foldl_digits, decimalValue, List.append_nil]
  rfl

theorem numberValue_point (hds : ∀ d ∈ ds, d.isDigit = true) (hfs : ∀ d ∈ fs, d.isDigit = true) :
    numberValue (ds ++ '.' :: fs) = decimalValue ds fs := by
  have hpoint : ∀ {cs : List Char}, (∀ d ∈ cs, d.isDigit = true) → ∀ d ∈ cs, (d != '.') = true :=
    fun h d hd => bne_iff_ne.mpr (ne_point_of_isDigit (h d hd))
  have hfraction : (ds ++ '.' :: fs).dropWhile (· != '.') = '.' :: fs :=
    (List.dropWhile_append_of_pos (hpoint hds)).trans (List.dropWhile_cons_of_neg (by decide))
  rw [numberValue, List.filter_append, List.filter_cons_of_neg (by decide),
    List.filter_eq_self.mpr (hpoint hds), List.filter_eq_self.mpr (hpoint hfs), hfraction, foldl_digits]
  rfl

theorem numberValue_fraction (hfs : ∀ d ∈ fs, d.isDigit = true) :
    numberValue ('.' :: fs) = decimalValue [] fs := by
  rw [← numberValue_point (fun d hd => absurd hd List.not_mem_nil) hfs, List.nil_append]

theorem le_numberTail (cs : List Char) : (cs.takeWhile Char.isDigit).length ≤ numberTail cs := by
  unfold numberTail
  dsimp only
  split
  · split
    · omega
    · exact Nat.le_refl _
  · exact Nat.le_refl _

/-- A point before a digit continues a number. -/
theorem numberTail_point (hds : ∀ d ∈ ds, d.isDigit = true) (hfs : Digits fs) (tail : List Char) :
    numberTail (ds ++ '.' :: (fs ++ tail)) =
      ds.length + 1 + ((fs ++ tail).takeWhile Char.isDigit).length := by
  obtain ⟨hne, hdigits⟩ := hfs
  obtain ⟨f, fs, rfl⟩ := List.exists_cons_of_ne_nil hne
  have hf : f.isDigit = true := hdigits f List.mem_cons_self
  unfold numberTail
  dsimp only
  rw [takeWhile_digits_point hds, List.drop_left, List.cons_append]
  exact if_pos hf

/-- What follows the first digit of a number: more digits, and perhaps a point with digits. -/
theorem take_numberTail (cs : List Char) :
    numberTail cs ≤ cs.length ∧
      (cs.take (numberTail cs) = cs.takeWhile Char.isDigit ∨
        ∃ fs, Digits fs ∧ cs.take (numberTail cs) = cs.takeWhile Char.isDigit ++ '.' :: fs) := by
  have hsplit := takeWhile_append_drop Char.isDigit cs
  have hwhole := take_length_takeWhile Char.isDigit cs
  have hle := (List.takeWhile_prefix (l := cs) Char.isDigit).length_le
  unfold numberTail
  dsimp only
  generalize cs.takeWhile Char.isDigit = ds at hsplit hwhole hle ⊢
  split
  · rename_i f rest hdrop
    rw [hdrop] at hsplit
    subst hsplit
    have hfraction := (List.takeWhile_prefix (l := f :: rest) Char.isDigit).length_le
    split
    · rename_i hf
      refine ⟨?_, Or.inr ⟨(f :: rest).takeWhile Char.isDigit, ⟨?_, ?_⟩, ?_⟩⟩
      · simp only [List.length_append, List.length_cons] at hfraction ⊢
        omega
      · simp [hf]
      · exact fun d hd => isDigit_of_mem_takeWhile hd
      · rw [Nat.add_assoc, List.take_length_add_append, Nat.add_comm 1, List.take_succ_cons,
          take_length_takeWhile]
    · exact ⟨hle, Or.inl hwhole⟩
  · exact ⟨hle, Or.inl hwhole⟩

end

/-! ### Quotes -/

/-- A result that was changed is there. -/
private theorem ok_of_map {α β : Type} {f : α → β} {r : Except ExprError α} {b : β}
    (h : r.map f = .ok b) : ∃ a, r = .ok a ∧ f a = b := by
  cases r with
  | error e => cases h
  | ok a => exact ⟨a, rfl, Except.ok.inj h⟩

theorem escaped?_iff {c x : Char} : escaped? c = some x ↔ (c, x) ∈ escapes := by
  constructor
  · intro h
    unfold escaped? at h
    split at h <;> first
      | (obtain rfl := Option.some.inj h; decide)
      | cases h
  · intro h
    simp only [escapes, List.mem_cons, Prod.mk.injEq, List.not_mem_nil, or_false] at h
    rcases h with ⟨rfl, rfl⟩ | ⟨rfl, rfl⟩ | ⟨rfl, rfl⟩ | ⟨rfl, rfl⟩ | ⟨rfl, rfl⟩ | ⟨rfl, rfl⟩ <;> rfl

theorem Enclosed.stringTail {quote : Char} {body content : List Char}
    (h : Enclosed quote body content) (hquote : quote ≠ '\\') (start position : Nat)
    (tail : List Char) :
    Lexer.stringTail quote start position (body ++ quote :: tail) =
      .ok (content, body.length + 1) := by
  induction h generalizing position with
  | empty =>
      rw [List.nil_append]
      unfold Lexer.stringTail
      rw [if_pos (beq_self_eq_true quote)]
      rfl
  | plain hne hslash rest ih =>
      rw [List.cons_append]
      unfold Lexer.stringTail
      simp [hne, hslash, ih, Except.map]
  | escape hescape rest ih =>
      have hne : ¬ ('\\' == quote) = true := by simpa using hquote.symm
      rw [List.cons_append, List.cons_append]
      unfold Lexer.stringTail
      rw [if_neg hne, if_pos (beq_self_eq_true '\\')]
      simp [escaped?_iff.mpr hescape, ih, Except.map]

theorem enclosed_of_stringTail {quote : Char} {start position : Nat} {cs content : List Char}
    {n : Nat} (h : stringTail quote start position cs = .ok (content, n)) :
    ∃ body, Enclosed quote body content ∧ n = body.length + 1 ∧ body ++ [quote] <+: cs := by
  fun_induction stringTail quote start position cs generalizing content n with
  | case1 => cases h
  | case2 position c rest hc =>
      cases h
      obtain rfl := eq_of_beq hc
      exact ⟨[], .empty, rfl, List.prefix_append [c] rest⟩
  | case3 => cases h
  | case4 => cases h
  | case5 position c hquote hslash e rest x hx ih =>
      obtain ⟨⟨content', n'⟩, hrest, hresult⟩ := ok_of_map h
      cases hresult
      obtain ⟨body, hbody, rfl, hstarts⟩ := ih hrest
      obtain rfl := eq_of_beq hslash
      refine ⟨'\\' :: e :: body, .escape (escaped?_iff.mp hx) hbody, rfl, ?_⟩
      exact List.cons_prefix_cons.mpr ⟨rfl, List.cons_prefix_cons.mpr ⟨rfl, hstarts⟩⟩
  | case6 position c rest hquote hslash ih =>
      obtain ⟨⟨content', n'⟩, hrest, hresult⟩ := ok_of_map h
      cases hresult
      obtain ⟨body, hbody, rfl, hstarts⟩ := ih hrest
      refine ⟨c :: body, .plain (by simpa using hquote) (by simpa using hslash) hbody, rfl, ?_⟩
      exact List.cons_prefix_cons.mpr ⟨rfl, hstarts⟩

/-! ### Names -/

theorem startsName_iff {c : Char} : startsName c = true ↔ Text.isAlphabetic c = true ∨ c = '_' := by
  rw [startsName, Bool.or_eq_true, beq_iff_eq]

theorem continuesName_iff {c : Char} :
    continuesName c = true ↔ Text.isAlphanumeric c = true ∨ c = '_' := by
  rw [continuesName, Bool.or_eq_true, beq_iff_eq]

/-- A name has the token of its keyword, or it is an identifier. -/
theorem nameToken_cases (cs : List Char) : (cs, nameToken (String.ofList cs)) ∈ keywords ∨
    nameToken (String.ofList cs) = .ident (String.ofList cs) ∧ ∀ t, (cs, t) ∉ keywords := by
  unfold nameToken
  split <;> rename_i h
  · obtain rfl : cs = ['t', 'r', 'u', 'e'] := String.ofList_inj.mp h
    simp [keywords]
  · obtain rfl : cs = ['f', 'a', 'l', 's', 'e'] := String.ofList_inj.mp h
    simp [keywords]
  · obtain rfl : cs = ['n', 'i', 'l'] := String.ofList_inj.mp h
    simp [keywords]
  · obtain rfl : cs = ['n', 'u', 'l', 'l'] := String.ofList_inj.mp h
    simp [keywords]
  · rename_i htrue hfalse hnil
    refine Or.inr ⟨rfl, fun t hmem => ?_⟩
    simp only [keywords, List.mem_cons, Prod.mk.injEq, List.not_mem_nil, or_false] at hmem
    rcases hmem with ⟨rfl, -⟩ | ⟨rfl, -⟩ | ⟨rfl, -⟩ | ⟨rfl, -⟩
    · exact htrue rfl
    · exact hfalse rfl
    · exact hnil rfl
    · exact h rfl

/-- A keyword is a name, with the token it is read as. -/
theorem keyword_name {cs : List Char} {t : Token} (h : (cs, t) ∈ keywords) :
    ∃ c tail, cs = c :: tail ∧ startsName c = true ∧ (∀ d ∈ tail, continuesName d = true) ∧
      nameToken (String.ofList cs) = t := by
  simp only [keywords, List.mem_cons, Prod.mk.injEq, List.not_mem_nil, or_false] at h
  rcases h with ⟨rfl, rfl⟩ | ⟨rfl, rfl⟩ | ⟨rfl, rfl⟩ | ⟨rfl, rfl⟩ <;>
    exact ⟨_, _, rfl, rfl, List.all_eq_true.mp rfl, rfl⟩

/-! ### Operators -/

/-- An operator of one character, or of two with the next one. -/
theorem operator_of_operator? {c : Char} {next : Option Char} {t : Token} {n : Nat}
    (h : operator? c next = some (t, n)) :
    n = 0 ∧ ([c], t) ∈ operators ∨ ∃ d, next = some d ∧ n = 1 ∧ ([c, d], t) ∈ operators := by
  unfold operator? at h
  split at h <;> first
    | cases h
      done
    | obtain ⟨rfl, rfl⟩ := Prod.mk.inj (Option.some.inj h)
      simp [operators]

/-- Of the operators of one character some are the start of another one. -/
theorem operator?_lengthened {c d : Char} {t u : Token}
    (hone : ∀ e, e ≠ d → operator? c (some e) = some (t, 0))
    (hnone : operator? c none = some (t, 0)) (htwo : operator? c (some d) = some (u, 1))
    (next : Option Char) :
    operator? c next = some (t, 0) ∨ ∃ u, operator? c next = some (u, 1) := by
  cases next with
  | none => exact Or.inl hnone
  | some e =>
      by_cases he : e = d
      · subst he
        exact Or.inr ⟨u, htwo⟩
      · exact Or.inl (hone e he)

/-! ### What the scanner takes -/

section

variable {position n : Nat} {c : Char} {rest : List Char} {t : Token}

/-- What the scanner takes is a lexeme. -/
theorem lexeme_sound (h : lexeme position c rest = .ok (t, n)) :
    n ≤ rest.length ∧ Lexeme (c :: rest.take n) t := by
  unfold lexeme at h
  split at h
  · rename_i hnumber
    obtain ⟨rfl, rfl⟩ := Prod.mk.inj (Except.ok.inj h)
    by_cases hpoint : c = '.'
    · subst hpoint
      rw [if_pos (beq_self_eq_true '.'), take_length_takeWhile]
      have hfs : Digits (rest.takeWhile Char.isDigit) := by
        refine ⟨?_, fun d hd => isDigit_of_mem_takeWhile hd⟩
        cases rest with
        | nil => exact absurd hnumber (by decide)
        | cons d rest =>
            have hd : d.isDigit = true := by simpa [startsNumber] using hnumber
            simp [hd]
      rw [numberValue_fraction hfs.2]
      exact ⟨(List.takeWhile_prefix _).length_le, .fraction hfs⟩
    · have hc : c.isDigit = true := by simpa [startsNumber, hpoint] using hnumber
      have hwhole : Digits (c :: rest.takeWhile Char.isDigit) :=
        ⟨List.cons_ne_nil _ _,
          List.forall_mem_cons.mpr ⟨hc, fun d hd => isDigit_of_mem_takeWhile hd⟩⟩
      rw [if_neg (by simpa using hpoint)]
      obtain ⟨hle, htake | ⟨fs, hfs, htake⟩⟩ := take_numberTail rest
      · rw [htake, numberValue_digits hwhole.2]
        exact ⟨hle, .whole hwhole⟩
      · rw [htake, ← List.cons_append, numberValue_point hwhole.2 hfs.2]
        exact ⟨hle, .decimal hwhole hfs⟩
  split at h
  · rename_i hquote
    obtain ⟨⟨content, m⟩, htail, heq⟩ := ok_of_map h
    obtain ⟨rfl, rfl⟩ := Prod.mk.inj heq
    obtain ⟨body, hbody, rfl, after, rfl⟩ := enclosed_of_stringTail htail
    have hlength : body.length + 1 = (body ++ [c]).length := by simp
    rw [hlength, List.take_left]
    exact ⟨by simp, .quoted (by simpa using hquote) hbody⟩
  split at h
  · rename_i hname
    obtain ⟨rfl, rfl⟩ := Prod.mk.inj (Except.ok.inj h)
    rw [take_length_takeWhile]
    refine ⟨(List.takeWhile_prefix _).length_le, ?_⟩
    rcases nameToken_cases (c :: rest.takeWhile continuesName) with hkeyword | ⟨hident, hfree⟩
    · exact .keyword hkeyword
    · rw [hident]
      refine .identifier (startsName_iff.mp hname) (fun d hd => continuesName_iff.mp ?_) hfree
      exact List.all_eq_true.mp List.all_takeWhile d hd
  split at h
  · rename_i hoperator
    obtain ⟨rfl, rfl⟩ := Prod.mk.inj (Except.ok.inj h)
    rcases operator_of_operator? hoperator with ⟨rfl, hmem⟩ | ⟨d, hnext, rfl, hmem⟩
    · exact ⟨Nat.zero_le _, .operator hmem⟩
    · obtain ⟨rest, rfl⟩ := List.head?_eq_some_iff.mp hnext
      exact ⟨Nat.le_add_left _ _, .operator hmem⟩
  · cases h

/-- A scan that reaches at least to the end of some characters, and gives their token if it stops
there. -/
def Scans (position : Nat) (cs tail : List Char) (t : Token) : Prop :=
  ∃ c rest u n, cs = c :: rest ∧ lexeme position c (rest ++ tail) = .ok (u, n) ∧ rest.length ≤ n ∧
    (n = rest.length → u = t)

theorem lexeme_of_isDigit (hc : c.isDigit = true) :
    lexeme position c rest =
      .ok (.number (numberValue (c :: rest.take (numberTail rest))), numberTail rest) := by
  have hstarts : startsNumber c rest = true := by simp [startsNumber, hc]
  have hpoint : ¬ (c == '.') = true := by simpa using ne_point_of_isDigit hc
  simp only [lexeme, if_pos hstarts, if_neg hpoint]

theorem scans_whole {ds : List Char} (hds : Digits ds) (tail : List Char) :
    Scans position ds tail (.number (decimalValue ds [])) := by
  rw [← numberValue_digits hds.2]
  obtain ⟨hne, hdigits⟩ := hds
  obtain ⟨d, ds, rfl⟩ := List.exists_cons_of_ne_nil hne
  obtain ⟨hd, hrest⟩ := List.forall_mem_cons.mp hdigits
  refine ⟨d, ds, _, _, rfl, lexeme_of_isDigit hd, ?_, fun hlength => ?_⟩
  · refine Nat.le_trans ?_ (le_numberTail _)
    rw [takeWhile_digits hrest, List.length_append]
    exact Nat.le_add_right _ _
  · rw [hlength, List.take_left]

theorem scans_decimal {ds fs : List Char} (hds : Digits ds) (hfs : Digits fs) (tail : List Char) :
    Scans position (ds ++ '.' :: fs) tail (.number (decimalValue ds fs)) := by
  rw [← numberValue_point hds.2 hfs.2]
  obtain ⟨hne, hdigits⟩ := hds
  obtain ⟨d, ds, rfl⟩ := List.exists_cons_of_ne_nil hne
  obtain ⟨hd, hrest⟩ := List.forall_mem_cons.mp hdigits
  refine ⟨d, ds ++ '.' :: fs, _, _, rfl, lexeme_of_isDigit hd, ?_, fun hlength => ?_⟩
  · rw [List.append_assoc, List.cons_append, numberTail_point hrest hfs, takeWhile_digits hfs.2]
    simp only [List.length_append, List.length_cons]
    omega
  · rw [hlength, List.take_left]
    rfl

theorem scans_fraction {fs : List Char} (hfs : Digits fs) (tail : List Char) :
    Scans position ('.' :: fs) tail (.number (decimalValue [] fs)) := by
  rw [← numberValue_fraction hfs.2]
  obtain ⟨hne, hdigits⟩ := hfs
  have hstarts : startsNumber '.' (fs ++ tail) = true := by
    obtain ⟨f, fs, rfl⟩ := List.exists_cons_of_ne_nil hne
    exact hdigits f List.mem_cons_self
  have htake := takeWhile_digits hdigits tail
  refine ⟨'.', fs, _, _, rfl, if_pos hstarts, ?_, fun hlength => ?_⟩
  · rw [if_pos (beq_self_eq_true '.'), htake, List.length_append]
    exact Nat.le_add_right _ _
  · rw [hlength, List.take_left]

theorem scans_quoted {quote : Char} {body content : List Char} (hquote : quote = '"' ∨ quote = '\'')
    (hbody : Enclosed quote body content) (tail : List Char) :
    Scans position (quote :: (body ++ [quote])) tail (.str (String.ofList content)) := by
  have hslash : quote ≠ '\\' := by rcases hquote with rfl | rfl <;> decide
  have hnumber : ∀ rest, startsNumber quote rest = false := by
    intro rest
    rcases hquote with rfl | rfl <;> rfl
  have hopens : (quote == '"' || quote == '\'') = true := by simpa using hquote
  have hscan := hbody.stringTail hslash position (position + 1) tail
  refine ⟨quote, body ++ [quote], _, body.length + 1, rfl, ?_, ?_, fun _ => rfl⟩
  · rw [List.append_assoc, List.singleton_append]
    unfold lexeme
    rw [hnumber, hopens, hscan]
    rfl
  · simp

theorem lexeme_of_startsName (hc : startsName c = true) :
    lexeme position c rest =
      .ok (nameToken (String.ofList (c :: rest.takeWhile continuesName)),
        (rest.takeWhile continuesName).length) := by
  have hnumber : startsNumber c rest = false := by
    have hpoint := ne_of_startsName (d := '.') hc (by decide)
    simp [startsNumber, not_isDigit_of_startsName hc, hpoint]
  have hquote : (c == '"' || c == '\'') = false := by
    have hdouble := ne_of_startsName (d := '"') hc (by decide)
    have hsingle := ne_of_startsName (d := '\'') hc (by decide)
    simp [hdouble, hsingle]
  simp [lexeme, hnumber, hquote, hc]

theorem scans_name {tail : List Char} (hc : startsName c = true)
    (htail : ∀ d ∈ tail, continuesName d = true) (after : List Char) :
    Scans position (c :: tail) after (nameToken (String.ofList (c :: tail))) := by
  have htake : (tail ++ after).takeWhile continuesName = tail ++ after.takeWhile continuesName :=
    List.takeWhile_append_of_pos htail
  refine ⟨c, tail, _, _, rfl, lexeme_of_startsName hc, ?_, fun hlength => ?_⟩
  · rw [htake, List.length_append]
    exact Nat.le_add_right _ _
  · rw [← take_length_takeWhile, hlength, List.take_left]

/-- A sign that starts nothing but operators. -/
theorem scans_sign (hnumber : ∀ rest, startsNumber c rest = false)
    (hquote : (c == '"' || c == '\'') = false) (hname : startsName c = false)
    (hsign : ∀ next, operator? c next = some (t, 0) ∨ ∃ u, operator? c next = some (u, 1))
    (tail : List Char) : Scans position [c] tail t := by
  have hscan : ∀ u n, operator? c tail.head? = some (u, n) →
      lexeme position c ([] ++ tail) = .ok (u, n) := by
    intro u n h
    simp [lexeme, hnumber, hquote, hname, h]
  rcases hsign tail.head? with h | ⟨u, h⟩
  · exact ⟨c, [], t, 0, rfl, hscan t 0 h, Nat.le_refl 0, fun _ => rfl⟩
  · exact ⟨c, [], u, 1, rfl, hscan u 1 h, Nat.zero_le 1, fun hlength => absurd hlength (by decide)⟩

/-- A point is an operator, or it starts a number. -/
theorem scans_dot (tail : List Char) : Scans position ['.'] tail .dot := by
  by_cases hnumber : startsNumber '.' tail = true
  · refine ⟨'.', [], _, _, rfl, if_pos hnumber, Nat.zero_le _, fun hlength => ?_⟩
    cases tail with
    | nil => exact absurd hnumber (by decide)
    | cons d tail =>
        have hd : d.isDigit = true := by simpa [startsNumber] using hnumber
        simp [hd] at hlength
  · exact ⟨'.', [], .dot, 0, rfl, if_neg hnumber, Nat.le_refl 0, fun _ => rfl⟩

theorem scans_operator {cs : List Char} (h : (cs, t) ∈ operators) (tail : List Char) :
    Scans position cs tail t := by
  have hpair : ∀ {c d : Char} {t : Token}, lexeme position c (d :: tail) = .ok (t, 1) →
      Scans position [c, d] tail t :=
    fun h => ⟨_, _, _, _, rfl, h, Nat.le_refl 1, fun _ => rfl⟩
  have hsingle : ∀ {c : Char} {t : Token}, lexeme position c tail = .ok (t, 0) →
      Scans position [c] tail t :=
    fun h => ⟨_, [], _, _, rfl, h, Nat.le_refl 0, fun _ => rfl⟩
  simp only [operators, List.mem_cons, Prod.mk.injEq, List.not_mem_nil, or_false] at h
  rcases h with ⟨rfl, rfl⟩ | ⟨rfl, rfl⟩ | ⟨rfl, rfl⟩ | ⟨rfl, rfl⟩ | ⟨rfl, rfl⟩ | ⟨rfl, rfl⟩ |
    ⟨rfl, rfl⟩ | ⟨rfl, rfl⟩ | ⟨rfl, rfl⟩ | ⟨rfl, rfl⟩ | ⟨rfl, rfl⟩ | ⟨rfl, rfl⟩ | ⟨rfl, rfl⟩ |
    ⟨rfl, rfl⟩ | ⟨rfl, rfl⟩ | ⟨rfl, rfl⟩ | ⟨rfl, rfl⟩ | ⟨rfl, rfl⟩ | ⟨rfl, rfl⟩ | ⟨rfl, rfl⟩ <;> first
    | exact hpair rfl
    | exact hsingle rfl
    | exact scans_dot tail
    | exact scans_sign (fun _ => rfl) rfl rfl
        (operator?_lengthened (d := '=') (fun e he => by simp [operator?, he]) rfl rfl) tail

/-- **Where a text starts with a lexeme, a scan reaches at least to the end of it.** -/
theorem Lexeme.scanned {cs : List Char} (h : Lexeme cs t) (position : Nat) (tail : List Char) :
    Scans position cs tail t := by
  cases h with
  | whole hds => exact scans_whole hds tail
  | decimal hds hfs => exact scans_decimal hds hfs tail
  | fraction hfs => exact scans_fraction hfs tail
  | quoted hquote hbody => exact scans_quoted hquote hbody tail
  | keyword hmem =>
      obtain ⟨c, rest, rfl, hc, hrest, htoken⟩ := keyword_name hmem
      exact htoken ▸ scans_name hc hrest tail
  | @identifier c rest hc hrest hfree =>
      rcases nameToken_cases (c :: rest) with hkeyword | ⟨hident, -⟩
      · exact absurd hkeyword (hfree _)
      · rw [← hident]
        exact scans_name (startsName_iff.mpr hc) (fun d hd => continuesName_iff.mpr (hrest d hd)) tail
  | operator h => exact scans_operator h tail

end

/-! ### Blanks -/

theorem not_isBlank_of_isDigit {c : Char} (h : c.isDigit = true) : Text.isBlank c = false := by
  have hrange : ∀ n ∈ List.range' 48 10, Text.blankRanges.holds n = false := by decide
  refine hrange c.toNat (List.mem_range'_1.mpr ?_)
  obtain ⟨hlow, hhigh⟩ := Bool.and_eq_true_iff.mp h
  exact ⟨of_decide_eq_true hlow, Nat.lt_succ_of_le (of_decide_eq_true hhigh)⟩

/-- No lexeme starts with a blank. -/
theorem Lexeme.not_isBlank {c : Char} {rest : List Char} {t : Token} (h : Lexeme (c :: rest) t) :
    Text.isBlank c = false := by
  generalize hcs : c :: rest = cs at h
  cases h with
  | whole hds => exact not_isBlank_of_isDigit (hds.2 c (hcs ▸ List.mem_cons_self))
  | decimal hds _ =>
      obtain ⟨d, ds, rfl⟩ := List.exists_cons_of_ne_nil hds.1
      obtain ⟨rfl, -⟩ := List.cons.inj hcs
      exact not_isBlank_of_isDigit (hds.2 c List.mem_cons_self)
  | fraction _ =>
      obtain ⟨rfl, -⟩ := List.cons.inj hcs
      rfl
  | quoted hquote _ =>
      obtain ⟨rfl, -⟩ := List.cons.inj hcs
      rcases hquote with rfl | rfl <;> rfl
  | keyword hmem =>
      obtain ⟨d, ds, rfl, hd, -⟩ := keyword_name hmem
      obtain ⟨rfl, -⟩ := List.cons.inj hcs
      exact not_isBlank_of_startsName hd
  | identifier hc _ _ =>
      obtain ⟨rfl, -⟩ := List.cons.inj hcs
      exact not_isBlank_of_startsName (startsName_iff.mpr hc)
  | operator hmem =>
      have hall : ∀ o ∈ operators, o.1.all (!Text.isBlank ·) = true := by decide
      have hsign := List.all_eq_true.mp (hall _ hmem) c (hcs ▸ List.mem_cons_self)
      simpa using hsign

/-! ### The longest lexeme -/

/-- Characters that are a lexeme, while with what follows them they start no longer one. -/
structure Longest (cs : List Char) (t : Token) (after : List Char) : Prop where
  lexeme : Lexeme cs t
  longest : ∀ l u, Lexeme l u → l <+: cs ++ after → l.length ≤ cs.length

/-- A place in a text where no lexeme starts, though the text goes on with something else than a
blank. -/
structure Stuck (cs : List Char) : Prop where
  visible : ∃ c rest, cs = c :: rest ∧ Text.isBlank c = false
  unread : ∀ l u, Lexeme l u → ¬ l <+: cs

section

variable {position n : Nat} {c : Char} {cs rest : List Char} {t : Token}

/-- No lexeme that starts a text is longer than what is scanned there. -/
theorem Lexeme.length_le {l : List Char} {u : Token} (h : Lexeme l u) (position : Nat)
    (hstarts : l <+: c :: rest) :
    ∃ t n, lexeme position c rest = .ok (t, n) ∧ l.length ≤ n + 1 := by
  obtain ⟨tail, htail⟩ := hstarts
  obtain ⟨d, ds, t, n, rfl, hscan, hle, -⟩ := h.scanned position tail
  obtain ⟨rfl, rfl⟩ := List.cons.inj htail
  exact ⟨t, n, hscan, Nat.succ_le_succ hle⟩

theorem longest_of_lexeme (h : lexeme position c rest = .ok (t, n)) :
    Longest (c :: rest.take n) t (rest.drop n) := by
  obtain ⟨hn, hlexeme⟩ := lexeme_sound h
  refine ⟨hlexeme, fun l u hl hstarts => ?_⟩
  rw [List.cons_append, List.take_append_drop] at hstarts
  obtain ⟨t', n', hscan, hle⟩ := hl.length_le position hstarts
  obtain ⟨-, rfl⟩ := Prod.mk.inj (Except.ok.inj (h.symm.trans hscan))
  rwa [List.length_cons, List.length_take_of_le hn]

theorem stuck_of_lexeme {e : ExprError} (hc : Text.isBlank c = false)
    (h : lexeme position c rest = .error e) : Stuck (c :: rest) := by
  refine ⟨⟨c, rest, rfl, hc⟩, fun l u hl hstarts => ?_⟩
  obtain ⟨t, n, hscan, -⟩ := hl.length_le position hstarts
  cases h.symm.trans hscan

/-- A lexeme that stands alone is scanned as a whole. -/
theorem Lexeme.alone (h : Lexeme cs t) (position : Nat) :
    ∃ c rest, cs = c :: rest ∧ lexeme position c rest = .ok (t, rest.length) := by
  obtain ⟨c, rest, u, n, rfl, hscan, hle, htoken⟩ := h.scanned position []
  rw [List.append_nil] at hscan
  obtain rfl : n = rest.length := Nat.le_antisymm (lexeme_sound hscan).1 hle
  obtain rfl := htoken rfl
  exact ⟨c, rest, rfl, hscan⟩

end

end Lexer

end EventNet
