import EventNet.Proofs.Expr.Reading

/-!
The parser accepts exactly what the grammar derives within the levels that may be open.

In the one direction phrases are read as far as there is room.  In the other, what a parser answers is
the meaning of a phrase at the front of the tokens that fits the room (`Found`), and what it refuses
it refuses for the text.  Together with the uniqueness of derivations this determines the answer to
every list of tokens.
-/

namespace EventNet

namespace Grammar

open EventNet.Parser (next)

/-! ### Answers -/

/-- An error that is one of the text. -/
inductive Refusal : ExprError → Prop
  | fault (fault : SyntaxFault) (position : Nat) : Refusal (.parse fault position)
  | tooDeep : Refusal (.tooDeep Parser.maxDepth)

/-- An answer is as said, or an error of the text. -/
def Sound {α : Type} (answer : Parser.Answer α) (P : α → List Spanned → Prop) : Prop :=
  match answer with
  | .error e => Refusal e
  | .ok (a, rest) => P a rest

theorem Sound.imp {α : Type} {answer : Parser.Answer α} {P Q : α → List Spanned → Prop}
    (h : Sound answer P) (hPQ : ∀ a rest, P a rest → Q a rest) : Sound answer Q := by
  rcases answer with e | ⟨a, rest⟩
  · exact h
  · exact hPQ a rest h

namespace Phrase

variable {c : Category} {tier room : Nat} {ts mid rest : List Spanned}

/-- A phrase at the front of some tokens that fits the room. -/
structure Found (d : Phrase c) (room : Nat) (ts rest : List Spanned) : Prop where
  calls : d.CallsNames
  spells : Spells d.words ts rest
  fits : d.depth ≤ room

/-- The next token and a phrase after it. -/
theorem Found.after_next {d : Phrase c} {t : Token} (h : d.Found room ts.tail rest)
    (ht : (next ts).token = t) (hend : t ≠ .eof) : Spells (t :: d.words) ts rest := by
  exact (spells_of_next ht hend).append h.spells

end Phrase

open Phrase

/-! ### Lists of arguments -/

section Lists

variable {room : Nat} {item : List Spanned → Parser.Answer Expr}

/-- What a parser of items finds, a parser of lists of them finds. -/
theorem sound_separated
    (hitem : ∀ ts, Sound (item ts) fun e rest =>
      ∃ d : Phrase .expression, d.tree = e ∧ d.Found room ts rest)
    (fuel : Nat) (ts : List Spanned) :
    Sound (Parser.separated item fuel ts) fun es rest =>
      ∃ d : Phrase .list, d.tree = es ∧ d.Found room ts rest := by
  induction fuel generalizing ts with
  | zero => exact .fault _ _
  | succ fuel ih =>
      rw [Parser.separated]
      have hfirst := hitem ts
      generalize item ts = answer at hfirst ⊢
      rcases answer with e | ⟨e, mid⟩
      · exact hfirst
      obtain ⟨first, rfl, hf⟩ := hfirst
      simp only
      split
      · rename_i hcomma
        have hrest := ih mid.tail
        generalize Parser.separated item fuel mid.tail = answer at hrest ⊢
        rcases answer with e | ⟨es, rest⟩
        · exact hrest
        obtain ⟨items, rfl, hi⟩ := hrest
        exact ⟨.more first items, rfl, ⟨hf.calls, hi.calls⟩,
          hf.spells.append (hi.after_next hcomma (by simp)), Nat.max_le.mpr ⟨hf.fits, hi.fits⟩⟩
      · rename_i hclose
        have hspells : Spells [.rightParen] mid mid.tail := spells_of_next hclose (by simp)
        exact ⟨.last first, rfl, hf.calls, hf.spells.append hspells, hf.fits⟩
      · exact .fault _ _

theorem sound_arguments
    (hitem : ∀ ts, Sound (item ts) fun e rest =>
      ∃ d : Phrase .expression, d.tree = e ∧ d.Found room ts rest)
    (ts : List Spanned) :
    Sound (Parser.arguments item ts) fun es rest =>
      ∃ d : Phrase .arguments, d.tree = es ∧ d.Found room ts rest := by
  unfold Parser.arguments
  split
  · rename_i hclose
    have hspells : Spells [.rightParen] ts ts.tail := spells_of_next hclose (by simp)
    exact ⟨.noArguments, rfl, trivial, hspells, Nat.zero_le room⟩
  · refine (sound_separated hitem _ ts).imp fun es rest => ?_
    rintro ⟨items, rfl, hi⟩
    exact ⟨.listed items, rfl, hi.calls, hi.spells, hi.fits⟩

end Lists

/-! ### What a parser finds -/

/-- A call of `target` at the front of some tokens, with what is selected from its result. -/
def CallFound (target : Expr) (room : Nat) (ts : List Spanned) (e : Expr) (rest : List Spanned) :
    Prop :=
  ∃ (function : String) (args : Phrase .arguments) (links : Phrase .selections),
    target = .ident function ∧ links.tree (.call function args.tree) = e ∧
      args.CallsNames ∧ links.CallsNames ∧
      Spells (.leftParen :: (args.words ++ links.words)) ts rest ∧
      max args.depth links.depth + 1 ≤ room

/-- Only a name can be called, so after anything else there are selections. -/
theorem selected_of_not_ident {target e : Expr} {room : Nat} {ts rest : List Spanned}
    (htarget : ∀ function, target ≠ .ident function)
    (h : (∃ d : Phrase .selections, d.tree target = e ∧ d.Found room ts rest) ∨
      CallFound target room ts e rest) :
    ∃ d : Phrase .selections, d.tree target = e ∧ d.Found room ts rest := by
  rcases h with hselected | ⟨function, -, -, hname, -⟩
  · exact hselected
  · exact absurd hname (htarget function)

/-- The token after a phrase is the one that has to close it, or the text is refused. -/
theorem expect_cases (wanted : Token) (hend : wanted ≠ .eof) (ts : List Spanned) :
    (∃ e, Parser.expect wanted ts = .error e ∧ Refusal e) ∨
      Parser.expect wanted ts = .ok ts.tail ∧ Spells [wanted] ts ts.tail := by
  unfold Parser.expect
  split
  · rename_i hnext
    subst hnext
    exact Or.inr ⟨rfl, spells_next hend⟩
  · exact Or.inl ⟨_, rfl, .fault _ _⟩

mutual

theorem sound_expression (room : Nat) (ts : List Spanned) :
    Sound (Parser.expression room ts) fun e rest =>
      ∃ d : Phrase .expression, d.tree = e ∧ d.Found room ts rest := by
  rw [Parser.expression.eq_def]
  cases room with
  | zero => exact .tooDeep
  | succ room =>
      refine (sound_binary room 4 ts).imp fun e rest => ?_
      rintro ⟨body, rfl, hb⟩
      exact ⟨.expression body, rfl, hb.calls, hb.spells, Nat.succ_le_succ hb.fits⟩
termination_by 16 * room

theorem sound_binary (room tier : Nat) (ts : List Spanned) :
    Sound (Parser.binary room tier ts) fun e rest =>
      ∃ d : Phrase (.chain tier), d.tree = e ∧ d.Found room ts rest := by
  rw [Parser.binary]
  have hfirst := sound_operand room tier ts
  generalize Parser.operand room tier ts = answer at hfirst ⊢
  rcases answer with e | ⟨left, mid⟩
  · exact hfirst
  obtain ⟨first, rfl, hf⟩ := hfirst
  refine (sound_links room tier first.tree mid).imp fun e rest => ?_
  rintro ⟨links, rfl, hl⟩
  exact ⟨.chain first links, rfl, ⟨hf.calls, hl.calls⟩, hf.spells.append hl.spells,
    Nat.max_le.mpr ⟨hf.fits, hl.fits⟩⟩
termination_by 16 * room + 5 + 2 * tier

theorem sound_operand (room tier : Nat) (ts : List Spanned) :
    Sound (Parser.operand room tier ts) fun e rest =>
      ∃ d : Phrase (.operand tier), d.tree = e ∧ d.Found room ts rest := by
  cases tier with
  | zero =>
      rw [Parser.operand]
      refine (sound_unary room ts).imp fun e rest => ?_
      rintro ⟨body, rfl, hb⟩
      exact ⟨.factor body, rfl, hb.calls, hb.spells, hb.fits⟩
  | succ tier =>
      rw [Parser.operand]
      refine (sound_binary room tier ts).imp fun e rest => ?_
      rintro ⟨body, rfl, hb⟩
      exact ⟨.tighter body, rfl, hb.calls, hb.spells, hb.fits⟩
termination_by 16 * room + 4 + 2 * tier

theorem sound_links (room tier : Nat) (left : Expr) (ts : List Spanned) :
    Sound (Parser.links room tier left ts) fun e rest =>
      ∃ d : Phrase (.links tier), d.tree left = e ∧ d.Found room ts rest := by
  rw [Parser.links]
  cases hsign : Parser.operator? tier (next ts).token with
  | none => exact ⟨.unlinked, rfl, trivial, rfl, Nat.zero_le room⟩
  | some combine =>
      have hjoins := joins_of_operator? hsign
      cases room with
      | zero => exact .tooDeep
      | succ room =>
          have hright := sound_operand room tier ts.tail
          simp only
          generalize Parser.operand room tier ts.tail = answer at hright ⊢
          rcases answer with e | ⟨right, mid⟩
          · exact hright
          obtain ⟨right, rfl, hr⟩ := hright
          refine (sound_links room tier (combine left right.tree) mid).imp fun e rest => ?_
          rintro ⟨links, rfl, hl⟩
          have hspells := (hr.after_next rfl hjoins.ne_eof).append hl.spells
          exact ⟨.link _ combine hjoins right links, rfl, ⟨hr.calls, hl.calls⟩, hspells,
            Nat.succ_le_succ (Nat.max_le.mpr ⟨hr.fits, hl.fits⟩)⟩
termination_by 16 * room + 4 + 2 * tier

theorem sound_unary (room : Nat) (ts : List Spanned) :
    Sound (Parser.unary room ts) fun e rest =>
      ∃ d : Phrase .unary, d.tree = e ∧ d.Found room ts rest := by
  rw [Parser.unary]
  cases hsign : Parser.unaryOperator? (next ts).token with
  | none =>
      refine (sound_postfixed room ts).imp fun e rest => ?_
      rintro ⟨body, rfl, hb⟩
      exact ⟨.plain body, rfl, hb.calls, hb.spells, hb.fits⟩
  | some op =>
      have hprecedes := unaryOperator?_iff.mp hsign
      cases room with
      | zero => exact .tooDeep
      | succ room =>
          have hoperand := sound_unary room ts.tail
          simp only
          generalize Parser.unary room ts.tail = answer at hoperand ⊢
          rcases answer with e | ⟨operand, rest⟩
          · exact hoperand
          obtain ⟨operand, rfl, ho⟩ := hoperand
          exact ⟨.signed _ op hprecedes operand, rfl, ho.calls,
            ho.after_next rfl hprecedes.ne_eof, Nat.succ_le_succ ho.fits⟩
termination_by 16 * room + 3

theorem sound_postfixed (room : Nat) (ts : List Spanned) :
    Sound (Parser.postfixed room ts) fun e rest =>
      ∃ d : Phrase .postfixed, d.tree = e ∧ d.Found room ts rest := by
  rw [Parser.postfixed]
  have hhead := sound_primary room ts
  generalize Parser.primary room ts = answer at hhead ⊢
  rcases answer with e | ⟨head, mid⟩
  · exact hhead
  obtain ⟨head, rfl, hh⟩ := hhead
  refine (sound_selections room head.tree mid).imp fun e rest => ?_
  rintro (⟨links, rfl, hl⟩ | ⟨function, args, links, hname, rfl, hargs, hlinks, hspells, hfits⟩)
  · exact ⟨.selected head links, rfl, ⟨hh.calls, hl.calls⟩, hh.spells.append hl.spells,
      Nat.max_le.mpr ⟨hh.fits, hl.fits⟩⟩
  · have hname' := (head.name?_eq_some_iff function).mpr hname
    exact ⟨.called head function args links, rfl, ⟨hname', hh.calls, hargs, hlinks⟩,
      hh.spells.append hspells, Nat.max_le.mpr ⟨hh.fits, hfits⟩⟩
termination_by 16 * room + 2

theorem sound_selections (room : Nat) (target : Expr) (ts : List Spanned) :
    Sound (Parser.selections room target ts) fun e rest =>
      (∃ d : Phrase .selections, d.tree target = e ∧ d.Found room ts rest) ∨
        CallFound target room ts e rest := by
  rw [Parser.selections.eq_def]
  split
  · cases room with
    | zero => exact .tooDeep
    | succ room =>
        simp only
        split
        · rename_i hopen
          have hkey := sound_expression room ts.tail
          generalize Parser.expression room ts.tail = answer at hkey ⊢
          rcases answer with e | ⟨key, mid⟩
          · exact hkey
          obtain ⟨key, rfl, hk⟩ := hkey
          simp only
          rcases expect_cases .rightBracket (by simp) mid with
            ⟨e, hclose, hrefused⟩ | ⟨hclose, hspells⟩
          · rw [hclose]
            exact hrefused
          rw [hclose]
          refine (sound_selections room (.index target key.tree) mid.tail).imp fun e rest h => ?_
          obtain ⟨links, rfl, hl⟩ := selected_of_not_ident (by simp) h
          exact Or.inl ⟨.index key links, rfl, ⟨hk.calls, hl.calls⟩,
            (hk.after_next hopen (by simp)).append (hspells.append hl.spells),
            Nat.succ_le_succ (Nat.max_le.mpr ⟨hk.fits, hl.fits⟩)⟩
        · rename_i hdot
          split
          · rename_i name hfield
            have hspells : Spells [.dot, .ident name] ts ts.tail.tail :=
              (spells_of_next hdot (by simp)).append (spells_of_next hfield (by simp))
            refine (sound_selections room (.field target name) ts.tail.tail).imp fun e rest h => ?_
            obtain ⟨links, rfl, hl⟩ := selected_of_not_ident (by simp) h
            exact Or.inl ⟨.field name links, rfl, hl.calls, hspells.append hl.spells,
              Nat.succ_le_succ hl.fits⟩
          · exact .fault _ _
        · rename_i hlink hbracket hdot
          have hparen : (next ts).token = .leftParen := by
            cases ht : (next ts).token <;> simp_all [Parser.startsLink]
          split
          · rename_i function
            have hargs := sound_arguments (fun ts => sound_expression room ts) ts.tail
            generalize Parser.arguments _ ts.tail = answer at hargs ⊢
            rcases answer with e | ⟨args, mid⟩
            · exact hargs
            obtain ⟨args, rfl, ha⟩ := hargs
            refine (sound_selections room (.call function args.tree) mid).imp fun e rest h => ?_
            obtain ⟨links, rfl, hl⟩ := selected_of_not_ident (by simp) h
            exact Or.inr ⟨function, args, links, rfl, rfl, ha.calls, hl.calls,
              (ha.after_next hparen (by simp)).append hl.spells,
              Nat.succ_le_succ (Nat.max_le.mpr ⟨ha.fits, hl.fits⟩)⟩
          · exact .fault _ _
  · exact Or.inl ⟨.unselected, rfl, trivial, rfl, Nat.zero_le room⟩
termination_by 16 * room + 1

theorem sound_primary (room : Nat) (ts : List Spanned) :
    Sound (Parser.primary room ts) fun e rest =>
      ∃ d : Phrase .primary, d.tree = e ∧ d.Found room ts rest := by
  rw [Parser.primary]
  split
  · rename_i name hname
    have hspells : Spells [.ident name] ts ts.tail := spells_of_next hname (by simp)
    exact ⟨.ident name, rfl, trivial, hspells, Nat.zero_le room⟩
  · rename_i hopen
    have hbody := sound_expression room ts.tail
    generalize Parser.expression room ts.tail = answer at hbody ⊢
    rcases answer with e | ⟨body, mid⟩
    · exact hbody
    obtain ⟨body, rfl, hb⟩ := hbody
    simp only
    rcases expect_cases .rightParen (by simp) mid with
      ⟨e, hclose, hrefused⟩ | ⟨hclose, hspells⟩
    · rw [hclose]
      exact hrefused
    rw [hclose]
    exact ⟨.parens body, rfl, hb.calls, (hb.after_next hopen (by simp)).append hspells, hb.fits⟩
  · cases hvalue : Parser.literal? (next ts).token with
    | none => exact .fault _ _
    | some value =>
        have hwrites := literal?_iff.mp hvalue
        exact ⟨.literal _ value hwrites, rfl, trivial, spells_next hwrites.ne_eof,
          Nat.zero_le room⟩
termination_by 16 * room + 1

end

/-! ### Texts -/

/-- The tokens of a text before its end. -/
def sentence (ts : List Spanned) : List Token :=
  (ts.map (·.token)).takeWhile (· ≠ .eof)

/-- A derivation of some tokens from the grammar. -/
structure Derivation (words : List Token) where
  phrase : Phrase .expression
  calls : phrase.CallsNames
  derives : phrase.words = words

/-- The end of the text continues no phrase. -/
theorem ends_eof {tiers : Nat} : Ends tiers .eof :=
  ⟨nofun, nofun, nofun, fun _ _ _ h => h.ne_eof rfl⟩

theorem Phrase.eof_not_mem_words {c : Category} (d : Phrase c) : .eof ∉ d.words := by
  induction d with
  | link sign combine joins right links hright hlinks =>
      simp [words, hright, hlinks, joins.ne_eof.symm]
  | signed sign op precedes operand hoperand => simp [words, hoperand, precedes.ne_eof.symm]
  | literal sign value writes => simp [words, writes.ne_eof.symm]
  | _ => simp_all [words]

/-- Before the end of the text stand the words of a phrase that the end follows. -/
theorem sentence_of_spells {w : List Token} (hw : .eof ∉ w) {ts rest : List Spanned}
    (h : Spells w ts rest) (hrest : (next rest).token = .eof) : sentence ts = w := by
  induction w generalizing ts with
  | nil =>
      obtain rfl : ts = rest := h
      cases ts with
      | nil => rfl
      | cons t ts =>
          have ht : t.token = .eof := hrest
          simp [sentence, ht]
  | cons t w ih =>
      obtain ⟨position, after, rfl, hafter⟩ := h
      have ht : t ≠ .eof := fun heq => hw (heq ▸ List.mem_cons_self)
      have htail := ih (fun hmem => hw (List.mem_cons_of_mem t hmem)) hafter
      simpa [sentence, ht] using htail

/-- A text begins with the words before its end, and the end follows them. -/
theorem spells_sentence (ts : List Spanned) :
    ∃ rest, Spells (sentence ts) ts rest ∧ (next rest).token = .eof := by
  induction ts with
  | nil => exact ⟨[], rfl, rfl⟩
  | cons t ts ih =>
      by_cases ht : t.token = .eof
      · exact ⟨t :: ts, by simp [sentence, ht, Spells], ht⟩
      · obtain ⟨rest, hspells, hrest⟩ := ih
        have hsentence : sentence (t :: ts) = t.token :: sentence ts := by simp [sentence, ht]
        rw [hsentence]
        exact ⟨rest, ⟨t.position, ts, rfl, hspells⟩, hrest⟩

/-- A text that ends in its only end has all other tokens before it. -/
theorem sentence_of_map_eq {ts : List Spanned} {words : List Token}
    (h : ts.map (·.token) = words ++ [.eof]) (hwords : .eof ∉ words) : sentence ts = words := by
  have hall : ∀ t ∈ words, decide (t ≠ .eof) = true := by
    intro t ht
    simp only [ne_eq, decide_not, Bool.not_eq_true', decide_eq_false_iff_not]
    rintro rfl
    exact hwords ht
  rw [sentence, h, List.takeWhile_append_of_pos hall]
  simp

/-- A derivation of the tokens before the end begins the text. -/
theorem Derivation.begins {ts : List Spanned} (d : Derivation (sentence ts)) :
    ∃ rest, d.phrase.Begins ts rest ∧ (next rest).token = .eof := by
  obtain ⟨rest, hspells, hrest⟩ := spells_sentence ts
  have hwords : Spells d.phrase.words ts rest := by
    rw [d.derives]
    exact hspells
  have hstops : Ends 5 (next rest).token := by
    rw [hrest]
    exact ends_eof
  exact ⟨rest, ⟨d.calls, hwords, hstops⟩, hrest⟩

/-- The derivation of a text is its only one. -/
theorem Derivation.unique {ts : List Spanned} (d d' : Derivation (sentence ts)) : d = d' := by
  obtain ⟨rest, h, -⟩ := d.begins
  obtain ⟨rest', h', -⟩ := d'.begins
  obtain ⟨hphrase, -⟩ := d.phrase.determined d'.phrase ts rest rest' h h'
  cases d
  cases d'
  cases hphrase
  rfl

/-- A text with a derivation is read as far as the levels allow. -/
theorem Derivation.whole_eq {ts : List Spanned} (d : Derivation (sentence ts)) :
    Parser.whole ts = within Parser.maxDepth d.phrase.depth d.phrase.tree := by
  obtain ⟨rest, h, hrest⟩ := d.begins
  rw [Parser.whole, d.phrase.read Parser.maxDepth ts rest h]
  by_cases hd : d.phrase.depth ≤ Parser.maxDepth
  · rw [within_of_le hd, within_of_le hd]
    exact if_pos hrest
  · rw [within_of_not_le hd, within_of_not_le hd]
    rfl

/-- An answer to a text is the meaning of a derivation with levels to spare, or a refusal. -/
theorem whole_cases (ts : List Spanned) :
    (∃ d : Derivation (sentence ts), d.phrase.depth ≤ Parser.maxDepth ∧
      Parser.whole ts = .ok d.phrase.tree) ∨ ∃ e, Parser.whole ts = .error e ∧ Refusal e := by
  have hfound := sound_expression Parser.maxDepth ts
  rw [Parser.whole]
  generalize Parser.expression Parser.maxDepth ts = answer at hfound ⊢
  rcases answer with e | ⟨e, rest⟩
  · exact Or.inr ⟨e, rfl, hfound⟩
  obtain ⟨d, rfl, hd⟩ := hfound
  by_cases hrest : (next rest).token = .eof
  · have hsentence := sentence_of_spells d.eof_not_mem_words hd.spells hrest
    exact Or.inl ⟨⟨d, hd.calls, hsentence.symm⟩, hd.fits, if_pos hrest⟩
  · exact Or.inr ⟨_, if_neg hrest, .fault _ _⟩

/-- **The parser accepts exactly its grammar.**  The tokens of a text have one derivation at most.  A
text is read as the meaning of its derivation if it has one that opens no more levels than allowed,
and as nothing else; it is refused for its depth if its derivation opens more, and every error is one
of the text. -/
theorem whole_accepts_grammar (ts : List Spanned) :
    (∀ d d' : Derivation (sentence ts), d = d') ∧
      (∀ e, Parser.whole ts = .ok e ↔
        ∃ d : Derivation (sentence ts), d.phrase.depth ≤ Parser.maxDepth ∧ d.phrase.tree = e) ∧
      (∀ d : Derivation (sentence ts), Parser.maxDepth < d.phrase.depth →
        Parser.whole ts = .error (.tooDeep Parser.maxDepth)) ∧
      ∀ e, Parser.whole ts = .error e → Refusal e := by
  refine ⟨Derivation.unique, fun e => ⟨fun hok => ?_, ?_⟩, fun d hdeep => ?_, fun e herror => ?_⟩
  · rcases whole_cases ts with ⟨d, hfits, hwhole⟩ | ⟨e', hwhole, -⟩
    · exact ⟨d, hfits, Except.ok.inj (hwhole.symm.trans hok)⟩
    · cases hwhole.symm.trans hok
  · rintro ⟨d, hfits, rfl⟩
    exact d.whole_eq.trans (within_of_le hfits)
  · exact d.whole_eq.trans (within_of_not_le (Nat.not_le_of_lt hdeep))
  · rcases whole_cases ts with ⟨d, -, hwhole⟩ | ⟨e', hwhole, hrefused⟩
    · cases hwhole.symm.trans herror
    · exact Except.error.inj (hwhole.symm.trans herror) ▸ hrefused

end Grammar

end EventNet
