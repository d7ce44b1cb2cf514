import EventNet.Proofs.Expr.Unambiguous

/-!
Phrases are read by the parser.

There is a parser for each category, and what it answers to tokens that a phrase begins can be told
from the phrase (`Read`): its meaning and the tokens after it, or, if the phrase is deeper than there
is room, the refusal to open a further level.  The way through the parser follows the derivation.
-/

namespace EventNet

namespace Grammar

/-! ### Signs as the parser tells them -/

section

variable {tier : Nat} {t : Token}

theorem operator?_of_joins {combine : Expr → Expr → Expr} (h : Joins tier t combine) :
    Parser.operator? tier t = some combine := by
  cases h <;> rfl

theorem joins_of_operator? {combine : Expr → Expr → Expr}
    (h : Parser.operator? tier t = some combine) : Joins tier t combine := by
  unfold Parser.operator? at h
  split at h <;> first
    | (obtain rfl := Option.some.inj h; constructor)
    | cases h

theorem operator?_of_ends (h : Ends (tier + 1) t) : Parser.operator? tier t = none := by
  cases ho : Parser.operator? tier t with
  | none => rfl
  | some combine =>
      exact absurd (joins_of_operator? ho) (h.operator tier (Nat.lt_succ_self tier) combine)

theorem unaryOperator?_iff {op : UnaryOp} : Parser.unaryOperator? t = some op ↔ Precedes t op := by
  constructor
  · intro h
    unfold Parser.unaryOperator? at h
    split at h <;> first
      | (obtain rfl := Option.some.inj h; constructor)
      | cases h
  · rintro ⟨⟩ <;> rfl

theorem literal?_iff {v : Value} : Parser.literal? t = some v ↔ Writes t v := by
  constructor
  · intro h
    unfold Parser.literal? at h
    split at h <;> first
      | (obtain rfl := Option.some.inj h; constructor)
      | cases h
  · rintro ⟨⟩ <;> rfl

theorem startsLink_of_ends {tiers : Nat} (h : Ends tiers t) : Parser.startsLink t = false := by
  cases t with
  | leftBracket => exact absurd rfl h.bracket
  | dot => exact absurd rfl h.dot
  | leftParen => exact absurd rfl h.paren
  | _ => rfl

end

/-! ### Names -/

/-- A meaning that is a name. -/
def Category.IsName : (c : Category) → c.Meaning → String → Prop
  | .links _, _, _ | .selections, _, _ | .arguments, _, _ | .list, _, _ => False
  | .expression, e, f | .chain _, e, f | .operand _, e, f | .unary, e, f | .postfixed, e, f
  | .primary, e, f => e = .ident f

namespace Phrase

/-- A chain with a link is no name. -/
theorem tree_links_ne {tier : Nat} {f : String} : (links : Phrase (.links tier)) → {left : Expr} →
    left ≠ .ident f → links.tree left ≠ .ident f
  | .unlinked, _, h => h
  | .link _ _ joins _ rest, _, _ => tree_links_ne rest (by cases joins <;> nofun)

/-- A selection is no name. -/
theorem tree_selections_ne {f : String} : (links : Phrase .selections) → {target : Expr} →
    target ≠ .ident f → links.tree target ≠ .ident f
  | .unselected, _, h => h
  | .index _ rest, _, _ => tree_selections_ne rest nofun
  | .field _ rest, _, _ => tree_selections_ne rest nofun

theorem name?_eq_some_iff {c : Category} (d : Phrase c) (f : String) :
    d.name? = some f ↔ c.IsName d.tree f := by
  induction d with
  | expression body ih => exact ih
  | chain first links ih _ =>
      cases links with
      | unlinked => exact ih
      | link sign combine joins right rest =>
          refine iff_of_false nofun ?_
          exact tree_links_ne rest (by cases joins <;> nofun)
  | factor body ih => exact ih
  | tighter body ih => exact ih
  | plain body ih => exact ih
  | signed => exact iff_of_false nofun nofun
  | selected head links ih _ =>
      cases links with
      | unselected => exact ih
      | index key rest => exact iff_of_false nofun (tree_selections_ne rest nofun)
      | field name rest => exact iff_of_false nofun (tree_selections_ne rest nofun)
  | called callee function args links =>
      exact iff_of_false nofun (tree_selections_ne links nofun)
  | ident name =>
      exact ⟨fun h => congrArg Expr.ident (Option.some.inj h),
        fun h => congrArg some (Expr.ident.inj h)⟩
  | literal => exact iff_of_false nofun nofun
  | parens body ih => exact ih
  | _ => exact iff_of_false nofun id

end Phrase

/-! ### Phrases are read -/

/-- An answer, or the refusal to open more levels than there is room for. -/
def within {α : Type} (room depth : Nat) (answer : α) : Except ExprError α :=
  if depth ≤ room then .ok answer else Parser.tooDeep

section

variable {α : Type} {room m n : Nat} {answer : α}

theorem within_of_le (h : m ≤ room) : within room m answer = .ok answer :=
  if_pos h

theorem within_of_not_le (h : ¬ m ≤ room) : within room m answer = Parser.tooDeep :=
  if_neg h

theorem within_succ : within (room + 1) (m + 1) answer = within room m answer := by
  unfold within
  simp only [Nat.add_le_add_iff_right]

theorem within_zero : within 0 (m + 1) answer = Parser.tooDeep :=
  if_neg (Nat.not_succ_le_zero m)

/-- Of two depths of which one fits the room, the other decides. -/
theorem within_max (h : m ≤ room) : within room (max m n) answer = within room n answer := by
  unfold within
  simp only [Nat.max_le, h, true_and]

theorem within_max_of_not_le (h : ¬ m ≤ room) :
    within room (max m n) answer = Parser.tooDeep :=
  if_neg fun hmax => h (Nat.le_trans (Nat.le_max_left m n) hmax)

end

namespace Phrase

variable {tier : Nat}

/-- The parser of its category reads a phrase as far as there is room. -/
def Read : {c : Category} → Phrase c → Prop
  | .expression, d => ∀ room ts rest, d.Begins ts rest →
      Parser.expression room ts = within room d.depth (d.tree, rest)
  | .chain tier, d => ∀ room ts rest, d.Begins ts rest →
      Parser.binary room tier ts = within room d.depth (d.tree, rest)
  | .operand tier, d => ∀ room ts rest, d.Begins ts rest →
      Parser.operand room tier ts = within room d.depth (d.tree, rest)
  | .links tier, d => ∀ room left ts rest, d.Begins ts rest →
      Parser.links room tier left ts = within room d.depth (d.tree left, rest)
  | .unary, d => ∀ room ts rest, d.Begins ts rest →
      Parser.unary room ts = within room d.depth (d.tree, rest)
  | .postfixed, d => ∀ room ts rest, d.Begins ts rest →
      Parser.postfixed room ts = within room d.depth (d.tree, rest)
  | .selections, d => ∀ room target ts rest, d.Begins ts rest →
      Parser.selections room target ts = within room d.depth (d.tree target, rest)
  | .primary, d => ∀ room ts rest, d.Begins ts rest →
      Parser.primary room ts = within room d.depth (d.tree, rest)
  | .arguments, d => ∀ room ts rest, d.Begins ts rest →
      Parser.arguments (Parser.expression room) ts = within room d.depth (d.tree, rest)
  | .list, d => ∀ room fuel ts rest, d.words.length ≤ fuel → d.Begins ts rest →
      Parser.separated (Parser.expression room) fuel ts = within room d.depth (d.tree, rest)

theorem Read.expression {body : Phrase (.chain 4)} (hbody : body.Read) : (expression body).Read := by
  intro room ts rest h
  rw [Parser.expression.eq_def]
  cases room with
  | zero => exact within_zero.symm
  | succ room => exact (hbody room ts rest h.expression).trans within_succ.symm

theorem Read.chain {first : Phrase (.operand tier)} {links : Phrase (.links tier)}
    (hfirst : first.Read) (hlinks : links.Read) : (chain first links).Read := by
  intro room ts rest h
  obtain ⟨mid, hf, hl⟩ := h.chain
  rw [Parser.binary, hfirst room ts mid hf]
  by_cases hd : first.depth ≤ room
  · rw [within_of_le hd]
    exact (hlinks room first.tree mid rest hl).trans (within_max hd).symm
  · rw [within_of_not_le hd]
    exact (within_max_of_not_le hd).symm

theorem Read.factor {body : Phrase .unary} (hbody : body.Read) : (factor body).Read := by
  intro room ts rest h
  rw [Parser.operand]
  exact hbody room ts rest h.factor

theorem Read.tighter {body : Phrase (.chain tier)} (hbody : body.Read) : (tighter body).Read := by
  intro room ts rest h
  rw [Parser.operand]
  exact hbody room ts rest h.tighter

theorem read_unlinked : (unlinked : Phrase (.links tier)).Read := by
  intro room left ts rest h
  obtain rfl := h.unlinked
  rw [Parser.links, operator?_of_ends h.stops]
  exact (within_of_le (Nat.zero_le room)).symm

theorem Read.link {sign : Token} {combine : Expr → Expr → Expr} {joins : Joins tier sign combine}
    {right : Phrase (.operand tier)} {links : Phrase (.links tier)} (hright : right.Read)
    (hlinks : links.Read) : (link sign combine joins right links).Read := by
  intro room left ts rest h
  obtain ⟨position, after, mid, rfl, hr, hl⟩ := h.link
  have hsign : Parser.operator? tier (Parser.next (⟨sign, position⟩ :: after)).token =
    some combine := operator?_of_joins joins
  rw [Parser.links, hsign]
  cases room with
  | zero => exact within_zero.symm
  | succ room =>
      simp only [List.tail_cons, hright room after mid hr]
      by_cases hd : right.depth ≤ room
      · rw [within_of_le hd]
        refine (hlinks room _ mid rest hl).trans ?_
        exact (within_max hd).symm.trans within_succ.symm
      · rw [within_of_not_le hd]
        exact (within_max_of_not_le hd).symm.trans within_succ.symm

theorem Read.plain {body : Phrase .postfixed} (hbody : body.Read) : (plain body).Read := by
  intro room ts rest h
  have hsign : Parser.unaryOperator? (Parser.next ts).token = none := by
    cases hop : Parser.unaryOperator? (Parser.next ts).token with
    | none => rfl
    | some op => exact absurd (unaryOperator?_iff.mp hop) ((body.opens h.spells).2 op)
  rw [Parser.unary, hsign]
  exact hbody room ts rest h.plain

theorem Read.signed {sign : Token} {op : UnaryOp} {precedes : Precedes sign op}
    {operand : Phrase .unary} (hoperand : operand.Read) :
    (signed sign op precedes operand).Read := by
  intro room ts rest h
  obtain ⟨position, after, rfl, ho⟩ := h.signed
  have hsign : Parser.unaryOperator? (Parser.next (⟨sign, position⟩ :: after)).token = some op :=
    unaryOperator?_iff.mpr precedes
  rw [Parser.unary, hsign]
  cases room with
  | zero => exact within_zero.symm
  | succ room =>
      simp only [List.tail_cons, hoperand room after rest ho]
      by_cases hd : operand.depth ≤ room
      · rw [within_of_le hd]
        exact (within_of_le (Nat.succ_le_succ hd)).symm
      · rw [within_of_not_le hd]
        exact (within_of_not_le fun hle => hd (Nat.le_of_succ_le_succ hle)).symm

theorem Read.selected {head : Phrase .primary} {links : Phrase .selections} (hhead : head.Read)
    (hlinks : links.Read) : (selected head links).Read := by
  intro room ts rest h
  obtain ⟨mid, hh, hl⟩ := h.selected
  rw [Parser.postfixed, hhead room ts mid hh]
  by_cases hd : head.depth ≤ room
  · rw [within_of_le hd]
    exact (hlinks room head.tree mid rest hl).trans (within_max hd).symm
  · rw [within_of_not_le hd]
    exact (within_max_of_not_le hd).symm

/-- A name is called where a parenthesis follows it. -/
theorem selections_call {function : String} {args : Phrase .arguments} {links : Phrase .selections}
    (hargs : args.Read) (hlinks : links.Read) {room position : Nat} {after last rest : List Spanned}
    (ha : args.Begins after last) (hl : links.Begins last rest) :
    Parser.selections room (.ident function) (⟨.leftParen, position⟩ :: after) =
      within room (max args.depth links.depth + 1) (links.tree (.call function args.tree), rest) := by
  rw [Parser.selections.eq_def]
  cases room with
  | zero => exact within_zero.symm
  | succ room =>
      have hread := hargs room after last ha
      simp only [Parser.next, Parser.startsLink, if_true, List.tail_cons, hread]
      by_cases hd : args.depth ≤ room
      · rw [within_of_le hd]
        refine (hlinks room _ last rest hl).trans ?_
        exact (within_max hd).symm.trans within_succ.symm
      · rw [within_of_not_le hd]
        exact (within_max_of_not_le hd).symm.trans within_succ.symm

theorem Read.called {callee : Phrase .primary} {function : String} {args : Phrase .arguments}
    {links : Phrase .selections} (hcallee : callee.Read) (hargs : args.Read) (hlinks : links.Read) :
    (called callee function args links).Read := by
  intro room ts rest h
  obtain ⟨hname, position, after, last, hc, ha, hl⟩ := h.called
  have htree : callee.tree = .ident function := (callee.name?_eq_some_iff function).mp hname
  rw [Parser.postfixed, hcallee room ts _ hc]
  by_cases hd : callee.depth ≤ room
  · rw [within_of_le hd, htree]
    exact (selections_call hargs hlinks ha hl).trans (within_max hd).symm
  · rw [within_of_not_le hd]
    exact (within_max_of_not_le hd).symm

theorem read_unselected : unselected.Read := by
  intro room target ts rest h
  obtain rfl := h.unselected
  rw [Parser.selections.eq_def, startsLink_of_ends h.stops]
  exact (within_of_le (Nat.zero_le room)).symm

theorem Read.index {key : Phrase .expression} {links : Phrase .selections} (hkey : key.Read)
    (hlinks : links.Read) : (index key links).Read := by
  intro room target ts rest h
  obtain ⟨position, after, close, behind, rfl, hk, hl⟩ := h.index
  rw [Parser.selections.eq_def]
  cases room with
  | zero => exact within_zero.symm
  | succ room =>
      have hread := hkey room after _ hk
      simp only [Parser.next, Parser.startsLink, if_true, List.tail_cons, hread]
      by_cases hd : key.depth ≤ room
      · rw [within_of_le hd]
        refine (hlinks room _ behind rest hl).trans ?_
        exact (within_max hd).symm.trans within_succ.symm
      · rw [within_of_not_le hd]
        exact (within_max_of_not_le hd).symm.trans within_succ.symm

theorem Read.field {name : String} {links : Phrase .selections} (hlinks : links.Read) :
    (field name links).Read := by
  intro room target ts rest h
  obtain ⟨position, inner, after, rfl, hl⟩ := h.field
  rw [Parser.selections.eq_def]
  cases room with
  | zero => exact within_zero.symm
  | succ room =>
      exact (hlinks room _ after rest hl).trans within_succ.symm

theorem read_ident {name : String} : (ident name).Read := by
  intro room ts rest h
  obtain ⟨position, rfl⟩ := h.ident
  rw [Parser.primary]
  exact (within_of_le (Nat.zero_le room)).symm

theorem read_literal {sign : Token} {value : Value} {writes : Writes sign value} :
    (literal sign value writes).Read := by
  intro room ts rest h
  obtain ⟨position, rfl⟩ := h.literal
  rw [Parser.primary]
  refine Eq.trans ?_ (within_of_le (Nat.zero_le room)).symm
  cases writes <;> rfl

theorem Read.parens {body : Phrase .expression} (hbody : body.Read) : (parens body).Read := by
  intro room ts rest h
  obtain ⟨position, after, close, rfl, hb⟩ := h.parens
  have hread := hbody room after _ hb
  rw [Parser.primary]
  simp only [Parser.next, List.tail_cons, hread]
  by_cases hd : body.depth ≤ room
  · rw [within_of_le hd]
    exact (within_of_le hd).symm
  · rw [within_of_not_le hd]
    exact (within_of_not_le hd).symm

theorem read_noArguments : noArguments.Read := by
  intro room ts rest h
  obtain ⟨position, rfl⟩ := h.noArguments
  exact (within_of_le (Nat.zero_le room)).symm

theorem Read.listed {items : Phrase .list} (hitems : items.Read) : (listed items).Read := by
  intro room ts rest h
  have hopens : (Parser.next ts).token ≠ .rightParen := items.opens h.spells
  have hlength := h.spells.length_le
  rw [Parser.arguments, if_neg hopens]
  exact hitems room _ ts rest (Nat.le_succ_of_le hlength) h.listed

theorem Read.last {item : Phrase .expression} (hitem : item.Read) : (last item).Read := by
  intro room fuel ts rest hfuel h
  obtain ⟨close, hi⟩ := h.last
  have hlength : (Phrase.last item).words.length = item.words.length + 1 := by simp [words]
  obtain ⟨fuel, rfl⟩ : ∃ n, fuel = n + 1 := ⟨fuel - 1, by omega⟩
  rw [Parser.separated, hitem room ts _ hi]
  by_cases hd : item.depth ≤ room
  · rw [within_of_le hd]
    exact (within_of_le hd).symm
  · rw [within_of_not_le hd]
    exact (within_of_not_le hd).symm

theorem Read.more {item : Phrase .expression} {items : Phrase .list} (hitem : item.Read)
    (hitems : items.Read) : (more item items).Read := by
  intro room fuel ts rest hfuel h
  obtain ⟨comma, after, hi, hl⟩ := h.more
  have hlength : (Phrase.more item items).words.length = item.words.length + (items.words.length + 1) := by
    simp [words]
  obtain ⟨fuel, rfl⟩ : ∃ n, fuel = n + 1 := ⟨fuel - 1, by omega⟩
  rw [Parser.separated, hitem room ts _ hi]
  by_cases hd : item.depth ≤ room
  · have hread := hitems room fuel after rest (by omega) hl
    rw [within_of_le hd]
    simp only [Parser.next, List.tail_cons, hread]
    by_cases hd' : items.depth ≤ room
    · rw [within_of_le hd']
      exact (within_of_le hd').symm.trans (within_max hd).symm
    · rw [within_of_not_le hd']
      exact (within_of_not_le hd').symm.trans (within_max hd).symm
  · rw [within_of_not_le hd]
    exact (within_max_of_not_le hd).symm

/-- **Every phrase is read as far as there is room.** -/
theorem read {c : Category} (d : Phrase c) : d.Read := by
  induction d with
  | expression body hbody => exact hbody.expression
  | chain first links hfirst hlinks => exact hfirst.chain hlinks
  | factor body hbody => exact hbody.factor
  | tighter body hbody => exact hbody.tighter
  | unlinked => exact read_unlinked
  | link sign combine joins right links hright hlinks => exact hright.link hlinks
  | plain body hbody => exact hbody.plain
  | signed sign op precedes operand hoperand => exact hoperand.signed
  | selected head links hhead hlinks => exact hhead.selected hlinks
  | called callee function args links hcallee hargs hlinks => exact hcallee.called hargs hlinks
  | unselected => exact read_unselected
  | index key links hkey hlinks => exact hkey.index hlinks
  | field name links hlinks => exact hlinks.field
  | ident name => exact read_ident
  | literal sign value writes => exact read_literal
  | parens body hbody => exact hbody.parens
  | noArguments => exact read_noArguments
  | listed items hitems => exact hitems.listed
  | last item hitem => exact hitem.last
  | more item items hitem hitems => exact hitem.more hitems

end Phrase

end Grammar

end EventNet
