import EventNet.Proofs.Expr.Grammar

/-!
The grammar of expressions is unambiguous.

A phrase begins some tokens if they start with its words and the token after these does not continue
it.  How a phrase begins tokens follows its last rule: its parts begin what is left of the tokens one
after the other.  At every rule the next token tells which rule it is: an operator or a selection goes
on, any other token ends the chain, and a closing bracket ends what stands in it.  So two phrases of
one category that begin the same tokens are one phrase.
-/

namespace EventNet

namespace Grammar

namespace Phrase

variable {c : Category} {tier : Nat} {ts rest rest' : List Spanned}

/-! ### How a phrase begins tokens -/

/-- The tokens start with a phrase that goes no further. -/
structure Begins (d : Phrase c) (ts rest : List Spanned) : Prop where
  calls : d.CallsNames
  spells : Spells d.words ts rest
  stops : c.Stops (Parser.next rest).token

/-- What follows the first operand of a chain ends that operand. -/
theorem ends_of_links {links : Phrase (.links tier)} (h : Spells links.words ts rest)
    (hrest : Ends (tier + 1) (Parser.next rest).token) : Ends tier (Parser.next ts).token := by
  cases links with
  | unlinked =>
      obtain rfl : ts = rest := h
      exact hrest.mono (Nat.le_succ tier)
  | link sign combine joins right more =>
      obtain ⟨position, after, rfl, -⟩ := h
      exact joins.ends

/-- A closing bracket or a comma ends an expression. -/
theorem stops_rightParen : Category.expression.Stops .rightParen :=
  ⟨nofun, nofun, nofun, nofun⟩

theorem stops_rightBracket : Category.expression.Stops .rightBracket :=
  ⟨nofun, nofun, nofun, nofun⟩

theorem stops_comma : Category.expression.Stops .comma :=
  ⟨nofun, nofun, nofun, nofun⟩

section Rules

theorem Begins.expression {body : Phrase (.chain 4)} (h : (expression body).Begins ts rest) :
    body.Begins ts rest :=
  ⟨h.calls, h.spells, h.stops⟩

theorem Begins.chain {first : Phrase (.operand tier)} {links : Phrase (.links tier)}
    (h : (chain first links).Begins ts rest) :
    ∃ mid, first.Begins ts mid ∧ links.Begins mid rest := by
  obtain ⟨mid, hfirst, hlinks⟩ := spells_append.mp h.spells
  exact ⟨mid, ⟨h.calls.1, hfirst, ends_of_links hlinks h.stops⟩, h.calls.2, hlinks, h.stops⟩

theorem Begins.factor {body : Phrase .unary} (h : (factor body).Begins ts rest) :
    body.Begins ts rest :=
  ⟨h.calls, h.spells, h.stops⟩

theorem Begins.tighter {body : Phrase (.chain tier)} (h : (tighter body).Begins ts rest) :
    body.Begins ts rest :=
  ⟨h.calls, h.spells, h.stops⟩

theorem Begins.unlinked (h : (unlinked : Phrase (.links tier)).Begins ts rest) : ts = rest :=
  h.spells

theorem Begins.link {sign : Token} {combine : Expr → Expr → Expr} {joins : Joins tier sign combine}
    {right : Phrase (.operand tier)} {links : Phrase (.links tier)}
    (h : (link sign combine joins right links).Begins ts rest) :
    ∃ position after mid, ts = ⟨sign, position⟩ :: after ∧ right.Begins after mid ∧
      links.Begins mid rest := by
  obtain ⟨position, after, rfl, hafter⟩ := h.spells
  obtain ⟨mid, hright, hlinks⟩ := spells_append.mp hafter
  exact ⟨position, after, mid, rfl, ⟨h.calls.1, hright, ends_of_links hlinks h.stops⟩,
    h.calls.2, hlinks, h.stops⟩

theorem Begins.plain {body : Phrase .postfixed} (h : (plain body).Begins ts rest) :
    body.Begins ts rest :=
  ⟨h.calls, h.spells, h.stops⟩

theorem Begins.signed {sign : Token} {op : UnaryOp} {precedes : Precedes sign op}
    {operand : Phrase .unary} (h : (signed sign op precedes operand).Begins ts rest) :
    ∃ position after, ts = ⟨sign, position⟩ :: after ∧ operand.Begins after rest := by
  obtain ⟨position, after, rfl, hafter⟩ := h.spells
  exact ⟨position, after, rfl, h.calls, hafter, h.stops⟩

theorem Begins.selected {head : Phrase .primary} {links : Phrase .selections}
    (h : (selected head links).Begins ts rest) :
    ∃ mid, head.Begins ts mid ∧ links.Begins mid rest := by
  obtain ⟨mid, hhead, hlinks⟩ := spells_append.mp h.spells
  exact ⟨mid, ⟨h.calls.1, hhead, trivial⟩, h.calls.2, hlinks, h.stops⟩

theorem Begins.called {callee : Phrase .primary} {function : String} {args : Phrase .arguments}
    {links : Phrase .selections} (h : (called callee function args links).Begins ts rest) :
    callee.name? = some function ∧ ∃ position after last,
      callee.Begins ts (⟨.leftParen, position⟩ :: after) ∧ args.Begins after last ∧
        links.Begins last rest := by
  obtain ⟨hname, hcalls, hargsCalls, hlinksCalls⟩ := h.calls
  obtain ⟨mid, hcallee, position, after, rfl, hafter⟩ := spells_append.mp h.spells
  obtain ⟨last, hargs, hlinks⟩ := spells_append.mp hafter
  exact ⟨hname, position, after, last, ⟨hcalls, hcallee, trivial⟩, ⟨hargsCalls, hargs, trivial⟩,
    hlinksCalls, hlinks, h.stops⟩

theorem Begins.unselected (h : unselected.Begins ts rest) : ts = rest :=
  h.spells

theorem Begins.index {key : Phrase .expression} {links : Phrase .selections}
    (h : (index key links).Begins ts rest) :
    ∃ position after close behind, ts = ⟨.leftBracket, position⟩ :: after ∧
      key.Begins after (⟨.rightBracket, close⟩ :: behind) ∧ links.Begins behind rest := by
  obtain ⟨position, after, rfl, hafter⟩ := h.spells
  obtain ⟨mid, hkey, close, behind, rfl, hlinks⟩ := spells_append.mp hafter
  exact ⟨position, after, close, behind, rfl, ⟨h.calls.1, hkey, stops_rightBracket⟩,
    h.calls.2, hlinks, h.stops⟩

theorem Begins.field {name : String} {links : Phrase .selections}
    (h : (field name links).Begins ts rest) :
    ∃ position inner after, ts = ⟨.dot, position⟩ :: ⟨.ident name, inner⟩ :: after ∧
      links.Begins after rest := by
  obtain ⟨position, _, rfl, inner, after, rfl, hlinks⟩ := h.spells
  exact ⟨position, inner, after, rfl, h.calls, hlinks, h.stops⟩

theorem Begins.ident {name : String} (h : (ident name).Begins ts rest) :
    ∃ position, ts = ⟨.ident name, position⟩ :: rest := by
  obtain ⟨position, after, rfl, rfl⟩ := h.spells
  exact ⟨position, rfl⟩

theorem Begins.literal {sign : Token} {value : Value} {writes : Writes sign value}
    (h : (literal sign value writes).Begins ts rest) :
    ∃ position, ts = ⟨sign, position⟩ :: rest := by
  obtain ⟨position, after, rfl, rfl⟩ := h.spells
  exact ⟨position, rfl⟩

theorem Begins.parens {body : Phrase .expression} (h : (parens body).Begins ts rest) :
    ∃ position after close, ts = ⟨.leftParen, position⟩ :: after ∧
      body.Begins after (⟨.rightParen, close⟩ :: rest) := by
  obtain ⟨position, after, rfl, hafter⟩ := h.spells
  obtain ⟨mid, hbody, close, behind, rfl, rfl⟩ := spells_append.mp hafter
  exact ⟨position, after, close, rfl, h.calls, hbody, stops_rightParen⟩

theorem Begins.noArguments (h : noArguments.Begins ts rest) :
    ∃ position, ts = ⟨.rightParen, position⟩ :: rest := by
  obtain ⟨position, after, rfl, rfl⟩ := h.spells
  exact ⟨position, rfl⟩

theorem Begins.listed {items : Phrase .list} (h : (listed items).Begins ts rest) :
    items.Begins ts rest :=
  ⟨h.calls, h.spells, h.stops⟩

theorem Begins.last {item : Phrase .expression} (h : (last item).Begins ts rest) :
    ∃ close, item.Begins ts (⟨.rightParen, close⟩ :: rest) := by
  obtain ⟨mid, hitem, close, behind, rfl, rfl⟩ := spells_append.mp h.spells
  exact ⟨close, h.calls, hitem, stops_rightParen⟩

theorem Begins.more {item : Phrase .expression} {items : Phrase .list}
    (h : (more item items).Begins ts rest) :
    ∃ comma after, item.Begins ts (⟨.comma, comma⟩ :: after) ∧ items.Begins after rest := by
  obtain ⟨mid, hitem, comma, after, rfl, hitems⟩ := spells_append.mp h.spells
  exact ⟨comma, after, ⟨h.calls.1, hitem, stops_comma⟩, h.calls.2, hitems, trivial⟩

/-- What is selected from an operand is not called. -/
theorem Begins.paren_not_next {links : Phrase .selections} (h : links.Begins ts rest) :
    (Parser.next ts).token ≠ .leftParen := by
  cases links with
  | unselected => exact h.unselected ▸ h.stops.paren
  | index key more =>
      obtain ⟨position, after, close, behind, rfl, -⟩ := h.index
      exact nofun
  | field name more =>
      obtain ⟨position, inner, after, rfl, -⟩ := h.field
      exact nofun

end Rules

/-! ### One phrase at most -/

/-- A phrase is the only one of its category to begin any tokens that it begins, and it leaves the same
tokens behind. -/
def Determined (d : Phrase c) : Prop :=
  ∀ (d' : Phrase c) (ts rest rest' : List Spanned), d.Begins ts rest → d'.Begins ts rest' →
    d = d' ∧ rest = rest'

theorem Determined.expression {body : Phrase (.chain 4)} (hbody : body.Determined) :
    (expression body).Determined := by
  intro d' ts rest rest' h h'
  cases d' with
  | expression body' =>
      obtain ⟨rfl, rfl⟩ := hbody body' ts rest rest' h.expression h'.expression
      exact ⟨rfl, rfl⟩

theorem Determined.chain {first : Phrase (.operand tier)} {links : Phrase (.links tier)}
    (hfirst : first.Determined) (hlinks : links.Determined) : (chain first links).Determined := by
  intro d' ts rest rest' h h'
  cases d' with
  | chain first' links' =>
      obtain ⟨mid, hf, hl⟩ := h.chain
      obtain ⟨mid', hf', hl'⟩ := h'.chain
      obtain ⟨rfl, rfl⟩ := hfirst first' ts mid mid' hf hf'
      obtain ⟨rfl, rfl⟩ := hlinks links' mid rest rest' hl hl'
      exact ⟨rfl, rfl⟩

theorem Determined.factor {body : Phrase .unary} (hbody : body.Determined) :
    (factor body).Determined := by
  intro d' ts rest rest' h h'
  cases d' with
  | factor body' =>
      obtain ⟨rfl, rfl⟩ := hbody body' ts rest rest' h.factor h'.factor
      exact ⟨rfl, rfl⟩

theorem Determined.tighter {body : Phrase (.chain tier)} (hbody : body.Determined) :
    (tighter body).Determined := by
  intro d' ts rest rest' h h'
  cases d' with
  | tighter body' =>
      obtain ⟨rfl, rfl⟩ := hbody body' ts rest rest' h.tighter h'.tighter
      exact ⟨rfl, rfl⟩

/-- An operator of the tier does not end a chain. -/
theorem not_joins_of_stops {t : Token} {combine : Expr → Expr → Expr}
    (h : (Category.links tier).Stops t) : ¬ Joins tier t combine :=
  h.operator tier (Nat.lt_succ_self tier) combine

theorem determined_unlinked : (unlinked : Phrase (.links tier)).Determined := by
  intro d' ts rest rest' h h'
  obtain rfl := h.unlinked
  cases d' with
  | unlinked => exact ⟨rfl, h'.unlinked⟩
  | link sign combine joins right links =>
      obtain ⟨position, after, mid, rfl, -⟩ := h'.link
      exact absurd joins (not_joins_of_stops h.stops)

theorem Determined.link {sign : Token} {combine : Expr → Expr → Expr}
    {joins : Joins tier sign combine} {right : Phrase (.operand tier)} {links : Phrase (.links tier)}
    (hright : right.Determined) (hlinks : links.Determined) :
    (link sign combine joins right links).Determined := by
  intro d' ts rest rest' h h'
  obtain ⟨position, after, mid, rfl, hr, hl⟩ := h.link
  cases d' with
  | unlinked =>
      obtain rfl := h'.unlinked
      exact absurd joins (not_joins_of_stops h'.stops)
  | link sign' combine' joins' right' links' =>
      obtain ⟨position', after', mid', heq, hr', hl'⟩ := h'.link
      cases heq
      obtain ⟨-, rfl⟩ := joins.unique joins'
      obtain ⟨rfl, rfl⟩ := hright right' after mid mid' hr hr'
      obtain ⟨rfl, rfl⟩ := hlinks links' mid rest rest' hl hl'
      exact ⟨rfl, rfl⟩

/-- An operand without a sign does not begin like one with a sign. -/
theorem plain_ne_signed {body : Phrase .postfixed} {sign : Token} {op : UnaryOp}
    {precedes : Precedes sign op} {operand : Phrase .unary} (h : (plain body).Begins ts rest)
    (h' : (signed sign op precedes operand).Begins ts rest') : False := by
  have hopens := body.opens h.spells
  obtain ⟨position, after, rfl, -⟩ := h'.signed
  exact hopens.2 op precedes

theorem Determined.plain {body : Phrase .postfixed} (hbody : body.Determined) :
    (plain body).Determined := by
  intro d' ts rest rest' h h'
  cases d' with
  | plain body' =>
      obtain ⟨rfl, rfl⟩ := hbody body' ts rest rest' h.plain h'.plain
      exact ⟨rfl, rfl⟩
  | signed sign op precedes operand => exact absurd h' (plain_ne_signed h)

theorem Determined.signed {sign : Token} {op : UnaryOp} {precedes : Precedes sign op}
    {operand : Phrase .unary} (hoperand : operand.Determined) :
    (signed sign op precedes operand).Determined := by
  intro d' ts rest rest' h h'
  cases d' with
  | plain body => exact absurd h (plain_ne_signed h')
  | signed sign' op' precedes' operand' =>
      obtain ⟨position, after, rfl, ho⟩ := h.signed
      obtain ⟨position', after', heq, ho'⟩ := h'.signed
      cases heq
      obtain rfl := precedes.unique precedes'
      obtain ⟨rfl, rfl⟩ := hoperand operand' after rest rest' ho ho'
      exact ⟨rfl, rfl⟩

theorem Determined.selected {head : Phrase .primary} {links : Phrase .selections}
    (hhead : head.Determined) (hlinks : links.Determined) : (selected head links).Determined := by
  intro d' ts rest rest' h h'
  obtain ⟨mid, hh, hl⟩ := h.selected
  cases d' with
  | selected head' links' =>
      obtain ⟨mid', hh', hl'⟩ := h'.selected
      obtain ⟨rfl, rfl⟩ := hhead head' ts mid mid' hh hh'
      obtain ⟨rfl, rfl⟩ := hlinks links' mid rest rest' hl hl'
      exact ⟨rfl, rfl⟩
  | called callee function args links' =>
      obtain ⟨-, position, after, last, hc, -⟩ := h'.called
      obtain ⟨-, rfl⟩ := hhead callee ts mid _ hh hc
      exact absurd rfl hl.paren_not_next

theorem Determined.called {callee : Phrase .primary} {function : String} {args : Phrase .arguments}
    {links : Phrase .selections} (hcallee : callee.Determined) (hargs : args.Determined)
    (hlinks : links.Determined) : (called callee function args links).Determined := by
  intro d' ts rest rest' h h'
  obtain ⟨hname, position, after, last, hc, ha, hl⟩ := h.called
  cases d' with
  | selected head links' =>
      obtain ⟨mid, hh, hl'⟩ := h'.selected
      obtain ⟨-, rfl⟩ := hcallee head ts _ mid hc hh
      exact absurd rfl hl'.paren_not_next
  | called callee' function' args' links' =>
      obtain ⟨hname', position', after', last', hc', ha', hl'⟩ := h'.called
      obtain ⟨rfl, heq⟩ := hcallee callee' ts _ _ hc hc'
      cases heq
      obtain rfl : function = function' := Option.some.inj (hname.symm.trans hname')
      obtain ⟨rfl, rfl⟩ := hargs args' after last last' ha ha'
      obtain ⟨rfl, rfl⟩ := hlinks links' last rest rest' hl hl'
      exact ⟨rfl, rfl⟩

theorem determined_unselected : unselected.Determined := by
  intro d' ts rest rest' h h'
  obtain rfl := h.unselected
  cases d' with
  | unselected => exact ⟨rfl, h'.unselected⟩
  | index key links =>
      obtain ⟨position, after, close, behind, rfl, -⟩ := h'.index
      exact absurd rfl h.stops.bracket
  | field name links =>
      obtain ⟨position, inner, after, rfl, -⟩ := h'.field
      exact absurd rfl h.stops.dot

theorem Determined.index {key : Phrase .expression} {links : Phrase .selections}
    (hkey : key.Determined) (hlinks : links.Determined) : (index key links).Determined := by
  intro d' ts rest rest' h h'
  obtain ⟨position, after, close, behind, rfl, hk, hl⟩ := h.index
  cases d' with
  | unselected =>
      obtain rfl := h'.unselected
      exact absurd rfl h'.stops.bracket
  | index key' links' =>
      obtain ⟨position', after', close', behind', heq, hk', hl'⟩ := h'.index
      cases heq
      obtain ⟨rfl, heq⟩ := hkey key' after _ _ hk hk'
      cases heq
      obtain ⟨rfl, rfl⟩ := hlinks links' behind rest rest' hl hl'
      exact ⟨rfl, rfl⟩
  | field name links' =>
      obtain ⟨position', inner, after', heq, -⟩ := h'.field
      cases heq

theorem Determined.field {name : String} {links : Phrase .selections} (hlinks : links.Determined) :
    (field name links).Determined := by
  intro d' ts rest rest' h h'
  obtain ⟨position, inner, after, rfl, hl⟩ := h.field
  cases d' with
  | unselected =>
      obtain rfl := h'.unselected
      exact absurd rfl h'.stops.dot
  | index key links' =>
      obtain ⟨position', after', close, behind, heq, -⟩ := h'.index
      cases heq
  | field name' links' =>
      obtain ⟨position', inner', after', heq, hl'⟩ := h'.field
      cases heq
      obtain ⟨rfl, rfl⟩ := hlinks links' after rest rest' hl hl'
      exact ⟨rfl, rfl⟩

theorem determined_ident {name : String} : (ident name).Determined := by
  intro d' ts rest rest' h h'
  obtain ⟨position, rfl⟩ := h.ident
  cases d' with
  | ident name' =>
      obtain ⟨position', heq⟩ := h'.ident
      cases heq
      exact ⟨rfl, rfl⟩
  | literal sign value writes =>
      obtain ⟨position', heq⟩ := h'.literal
      cases heq
      cases writes
  | parens body =>
      obtain ⟨position', after, close, heq, -⟩ := h'.parens
      cases heq

theorem determined_literal {sign : Token} {value : Value} {writes : Writes sign value} :
    (literal sign value writes).Determined := by
  intro d' ts rest rest' h h'
  obtain ⟨position, rfl⟩ := h.literal
  cases d' with
  | ident name =>
      obtain ⟨position', heq⟩ := h'.ident
      cases heq
      cases writes
  | literal sign' value' writes' =>
      obtain ⟨position', heq⟩ := h'.literal
      cases heq
      obtain rfl := writes.unique writes'
      exact ⟨rfl, rfl⟩
  | parens body =>
      obtain ⟨position', after, close, heq, -⟩ := h'.parens
      cases heq
      cases writes

theorem Determined.parens {body : Phrase .expression} (hbody : body.Determined) :
    (parens body).Determined := by
  intro d' ts rest rest' h h'
  obtain ⟨position, after, close, rfl, hb⟩ := h.parens
  cases d' with
  | ident name =>
      obtain ⟨position', heq⟩ := h'.ident
      cases heq
  | literal sign value writes =>
      obtain ⟨position', heq⟩ := h'.literal
      cases heq
      cases writes
  | parens body' =>
      obtain ⟨position', after', close', heq, hb'⟩ := h'.parens
      cases heq
      obtain ⟨rfl, heq⟩ := hbody body' after _ _ hb hb'
      cases heq
      exact ⟨rfl, rfl⟩

/-- A list of arguments does not begin with the parenthesis that closes it. -/
theorem noArguments_ne_listed {items : Phrase .list} (h : noArguments.Begins ts rest)
    (h' : (listed items).Begins ts rest') : False := by
  have hopens := items.opens h'.listed.spells
  obtain ⟨position, rfl⟩ := h.noArguments
  exact hopens rfl

theorem determined_noArguments : noArguments.Determined := by
  intro d' ts rest rest' h h'
  cases d' with
  | noArguments =>
      obtain ⟨position, rfl⟩ := h.noArguments
      obtain ⟨position', heq⟩ := h'.noArguments
      cases heq
      exact ⟨rfl, rfl⟩
  | listed items => exact absurd h' (noArguments_ne_listed h)

theorem Determined.listed {items : Phrase .list} (hitems : items.Determined) :
    (listed items).Determined := by
  intro d' ts rest rest' h h'
  cases d' with
  | noArguments => exact absurd h (noArguments_ne_listed h')
  | listed items' =>
      obtain ⟨rfl, rfl⟩ := hitems items' ts rest rest' h.listed h'.listed
      exact ⟨rfl, rfl⟩

theorem Determined.last {item : Phrase .expression} (hitem : item.Determined) :
    (last item).Determined := by
  intro d' ts rest rest' h h'
  obtain ⟨close, hi⟩ := h.last
  cases d' with
  | last item' =>
      obtain ⟨close', hi'⟩ := h'.last
      obtain ⟨rfl, heq⟩ := hitem item' ts _ _ hi hi'
      cases heq
      exact ⟨rfl, rfl⟩
  | more item' items =>
      obtain ⟨comma, after, hi', -⟩ := h'.more
      obtain ⟨-, heq⟩ := hitem item' ts _ _ hi hi'
      cases heq

theorem Determined.more {item : Phrase .expression} {items : Phrase .list}
    (hitem : item.Determined) (hitems : items.Determined) : (more item items).Determined := by
  intro d' ts rest rest' h h'
  obtain ⟨comma, after, hi, hl⟩ := h.more
  cases d' with
  | last item' =>
      obtain ⟨close, hi'⟩ := h'.last
      obtain ⟨-, heq⟩ := hitem item' ts _ _ hi hi'
      cases heq
  | more item' items' =>
      obtain ⟨comma', after', hi', hl'⟩ := h'.more
      obtain ⟨rfl, heq⟩ := hitem item' ts _ _ hi hi'
      cases heq
      obtain ⟨rfl, rfl⟩ := hitems items' after rest rest' hl hl'
      exact ⟨rfl, rfl⟩

/-- **Two phrases of one category that begin the same tokens are one phrase.** -/
theorem determined (d : Phrase c) : d.Determined := by
  induction d with
  | expression body hbody => exact hbody.expression
  | chain first links hfirst hlinks => exact hfirst.chain hlinks
  | factor body hbody => exact hbody.factor
  | tighter body hbody => exact hbody.tighter
  | unlinked => exact determined_unlinked
  | link sign combine joins right links hright hlinks => exact hright.link hlinks
  | plain body hbody => exact hbody.plain
  | signed sign op precedes operand hoperand => exact hoperand.signed
  | selected head links hhead hlinks => exact hhead.selected hlinks
  | called callee function args links hcallee hargs hlinks => exact hcallee.called hargs hlinks
  | unselected => exact determined_unselected
  | index key links hkey hlinks => exact hkey.index hlinks
  | field name links hlinks => exact hlinks.field
  | ident name => exact determined_ident
  | literal sign value writes => exact determined_literal
  | parens body hbody => exact hbody.parens
  | noArguments => exact determined_noArguments
  | listed items hitems => exact hitems.listed
  | last item hitem => exact hitem.last
  | more item items hitem hitems => exact hitem.more hitems

end Phrase

end Grammar

end EventNet
