import EventNet.Expr.Parser

/-!
The grammar of expressions.

    expression = chain 4                       chain n   = operand n (sign of tier n, operand n)*
    operand 0  = unary                         operand (n + 1) = chain n
    unary      = ('!' | '-') unary | postfixed
    postfixed  = primary ('(' arguments ')')? ('[' expression ']' | '.' name)*
    primary    = name | literal | '(' expression ')'
    arguments  = (expression (',' expression)*)?

A call has to follow a primary that is a name, possibly in parentheses; nothing else can be called, so
a call comes first among what follows a primary.  A `Phrase` is a derivation tree, one constructor to
a rule.  `words` are the tokens it derives, `tree` is the expression it means, with every chain nested
to the left, and `depth` is the largest number of levels that are open at once in it.
-/

namespace EventNet

namespace Grammar

/-! ### Signs -/

/-- The operators between two operands, by tier. -/
inductive Joins : (tier : Nat) → Token → (Expr → Expr → Expr) → Prop
  | or : Joins 4 .or (.logical .or)
  | and : Joins 3 .and (.logical .and)
  | eq : Joins 2 .eq (.binary .eq)
  | ne : Joins 2 .ne (.binary .ne)
  | lt : Joins 2 .lt (.binary .lt)
  | le : Joins 2 .le (.binary .le)
  | gt : Joins 2 .gt (.binary .gt)
  | ge : Joins 2 .ge (.binary .ge)
  | add : Joins 1 .plus (.binary .add)
  | sub : Joins 1 .minus (.binary .sub)
  | mul : Joins 0 .star (.binary .mul)
  | div : Joins 0 .slash (.binary .div)
  | rem : Joins 0 .percent (.binary .rem)

/-- The operators before an operand. -/
inductive Precedes : Token → UnaryOp → Prop
  | not : Precedes .not .not
  | neg : Precedes .minus .neg

/-- The literals. -/
inductive Writes : Token → Value → Prop
  | number (x : Float) : Writes (.number x) (.number x)
  | str (s : String) : Writes (.str s) (.str s)
  | true : Writes .true (.bool true)
  | false : Writes .false (.bool false)
  | nil : Writes .nil .null

/-! ### Derivation trees -/

/-- The categories of the grammar; those of chains and their parts come once for each tier. -/
inductive Category where
  | expression
  | chain (tier : Nat)
  | operand (tier : Nat)
  | links (tier : Nat)
  | unary
  | postfixed
  | selections
  | primary
  | arguments
  | list
  deriving DecidableEq

/-- A derivation tree of a category. -/
inductive Phrase : Category → Type
  | expression (body : Phrase (.chain 4)) : Phrase .expression
  | chain {tier : Nat} (first : Phrase (.operand tier)) (rest : Phrase (.links tier)) :
      Phrase (.chain tier)
  | factor (body : Phrase .unary) : Phrase (.operand 0)
  | tighter {tier : Nat} (body : Phrase (.chain tier)) : Phrase (.operand (tier + 1))
  | unlinked {tier : Nat} : Phrase (.links tier)
  | link {tier : Nat} (sign : Token) (combine : Expr → Expr → Expr)
      (joins : Joins tier sign combine) (right : Phrase (.operand tier))
      (rest : Phrase (.links tier)) : Phrase (.links tier)
  | plain (body : Phrase .postfixed) : Phrase .unary
  | signed (sign : Token) (op : UnaryOp) (precedes : Precedes sign op) (operand : Phrase .unary) :
      Phrase .unary
  | selected (head : Phrase .primary) (rest : Phrase .selections) : Phrase .postfixed
  | called (callee : Phrase .primary) (function : String) (args : Phrase .arguments)
      (rest : Phrase .selections) : Phrase .postfixed
  | unselected : Phrase .selections
  | index (key : Phrase .expression) (rest : Phrase .selections) : Phrase .selections
  | field (name : String) (rest : Phrase .selections) : Phrase .selections
  | ident (name : String) : Phrase .primary
  | literal (sign : Token) (value : Value) (writes : Writes sign value) : Phrase .primary
  | parens (body : Phrase .expression) : Phrase .primary
  | noArguments : Phrase .arguments
  | listed (items : Phrase .list) : Phrase .arguments
  | last (item : Phrase .expression) : Phrase .list
  | more (item : Phrase .expression) (rest : Phrase .list) : Phrase .list

/-- What a phrase means: an expression, a list of them, or what becomes of the expression before it. -/
abbrev Category.Meaning : Category → Type
  | .links _ | .selections => Expr → Expr
  | .arguments | .list => List Expr
  | _ => Expr

namespace Phrase

/-- The tokens of a phrase.  Arguments include the parenthesis that closes them. -/
def words : {c : Category} → Phrase c → List Token
  | _, .expression body => body.words
  | _, .chain first rest => first.words ++ rest.words
  | _, .factor body => body.words
  | _, .tighter body => body.words
  | _, .unlinked => []
  | _, .link sign _ _ right rest => sign :: (right.words ++ rest.words)
  | _, .plain body => body.words
  | _, .signed sign _ _ operand => sign :: operand.words
  | _, .selected head rest => head.words ++ rest.words
  | _, .called callee _ args rest => callee.words ++ .leftParen :: (args.words ++ rest.words)
  | _, .unselected => []
  | _, .index key rest => .leftBracket :: (key.words ++ .rightBracket :: rest.words)
  | _, .field name rest => .dot :: .ident name :: rest.words
  | _, .ident name => [.ident name]
  | _, .literal sign _ _ => [sign]
  | _, .parens body => .leftParen :: (body.words ++ [.rightParen])
  | _, .noArguments => [.rightParen]
  | _, .listed items => items.words
  | _, .last item => item.words ++ [.rightParen]
  | _, .more item rest => item.words ++ .comma :: rest.words

/-- The meaning of a phrase.  A link is applied to the chain before it, so chains nest to the left. -/
def tree : {c : Category} → Phrase c → c.Meaning
  | _, .expression body => body.tree
  | _, .chain first rest => rest.tree first.tree
  | _, .factor body => body.tree
  | _, .tighter body => body.tree
  | _, .unlinked => fun left => left
  | _, .link _ combine _ right rest => fun left => rest.tree (combine left right.tree)
  | _, .plain body => body.tree
  | _, .signed _ op _ operand => .unary op operand.tree
  | _, .selected head rest => rest.tree head.tree
  | _, .called _ function args rest => rest.tree (.call function args.tree)
  | _, .unselected => fun target => target
  | _, .index key rest => fun target => rest.tree (.index target key.tree)
  | _, .field name rest => fun target => rest.tree (.field target name)
  | _, .ident name => .ident name
  | _, .literal _ value _ => .literal value
  | _, .parens body => body.tree
  | _, .noArguments => []
  | _, .listed items => items.tree
  | _, .last item => [item.tree]
  | _, .more item rest => item.tree :: rest.tree

/-- The largest number of levels that are open at once.  A whole expression opens one, so every pair of
parentheses or brackets and every argument does; an operator before an operand opens one; and a link
of a chain opens one that stays open for the links after it. -/
def depth : {c : Category} → Phrase c → Nat
  | _, .expression body => body.depth + 1
  | _, .chain first rest => max first.depth rest.depth
  | _, .factor body => body.depth
  | _, .tighter body => body.depth
  | _, .unlinked => 0
  | _, .link _ _ _ right rest => max right.depth rest.depth + 1
  | _, .plain body => body.depth
  | _, .signed _ _ _ operand => operand.depth + 1
  | _, .selected head rest => max head.depth rest.depth
  | _, .called callee _ args rest => max callee.depth (max args.depth rest.depth + 1)
  | _, .unselected => 0
  | _, .index key rest => max key.depth rest.depth + 1
  | _, .field _ rest => rest.depth + 1
  | _, .ident _ => 0
  | _, .literal _ _ _ => 0
  | _, .parens body => body.depth
  | _, .noArguments => 0
  | _, .listed items => items.depth
  | _, .last item => item.depth
  | _, .more item rest => max item.depth rest.depth

/-- The name a phrase consists of, if it is one, possibly in parentheses. -/
def name? : {c : Category} → Phrase c → Option String
  | _, .expression body => body.name?
  | _, .chain first .unlinked => first.name?
  | _, .factor body => body.name?
  | _, .tighter body => body.name?
  | _, .plain body => body.name?
  | _, .selected head .unselected => head.name?
  | _, .ident name => some name
  | _, .parens body => body.name?
  | _, _ => none

/-- Every call is the call of a name. -/
def CallsNames : {c : Category} → Phrase c → Prop
  | _, .expression body => body.CallsNames
  | _, .chain first rest => first.CallsNames ∧ rest.CallsNames
  | _, .factor body => body.CallsNames
  | _, .tighter body => body.CallsNames
  | _, .unlinked => True
  | _, .link _ _ _ right rest => right.CallsNames ∧ rest.CallsNames
  | _, .plain body => body.CallsNames
  | _, .signed _ _ _ operand => operand.CallsNames
  | _, .selected head rest => head.CallsNames ∧ rest.CallsNames
  | _, .called callee function args rest =>
    callee.name? = some function ∧ callee.CallsNames ∧ args.CallsNames ∧ rest.CallsNames
  | _, .unselected => True
  | _, .index key rest => key.CallsNames ∧ rest.CallsNames
  | _, .field _ rest => rest.CallsNames
  | _, .ident _ => True
  | _, .literal _ _ _ => True
  | _, .parens body => body.CallsNames
  | _, .noArguments => True
  | _, .listed items => items.CallsNames
  | _, .last item => item.CallsNames
  | _, .more item rest => item.CallsNames ∧ rest.CallsNames

/-! ### Operands without operators -/

/-- An operand of a tier without operators. -/
def lifted (body : Phrase .postfixed) : (tier : Nat) → Phrase (.operand tier)
  | 0 => .factor (.plain body)
  | tier + 1 => .tighter (.chain (lifted body tier) .unlinked)

section

variable (body : Phrase .postfixed) (tier : Nat)

theorem words_lifted : (lifted body tier).words = body.words := by
  induction tier with
  | zero => rfl
  | succ tier ih => exact (List.append_nil _).trans ih

theorem tree_lifted : (lifted body tier).tree = body.tree := by
  induction tier with
  | zero => rfl
  | succ tier ih => exact ih

theorem depth_lifted : (lifted body tier).depth = body.depth := by
  induction tier with
  | zero => rfl
  | succ tier ih => exact (Nat.max_zero _).trans ih

theorem callsNames_lifted (h : body.CallsNames) : (lifted body tier).CallsNames := by
  induction tier with
  | zero => exact h
  | succ tier ih => exact ⟨ih, trivial⟩

end

end Phrase

/-! ### Tokens in a row -/

/-- Tokens that begin with some words and go on with `rest`. -/
def Spells : (words : List Token) → (ts rest : List Spanned) → Prop
  | [], ts, rest => ts = rest
  | w :: words, ts, rest => ∃ position after, ts = ⟨w, position⟩ :: after ∧ Spells words after rest

section

variable {v w : List Token} {ts mid rest : List Spanned}

theorem Spells.append (hv : Spells v ts mid) (hw : Spells w mid rest) : Spells (v ++ w) ts rest := by
  induction v generalizing ts with
  | nil =>
      obtain rfl : ts = mid := hv
      exact hw
  | cons t v ih =>
      obtain ⟨position, after, rfl, hafter⟩ := hv
      exact ⟨position, after, rfl, ih hafter⟩

theorem spells_append : Spells (v ++ w) ts rest ↔ ∃ mid, Spells v ts mid ∧ Spells w mid rest := by
  constructor
  · intro h
    induction v generalizing ts with
    | nil => exact ⟨ts, rfl, h⟩
    | cons t v ih =>
        obtain ⟨position, after, rfl, hafter⟩ := h
        obtain ⟨mid, hv, hw⟩ := ih hafter
        exact ⟨mid, ⟨position, after, rfl, hv⟩, hw⟩
  · rintro ⟨mid, hv, hw⟩
    exact hv.append hw

theorem Spells.length_le (h : Spells w ts rest) : w.length ≤ ts.length := by
  induction w generalizing ts with
  | nil => exact Nat.zero_le _
  | cons t w ih =>
      obtain ⟨position, after, rfl, hafter⟩ := h
      exact Nat.succ_le_succ (ih hafter)

/-- A token other than the end comes from the tokens themselves. -/
theorem spells_next (h : (Parser.next ts).token ≠ .eof) :
    Spells [(Parser.next ts).token] ts ts.tail := by
  cases ts with
  | nil => exact absurd rfl h
  | cons t rest => exact ⟨t.position, rest, rfl, rfl⟩

theorem spells_of_next {t : Token} (h : (Parser.next ts).token = t) (ht : t ≠ .eof) :
    Spells [t] ts ts.tail := by
  subst h
  exact spells_next ht

end

/-! ### What follows a phrase -/

/-- A token that neither selects from an operand nor is an operator of the first tiers. -/
structure Ends (tiers : Nat) (t : Token) : Prop where
  bracket : t ≠ .leftBracket
  dot : t ≠ .dot
  paren : t ≠ .leftParen
  operator : ∀ tier < tiers, ∀ combine, ¬ Joins tier t combine

theorem Ends.mono {m n : Nat} {t : Token} (h : Ends n t) (hmn : m ≤ n) : Ends m t :=
  ⟨h.bracket, h.dot, h.paren, fun tier ht => h.operator tier (Nat.lt_of_lt_of_le ht hmn)⟩

/-- An operator belongs to one tier and has one meaning. -/
theorem Joins.unique {tier other : Nat} {t : Token} {f g : Expr → Expr → Expr}
    (hf : Joins tier t f) (hg : Joins other t g) : tier = other ∧ f = g := by
  cases hf <;> cases hg <;> exact ⟨rfl, rfl⟩

theorem Joins.ends {tier : Nat} {t : Token} {combine : Expr → Expr → Expr}
    (h : Joins tier t combine) : Ends tier t := by
  refine ⟨?_, ?_, ?_, fun other hlt g hg => ?_⟩
  · rintro rfl
    cases h
  · rintro rfl
    cases h
  · rintro rfl
    cases h
  · exact absurd (h.unique hg).1 (Nat.ne_of_gt hlt)

theorem Joins.ne_eof {tier : Nat} {t : Token} {combine : Expr → Expr → Expr}
    (h : Joins tier t combine) : t ≠ .eof := by
  rintro rfl
  cases h

theorem Precedes.ne_eof {t : Token} {op : UnaryOp} (h : Precedes t op) : t ≠ .eof := by
  rintro rfl
  cases h

theorem Writes.ne_eof {t : Token} {v : Value} (h : Writes t v) : t ≠ .eof := by
  rintro rfl
  cases h

theorem Precedes.unique {t : Token} {op op' : UnaryOp} (h : Precedes t op) (h' : Precedes t op') :
    op = op' := by
  cases h <;> cases h' <;> rfl

theorem Writes.unique {t : Token} {v v' : Value} (h : Writes t v) (h' : Writes t v') : v = v' := by
  cases h <;> cases h' <;> rfl

/-- A token that continues no phrase of a category. -/
def Category.Stops : Category → Token → Prop
  | .expression, t => Ends 5 t
  | .chain tier, t => Ends (tier + 1) t
  | .links tier, t => Ends (tier + 1) t
  | .operand tier, t => Ends tier t
  | .unary, t | .postfixed, t | .selections, t => Ends 0 t
  | .primary, _ | .arguments, _ | .list, _ => True

/-- A token that can begin a phrase of a category. -/
def Category.Opens : Category → Token → Prop
  | .primary, t | .postfixed, t => t ≠ .rightParen ∧ ∀ op, ¬ Precedes t op
  | .expression, t | .chain _, t | .operand _, t | .unary, t | .list, t => t ≠ .rightParen
  | .links _, _ | .selections, _ | .arguments, _ => True

namespace Phrase

/-- A phrase begins with a token that can begin one of its category. -/
theorem opens {c : Category} (d : Phrase c) {ts rest : List Spanned} (h : Spells d.words ts rest) :
    c.Opens (Parser.next ts).token := by
  induction d generalizing ts rest with
  | expression body ih => exact ih h
  | chain first links ih _ =>
      obtain ⟨mid, hfirst, -⟩ := spells_append.mp h
      exact ih hfirst
  | factor body ih => exact ih h
  | tighter body ih => exact ih h
  | unlinked => trivial
  | link => trivial
  | plain body ih => exact (ih h).1
  | signed sign op precedes operand =>
      obtain ⟨position, after, rfl, -⟩ := h
      rintro rfl
      cases precedes
  | selected head links ih _ =>
      obtain ⟨mid, hhead, -⟩ := spells_append.mp h
      exact ih hhead
  | called callee function args links ih _ _ =>
      obtain ⟨mid, hcallee, -⟩ := spells_append.mp h
      exact ih hcallee
  | unselected => trivial
  | index => trivial
  | field => trivial
  | ident name =>
      obtain ⟨position, after, rfl, -⟩ := h
      exact ⟨nofun, nofun⟩
  | literal sign value writes =>
      obtain ⟨position, after, rfl, -⟩ := h
      cases writes <;> exact ⟨nofun, nofun⟩
  | parens body =>
      obtain ⟨position, after, rfl, -⟩ := h
      exact ⟨nofun, nofun⟩
  | noArguments => trivial
  | listed => trivial
  | last item ih =>
      obtain ⟨mid, hitem, -⟩ := spells_append.mp h
      exact ih hitem
  | more item items ih _ =>
      obtain ⟨mid, hitem, -⟩ := spells_append.mp h
      exact ih hitem

end Phrase

end Grammar

end EventNet
