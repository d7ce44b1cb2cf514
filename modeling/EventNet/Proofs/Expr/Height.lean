import EventNet.Proofs.Expr.Spelling

/-!
How high the trees are that texts are parsed to.

The levels that may be open at once do not bound the height of a tree by themselves.  A link's level is
given back at the end of its chain, but the chain is then the first operand of a looser chain, whose
links stand above all of it.  So each of the five tiers, and what selects from an operand, can add as
many nodes to a path as levels are left, and so can every expression in parentheses inside.  `tallest`
counts these together: with `n` levels it is the height that no tree exceeds and that some tree has.
What height the tree of one derivation has is told by `reach`.
-/

namespace EventNet

namespace Expr

mutual

/-- The number of nodes on the longest path from the root of a tree to a leaf. -/
def height : Expr → Nat
  | .literal _ => 1
  | .ident _ => 1
  | .unary _ operand => operand.height + 1
  | .binary _ left right => max left.height right.height + 1
  | .logical _ left right => max left.height right.height + 1
  | .index target key => max target.height key.height + 1
  | .field target _ => target.height + 1
  | .call _ args => heightAll args + 1

/-- The height of the highest of some trees. -/
def heightAll : List Expr → Nat
  | [] => 0
  | e :: rest => max e.height (heightAll rest)

end

end Expr

namespace Grammar

/-- The height of the highest tree of an expression that opens `n` levels. -/
def tallest : Nat → Nat
  | 0 => 1
  | n + 1 => tallest n + 6 * n

theorem tallest_mono {m n : Nat} (h : m ≤ n) : tallest m ≤ tallest n := by
  induction h with
  | refl => exact Nat.le_refl _
  | step _ ih => exact Nat.le_trans ih (Nat.le_add_right _ _)

theorem tallest_eq (n : Nat) : tallest (n + 1) = 3 * n * (n + 1) + 1 := by
  induction n with
  | zero => rfl
  | succ n ih =>
      rw [tallest, ih]
      have hexpand : 3 * (n + 1) * (n + 1 + 1) = 3 * n * (n + 1) + 6 * (n + 1) := by
        simp only [Nat.mul_add, Nat.add_mul, Nat.mul_one]
        omega
      omega

theorem height_of_joins {tier : Nat} {sign : Token} {combine : Expr → Expr → Expr}
    (h : Joins tier sign combine) (left right : Expr) :
    (combine left right).height = max left.height right.height + 1 := by
  cases h <;> rfl

namespace Phrase

variable {tier : Nat}

/-! ### No tree is higher -/

/-- With `m` levels a phrase does not get higher than its category allows.  Each tier adds as many nodes
as there are levels to the operands of the next tighter one; links and selections add them to the
highest of what they join. -/
def Low : {c : Category} → Phrase c → Prop
  | .expression, d => ∀ m, d.depth ≤ m → d.tree.height ≤ tallest m
  | .chain tier, d => ∀ m, d.depth ≤ m → d.tree.height ≤ tallest m + (tier + 2) * m
  | .operand tier, d => ∀ m, d.depth ≤ m → d.tree.height ≤ tallest m + (tier + 1) * m
  | .links tier, d => ∀ m left, d.depth ≤ m →
      (d.tree left).height ≤ max left.height (tallest m + (tier + 1) * m) + m
  | .unary, d => ∀ m, d.depth ≤ m → d.tree.height ≤ tallest m + m
  | .postfixed, d => ∀ m, d.depth ≤ m → d.tree.height ≤ tallest m + m
  | .selections, d => ∀ m target, d.depth ≤ m →
      (d.tree target).height ≤ max target.height (tallest m) + m
  | .primary, d => ∀ m, d.depth ≤ m → d.tree.height ≤ tallest m
  | .arguments, d => ∀ m, d.depth ≤ m → Expr.heightAll d.tree ≤ tallest m
  | .list, d => ∀ m, d.depth ≤ m → Expr.heightAll d.tree ≤ tallest m

theorem one_le_tallest (m : Nat) : 1 ≤ tallest m :=
  tallest_mono (Nat.zero_le m)

theorem tallest_le_succ (m : Nat) : tallest m ≤ tallest (m + 1) :=
  tallest_mono (Nat.le_succ m)

theorem Low.expression {body : Phrase (.chain 4)} (hbody : body.Low) : (expression body).Low := by
  intro m hm
  cases m with
  | zero => exact absurd hm (Nat.not_succ_le_zero _)
  | succ m => exact hbody m (Nat.le_of_succ_le_succ hm)

theorem Low.chain {first : Phrase (.operand tier)} {links : Phrase (.links tier)}
    (hfirst : first.Low) (hlinks : links.Low) : (chain first links).Low := by
  intro m hm
  obtain ⟨hf, hl⟩ := Nat.max_le.mp hm
  have hleft := hfirst m hf
  have hmul : (tier + 2) * m = (tier + 1) * m + m := Nat.succ_mul (tier + 1) m
  refine Nat.le_trans (hlinks m first.tree hl) ?_
  omega

theorem Low.factor {body : Phrase .unary} (hbody : body.Low) : (factor body).Low := by
  intro m hm
  refine Nat.le_trans (hbody m hm) ?_
  omega

theorem Low.tighter {body : Phrase (.chain tier)} (hbody : body.Low) : (tighter body).Low :=
  hbody

theorem low_unlinked : (unlinked : Phrase (.links tier)).Low := by
  intro m left _
  exact Nat.le_trans (Nat.le_max_left _ _) (Nat.le_add_right _ m)

theorem Low.link {sign : Token} {combine : Expr → Expr → Expr} {joins : Joins tier sign combine}
    {right : Phrase (.operand tier)} {links : Phrase (.links tier)} (hright : right.Low)
    (hlinks : links.Low) : (link sign combine joins right links).Low := by
  intro m left hm
  cases m with
  | zero => exact absurd hm (Nat.not_succ_le_zero _)
  | succ m =>
      obtain ⟨hr, hl⟩ := Nat.max_le.mp (Nat.le_of_succ_le_succ hm)
      have hoperand := hright m hr
      have hnode := height_of_joins joins left right.tree
      have hmul : (tier + 1) * (m + 1) = (tier + 1) * m + (tier + 1) := Nat.mul_succ (tier + 1) m
      have hmono := tallest_le_succ m
      refine Nat.le_trans (hlinks m (combine left right.tree) hl) ?_
      omega

theorem Low.plain {body : Phrase .postfixed} (hbody : body.Low) : (plain body).Low :=
  hbody

theorem Low.signed {sign : Token} {op : UnaryOp} {precedes : Precedes sign op}
    {operand : Phrase .unary} (hoperand : operand.Low) :
    (signed sign op precedes operand).Low := by
  intro m hm
  cases m with
  | zero => exact absurd hm (Nat.not_succ_le_zero _)
  | succ m =>
      have hmono := tallest_le_succ m
      refine Nat.le_trans (Nat.succ_le_succ (hoperand m (Nat.le_of_succ_le_succ hm))) ?_
      omega

theorem Low.selected {head : Phrase .primary} {links : Phrase .selections} (hhead : head.Low)
    (hlinks : links.Low) : (selected head links).Low := by
  intro m hm
  obtain ⟨hh, hl⟩ := Nat.max_le.mp hm
  have htarget := hhead m hh
  refine Nat.le_trans (hlinks m head.tree hl) ?_
  omega

theorem Low.called {callee : Phrase .primary} {function : String} {args : Phrase .arguments}
    {links : Phrase .selections} (hargs : args.Low) (hlinks : links.Low) :
    (called callee function args links).Low := by
  intro m hm
  obtain ⟨-, hcall⟩ := Nat.max_le.mp hm
  cases m with
  | zero => exact absurd hcall (Nat.not_succ_le_zero _)
  | succ m =>
      obtain ⟨ha, hl⟩ := Nat.max_le.mp (Nat.le_of_succ_le_succ hcall)
      have hcall : (Expr.call function args.tree).height ≤ tallest m + 1 :=
        Nat.succ_le_succ (hargs m ha)
      have hmono := tallest_le_succ m
      refine Nat.le_trans (hlinks m (.call function args.tree) hl) ?_
      omega

theorem low_unselected : unselected.Low := by
  intro m target _
  exact Nat.le_trans (Nat.le_max_left _ _) (Nat.le_add_right _ m)

theorem Low.index {key : Phrase .expression} {links : Phrase .selections} (hkey : key.Low)
    (hlinks : links.Low) : (index key links).Low := by
  intro m target hm
  cases m with
  | zero => exact absurd hm (Nat.not_succ_le_zero _)
  | succ m =>
      obtain ⟨hk, hl⟩ := Nat.max_le.mp (Nat.le_of_succ_le_succ hm)
      have hinner := hkey m hk
      have hnode : (Expr.index target key.tree).height = max target.height key.tree.height + 1 := rfl
      have hmono := tallest_le_succ m
      refine Nat.le_trans (hlinks m (.index target key.tree) hl) ?_
      omega

theorem Low.field {name : String} {links : Phrase .selections} (hlinks : links.Low) :
    (field name links).Low := by
  intro m target hm
  cases m with
  | zero => exact absurd hm (Nat.not_succ_le_zero _)
  | succ m =>
      have hnode : (Expr.field target name).height = target.height + 1 := rfl
      have hmono := tallest_le_succ m
      have hpos := one_le_tallest m
      refine Nat.le_trans (hlinks m (.field target name) (Nat.le_of_succ_le_succ hm)) ?_
      omega

theorem Low.last {item : Phrase .expression} (hitem : item.Low) : (last item).Low := by
  intro m hm
  exact Nat.max_le.mpr ⟨hitem m hm, Nat.zero_le _⟩

theorem Low.more {item : Phrase .expression} {items : Phrase .list} (hitem : item.Low)
    (hitems : items.Low) : (more item items).Low := by
  intro m hm
  obtain ⟨hi, hl⟩ := Nat.max_le.mp hm
  exact Nat.max_le.mpr ⟨hitem m hi, hitems m hl⟩

/-- **No phrase gets higher than its category allows.** -/
theorem low {c : Category} (d : Phrase c) : d.Low := by
  induction d with
  | expression body hbody => exact hbody.expression
  | chain first links hfirst hlinks => exact hfirst.chain hlinks
  | factor body hbody => exact hbody.factor
  | tighter body hbody => exact hbody.tighter
  | unlinked => exact low_unlinked
  | link sign combine joins right links hright hlinks => exact hright.link hlinks
  | plain body hbody => exact hbody.plain
  | signed sign op precedes operand hoperand => exact hoperand.signed
  | selected head links hhead hlinks => exact hhead.selected hlinks
  | called callee function args links _ hargs hlinks => exact hargs.called hlinks
  | unselected => exact low_unselected
  | index key links hkey hlinks => exact hkey.index hlinks
  | field name links hlinks => exact hlinks.field
  | ident name => exact fun m _ => one_le_tallest m
  | literal sign value writes => exact fun m _ => one_le_tallest m
  | parens body hbody => exact hbody
  | noArguments => exact fun m _ => Nat.zero_le _
  | listed items hitems => exact hitems
  | last item hitem => exact hitem.last
  | more item items hitem hitems => exact hitem.more hitems

/-! ### How high a tree is

An operand of a chain stands under its own link and the links after it, and `depth` counts its own link
and the links before it.  So the height of a tree is told by another count over the derivation.
-/

/-- The number of links of a chain, or of what selects from an operand. -/
def length : {c : Category} → Phrase c → Nat
  | _, .link _ _ _ _ rest => rest.length + 1
  | _, .index _ rest => rest.length + 1
  | _, .field _ rest => rest.length + 1
  | _, _ => 0

/-- The largest number of nodes on top of each other, where an operand is under its own link and the
links after it. -/
def reach : {c : Category} → Phrase c → Nat
  | _, .expression body => body.reach
  | _, .chain first rest => max (first.reach + rest.length) rest.reach
  | _, .factor body => body.reach
  | _, .tighter body => body.reach
  | _, .unlinked => 0
  | _, .link _ _ _ right rest => max (right.reach + 1 + rest.length) rest.reach
  | _, .plain body => body.reach
  | _, .signed _ _ _ operand => operand.reach + 1
  | _, .selected head rest => max (head.reach + rest.length) rest.reach
  | _, .called _ _ args rest => max (args.reach + 1 + rest.length) rest.reach
  | _, .unselected => 0
  | _, .index key rest => max (key.reach + 1 + rest.length) rest.reach
  | _, .field _ rest => rest.reach
  | _, .ident _ => 1
  | _, .literal _ _ _ => 1
  | _, .parens body => body.reach
  | _, .noArguments => 0
  | _, .listed items => items.reach
  | _, .last item => item.reach
  | _, .more item rest => max item.reach rest.reach

/-- `reach` is the height of what a phrase means; links and selections put theirs under what they are
applied to. -/
def Reaches : {c : Category} → Phrase c → Prop
  | .links _, d => ∀ left, (d.tree left).height = max (left.height + d.length) d.reach
  | .selections, d => ∀ target, (d.tree target).height = max (target.height + d.length) d.reach
  | .arguments, d => Expr.heightAll d.tree = d.reach
  | .list, d => Expr.heightAll d.tree = d.reach
  | .expression, d => d.tree.height = d.reach
  | .chain _, d => d.tree.height = d.reach
  | .operand _, d => d.tree.height = d.reach
  | .unary, d => d.tree.height = d.reach
  | .postfixed, d => d.tree.height = d.reach
  | .primary, d => d.tree.height = d.reach

theorem reaches {c : Category} (d : Phrase c) : d.Reaches := by
  induction d with
  | expression body hbody => exact hbody
  | chain first links hfirst hlinks =>
      have hleft : first.tree.height = first.reach := hfirst
      exact (hlinks first.tree).trans (by rw [hleft]; rfl)
  | factor body hbody => exact hbody
  | tighter body hbody => exact hbody
  | unlinked => exact fun left => (Nat.max_zero left.height).symm
  | link sign combine joins right links hright hlinks =>
      intro left
      have hoperand : right.tree.height = right.reach := hright
      have hnode := height_of_joins joins left right.tree
      have hreach : (link sign combine joins right links).reach =
        max (right.reach + 1 + links.length) links.reach := rfl
      have hlength : (link sign combine joins right links).length = links.length + 1 := rfl
      refine (hlinks (combine left right.tree)).trans ?_
      omega
  | plain body hbody => exact hbody
  | signed sign op precedes operand hoperand =>
      have hinner : operand.tree.height = operand.reach := hoperand
      exact congrArg (· + 1) hinner
  | selected head links hhead hlinks =>
      have htarget : head.tree.height = head.reach := hhead
      exact (hlinks head.tree).trans (by rw [htarget]; rfl)
  | called callee function args links _ hargs hlinks =>
      have hcall : (Expr.call function args.tree).height = args.reach + 1 :=
        congrArg (· + 1) hargs
      exact (hlinks (.call function args.tree)).trans (by rw [hcall]; rfl)
  | unselected => exact fun target => (Nat.max_zero target.height).symm
  | index key links hkey hlinks =>
      intro target
      have hinner : key.tree.height = key.reach := hkey
      have hnode : (Expr.index target key.tree).height = max target.height key.tree.height + 1 := rfl
      have hreach : (index key links).reach = max (key.reach + 1 + links.length) links.reach := rfl
      have hlength : (index key links).length = links.length + 1 := rfl
      refine (hlinks (.index target key.tree)).trans ?_
      omega
  | field name links hlinks =>
      intro target
      have hnode : (Expr.field target name).height = target.height + 1 := rfl
      have hreach : (field name links).reach = links.reach := rfl
      have hlength : (field name links).length = links.length + 1 := rfl
      refine (hlinks (.field target name)).trans ?_
      omega
  | ident name => rfl
  | literal sign value writes => rfl
  | parens body hbody => exact hbody
  | noArguments => rfl
  | listed items hitems => exact hitems
  | last item hitem =>
      have hheight : item.tree.height = item.reach := hitem
      exact (Nat.max_zero _).trans hheight
  | more item items hitem hitems =>
      have hheight : item.tree.height = item.reach := hitem
      have hrest : Expr.heightAll items.tree = items.reach := hitems
      exact congr (congrArg max hheight) hrest

theorem height_tree (d : Phrase .expression) : d.tree.height = d.reach :=
  d.reaches

/-! ### Some tree is as high

A layer puts a chain of fields on a primary and then a chain of each tier on that, every one as long
as the levels allow, and the next layer takes it in parentheses.
-/

/-- A name. -/
def named : Phrase .postfixed :=
  .selected (.ident "x") .unselected

/-- Fields in a row. -/
def fields : Nat → Phrase .selections
  | 0 => .unselected
  | n + 1 => .field "x" (fields n)

/-- Links of one sign in a row. -/
def repeated {sign : Token} {combine : Expr → Expr → Expr} (joins : Joins tier sign combine) :
    Nat → Phrase (.links tier)
  | 0 => .unlinked
  | n + 1 => .link sign combine joins (lifted named tier) (repeated joins n)

/-- Links in a row on a tier. -/
def linked (n : Nat) : (tier : Nat) → Phrase (.links tier)
  | 0 => repeated .mul n
  | 1 => repeated .add n
  | 2 => repeated .lt n
  | 3 => repeated .and n
  | 4 => repeated .or n
  | _ => .unlinked

/-- A chain of fields and a chain on every tier up to one, all of one length. -/
def chains (n : Nat) (head : Phrase .primary) : (tier : Nat) → Phrase (.chain tier)
  | 0 => .chain (.factor (.plain (.selected head (fields n)))) (linked n 0)
  | tier + 1 => .chain (.tighter (chains n head tier)) (linked n (tier + 1))

/-- The chains of all tiers. -/
def layer (n : Nat) (head : Phrase .primary) : Phrase .expression :=
  .expression (chains n head 4)

/-- Layers in parentheses, each of the length that the levels around it leave. -/
def layers : Nat → Phrase .primary
  | 0 => .ident "x"
  | n + 1 => .parens (layer n (layers n))

theorem depth_fields (n : Nat) : (fields n).depth = n := by
  induction n with
  | zero => rfl
  | succ n ih => exact congrArg (· + 1) ih

theorem height_fields (n : Nat) (target : Expr) :
    ((fields n).tree target).height = target.height + n := by
  induction n generalizing target with
  | zero => rfl
  | succ n ih =>
      have hnode : (Expr.field target "x").height = target.height + 1 := rfl
      refine (ih (.field target "x")).trans ?_
      omega

section

variable {sign : Token} {combine : Expr → Expr → Expr} (joins : Joins tier sign combine)

theorem depth_repeated (n : Nat) : (repeated joins n).depth = n := by
  induction n with
  | zero => rfl
  | succ n ih =>
      have hlink : (repeated joins (n + 1)).depth =
        max (lifted named tier).depth (repeated joins n).depth + 1 := rfl
      have hname : named.depth = 0 := rfl
      rw [hlink, depth_lifted, hname, ih, Nat.zero_max]

/-- Every link adds a node to the path through the first operand. -/
theorem height_repeated (n : Nat) {left : Expr} (hleft : 1 ≤ left.height) :
    ((repeated joins n).tree left).height = left.height + n := by
  induction n generalizing left with
  | zero => rfl
  | succ n ih =>
      have hname : (lifted named tier).tree.height = 1 := congrArg Expr.height (tree_lifted named tier)
      have hnode := height_of_joins joins left (lifted named tier).tree
      have hpos : 1 ≤ (combine left (lifted named tier).tree).height := by omega
      refine (ih hpos).trans ?_
      omega

end

section

variable (n : Nat)

theorem depth_linked (htier : tier < 5) : (linked n tier).depth = n := by
  match tier, htier with
  | 0, _ | 1, _ | 2, _ | 3, _ | 4, _ => exact depth_repeated _ n

theorem height_linked (htier : tier < 5) (left : Expr) (hleft : 1 ≤ left.height) :
    ((linked n tier).tree left).height = left.height + n := by
  match tier, htier with
  | 0, _ | 1, _ | 2, _ | 3, _ | 4, _ => exact height_repeated _ n hleft

variable (head : Phrase .primary)

theorem depth_chains (htier : tier < 5) : (chains n head tier).depth = max head.depth n := by
  induction tier with
  | zero =>
      have hchain : (chains n head 0).depth =
        max (max head.depth (fields n).depth) (linked n 0).depth := rfl
      rw [hchain, depth_fields, depth_linked n htier]
      omega
  | succ tier ih =>
      have hchain : (chains n head (tier + 1)).depth =
        max (chains n head tier).depth (linked n (tier + 1)).depth := rfl
      rw [hchain, ih (Nat.lt_of_succ_lt htier), depth_linked n htier]
      omega

theorem height_chains (htier : tier < 5) (hhead : 1 ≤ head.tree.height) :
    (chains n head tier).tree.height = head.tree.height + (tier + 2) * n := by
  induction tier with
  | zero =>
      have hselected := height_fields n head.tree
      have hpos : 1 ≤ ((fields n).tree head.tree).height := by omega
      refine (height_linked n htier _ hpos).trans ?_
      omega
  | succ tier ih =>
      have hchain := ih (Nat.lt_of_succ_lt htier)
      have hmul : (tier + 1 + 2) * n = (tier + 2) * n + n := Nat.succ_mul (tier + 2) n
      have hpos : 1 ≤ (chains n head tier).tree.height := by omega
      refine (height_linked n htier _ hpos).trans ?_
      omega

theorem depth_layer : (layer n head).depth = max head.depth n + 1 :=
  congrArg (· + 1) (depth_chains n head (by decide))

theorem height_layer (hhead : 1 ≤ head.tree.height) :
    (layer n head).tree.height = head.tree.height + 6 * n :=
  height_chains n head (by decide) hhead

end

theorem depth_layers (n : Nat) : (layers n).depth = n := by
  induction n with
  | zero => rfl
  | succ n ih =>
      refine (depth_layer n (layers n)).trans ?_
      rw [ih, Nat.max_self]

theorem height_layers (n : Nat) : (layers n).tree.height = tallest n := by
  induction n with
  | zero => rfl
  | succ n ih =>
      have hpos : 1 ≤ (layers n).tree.height := ih ▸ one_le_tallest n
      exact (height_layer n (layers n) hpos).trans (congrArg (· + 6 * n) ih)

/-! ### Their texts -/

/-- A phrase whose tokens can be written out. -/
structure Writable {c : Category} (d : Phrase c) : Prop where
  calls : d.CallsNames
  spelled : ∀ t ∈ d.words, Lexer.Spelled t

/-- The text of a phrase. -/
def text {c : Category} (d : Phrase c) : String :=
  String.ofList (Lexer.written d.words)

/-- The text of a phrase is parsed to its meaning. -/
theorem Writable.parse_text {d : Phrase .expression} (h : d.Writable)
    (hdepth : d.depth ≤ Parser.maxDepth) : Expr.parse d.text = .ok d.tree := by
  have hreads : Lexer.Reads d.text.toList d.words := by
    rw [text, String.toList_ofList]
    exact Lexer.reads_written h.spelled
  exact (Derivation.parse_eq hreads ⟨d, h.calls, rfl⟩).trans (within_of_le hdepth)

theorem spelled_x : Lexer.Spelled (.ident "x") :=
  ⟨'x', [], rfl, rfl, nofun, rfl⟩

theorem spelled_of_joins {sign : Token} {combine : Expr → Expr → Expr}
    (h : Joins tier sign combine) : Lexer.Spelled sign := by
  cases h <;> trivial

theorem writable_named (tier : Nat) : (lifted named tier).Writable := by
  refine ⟨callsNames_lifted named tier ⟨trivial, trivial⟩, ?_⟩
  rw [words_lifted]
  exact List.forall_mem_singleton.mpr spelled_x

theorem writable_fields (n : Nat) : (fields n).Writable := by
  induction n with
  | zero => exact ⟨trivial, nofun⟩
  | succ n ih =>
      refine ⟨ih.calls, List.forall_mem_cons.mpr ⟨trivial, ?_⟩⟩
      exact List.forall_mem_cons.mpr ⟨spelled_x, ih.spelled⟩

theorem writable_repeated {sign : Token} {combine : Expr → Expr → Expr}
    (joins : Joins tier sign combine) (n : Nat) : (repeated joins n).Writable := by
  induction n with
  | zero => exact ⟨trivial, nofun⟩
  | succ n ih =>
      have hname := writable_named tier
      refine ⟨⟨hname.calls, ih.calls⟩, List.forall_mem_cons.mpr ⟨spelled_of_joins joins, ?_⟩⟩
      exact List.forall_mem_append.mpr ⟨hname.spelled, ih.spelled⟩

theorem writable_linked (n tier : Nat) : (linked n tier).Writable := by
  match tier with
  | 0 | 1 | 2 | 3 | 4 => exact writable_repeated _ n
  | _ + 5 => exact ⟨trivial, nofun⟩

theorem writable_chains (n : Nat) {head : Phrase .primary} (hhead : head.Writable) (tier : Nat) :
    (chains n head tier).Writable := by
  induction tier with
  | zero =>
      have hfields := writable_fields n
      have hlinked := writable_linked n 0
      refine ⟨⟨⟨hhead.calls, hfields.calls⟩, hlinked.calls⟩, ?_⟩
      refine List.forall_mem_append.mpr ⟨?_, hlinked.spelled⟩
      exact List.forall_mem_append.mpr ⟨hhead.spelled, hfields.spelled⟩
  | succ tier ih =>
      have hlinked := writable_linked n (tier + 1)
      refine ⟨⟨ih.calls, hlinked.calls⟩, ?_⟩
      exact List.forall_mem_append.mpr ⟨ih.spelled, hlinked.spelled⟩

theorem writable_layer (n : Nat) {head : Phrase .primary} (hhead : head.Writable) :
    (layer n head).Writable :=
  ⟨(writable_chains n hhead 4).calls, (writable_chains n hhead 4).spelled⟩

theorem writable_ident : (ident "x").Writable :=
  ⟨trivial, List.forall_mem_singleton.mpr spelled_x⟩

theorem writable_layers (n : Nat) : (layers n).Writable := by
  induction n with
  | zero => exact writable_ident
  | succ n ih =>
      have hlayer := writable_layer n ih
      refine ⟨hlayer.calls, List.forall_mem_cons.mpr ⟨trivial, ?_⟩⟩
      refine List.forall_mem_append.mpr ⟨hlayer.spelled, ?_⟩
      exact List.forall_mem_singleton.mpr trivial

end Phrase

/-- One text is parsed to a tree that is as high as the levels allow. -/
theorem tallest_parsed :
    ∃ text e, Expr.parse text = .ok e ∧ e.height = tallest Parser.maxDepth := by
  let highest := Phrase.layer 99 (Phrase.layers 99)
  have hdepth : highest.depth ≤ Parser.maxDepth := by
    rw [Phrase.depth_layer, Phrase.depth_layers]
    decide
  have hheight : highest.tree.height = tallest Parser.maxDepth := Phrase.height_layers 100
  have hwritable := Phrase.writable_layer 99 (Phrase.writable_layers 99)
  exact ⟨highest.text, highest.tree, hwritable.parse_text hdepth, hheight⟩

example : tallest Parser.maxDepth = 29701 := tallest_eq 99

/-- **What a text is parsed to is no higher than the number of levels exactly if its derivation does
not reach higher**, which the levels that the derivation opens do not say.  They say that no tree is
higher than `tallest`. -/
theorem parse_height (text : String) :
    ((∀ e, Expr.parse text = .ok e → e.height ≤ Parser.maxDepth) ↔
      ∀ ts, tokenize text = .ok ts → ∀ d : Derivation (sentence ts),
        d.phrase.depth ≤ Parser.maxDepth → d.phrase.reach ≤ Parser.maxDepth) ∧
      ∀ e, Expr.parse text = .ok e → e.height ≤ tallest Parser.maxDepth := by
  refine ⟨⟨fun h ts hts d hfits => ?_, fun h e hparse => ?_⟩, fun e hparse => ?_⟩
  · rw [← d.phrase.height_tree]
    exact h d.phrase.tree (parse_eq_ok_iff.mpr ⟨ts, hts, d, hfits, rfl⟩)
  · obtain ⟨ts, hts, d, hfits, rfl⟩ := parse_eq_ok_iff.mp hparse
    rw [d.phrase.height_tree]
    exact h ts hts d hfits
  · obtain ⟨ts, -, d, hfits, rfl⟩ := parse_eq_ok_iff.mp hparse
    exact d.phrase.low Parser.maxDepth hfits

/-- A name with seventeen fields and seventeen links on every tier, which is higher than the number of
levels that may be open. -/
theorem mixed_chains_higher :
    ∃ e, Expr.parse (Phrase.layer 17 (.ident "x")).text = .ok e ∧ ¬ e.height ≤ Parser.maxDepth := by
  let mixed := Phrase.layer 17 (.ident "x")
  have hdepth : mixed.depth ≤ Parser.maxDepth := by
    rw [Phrase.depth_layer]
    decide
  have hheight : mixed.tree.height = 103 := Phrase.height_layer 17 (.ident "x") (Nat.le_refl 1)
  have hwritable := Phrase.writable_layer 17 Phrase.writable_ident
  refine ⟨mixed.tree, hwritable.parse_text hdepth, ?_⟩
  rw [hheight]
  decide

end Grammar

end EventNet
