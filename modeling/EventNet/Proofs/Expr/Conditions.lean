import EventNet.Proofs.Expr.Spelling
import EventNet.Net.Guard
import EventNet.Proofs.Number

/-!
Conditions on an amount.

`amount > 0` is the guard of an action that adds an amount to the entry of a map, and
`amount > 0 && s[from] >= amount` that of one that takes it from the entry of the map `s` under the
key `from`.  What these texts are parsed to follows from their derivations, and what their truth says
of the bindings from the operators they are made of.
-/

namespace EventNet

namespace Condition

open Grammar Grammar.Phrase Lexer

/-! ### Their texts -/

/-- The condition that the amount is positive. -/
def positive : String :=
  "amount > 0"

/-- The condition that the amount is positive and that a map holds it under the key `from`. -/
def covered (state : String) : String :=
  "amount > 0 && " ++ state ++ "[from] >= amount"

/-- The tree of `positive`. -/
def positiveTree : Expr :=
  .binary .gt (.ident "amount") (.literal (.number 0))

/-- The tree of `covered`. -/
def coveredTree (state : String) : Expr :=
  .logical .and positiveTree (.binary .ge (.index (.ident state) (.ident "from")) (.ident "amount"))

/-- A name as an operand. -/
def name (n : String) : Phrase .postfixed :=
  .selected (.ident n) .unselected

/-- The number zero as an operand. -/
def zero : Phrase .postfixed :=
  .selected (.literal (.number 0) (.number 0) (.number 0)) .unselected

/-- The entry of a map under a named key. -/
def entry (state key : String) : Phrase .postfixed :=
  let key := Phrase.expression (.chain (lifted (name key) 4) .unlinked)
  .selected (.ident state) (.index key .unselected)

/-- A comparison. -/
def compared {sign : Token} {combine : Expr → Expr → Expr} (joins : Joins 2 sign combine)
    (left right : Phrase .postfixed) : Phrase (.operand 3) :=
  .tighter (.chain (lifted left 2) (.link sign combine joins (lifted right 2) .unlinked))

/-- Whether the amount is positive, as an operand of `&&`. -/
def positiveOperand : Phrase (.operand 3) :=
  compared .gt (name "amount") zero

/-- The derivation of `positive`. -/
def positiveDerivation : Derivation [.ident "amount", .gt, .number 0] where
  phrase := .expression (.chain (.tighter (.chain positiveOperand .unlinked)) .unlinked)
  calls := by simp [positiveOperand, compared, lifted, name, zero, CallsNames]
  derives := rfl

/-- The derivation of `covered`. -/
def coveredDerivation (state : String) : Derivation [.ident "amount", .gt, .number 0, .and,
    .ident state, .leftBracket, .ident "from", .rightBracket, .ge, .ident "amount"] where
  phrase :=
    let held := compared .ge (entry state "from") (name "amount")
    .expression (.chain (.tighter (.chain positiveOperand (.link .and _ .and held .unlinked)))
      .unlinked)
  calls := by simp [positiveOperand, compared, lifted, name, zero, entry, CallsNames]
  derives := rfl

theorem isName_amount : IsName "amount" :=
  ⟨'a', ['m', 'o', 'u', 'n', 't'], rfl, rfl, List.all_eq_true.mp rfl, rfl⟩

theorem isName_from : IsName "from" :=
  ⟨'f', ['r', 'o', 'm'], rfl, rfl, List.all_eq_true.mp rfl, rfl⟩

/-- The tokens of the first comparison, before what it is followed by. -/
theorem reads_compared {cs : List Char} {words : List Token}
    (h : Reads ('0' :: cs) (.number 0 :: words)) :
    Reads ("amount > ".toList ++ '0' :: cs) (.ident "amount" :: .gt :: .number 0 :: words) := by
  have hsign : Reads ('>' :: ' ' :: '0' :: cs) (.gt :: .number 0 :: words) :=
    reads_spelling (t := .gt) trivial (h.blank rfl)
  exact reads_spelling (t := .ident "amount") isName_amount (hsign.blank rfl)

theorem reads_positive : Reads positive.toList [.ident "amount", .gt, .number 0] :=
  reads_compared (Reads.single rfl (fun _ => rfl) reads_nil)

theorem lexeme_zero (cs : List Char) (position : Nat) :
    lexeme position '0' (' ' :: cs) = .ok (.number 0, 0) := by
  have hlexeme : lexeme position '0' (' ' :: cs) = .ok (.number (numberValue ['0']), 0) := rfl
  have hvalue : numberValue ['0'] = 0 := rfl
  rw [hlexeme, hvalue]

theorem reads_covered {state : String} (h : IsName state) : Reads (covered state).toList
    [.ident "amount", .gt, .number 0, .and, .ident state, .leftBracket, .ident "from",
      .rightBracket, .ge, .ident "amount"] := by
  -- from the last token to the first
  have hamount : Reads ("amount".toList ++ []) [.ident "amount"] :=
    Reads.name isName_amount nofun reads_nil
  have hge : Reads ">= amount".toList [.ge, .ident "amount"] :=
    reads_spelling (t := .ge) trivial (hamount.blank rfl)
  have hclose : Reads "] >= amount".toList [.rightBracket, .ge, .ident "amount"] :=
    reads_spelling (t := .rightBracket) trivial (hge.blank rfl)
  have hkey := hclose.name_before isName_from rfl
  have hopen : Reads "[from] >= amount".toList
      [.leftBracket, .ident "from", .rightBracket, .ge, .ident "amount"] :=
    Reads.single rfl (fun position => rfl) hkey
  have hstate := hopen.name_before h rfl
  have hand := reads_spelling (t := .and) trivial (hstate.blank rfl)
  have hblank := hand.blank (c := ' ') rfl
  have hzero := Reads.single rfl (lexeme_zero _) hblank
  have htext : (covered state).toList =
      "amount > 0 && ".toList ++ state.toList ++ "[from] >= amount".toList :=
    String.toList_append.trans (congrArg (· ++ _) String.toList_append)
  rw [htext, List.append_assoc]
  exact reads_compared hzero

theorem parse_positive : Expr.parse positive = .ok positiveTree :=
  (positiveDerivation.parse_eq reads_positive).trans (within_of_le (by decide))

theorem parse_covered {state : String} (h : IsName state) :
    Expr.parse (covered state) = .ok (coveredTree state) := by
  have hdepth : (coveredDerivation state).phrase.depth ≤ Parser.maxDepth := by
    show 4 ≤ 100
    decide
  exact ((coveredDerivation state).parse_eq (reads_covered h)).trans (within_of_le hdepth)

/-! ### Their truth -/

section

open EventNet.Expr

variable {scope : Scope} {amount : Float} {container : Bool}

theorem evalIn_ident {n : String} {v : Value} (h : Dict.get? scope.bindings n = some v) :
    evalIn scope container (.ident n) = .ok v := by
  rw [evalIn, h]

theorem evalIn_positive (h : Dict.get? scope.bindings "amount" = some (.number amount)) :
    evalIn scope container positiveTree = .ok (.bool (decide (0 < amount))) := by
  rw [positiveTree, evalIn, evalIn_ident h, evalIn]
  rfl

/-- The entry of a map, where a missing one counts as zero. -/
theorem evalIn_entry {state : String} {entries : Dict Value} {key : Value} {k : String}
    {held : Float} (hstate : Dict.get? scope.bindings state = some (.map entries))
    (hkey : Dict.get? scope.bindings "from" = some key) (hk : key.toKey? = some k)
    (hheld : (entries.get? k).getD .zero = .number held) :
    evalIn scope false (.index (.ident state) (.ident "from")) = .ok (.number held) := by
  rw [evalIn, evalIn_ident hstate, evalIn_ident hkey]
  show selectOrMissing false (.map entries) key = _
  rw [selectOrMissing, select, hk]
  exact congrArg Except.ok hheld

theorem evalIn_ge {left right : Expr} {x y : Float}
    (hleft : evalIn scope false left = .ok (.number x))
    (hright : evalIn scope false right = .ok (.number y)) :
    evalIn scope container (.binary .ge left right) = .ok (.bool (decide (y ≤ x))) := by
  rw [evalIn, hleft, hright]
  rfl

end

/-- A guard is true if its tree is. -/
theorem guard_standard {functions : Registry} {bindings : Bindings} {text : String} {e : Expr}
    (hparse : Expr.parse text = .ok e) :
    (GuardEvaluator.standard functions).guard text bindings =
      e.test (guardScope functions bindings) := by
  show (CompiledExpr.compile text).bind _ = _
  rw [CompiledExpr.compile, hparse]
  rfl

theorem pos_of_test {scope : Expr.Scope} {amount : Float}
    (hamount : Dict.get? scope.bindings "amount" = some (.number amount))
    (h : positiveTree.test scope = .ok true) : 0 < amount := by
  rw [Expr.test, Expr.eval, evalIn_positive hamount] at h
  exact of_decide_eq_true (Except.ok.inj h)

/-- An amount that passes the condition is positive. -/
theorem pos_of_positive {functions : Registry} {bindings : Bindings} {amount : Float}
    (hamount : Dict.get? bindings "amount" = some (.number amount))
    (h : (GuardEvaluator.standard functions).guard positive bindings = .ok true) : 0 < amount := by
  rw [guard_standard parse_positive] at h
  exact pos_of_test hamount h

section

variable {functions : Registry} {bindings : Bindings} {state : String} {amount : Float}

/-- An amount that passes the condition on a map is positive. -/
theorem pos_of_covered (hname : IsName state)
    (hamount : Dict.get? bindings "amount" = some (.number amount))
    (h : (GuardEvaluator.standard functions).guard (covered state) bindings = .ok true) :
    0 < amount := by
  rw [guard_standard (parse_covered hname), Expr.test, Expr.eval, coveredTree, Expr.evalIn,
    evalIn_positive hamount] at h
  by_cases hpos : 0 < amount
  · exact hpos
  · simp [hpos, Except.bind, Expr.logicalOperand, Expr.settles] at h

/-- An amount that passes the condition on a map is at most what the map holds under the key, where a
missing entry counts as zero. -/
theorem le_of_covered {held : Float} {entries : Dict Value} {key : Value} {k : String}
    (hname : IsName state) (hamount : Dict.get? bindings "amount" = some (.number amount))
    (hkey : Dict.get? bindings "from" = some key) (hk : key.toKey? = some k)
    (hstate : Dict.get? bindings state = some (.map entries))
    (hheld : (entries.get? k).getD .zero = .number held)
    (h : (GuardEvaluator.standard functions).guard (covered state) bindings = .ok true) :
    amount ≤ held := by
  have hpos := pos_of_covered hname hamount h
  have hentry : Expr.evalIn (guardScope functions bindings) false
      (.index (.ident state) (.ident "from")) = .ok (.number held) :=
    evalIn_entry hstate hkey hk hheld
  have hge : Expr.evalIn (guardScope functions bindings) false
      (.binary .ge (.index (.ident state) (.ident "from")) (.ident "amount")) =
        .ok (.bool (decide (amount ≤ held))) :=
    evalIn_ge hentry (evalIn_ident hamount)
  rw [guard_standard (parse_covered hname), Expr.test, Expr.eval, coveredTree, Expr.evalIn,
    evalIn_positive hamount, hge] at h
  have hle : decide (amount ≤ held) = true := by
    simpa [hpos, Except.bind, Except.map, Expr.logicalOperand, Expr.settles] using h
  exact of_decide_eq_true hle

end

end Condition

end EventNet
