import EventNet.Net.Guard
import EventNet.Proofs.Net.Agreement

/-!
Expressions do not tell zero from negative zero.

Results are `Alike` when they are the same error, or values with one plain form.  Every operator gives
alike results on operands with one plain form: the sign of a zero is lost in keys, in comparisons and
in arithmetic, and dividing by a zero is an error whatever its sign.  So an expression gives alike
results in scopes with one plain form, as long as the functions it calls do, and the built-in ones do.
-/

namespace EventNet

open Value

/-! ### Alike results -/

/-- The same error, or values with one plain form. -/
def Expr.Alike (r r' : Except ExprError Value) : Prop :=
  r.map plain = r'.map plain

namespace Expr

variable {r r' : Except ExprError Value}

/-- Two results with one image are the same error, or values with one image. -/
private theorem map_eq_cases {α β : Type} {f : α → β} {r r' : Except ExprError α}
    (h : r.map f = r'.map f) :
    (∃ e, r = .error e ∧ r' = .error e) ∨ ∃ x y, r = .ok x ∧ r' = .ok y ∧ f x = f y := by
  cases r with
  | error e =>
      cases r' with
      | error e' => exact Or.inl ⟨e, rfl, congrArg Except.error (Except.error.inj h).symm⟩
      | ok y => exact nomatch h
  | ok x =>
      cases r' with
      | error e' => exact nomatch h
      | ok y => exact Or.inr ⟨x, y, rfl, rfl, Except.ok.inj h⟩

theorem alike_ok {v w : Value} (h : v.plain = w.plain) : Alike (.ok v) (.ok w) :=
  congrArg Except.ok h

theorem Alike.cases (h : Alike r r') :
    (∃ e, r = .error e ∧ r' = .error e) ∨ ∃ v w, r = .ok v ∧ r' = .ok w ∧ v.plain = w.plain :=
  map_eq_cases h

/-- What gives alike results on a value and its plain form does so on values with one plain form. -/
theorem alike_of_plain {f : Value → Except ExprError Value} (hf : ∀ v, Alike (f v.plain) (f v))
    {v w : Value} (h : v.plain = w.plain) : Alike (f v) (f w) :=
  (hf v).symm.trans ((congrArg (fun x => (f x).map plain) h).trans (hf w))

theorem alike_of_plain₂ {f : Value → Value → Except ExprError Value}
    (hf : ∀ v x, Alike (f v.plain x.plain) (f v x)) {v w x y : Value} (h : v.plain = w.plain)
    (h' : x.plain = y.plain) : Alike (f v x) (f w y) :=
  (hf v x).symm.trans ((congrArg₂ (fun v x => (f v x).map plain) h h').trans (hf w y))

/-- A question that the plain form answers as the value does is answered alike. -/
theorem Alike.bind_eq {α : Type} (h : Alike r r') {f : Value → Except ExprError α}
    (hf : ∀ v, f v.plain = f v) : r.bind f = r'.bind f := by
  rcases h.cases with ⟨e, rfl, rfl⟩ | ⟨v, w, rfl, rfl, hvw⟩
  · rfl
  · exact (hf v).symm.trans ((congrArg f hvw).trans (hf w))

/-- Going on alike with alike values. -/
theorem Alike.bind (h : Alike r r') {f g : Value → Except ExprError Value}
    (hfg : ∀ v w, v.plain = w.plain → Alike (f v) (g w)) : Alike (r.bind f) (r'.bind g) := by
  rcases h.cases with ⟨e, rfl, rfl⟩ | ⟨v, w, rfl, rfl, hvw⟩
  · exact rfl
  · exact hfg v w hvw

/-! ### Operators -/

theorem applyUnary_alike (op : UnaryOp) (v : Value) :
    Alike (applyUnary op v.plain) (applyUnary op v) := by
  cases op <;> cases v <;> first
    | rfl
    | exact congrArg (fun x => Except.ok (number x)) (Double.plain_neg _).symm

theorem compareNumbers_plain (op : BinaryOp) (x y : Float) :
    compareNumbers op (Double.plain x) (Double.plain y) = compareNumbers op x y := by
  cases op with
  | lt => exact decide_eq_decide.mpr (Double.lt_plain x y)
  | le => exact decide_eq_decide.mpr (Double.le_plain x y)
  | gt => exact decide_eq_decide.mpr (Double.lt_plain y x)
  | _ => exact decide_eq_decide.mpr (Double.le_plain y x)

theorem arithmetic_plain (op : BinaryOp) (x y : Float) :
    (arithmetic op (Double.plain x) (Double.plain y)).map Double.plain =
      (arithmetic op x y).map Double.plain := by
  have hzero : (Double.plain y == 0) = (y == 0) := by
    rw [← Double.beq_plain y 0, Double.plain_zero]
  -- the divisor is zero in both forms or in none
  have hdivided : ∀ q r : Float, ((y == 0) = false → Double.plain q = Double.plain r) →
      (if Double.plain y == 0 then .error .divisionByZero else .ok q :
        Except ExprError Float).map Double.plain =
      (if y == 0 then .error .divisionByZero else .ok r : Except ExprError Float).map
        Double.plain := by
    intro q r hqr
    rw [hzero]
    cases hy : y == 0 with
    | true => rfl
    | false => exact congrArg Except.ok (hqr hy)
  cases op with
  | add => exact congrArg Except.ok (Double.plain_add x y).symm
  | sub => exact congrArg Except.ok (Double.plain_sub x y).symm
  | mul => exact congrArg Except.ok (Double.plain_mul x y).symm
  | div => exact hdivided _ _ fun hy => (Double.plain_div x y hy).symm
  | _ => exact hdivided _ _ fun _ => (Double.plain_remainder x y).symm

theorem applyBinary_alike (op : BinaryOp) (l r : Value) :
    Alike (applyBinary op l.plain r.plain) (applyBinary op l r) := by
  have hbeq : (l.plain == r.plain) = (l == r) := beq_plain l r
  have harithmetic : ∀ x y, Alike ((arithmetic op (Double.plain x) (Double.plain y)).map number)
      ((arithmetic op x y).map number) := by
    intro x y
    have hmap : ∀ r : Except ExprError Float,
        (r.map number).map plain = (r.map Double.plain).map number := by
      intro r
      cases r <;> rfl
    exact (hmap _).trans ((congrArg _ (arithmetic_plain op x y)).trans (hmap _).symm)
  cases op with
  | eq => exact congrArg (fun b => Except.ok (bool b)) hbeq
  | ne => exact congrArg (fun b => Except.ok (bool !b)) hbeq
  | lt | le | gt | ge =>
      cases l with
      | number x =>
          cases r with
          | number y => exact congrArg (fun b => Except.ok (bool b)) (compareNumbers_plain _ x y)
          | _ => rfl
      | _ => cases r <;> rfl
  | add | sub | mul | div | rem =>
      cases l with
      | number x =>
          cases r with
          | number y => exact harithmetic x y
          | _ => rfl
      | _ => cases r <;> rfl

theorem logicalOperand_plain (op : LogicalOp) (v : Value) :
    logicalOperand op v.plain = logicalOperand op v := by
  cases v <;> rfl

/-! ### Selecting -/

theorem select_plain (target key : Value) :
    (select target.plain key.plain).map (Option.map plain) =
      (select target key).map (Option.map plain) := by
  cases target with
  | map entries =>
      rw [plain_map]
      unfold select
      simp only [toKey?_plain, kind_plain]
      cases key.toKey? with
      | none => rfl
      | some k =>
          refine congrArg Except.ok ?_
          rw [Dict.get?_mapValues, Option.map_map]
          exact congrArg (Option.map · _) (funext plain_plain)
  | list items =>
      cases key with
      | number x =>
          have hindex : (0 ≤ Double.plain x && Double.isIntegral (Double.plain x) : Bool) =
              (0 ≤ x && Double.isIntegral x : Bool) := by
            rw [Double.isIntegral_plain, ← Double.plain_zero]
            exact congrArg (and · _) (decide_eq_decide.mpr (Double.le_plain 0 x))
          refine congrArg Except.ok ?_
          rw [hindex, Double.toIndex_plain, plainItems_eq, List.getElem?_map]
          split
          · rw [Option.map_map]
            exact congrArg (Option.map · _) (funext plain_plain)
          · rfl
      | _ => rfl
  | null => rfl
  | _ => rfl

theorem selectOrMissing_alike (container : Bool) (target key : Value) :
    Alike (selectOrMissing container target.plain key.plain)
      (selectOrMissing container target key) := by
  have hmissing : (missing container).plain = missing container := by
    cases container with
    | false => exact congrArg number Double.plain_zero
    | true => rfl
  have hmap : ∀ r : Except ExprError (Option Value),
      (r.map fun found => found.getD (missing container)).map plain =
        (r.map (Option.map plain)).map fun found => found.getD (missing container) := by
    intro r
    rcases r with e | - | v
    · rfl
    · exact congrArg Except.ok hmissing
    · rfl
  exact (hmap _).trans ((congrArg _ (select_plain target key)).trans (hmap _).symm)

end Expr

/-! ### Functions -/

/-- A function does not tell zero from negative zero. -/
def Function.Extensional (f : Function) : Prop :=
  ∀ args, Expr.Alike (f (args.map plain)) (f args)

/-- All functions do not. -/
def Registry.Extensional (r : Registry) : Prop :=
  ∀ entry ∈ r, Function.Extensional entry.2

namespace Function

open EventNet.Expr

/-- The fault of a wrong number of arguments does not depend on the arguments. -/
private theorem arity_plain {α : Type} (name : String) (expected : Arity) (args : List Value) :
    (.error (.arity name expected (args.map plain).length) : Except ExprError α) =
      .error (.arity name expected args.length) :=
  congrArg (fun n => Except.error (ExprError.arity name expected n)) (List.length_map plain)

private theorem arity_alike (name : String) (expected : Arity) (args : List Value) :
    Alike (.error (.arity name expected (args.map plain).length))
      (.error (.arity name expected args.length)) :=
  congrArg (Except.map plain) (arity_plain name expected args)

theorem len_extensional : len.Extensional := by
  intro args
  rcases args with - | ⟨v, - | ⟨w, rest⟩⟩
  · rfl
  · cases v with
    | list items => exact congrArg (fun n : Nat => (Except.ok (ofInt n)).map plain) (by
        rw [plainItems_eq, List.length_map])
    | map entries => exact congrArg (fun n : Nat => (Except.ok (ofInt n)).map plain) (by
        rw [plainEntries_eq]
        exact List.length_map _)
    | _ => rfl
  · cases v <;> exact arity_alike "len" (.exactly 1) (_ :: w :: rest)

theorem abs_extensional : abs.Extensional := by
  intro args
  rcases args with - | ⟨v, - | ⟨w, rest⟩⟩
  · rfl
  · cases v with
    | number x => exact congrArg (fun x => Except.ok (number x)) (Double.plain_abs x).symm
    | _ => rfl
  · cases v <;> exact arity_alike "abs" (.exactly 1) (_ :: w :: rest)

theorem any_beq_plain (items : List Value) (needle : Value) :
    (plainItems items).any (· == needle.plain) = items.any (· == needle) := by
  rw [plainItems_eq, List.any_map]
  exact congrArg (List.any items) (funext fun v => beq_plain v needle)

theorem contains_extensional : contains.Extensional := by
  intro args
  rcases args with - | ⟨v, - | ⟨w, - | ⟨x, rest⟩⟩⟩
  · rfl
  · cases v <;> rfl
  · cases v with
    | map entries =>
        show Alike (contains [plain (.map entries), w.plain]) _
        rw [plain_map]
        unfold contains
        simp only [toKey?_plain, kind_plain, Dict.contains_mapValues]
        exact rfl
    | list items => exact congrArg (fun b => Except.ok (bool b)) (any_beq_plain items w)
    | str s => cases w <;> rfl
    | null => rfl
    | _ => exact congrArg (fun k => Except.error (ExprError.type (.noMembers _ k))) (kind_plain w)
  · cases v <;> cases w <;> exact arity_alike "contains" (.exactly 2) (_ :: _ :: x :: rest)

/-- Nothing but texts is a text in its plain form. -/
private theorem twoStrings_plain (name : String) (args : List Value) :
    twoStrings name (args.map plain) = twoStrings name args := by
  rcases args with - | ⟨v, - | ⟨w, - | ⟨x, rest⟩⟩⟩
  · rfl
  · cases v <;> rfl
  · cases v <;> cases w <;> rfl
  · cases v <;> cases w <;> exact arity_plain name (.exactly 2) (_ :: _ :: x :: rest)

theorem startsWith_extensional : startsWith.Extensional := fun args =>
  congrArg (fun r => (Except.map _ r).map plain) (twoStrings_plain "startsWith" args)

theorem endsWith_extensional : endsWith.Extensional := fun args =>
  congrArg (fun r => (Except.map _ r).map plain) (twoStrings_plain "endsWith" args)

/-! ### Extremes -/

theorem numbers_plain (name : String) (values : List Value) :
    numbers name (values.map plain) = (numbers name values).map (List.map Double.plain) := by
  induction values with
  | nil => rfl
  | cons v rest ih =>
      cases v with
      | number x =>
          show (numbers name (rest.map plain)).map _ = ((numbers name rest).map _).map _
          rw [ih]
          cases numbers name rest <;> rfl
      | _ => rfl

theorem plain_foldl {pick : Float → Float → Float}
    (hpick : ∀ x y, Double.plain (pick x y) = pick (Double.plain x) (Double.plain y)) (x : Float)
    (rest : List Float) :
    Double.plain (rest.foldl pick x) = (rest.map Double.plain).foldl pick (Double.plain x) := by
  induction rest generalizing x with
  | nil => rfl
  | cons y rest ih =>
      rw [List.foldl_cons, ih, hpick]
      rfl

/-- The extreme one of the items of a list. -/
private theorem extremum_list_alike (name : String) {pick : Float → Float → Float}
    (hpick : ∀ x y, Double.plain (pick x y) = pick (Double.plain x) (Double.plain y))
    (items : List Value) :
    Alike (extremum name pick [.list (items.map plain)]) (extremum name pick [.list items]) := by
  unfold extremum
  simp only [numbers_plain]
  rcases numbers name items with e | - | ⟨x, rest⟩
  · rfl
  · rfl
  · refine congrArg (fun x => Except.ok (number x)) ?_
    rw [plain_foldl hpick, plain_foldl hpick, Double.plain_plain, List.map_map]
    exact congrArg (fun f => (rest.map f).foldl pick _) (funext Double.plain_plain)

theorem extremum_extensional (name : String) {pick : Float → Float → Float}
    (hpick : ∀ x y, Double.plain (pick x y) = pick (Double.plain x) (Double.plain y)) :
    (extremum name pick).Extensional := by
  intro args
  rcases args with - | ⟨v, - | ⟨w, rest⟩⟩
  · rfl
  · have hone := extremum_list_alike name hpick [v]
    cases v with
    | list items =>
        show Alike (extremum name pick [.list (plainItems items)]) _
        rw [plainItems_eq]
        exact extremum_list_alike name hpick items
    | _ => exact hone
  · have hall := extremum_list_alike name hpick (v :: w :: rest)
    cases v <;> exact hall

end Function

theorem Registry.builtins_extensional : Registry.builtins.Extensional := by
  intro entry hentry
  simp only [builtins, List.mem_cons, List.not_mem_nil, or_false] at hentry
  rcases hentry with rfl | rfl | rfl | rfl | rfl | rfl | rfl
  · exact Function.abs_extensional
  · exact Function.contains_extensional
  · exact Function.endsWith_extensional
  · exact Function.len_extensional
  · exact Function.extremum_extensional "max" Double.plain_greater
  · exact Function.extremum_extensional "min" Double.plain_lesser
  · exact Function.startsWith_extensional

/-! ### Expressions -/

namespace Expr

variable {b c : Bindings} {functions : Registry}

theorem extensional_of_function? (h : functions.Extensional) {name : String} {f : Function}
    (hf : Scope.function? ⟨b, functions⟩ name = some f) : f.Extensional := by
  rcases Option.or_eq_some_iff.mp hf with hf | ⟨-, hf⟩
  · exact h (name, f) (Dict.mem_of_get? hf)
  · exact Registry.builtins_extensional (name, f) (Dict.mem_of_get? hf)

mutual

/-- **An expression gives alike results in scopes with one plain form.** -/
theorem evalIn_alike (h : functions.Extensional) (hb : b.plain = c.plain) (container : Bool)
    (e : Expr) : Alike (evalIn ⟨b, functions⟩ container e) (evalIn ⟨c, functions⟩ container e) := by
  cases e with
  | literal v => exact rfl
  | ident name =>
      have hget := Bindings.map_get?_congr hb name
      unfold evalIn
      cases hv : Dict.get? b name <;> cases hw : Dict.get? c name <;> rw [hv, hw] at hget
      · exact rfl
      · exact nomatch hget
      · exact nomatch hget
      · exact alike_ok (Option.some.inj hget)
  | unary op operand =>
      rw [evalIn_unary, evalIn_unary]
      exact (evalIn_alike h hb false operand).bind fun v w => alike_of_plain (applyUnary_alike op)
  | binary op left right =>
      rw [evalIn_binary, evalIn_binary]
      refine (evalIn_alike h hb false left).bind fun l l' hl => ?_
      exact (evalIn_alike h hb false right).bind fun r r' =>
        alike_of_plain₂ (applyBinary_alike op) hl
  | logical op left right =>
      rw [evalIn_logical, evalIn_logical,
        (evalIn_alike h hb false left).bind_eq (logicalOperand_plain op),
        (evalIn_alike h hb false right).bind_eq (logicalOperand_plain op)]
      exact rfl
  | index target key =>
      rw [evalIn_index, evalIn_index]
      refine (evalIn_alike h hb true target).bind fun t t' ht => ?_
      exact (evalIn_alike h hb false key).bind fun k k' =>
        alike_of_plain₂ (selectOrMissing_alike container) ht
  | field target name =>
      rw [evalIn_field, evalIn_field]
      refine (evalIn_alike h hb true target).bind fun t t' ht => ?_
      exact alike_of_plain₂ (selectOrMissing_alike container) ht rfl
  | call function args =>
      unfold evalIn
      rcases map_eq_cases (evalArgs_alike h hb args) with ⟨e, hv, hw⟩ | ⟨vs, ws, hv, hw, hvw⟩
      · rw [hv, hw]
        exact rfl
      have hsame : Scope.function? ⟨b, functions⟩ function =
        Scope.function? ⟨c, functions⟩ function := rfl
      rw [hv, hw, hsame]
      cases hf : Scope.function? ⟨c, functions⟩ function with
      | none => exact rfl
      | some f =>
          have hextensional := extensional_of_function? h hf
          exact (hextensional vs).symm.trans
            ((congrArg (fun args => (f args).map plain) hvw).trans (hextensional ws))

theorem evalArgs_alike (h : functions.Extensional) (hb : b.plain = c.plain) (args : List Expr) :
    (evalArgs ⟨b, functions⟩ args).map (List.map plain) =
      (evalArgs ⟨c, functions⟩ args).map (List.map plain) := by
  cases args with
  | nil => rfl
  | cons e rest =>
      have hrest := evalArgs_alike h hb rest
      unfold evalArgs
      rcases (evalIn_alike h hb false e).cases with ⟨err, hv, hw⟩ | ⟨v, w, hv, hw, hvw⟩
      · rw [hv, hw]
      · have hmap : ∀ (x : Value) (r : Except ExprError (List Value)),
            (r.map (x :: ·)).map (List.map plain) =
              (r.map (List.map plain)).map (x.plain :: ·) := by
          intro x r
          cases r <;> rfl
        rw [hv, hw]
        show ((evalArgs _ rest).map (v :: ·)).map _ = ((evalArgs _ rest).map (w :: ·)).map _
        rw [hmap, hmap, hrest, hvw]

end

theorem test_plain (h : functions.Extensional) (b : Bindings) (e : Expr) :
    test ⟨b.plain, functions⟩ e = test ⟨b, functions⟩ e := by
  unfold test
  rcases (evalIn_alike h b.plain_plain false e).cases with ⟨err, hv, hw⟩ | ⟨v, w, hv, hw, hvw⟩
  · unfold eval
    rw [hv, hw]
  · unfold eval
    rw [hv, hw]
    cases v <;> cases w <;> first
      | rfl
      | cases hvw <;> rfl

end Expr

/-- **Guards that are read as expressions do not tell zero from negative zero**, if the functions they
can call do not. -/
theorem GuardEvaluator.extensional_standard {functions : Registry} (h : functions.Extensional) :
    (GuardEvaluator.standard functions).Extensional := by
  intro source b
  show (CompiledExpr.compile source).bind _ = (CompiledExpr.compile source).bind _
  exact congrArg _ (funext fun c => Expr.test_plain h b c.ast)

/-- Guards that call the built-in functions only do not. -/
theorem GuardEvaluator.extensional_builtins : (GuardEvaluator.standard []).Extensional :=
  extensional_standard fun _ h => absurd h List.not_mem_nil

end EventNet
