import EventNet.Proofs.Expr.Conditions
import EventNet.Proofs.Net.Paths

/-!
Selections by names.

`s[a][b]` selects from `s` by what `a` and `b` stand for.  Where the path leads through maps and nil only,
the value of such an expression is the entry at its end, or zero if there is none: the stand-ins for
missing entries, an empty map on the way and zero at the end, are those of the arcs that add at a path.
-/

namespace EventNet

namespace Expr

/-- The selection from a name by further names, one after the other. -/
def path (state : String) (names : List String) : Expr :=
  names.foldl (fun target name => .index target (.ident name)) (.ident state)

/-! ### Its value -/

section

variable {scope : Scope} {container : Bool} {v : Value} {entries : Dict Value} {k : String}

/-- What is selected from a level by a key. -/
theorem selectOrMissing_level {key : Value} (hlevel : v.level? = some entries)
    (hkey : key.toKey? = some k) (rest : List String) :
    selectOrMissing (!rest.isEmpty) v key = .ok (Value.next entries k rest) := by
  have hmissing : missing (!rest.isEmpty) = if rest.isEmpty then Value.zero else .emptyMap := by
    cases rest <;> rfl
  unfold selectOrMissing Value.next
  rw [hmissing]
  cases v with
  | null =>
      obtain rfl := Option.some.inj hlevel
      rfl
  | map es =>
      obtain rfl := Option.some.inj hlevel
      rw [select, hkey]
      rfl
  | _ => cases hlevel

/-- Along a path that is open a selection has the value at its end, or zero if there is none. -/
theorem evalIn_foldl_index {names keys : List String} {e : Expr} (hopen : v.Open keys)
    (hnames : List.Forall₂ (fun name k => (Dict.get? scope.bindings name).bind Value.toKey? = some k)
      names keys)
    (he : evalIn scope (!keys.isEmpty) e = .ok v) :
    evalIn scope false (names.foldl (fun target name => .index target (.ident name)) e) =
      .ok ((v.lookup? keys).getD .zero) := by
  induction hnames generalizing e v with
  | nil => exact he
  | @cons name k names keys hname _ ih =>
      obtain ⟨entries, hlevel, hrest⟩ := hopen
      obtain ⟨key, hbound, hkey⟩ := Option.bind_eq_some_iff.mp hname
      have hnext : evalIn scope (!keys.isEmpty) (.index e (.ident name)) =
          .ok (Value.next entries k keys) := by
        rw [evalIn, show evalIn scope true e = .ok v from he, Condition.evalIn_ident hbound]
        exact selectOrMissing_level hlevel hkey keys
      refine (ih hrest hnext).trans ?_
      rw [Value.lookup?_level hlevel]
      rcases Value.lookup?_next entries k keys keys with hsame | ⟨hmissing, hnone⟩
      · rw [hsame]
      · rcases hnone with rfl | hnone
        · unfold Value.next
          rw [hmissing]
          rfl
        · rw [hmissing, hnone]
          rfl

theorem eval_path {state : String} {names keys : List String}
    (hstate : Dict.get? scope.bindings state = some v) (hopen : v.Open keys)
    (hnames : List.Forall₂ (fun name k => (Dict.get? scope.bindings name).bind Value.toKey? = some k)
      names keys) : (path state names).eval scope = .ok ((v.lookup? keys).getD .zero) :=
  evalIn_foldl_index hopen hnames (Condition.evalIn_ident hstate)

end

/-! ### Its text -/

open Grammar Grammar.Phrase Lexer

/-- How the selection is written. -/
def pathText (state : String) (names : List String) : String :=
  names.foldl (fun text name => text ++ "[" ++ name ++ "]") state

/-- The brackets after the first name. -/
def brackets (names : List String) : List Char :=
  names.flatMap fun name => '[' :: (name.toList ++ [']'])

/-- The tokens of the brackets. -/
def bracketWords (names : List String) : List Token :=
  names.flatMap fun name => [.leftBracket, .ident name, .rightBracket]

theorem toList_pathText (state : String) (names : List String) :
    (pathText state names).toList = state.toList ++ brackets names := by
  unfold pathText brackets
  induction names generalizing state with
  | nil => simp
  | cons name names ih =>
      rw [List.foldl_cons, ih]
      simp [String.toList_append]

theorem reads_brackets {names : List String} (h : ∀ name ∈ names, IsName name) :
    Reads (brackets names) (bracketWords names) := by
  induction names with
  | nil => exact reads_nil
  | cons name names ih =>
      have hrest := ih fun n hn => h n (List.mem_cons_of_mem name hn)
      have hclose : Reads (']' :: brackets names) (.rightBracket :: bracketWords names) :=
        Reads.single rfl (fun _ => rfl) hrest
      have hname := hclose.name_before (h name List.mem_cons_self) rfl
      have hopen : Reads ('[' :: (name.toList ++ ']' :: brackets names))
          (.leftBracket :: .ident name :: .rightBracket :: bracketWords names) :=
        Reads.single rfl (fun _ => rfl) hname
      have htext : brackets (name :: names) = '[' :: (name.toList ++ ']' :: brackets names) := by
        simp [brackets]
      rw [htext]
      exact hopen

theorem reads_pathText {state : String} {names : List String} (hstate : IsName state)
    (hnames : ∀ name ∈ names, IsName name) :
    Reads (pathText state names).toList (.ident state :: bracketWords names) := by
  rw [toList_pathText]
  refine Reads.name hstate (fun d hd => ?_) (reads_brackets hnames)
  cases names with
  | nil => cases hd
  | cons name names =>
      obtain rfl := Option.some.inj hd
      rfl

/-- The derivation of the brackets. -/
def bracketed : List String → Phrase .selections
  | [] => .unselected
  | name :: names =>
    .index (.expression (.chain (lifted (Condition.name name) 4) .unlinked)) (bracketed names)

theorem words_bracketed (names : List String) : (bracketed names).words = bracketWords names := by
  induction names with
  | nil => rfl
  | cons name names ih =>
      show _ :: _ :: _ :: (bracketed names).words = _
      rw [ih]
      rfl

theorem tree_bracketed (names : List String) (target : Expr) :
    (bracketed names).tree target =
      names.foldl (fun target name => .index target (.ident name)) target := by
  induction names generalizing target with
  | nil => rfl
  | cons name names ih => exact ih _

theorem depth_bracketed (names : List String) : (bracketed names).depth ≤ names.length + 1 := by
  induction names with
  | nil => exact Nat.zero_le _
  | cons name names ih =>
      have hdepth : (bracketed (name :: names)).depth = max 1 (bracketed names).depth + 1 := rfl
      rw [hdepth, List.length_cons]
      omega

theorem callsNames_bracketed (names : List String) : (bracketed names).CallsNames := by
  induction names with
  | nil => trivial
  | cons name names ih => exact ⟨⟨callsNames_lifted _ 4 ⟨trivial, trivial⟩, trivial⟩, ih⟩

/-- The derivation of the text. -/
def pathDerivation (state : String) (names : List String) :
    Derivation (.ident state :: bracketWords names) where
  phrase := .expression (.chain (lifted (.selected (.ident state) (bracketed names)) 4) .unlinked)
  calls := ⟨callsNames_lifted _ 4 ⟨trivial, callsNames_bracketed names⟩, trivial⟩
  derives := by
    show (lifted _ 4).words ++ [] = _
    rw [words_lifted, List.append_nil]
    exact congrArg (.ident state :: ·) (words_bracketed names)

theorem parse_pathText {state : String} {names : List String} (hstate : IsName state)
    (hnames : ∀ name ∈ names, IsName name) (hlength : names.length + 2 ≤ Parser.maxDepth) :
    Expr.parse (pathText state names) = .ok (path state names) := by
  have hdepth : (pathDerivation state names).phrase.depth ≤ Parser.maxDepth := by
    have hbrackets := depth_bracketed names
    have hphrase : (pathDerivation state names).phrase.depth =
        max (lifted (.selected (.ident state) (bracketed names)) 4).depth 0 + 1 := rfl
    rw [hphrase, depth_lifted]
    show max (max 0 (bracketed names).depth) 0 + 1 ≤ _
    omega
  rw [(pathDerivation state names).parse_eq (reads_pathText hstate hnames), within_of_le hdepth]
  exact congrArg Except.ok (tree_bracketed names (.ident state))

end Expr

end EventNet
