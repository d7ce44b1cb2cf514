import EventNet.Proofs.Net.Reach

/-!
When token keys tell counts apart.

Keys of counts of the same states are equal only for equal counts.  A marking that is restored can lack
counts, though, and a state can have any name.  A name that holds `=`, a count and a comma may be read as a
count of one state and the beginning of the next name: `shelf=1,tray=2` is the key of two counts and of
one.

Two listings of counts with one key are alike until one of them has the name of a state where the other has
a shorter name, its count and more.  From there on one is always ahead by the rest of a name
(`Schema.Straddles`).  What the other lists next is that rest, and they are level again, or it falls short
of it, or it is ahead now.  So whether keys can be equal for different counts is a matter of the names of
the token states alone (`Schema.KeysCollide`), and where they cannot the probe is exact from every marking.
-/

namespace EventNet

namespace Marking

/-! ### Entries of a key -/

/-- One count in a token key, with a comma behind it. -/
def entryText (state : String) (n : Int) : String :=
  state ++ "=" ++ toString n ++ ","

variable {a b : String} {m n : Int} {left right : List Char} {d e : Dict Int}

theorem toList_entryText (state : String) (n : Int) :
    (entryText state n).toList = state.toList ++ '=' :: ((toString n).toList ++ [',']) := by
  simp [entryText, String.toList_append]

theorem keyText_entry (state : String) (n : Int) (rest : Dict Int) :
    keyText ((state, n) :: rest) = (entryText state n).toList ++ keyText rest := by
  rw [keyText_cons, toList_entryText]
  simp

theorem keyText_append (d e : Dict Int) : keyText (d ++ e) = keyText d ++ keyText e :=
  List.flatMap_append

theorem keyText_singleton (state : String) (n : Int) :
    keyText [(state, n)] = (entryText state n).toList := by
  rw [keyText_entry]
  exact List.append_nil _

theorem keyText_eq_nil (h : keyText d = []) : d = [] := by
  cases d with
  | nil => rfl
  | cons e rest =>
      obtain ⟨state, n⟩ := e
      rw [keyText_cons] at h
      simp at h

theorem toList_tokenKey (m : Marking) : m.tokenKey.toList = (keyText m.tokens).dropLast := by
  by_cases hm : m.tokens = []
  · rw [tokenKey, hm]
    rfl
  · rw [← tokenKey_comma hm, List.dropLast_concat]

theorem tokenKey_eq_empty_iff {m : Marking} : m.tokenKey = "" ↔ m.tokens = [] := by
  rw [← String.toList_inj, toList_tokenKey]
  cases htokens : m.tokens with
  | nil => exact iff_of_true rfl rfl
  | cons e rest =>
      obtain ⟨state, n⟩ := e
      refine iff_of_false (fun h => ?_) (List.cons_ne_nil _ rest)
      have hlength := congrArg List.length h
      rw [keyText_cons, List.length_dropLast] at hlength
      simp at hlength

/-- The key without the last comma is as good as the text with it. -/
theorem tokenKey_eq_iff {m n : Marking} :
    m.tokenKey = n.tokenKey ↔ keyText m.tokens = keyText n.tokens := by
  constructor
  · intro h
    by_cases hm : m.tokens = []
    · have hn : n.tokens = [] := tokenKey_eq_empty_iff.mp (h ▸ tokenKey_eq_empty_iff.mpr hm)
      rw [hm, hn]
    · have hn : n.tokens ≠ [] := fun hn =>
        hm (tokenKey_eq_empty_iff.mp (h ▸ tokenKey_eq_empty_iff.mpr hn))
      rw [← tokenKey_comma hm, ← tokenKey_comma hn, h]
  · intro h
    rw [← String.toList_inj, toList_tokenKey, toList_tokenKey, h]

/-- A name that goes on where another one ends has a count and a comma there. -/
theorem exists_of_longer {tail : List Char} (hne : tail ≠ [])
    (h : tail ++ '=' :: left = '=' :: ((toString m).toList ++ ',' :: right)) :
    ∃ rest, tail = '=' :: ((toString m).toList ++ ',' :: rest) ∧ right = rest ++ '=' :: left := by
  obtain ⟨c, tail, rfl⟩ := List.exists_cons_of_ne_nil hne
  obtain ⟨rfl, htail⟩ := List.cons.inj h
  rcases List.append_eq_append_iff.mp htail with ⟨count, hcount, hleft⟩ | ⟨rest, rfl, hright⟩
  · -- the next `=` would be in the count
    exfalso
    cases count with
    | nil => exact absurd (List.cons.inj hleft).1 (by decide)
    | cons c count =>
        obtain rfl := (List.cons.inj hleft).1
        refine equals_notMem_toString m ?_
        rw [hcount]
        exact List.mem_append_right tail List.mem_cons_self
  · cases rest with
    | nil => exact absurd (List.cons.inj hright).1 (by decide)
    | cons c rest =>
        obtain ⟨hcomma, hrest⟩ := List.cons.inj hright
        exact ⟨rest, hcomma ▸ rfl, hrest⟩

/-- An entry whose name is longer than another one before the same text holds that other entry. -/
theorem exists_of_entry_longer {tail : List Char} (hne : tail ≠ []) (hb : b.toList = a.toList ++ tail)
    (h : (entryText a m).toList ++ left = (entryText b n).toList ++ right) :
    ∃ rest, b = entryText a m ++ rest ∧ left = (entryText rest n).toList ++ right := by
  rw [toList_entryText, toList_entryText, hb] at h
  simp only [List.append_assoc, List.cons_append, List.nil_append] at h
  obtain ⟨rest, rfl, hleft⟩ := exists_of_longer hne (List.append_cancel_left h).symm
  refine ⟨String.ofList rest, ?_, ?_⟩
  · rw [← String.toList_inj, String.toList_append, toList_entryText, hb, String.toList_ofList]
    simp
  · rw [toList_entryText, String.toList_ofList, hleft]
    simp

/-- Of two entries before the same text one name holds the other entry, unless they are one. -/
theorem entry_cases (h : (entryText a m).toList ++ left = (entryText b n).toList ++ right) :
    a = b ∧ m = n ∧ left = right ∨
      (∃ rest, b = entryText a m ++ rest ∧ left = (entryText rest n).toList ++ right) ∨
      ∃ rest, a = entryText b n ++ rest ∧ right = (entryText rest m).toList ++ left := by
  by_cases hab : a = b
  · subst hab
    rw [toList_entryText, toList_entryText] at h
    simp only [List.append_assoc, List.cons_append, List.nil_append] at h
    exact Or.inl ⟨rfl, count_comma_inj (List.cons.inj (List.append_cancel_left h)).2⟩
  · refine Or.inr ?_
    have hnames := h
    rw [toList_entryText, toList_entryText, List.append_assoc, List.append_assoc] at hnames
    rcases List.append_eq_append_iff.mp hnames with ⟨tail, hb, -⟩ | ⟨tail, ha, -⟩
    · refine Or.inl (exists_of_entry_longer ?_ hb h)
      rintro rfl
      exact hab (String.toList_inj.mp (hb.trans (List.append_nil _)).symm)
    · refine Or.inr (exists_of_entry_longer ?_ ha h.symm)
      rintro rfl
      exact hab (String.toList_inj.mp (ha.trans (List.append_nil _)))

end Marking

namespace Schema

open Marking

/-! ### Names that hold entries -/

/-- Counts for some of the token states, each of which fits. -/
structure Counted (s : Schema) (fits : Int → Prop) (tokens : Dict Int) : Prop where
  sorted : tokens.Sorted
  declared : ∀ e ∈ tokens, s.isTokenState e.1 = true
  fit : ∀ e ∈ tokens, fits e.2

/-- Two token keys can begin alike so that one of them has given a last count, that of `behind`, where the
other one is in the name `ahead` and has `rest` of it to come. -/
inductive Straddles (s : Schema) (fits : Int → Prop) : (behind ahead rest : String) → Prop
  /-- One name begins with the entry of another one. -/
  | start {behind rest : String} {n : Int} (hn : fits n) (hbehind : s.isTokenState behind = true)
      (hahead : s.isTokenState (entryText behind n ++ rest) = true) :
      Straddles s fits behind (entryText behind n ++ rest) rest
  /-- The listing behind goes on with an entry that is still inside the name ahead. -/
  | inside {behind ahead next rest : String} {n : Int} (hn : fits n)
      (h : Straddles s fits behind ahead (entryText next n ++ rest))
      (hnext : s.isTokenState next = true) (hlt : behind < next) : Straddles s fits next ahead rest
  /-- The listing behind goes on with a name that reaches beyond the count of the name ahead, and is
  ahead now. -/
  | beyond {behind ahead left rest : String} {n : Int} (hn : fits n)
      (h : Straddles s fits behind ahead left)
      (hnext : s.isTokenState (entryText left n ++ rest) = true)
      (hlt : behind < entryText left n ++ rest) :
      Straddles s fits ahead (entryText left n ++ rest) rest

/-- The names of the token states allow two listings of counts to have one key: where one is ahead, the rest
of the name is a state that the other may list next. -/
def KeysCollide (s : Schema) (fits : Int → Prop) : Prop :=
  ∃ behind ahead rest, s.Straddles fits behind ahead rest ∧ s.isTokenState rest = true ∧ behind < rest

variable {s : Schema} {fits : Int → Prop} {d e : Dict Int} {behind ahead rest state : String} {n : Int}

namespace Counted

theorem nil (s : Schema) (fits : Int → Prop) : s.Counted fits [] :=
  ⟨Dict.sorted_nil, fun _ he => absurd he List.not_mem_nil, fun _ he => absurd he List.not_mem_nil⟩

theorem tail {x : String × Int} (h : s.Counted fits (x :: d)) : s.Counted fits d :=
  ⟨(List.pairwise_cons.mp h.sorted).2, fun e he => h.declared e (List.mem_cons_of_mem x he),
    fun e he => h.fit e (List.mem_cons_of_mem x he)⟩

theorem head_lt {x : String × Int} (h : s.Counted fits (x :: d)) : ∀ e ∈ d, x.1 < e.1 :=
  (List.pairwise_cons.mp h.sorted).1

theorem snoc (h : s.Counted fits d) (hlt : ∀ e ∈ d, e.1 < state)
    (hstate : s.isTokenState state = true) (hn : fits n) : s.Counted fits (d ++ [(state, n)]) where
  sorted := by
    refine List.pairwise_append.mpr ⟨h.sorted, List.pairwise_singleton _ _, fun e he x hx => ?_⟩
    obtain rfl := List.mem_singleton.mp hx
    exact hlt e he
  declared := List.forall_mem_append.mpr ⟨h.declared, List.forall_mem_singleton.mpr hstate⟩
  fit := List.forall_mem_append.mpr ⟨h.fit, List.forall_mem_singleton.mpr hn⟩

end Counted

/-! ### From equal keys to names -/

/-- Listings that go on alike, one of them ahead, are level at some time.  Each of them is behind in turn, so
the induction is on the entries that both have left. -/
theorem keysCollide_of_straddles (hahead : s.Straddles fits behind ahead rest) (hn : fits n)
    (hd : s.Counted fits d) (he : s.Counted fits e) (hbehind : ∀ x ∈ d, behind < x.1)
    (hafter : ∀ x ∈ e, ahead < x.1) (h : keyText d = (entryText rest n).toList ++ keyText e) :
    s.KeysCollide fits := by
  induction hsize : d.length + e.length using Nat.strong_induction_on
    generalizing behind ahead rest n d e with
  | _ size ih =>
      cases d with
      | nil =>
          rw [toList_entryText] at h
          simp [keyText] at h
      | cons x d =>
          obtain ⟨next, k⟩ := x
          have hlt := hbehind (next, k) List.mem_cons_self
          have hnext := hd.declared (next, k) List.mem_cons_self
          have hk := hd.fit (next, k) List.mem_cons_self
          have hsmaller : d.length + e.length < size := by
            rw [← hsize, List.length_cons]
            omega
          rw [keyText_entry] at h
          rcases entry_cases h with ⟨rfl, -, -⟩ | ⟨rest', rfl, hrest⟩ | ⟨rest', rfl, hrest⟩
          · exact ⟨behind, ahead, next, hahead, hnext, hlt⟩
          · exact ih _ hsmaller (.inside hk hahead hnext hlt) hn hd.tail he hd.head_lt hafter hrest rfl
          · -- the other listing is behind now
            rw [Nat.add_comm] at hsmaller
            exact ih _ hsmaller (.beyond hn hahead hnext hlt) hk he hd.tail hafter hd.head_lt hrest rfl

/-- Different listings with one text have names that collide. -/
theorem keysCollide_of_keyText (hd : s.Counted fits d) (he : s.Counted fits e)
    (h : keyText d = keyText e) (hne : d ≠ e) : s.KeysCollide fits := by
  induction d generalizing e with
  | nil => exact absurd (keyText_eq_nil h.symm).symm hne
  | cons x d ih =>
      cases e with
      | nil => exact absurd (keyText_eq_nil h) hne
      | cons y e =>
          obtain ⟨a, m⟩ := x
          obtain ⟨b, n⟩ := y
          have hm : fits m := hd.fit (a, m) List.mem_cons_self
          have hn : fits n := he.fit (b, n) List.mem_cons_self
          have ha : s.isTokenState a = true := hd.declared (a, m) List.mem_cons_self
          have hb : s.isTokenState b = true := he.declared (b, n) List.mem_cons_self
          rw [keyText_entry, keyText_entry] at h
          rcases entry_cases h with ⟨rfl, rfl, hrest⟩ | ⟨rest, rfl, hrest⟩ | ⟨rest, rfl, hrest⟩
          · exact ih hd.tail he.tail hrest fun htails => hne (by rw [htails])
          · exact keysCollide_of_straddles (.start hm ha hb) hn hd.tail he.tail hd.head_lt he.head_lt
              hrest
          · exact keysCollide_of_straddles (.start hn hb ha) hm he.tail hd.tail he.head_lt hd.head_lt
              hrest

/-! ### From names to equal keys -/

/-- What ends with a state is before any later one. -/
theorem below_of_upTo {last : String} (h : ∀ x ∈ d, x.1 = last ∨ x.1 < last) (hlt : last < state) :
    ∀ x ∈ d, x.1 < state := by
  intro x hx
  rcases h x hx with heq | hx
  · rwa [heq]
  · exact String.lt_trans hx hlt

namespace Straddles

theorem exists_fit (h : s.Straddles fits behind ahead rest) : ∃ n, fits n := by
  cases h with
  | start hn => exact ⟨_, hn⟩
  | inside hn => exact ⟨_, hn⟩
  | beyond hn => exact ⟨_, hn⟩

theorem ahead_declared (h : s.Straddles fits behind ahead rest) : s.isTokenState ahead = true := by
  induction h with
  | start _ _ hahead => exact hahead
  | inside _ _ _ _ ih => exact ih
  | beyond _ _ hnext _ => exact hnext

/-- What is left of a name is not the name. -/
theorem length_rest_lt (h : s.Straddles fits behind ahead rest) : rest.length < ahead.length := by
  have hentry : ∀ (state rest : String) (n : Int), rest.length < (entryText state n ++ rest).length := by
    intro state rest n
    simp only [entryText, String.length_append]
    have hcomma : ",".length = 1 := rfl
    omega
  induction h with
  | start => exact hentry _ _ _
  | inside _ _ _ _ ih => exact Nat.lt_trans (hentry _ _ _) ih
  | beyond => exact hentry _ _ _

/-- There are listings that have got as far. -/
theorem exists_counted (h : s.Straddles fits behind ahead rest) :
    ∃ d e, s.Counted fits d ∧ s.Counted fits e ∧ (∀ x ∈ d, x.1 = behind ∨ x.1 < behind) ∧
      (∀ x ∈ e, x.1 < ahead) ∧ keyText d ++ rest.toList = keyText e ++ ahead.toList := by
  induction h with
  | @start behind rest n hn hbehind hahead =>
      have hnone : ∀ state : String, ∀ x ∈ ([] : Dict Int), x.1 < state :=
        fun _ _ hx => absurd hx List.not_mem_nil
      refine ⟨_, [], (Counted.nil s fits).snoc (hnone _) hbehind hn, Counted.nil s fits,
        List.forall_mem_singleton.mpr (Or.inl rfl), hnone _, ?_⟩
      rw [List.nil_append, keyText_singleton, String.toList_append]
      rfl
  | @inside behind ahead next rest n hn h hnext hlt ih =>
      obtain ⟨d, e, hd, he, hupto, hbelow, htext⟩ := ih
      have hbefore := below_of_upTo hupto hlt
      refine ⟨_, e, hd.snoc hbefore hnext hn, he, List.forall_mem_append.mpr
        ⟨fun x hx => Or.inr (hbefore x hx), List.forall_mem_singleton.mpr (Or.inl rfl)⟩, hbelow, ?_⟩
      rw [← htext, keyText_append, keyText_singleton, String.toList_append, List.append_assoc]
  | @beyond behind ahead left rest n hn h hnext hlt ih =>
      obtain ⟨d, e, hd, he, hupto, hbelow, htext⟩ := ih
      -- the name that was ahead gets its count, and the listings change places
      refine ⟨_, d, he.snoc hbelow h.ahead_declared hn, hd, List.forall_mem_append.mpr
        ⟨fun x hx => Or.inr (hbelow x hx), List.forall_mem_singleton.mpr (Or.inl rfl)⟩,
        below_of_upTo hupto hlt, ?_⟩
      rw [keyText_append, keyText_singleton, String.toList_append, toList_entryText, toList_entryText]
      simp only [List.append_assoc]
      rw [← List.append_assoc, ← htext, List.append_assoc]

end Straddles

/-- Names that collide are those of two markings with one key. -/
theorem exists_counted_of_keysCollide (h : s.KeysCollide fits) :
    ∃ d e, s.Counted fits d ∧ s.Counted fits e ∧ keyText d = keyText e ∧ d ≠ e := by
  obtain ⟨behind, ahead, rest, hahead, hrest, hlt⟩ := h
  obtain ⟨d, e, hd, he, hupto, hbelow, htext⟩ := hahead.exists_counted
  obtain ⟨n, hn⟩ := hahead.exists_fit
  refine ⟨_, _, hd.snoc (below_of_upTo hupto hlt) hrest hn,
    he.snoc hbelow hahead.ahead_declared hn, ?_, fun heq => ?_⟩
  · rw [keyText_append, keyText_append, keyText_singleton, keyText_singleton, toList_entryText,
      toList_entryText, ← List.append_assoc, htext, List.append_assoc]
  · have hlast := (List.cons.inj (List.append_inj' heq rfl).2).1
    have hshorter := hahead.length_rest_lt
    rw [(Prod.mk.inj hlast).1] at hshorter
    exact Nat.lt_irrefl _ hshorter

/-- Keys tell counts apart just in case names do not collide. -/
theorem tokenKey_inj_iff : (∀ m n : Marking, s.Counted fits m.tokens → s.Counted fits n.tokens →
      (m.tokenKey = n.tokenKey ↔ m.tokens = n.tokens)) ↔ ¬ s.KeysCollide fits := by
  constructor
  · intro h hcollide
    obtain ⟨d, e, hd, he, htext, hne⟩ := exists_counted_of_keysCollide hcollide
    exact hne ((h ⟨d, []⟩ ⟨e, []⟩ hd he).mp (tokenKey_eq_iff.mpr htext))
  · intro h m n hm hn
    rw [tokenKey_eq_iff]
    refine ⟨fun htext => ?_, fun heq => by rw [heq]⟩
    by_contra hne
    exact h (keysCollide_of_keyText hm hn htext hne)

/-- Names do not collide if none of them begins with the entry of another one. -/
theorem not_keysCollide_of_apart
    (h : ∀ a b, s.isTokenState a = true → s.isTokenState b = true → ∀ n, fits n →
      ∀ rest, b ≠ entryText a n ++ rest) : ¬ s.KeysCollide fits := by
  rintro ⟨behind, ahead, rest, hahead, -, -⟩
  induction hahead with
  | start hn hbehind hahead => exact h _ _ hbehind hahead _ hn _ rfl
  | inside _ _ _ _ ih => exact ih
  | beyond _ _ _ _ ih => exact ih

/-- Names without `=` do not collide. -/
theorem not_keysCollide_of_plain (h : ∀ id, s.isTokenState id = true → '=' ∉ id.toList) :
    ¬ s.KeysCollide fits := by
  refine not_keysCollide_of_apart fun a b _ hb n _ rest heq => h b hb ?_
  rw [heq, String.toList_append, toList_entryText]
  simp

theorem counted_moveTokens {tokens : Dict Int} (h : s.Counted (fun _ => True) tokens) (action : String) :
    s.Counted (fun _ => True) (s.moveTokens action tokens) := by
  have hinsert : ∀ (t : Dict Int) (state : String) (n : Int), s.isTokenState state = true →
      s.Counted (fun _ => True) t → s.Counted (fun _ => True) (t.insert state n) := by
    intro t state n hstate ht
    refine ⟨ht.sorted.insert state n, fun e he => ?_, fun _ _ => trivial⟩
    rcases Dict.mem_insert he with rfl | he
    · exact hstate
    · exact ht.declared e he
  exact moveTokens_induction (P := fun t => s.Counted (fun _ => True) t) h
    (fun _ _ htoken _ _ ht => hinsert _ _ _ htoken ht) (fun _ _ htoken _ ht => hinsert _ _ _ htoken ht)

end Schema

/-! ### The probe on any marking -/

namespace Net

variable {net : Net} {fits : Int → Prop} {ids : List String} {tokens after : Dict Int}

theorem Walk.snoc (h : net.Walk ids tokens after) {a : Action} (ha : a ∈ net.schema.actions)
    (hadmits : net.Admits a.id after) :
    net.Walk (ids ++ [a.id]) tokens (net.schema.moveTokens a.id after) := by
  induction h with
  | done tokens => exact .step ha hadmits (.done _)
  | step ha' hadmits' _ ih => exact .step ha' hadmits' (ih hadmits)

theorem Walk.counted (h : net.Walk ids tokens after)
    (htokens : net.schema.Counted (fun _ => True) tokens) :
    net.schema.Counted (fun _ => True) after := by
  induction h with
  | done tokens => exact htokens
  | step _ _ _ ih => exact ih (Schema.counted_moveTokens htokens _)

/-- What is walked to is told apart by its keys, if names do not collide. -/
theorem told_of_not_keysCollide (h : ¬ net.schema.KeysCollide fits)
    (htokens : net.schema.Counted (fun _ => True) tokens)
    (hfits : ∀ ids after, net.Walk ids tokens after → ∀ e ∈ after, fits e.2) :
    net.Told fun t => ∃ ids, net.Walk ids tokens t := by
  have hcounted : ∀ t, (∃ ids, net.Walk ids tokens t) → net.schema.Counted fits t := by
    rintro t ⟨ids, hwalk⟩
    have ht := hwalk.counted htokens
    exact ⟨ht.sorted, ht.declared, hfits ids t hwalk⟩
  refine ⟨?_, fun t t' ht ht' hkey => ?_⟩
  · rintro t t' ⟨ids, hwalk⟩ ⟨a, ha, hadmits, rfl⟩
    exact ⟨_, hwalk.snoc ha hadmits⟩
  · exact (Schema.tokenKey_inj_iff.mpr h ⟨t, []⟩ ⟨t', []⟩ (hcounted t ht) (hcounted t' ht')).mp hkey

/-- Where nothing fires nothing is found. -/
theorem value_expand_of_stuck {target : Dict Int} {actions : List Action}
    (h : ∀ a ∈ actions, ¬ net.Admits a.id tokens) (p : Probe) :
    (expand net target tokens actions p).value = some p := by
  induction actions with
  | nil => rfl
  | cons a rest ih =>
      rw [value_expand_of_not_admits (h a List.mem_cons_self)]
      exact ih fun a ha => h a (List.mem_cons_of_mem _ ha)

/-- From one marking to the next level. -/
theorem value_expandLevels_singleton {target : Dict Int} {visited : Std.HashSet String} {q : Probe}
    (h : (expand net target tokens net.schema.actions ⟨visited, []⟩).value = some q) (steps : Nat) :
    (expandLevels net target (steps + 1) [tokens] visited).value =
      (expandLevels net target steps q.next.reverse q.visited).value := by
  have hall : (expandAll net target [tokens] ⟨visited, []⟩).value = some q := by
    rw [expandAll, Traced.value_bind, h]
    rfl
  rw [expandLevels, if_neg (by simp), Traced.value_bind, hall]

/-- Where nothing fires no level follows. -/
theorem value_expandLevels_of_stuck {target : Dict Int}
    (h : ∀ a ∈ net.schema.actions, ¬ net.Admits a.id tokens) (steps : Nat)
    (visited : Std.HashSet String) :
    (expandLevels net target steps [tokens] visited).value = false := by
  cases steps with
  | zero => rfl
  | succ steps =>
      rw [value_expandLevels_singleton (value_expand_of_stuck h _)]
      cases steps with
      | zero => rfl
      | succ steps => rfl

end Net

/-- **Token keys are canonical exactly if the names of token states do not collide.**  Two markings with
counts for some of the token states then have the same key just in case they have the same counts; any
counts will do, or only some that fit a machine word.  Names do not collide if none of them begins with
another one, `=`, a count and a comma.  And if they do not, the probe is exact from every marking that can be
restored, as long as what is reached from it has counts that fit. -/
theorem Schema.keys_canonical_iff (s : Schema) (fits : Int → Prop) :
    ((∀ m n : Marking, s.Counted fits m.tokens → s.Counted fits n.tokens →
        (m.tokenKey = n.tokenKey ↔ m.tokens = n.tokens)) ↔ ¬ s.KeysCollide fits) ∧
    ((∀ a b, s.isTokenState a = true → s.isTokenState b = true → ∀ n, fits n →
        ∀ rest, b ≠ Marking.entryText a n ++ rest) → ¬ s.KeysCollide fits) ∧
    (¬ s.KeysCollide fits → ∀ (m : Marking) (evaluator : Option GuardEvaluator) (checks : Bool),
      s.Counted fits m.tokens →
      (∀ ids after, Net.executeAll ⟨s, m, evaluator, checks⟩ ids = some after →
        ∀ e ∈ after.marking.tokens, fits e.2) →
      ∀ (target : Dict Int) (steps : Nat),
        (Net.canReach ⟨s, m, evaluator, checks⟩ target steps).value = true ↔
          ∃ ids : List String, ids.length ≤ steps ∧ ∃ after,
            Net.executeAll ⟨s, m, evaluator, checks⟩ ids = some after ∧
              ∀ e ∈ target, after.marking.count e.1 = e.2) := by
  refine ⟨tokenKey_inj_iff, not_keysCollide_of_apart, ?_⟩
  intro hapart m evaluator checks hm hfits target steps
  let net : Net := ⟨s, m, evaluator, checks⟩
  have htold : net.Told fun t => ∃ ids, net.Walk ids m.tokens t := by
    refine Net.told_of_not_keysCollide hapart ⟨hm.sorted, hm.declared, fun _ _ => trivial⟩ ?_
    exact fun ids after hwalk => hfits ids _ (Net.executeAll_of_walk hwalk m.data)
  rw [Net.canReach_iff_walk_of_told htold ⟨[], .done _⟩]
  constructor
  · rintro ⟨ids, after, hlength, hwalk, hmeets⟩
    exact ⟨ids, hlength, _, Net.executeAll_of_walk hwalk m.data, Net.matchesTokens_iff.mp hmeets⟩
  · rintro ⟨ids, hlength, after, hrun, hcounts⟩
    exact ⟨ids, after.marking.tokens, hlength, Net.walk_of_executeAll (m := m) hrun,
      Net.matchesTokens_iff.mpr hcounts⟩

/-! ### Two markings of one key -/

/-- What is in a box is put on a shelf with a tray, or entered under one name for both; only what is on a
shelf is sold. -/
def shop : Definition where
  name := "shop"
  version := none
  states := [.token "box" 1, .token "shelf" 0, .token "tray" 0, .token "shelf=1,tray" 0, .token "sold" 0]
  actions := [.plain "label", .plain "stock", .plain "sell"]
  arcs := [.flow "box" "label", .flow "label" "shelf=1,tray", .flow "box" "stock", .flow "stock" "shelf",
    .flow "stock" "tray", .flow "shelf" "sell", .flow "sell" "sold"]
  constraints := []

/-- The schema of the shop. -/
def shopSchema : Schema :=
  ⟨shop, .ofDefinition shop, Definition.check_of_isOk (by decide +kernel), rfl⟩

namespace Net

/-- A shop of which a box is all that was saved. -/
def boxed : Net :=
  ⟨shopSchema, ⟨[("box", 1)], []⟩, none, true⟩

/-- The counts under one name. -/
def labelled : Dict Int :=
  [("box", 0), ("shelf=1,tray", 1)]

/-- The counts on the shelf. -/
def stocked : Dict Int :=
  [("box", 0), ("shelf", 1), ("tray", 1)]

/-- Of two ways on with one key only the first is to be expanded. -/
theorem expand_boxed (visited : Std.HashSet String) (h : keyOf labelled ∉ visited) :
    (expand boxed [("sold", 1)] [("box", 1)] boxed.schema.actions ⟨visited, []⟩).value =
      some ⟨visited.insert (keyOf labelled), [labelled]⟩ := by
  have hlabel : boxed.Admits (Action.plain "label").id [("box", 1)] := ⟨by decide +kernel, fun _ => rfl⟩
  have hstock : boxed.Admits (Action.plain "stock").id [("box", 1)] := ⟨by decide +kernel, fun _ => rfl⟩
  have hsell : ¬ boxed.Admits (Action.plain "sell").id [("box", 1)] :=
    fun h => absurd h.1 (by decide +kernel)
  have hlabelled : boxed.schema.moveTokens (Action.plain "label").id [("box", 1)] = labelled := by
    decide +kernel
  have hstocked : boxed.schema.moveTokens (Action.plain "stock").id [("box", 1)] = stocked := by
    decide +kernel
  have hkey : keyOf stocked = keyOf labelled := by decide +kernel
  have hfirst : Probe.visit ⟨visited, []⟩ ⟨labelled, []⟩ =
      ⟨visited.insert (keyOf labelled), [labelled]⟩ := if_neg h
  have hsecond : Probe.visit ⟨visited.insert (keyOf labelled), [labelled]⟩ ⟨stocked, []⟩ =
      ⟨visited.insert (keyOf labelled), [labelled]⟩ :=
    if_pos (hkey ▸ Std.HashSet.mem_insert_self)
  show (expand boxed _ _ [.plain "label", .plain "stock", .plain "sell"] _).value = _
  rw [value_expand_of_admits hlabel, hlabelled, if_neg (by decide +kernel), hfirst,
    value_expand_of_admits hstock, hstocked, if_neg (by decide +kernel), hsecond,
    value_expand_of_not_admits hsell]
  rfl

/-- The probe does not find what follows from the second one. -/
theorem canReach_boxed (steps : Nat) : (canReach boxed [("sold", 1)] steps).value = false := by
  have hnew : keyOf labelled ∉ Std.HashSet.emptyWithCapacity.insert (keyOf [("box", 1)]) := by
    intro h
    rcases Std.HashSet.mem_insert.mp h with hkey | hnone
    · exact absurd hkey (by decide +kernel)
    · exact absurd hnone Std.HashSet.not_mem_emptyWithCapacity
  have hdisabled : ∀ a ∈ boxed.schema.actions, (boxed.atTokens labelled).enabled a.id = false := by
    decide +kernel
  have hstuck : ∀ a ∈ boxed.schema.actions, ¬ boxed.Admits a.id labelled := by
    intro a ha h
    cases h.1.symm.trans (hdisabled a ha)
  unfold canReach
  rw [if_neg (by decide +kernel)]
  cases steps with
  | zero => rfl
  | succ steps =>
      refine (value_expandLevels_singleton (expand_boxed _ hnew) steps).trans ?_
      exact value_expandLevels_of_stuck hstuck steps _

end Net

theorem keys_collide_boxed :
    let word : Int → Prop := fun n => -2 ^ 63 ≤ n ∧ n < 2 ^ 63
    shopSchema.KeysCollide word ∧
      shopSchema.Counted word Net.labelled ∧ shopSchema.Counted word Net.stocked ∧
      (⟨Net.labelled, []⟩ : Marking).tokenKey = (⟨Net.stocked, []⟩ : Marking).tokenKey ∧
      Net.labelled ≠ Net.stocked ∧
      (∀ steps, (Net.canReach Net.boxed [("sold", 1)] steps).value = false) ∧
      (Net.boxed.executeAll ["stock", "sell"]).map (·.marking.count "sold") = some 1 := by
  intro word
  have hstart : shopSchema.Straddles word "shelf" (Marking.entryText "shelf" 1 ++ "tray") "tray" :=
    .start ⟨by decide, by decide⟩ (by decide +kernel) (by decide +kernel)
  have hsorted : Net.labelled.Sorted ∧ Net.stocked.Sorted := by
    unfold Dict.Sorted
    decide +kernel
  refine ⟨⟨_, _, _, hstart, by decide +kernel, by decide⟩, ⟨hsorted.1, by decide +kernel, by decide⟩,
    ⟨hsorted.2, by decide +kernel, by decide⟩, by decide +kernel, by decide, Net.canReach_boxed, rfl⟩

end EventNet
