import EventNet.Proofs.Store.Paging
import Mathlib.Algebra.BigOperators.Group.List.Lemmas

/-!
Totals over a log.

The totals of a database, its pages of streams, the versions of its streams and the events that it reads
are four questions about the same rows.  Counting events by type adds one to one entry for each event, so
the entries add up to their number, and each is the number of events of its type.  The summaries of all
streams name each stream of the log once, so their counts add up to that number too.  A first or a last
time over the streams is one over the events, as every stream tells the first and the last of its own.

The two times of the totals are read like those of a page: they lie in the years that can be read exactly
if the times of all events do.  `Tables.totals` are the totals in whatever years they lie.
-/

namespace EventNet

/-! ### Counting -/

namespace Dict

/-- Count keys one after the other. -/
def tally (d : Dict Nat) (keys : List String) : Dict Nat :=
  keys.foldl (fun d k => d.insert k ((d.get? k).getD 0 + 1)) d

variable {d : Dict Nat}

theorem get?_tally (d : Dict Nat) (keys : List String) (key : String) :
    (d.tally keys).get? key =
      if key ∈ keys then some ((d.get? key).getD 0 + keys.count key) else d.get? key := by
  induction keys generalizing d with
  | nil => rfl
  | cons k rest ih =>
      show ((d.insert k ((d.get? k).getD 0 + 1)).tally rest).get? key = _
      rw [ih]
      by_cases hk : k = key
      · subst hk
        rw [get?_insert_self, if_pos List.mem_cons_self, List.count_cons_self, Option.getD_some]
        split
        · congr 1
          omega
        · rename_i hrest
          rw [List.count_eq_zero.mpr hrest]
      · rw [get?_insert_of_ne _ _ hk, List.count_cons_of_ne hk]
        simp only [List.mem_cons, Ne.symm hk, false_or]

/-- A key has an entry if it was counted, and the entry is how often it was. -/
theorem get?_tally_nil (keys : List String) (key : String) (n : Nat) :
    (tally [] keys).get? key = some n ↔ 0 < n ∧ n = keys.count key := by
  rw [get?_tally, get?_nil, Option.getD_none, Nat.zero_add]
  by_cases hkey : key ∈ keys
  · have hpos := List.count_pos_iff.mpr hkey
    rw [if_pos hkey, Option.some_inj]
    omega
  · have hnone := List.count_eq_zero.mpr hkey
    rw [if_neg hkey, hnone]
    exact iff_of_false (Option.some_ne_none n).symm (by omega)

/-- An insertion changes the sum of the values by what it changes the value of its key. -/
theorem sum_values_insert (h : d.Sorted) (k : String) (v : Nat) :
    (d.insert k v).values.sum + (d.get? k).getD 0 = d.values.sum + v := by
  induction d with
  | nil => rw [get?_nil, Option.getD_none, Nat.add_zero, Nat.add_comm]; rfl
  | cons e rest ih =>
      obtain ⟨l, w⟩ := e
      obtain ⟨hbelow, hrest⟩ := sorted_cons.mp h
      have hsum : values ((l, w) :: rest) = w :: values rest := rfl
      simp only [Dict.insert]
      by_cases hlt : k < l
      · have habsent : get? ((l, w) :: rest) k = none := by
          refine get?_eq_none_of_notMem (List.forall_mem_cons.mpr ⟨(String.ne_of_lt hlt).symm, ?_⟩)
          exact fun e he => (String.ne_of_lt (String.lt_trans hlt (hbelow e he))).symm
        rw [if_pos hlt, habsent, Option.getD_none]
        show v + (values ((l, w) :: rest)).sum + 0 = _
        omega
      rw [if_neg hlt, get?_cons, hsum, List.sum_cons]
      by_cases hl : l = k
      · rw [if_pos hl, if_pos hl, Option.getD_some]
        show v + (values rest).sum + w = _
        omega
      · rw [if_neg hl, if_neg hl]
        show w + (values (Dict.insert rest k v)).sum + _ = _
        rw [Nat.add_assoc, ih hrest, Nat.add_assoc]

theorem sum_values_tally (h : d.Sorted) (keys : List String) :
    (d.tally keys).values.sum = d.values.sum + keys.length := by
  induction keys generalizing d with
  | nil => rfl
  | cons k rest ih =>
      have hone := sum_values_insert h k ((d.get? k).getD 0 + 1)
      show ((d.insert k ((d.get? k).getD 0 + 1)).tally rest).values.sum = _
      rw [ih (h.insert k _), List.length_cons]
      omega

end Dict

/-! ### First and last times -/

namespace Instant

theorem le_trans {a b c : Instant} (hab : a.le b = true) (hbc : b.le c = true) : a.le c = true := by
  rw [le_iff] at *
  omega

theorem le_antisymm {a b : Instant} (hab : a.le b = true) (hba : b.le a = true) : a = b := by
  cases a
  cases b
  rw [le_iff] at hab hba
  simp only at hab hba
  rw [mk.injEq]
  omega

theorem inRange_of_between {a b c : Instant} (ha : a.inRange = true) (hc : c.inRange = true)
    (hab : a.le b = true) (hbc : b.le c = true) : b.inRange = true := by
  unfold inRange at *
  rw [Bool.and_eq_true, decide_eq_true_iff, decide_eq_true_iff] at *
  rw [le_iff] at hab hbc
  omega

/-- One of some times that comes before all of them in an order. -/
def Foremost (before : Instant → Instant → Prop) (times : List Instant) (a : Instant) : Prop :=
  a ∈ times ∧ ∀ b ∈ times, before a b

/-- The first of some times. -/
abbrev Earliest : List Instant → Instant → Prop :=
  Foremost fun a b => a.le b = true

/-- The last of some times. -/
abbrev Latest : List Instant → Instant → Prop :=
  Foremost fun a b => b.le a = true

/-- Instants stand in an order as their numbers of microseconds do. -/
theorem foremost_ofMicros {before : Instant → Instant → Prop} {r : Int → Int → Prop}
    (hr : ∀ m n, before (ofMicros m) (ofMicros n) ↔ r m n) (times : List Int) (a : Instant) :
    Foremost before (times.map ofMicros) a ↔
      ∃ n, (n ∈ times ∧ ∀ k ∈ times, r n k) ∧ ofMicros n = a := by
  constructor
  · rintro ⟨ha, hfirst⟩
    obtain ⟨n, hn, rfl⟩ := List.mem_map.mp ha
    exact ⟨n, ⟨hn, fun k hk => (hr n k).mp (hfirst _ (List.mem_map_of_mem hk))⟩, rfl⟩
  · rintro ⟨n, ⟨hn, hfirst⟩, rfl⟩
    exact ⟨List.mem_map_of_mem hn, List.forall_mem_map.mpr fun k hk => (hr n k).mpr (hfirst k hk)⟩

theorem map_min?_eq_some_iff (times : List Int) (a : Instant) :
    times.min?.map ofMicros = some a ↔ Earliest (times.map ofMicros) a := by
  rw [Option.map_eq_some_iff]
  refine Iff.trans ?_ (foremost_ofMicros le_ofMicros times a).symm
  exact exists_congr fun n => and_congr_left fun _ => List.min?_eq_some_iff

theorem map_max?_eq_some_iff (times : List Int) (a : Instant) :
    times.max?.map ofMicros = some a ↔ Latest (times.map ofMicros) a := by
  rw [Option.map_eq_some_iff]
  refine Iff.trans ?_ (foremost_ofMicros (fun m n => le_ofMicros n m) times a).symm
  exact exists_congr fun n => and_congr_left fun _ => List.max?_eq_some_iff

end Instant

/-! ### Summaries of all streams -/

theorem length_filter_eq_count (name : Event → String) (log : List Event) (a : String) :
    (log.filter (name · == a)).length = (log.map name).count a := by
  rw [List.count_eq_countP, List.countP_map, List.countP_eq_length_filter]
  rfl

namespace ListsStreams

variable {all : List InstanceSummary} {log : List Event}

theorem streams_perm (h : ListsStreams all log) :
    (all.map (·.stream)).Perm (log.map (·.stream)).dedup := by
  refine (List.perm_ext_iff_of_nodup h.once (List.nodup_dedup _)).mpr fun stream => ?_
  rw [h.streams, List.mem_dedup, List.mem_map]

theorem length_eq (h : ListsStreams all log) : all.length = (log.map (·.stream)).dedup.length := by
  rw [← h.streams_perm.length_eq, List.length_map]

/-- The events of all streams are counted once each. -/
theorem sum_eventCount (h : ListsStreams all log) : (all.map (·.eventCount)).sum = log.length := by
  have hcounts : all.map (·.eventCount) =
      (all.map (·.stream)).map fun stream => (log.map (·.stream)).count stream := by
    rw [List.map_map]
    refine List.map_congr_left fun x hx => ?_
    exact (h.tells x hx).count.trans (length_filter_eq_count (·.stream) log x.stream)
  rw [hcounts, (h.streams_perm.map _).sum_eq, List.sum_map_count_dedup_eq_length, List.length_map]

/-- Where every stream tells the foremost time of its events, the foremost of these is that of all
events. -/
theorem foremost_iff (h : ListsStreams all log) (before : Instant → Instant → Prop)
    (htrans : ∀ {a b c}, before a b → before b c → before a c)
    (hanti : ∀ {a b}, before a b → before b a → a = b) {told : InstanceSummary → Instant}
    (hmem : ∀ x ∈ all, ∃ e ∈ log.filter (·.stream == x.stream), e.timestamp = told x)
    (htold : ∀ x ∈ all, ∀ e ∈ log.filter (·.stream == x.stream), before (told x) e.timestamp)
    (a : Instant) :
    Instant.Foremost before (log.map (·.timestamp)) a ↔ Instant.Foremost before (all.map told) a := by
  have hstream : ∀ e ∈ log, ∃ x ∈ all, e ∈ log.filter (·.stream == x.stream) := by
    intro e he
    obtain ⟨x, hx, hname⟩ := List.mem_map.mp ((h.streams e.stream).mpr ⟨e, he, rfl⟩)
    exact ⟨x, hx, List.mem_filter.mpr ⟨he, beq_iff_eq.mpr hname.symm⟩⟩
  have hlog : ∀ x ∈ all, told x ∈ log.map (·.timestamp) := by
    intro x hx
    obtain ⟨e, he, htime⟩ := hmem x hx
    exact List.mem_map.mpr ⟨e, (List.mem_filter.mp he).1, htime⟩
  constructor
  · rintro ⟨ha, hfirst⟩
    obtain ⟨e, he, rfl⟩ := List.mem_map.mp ha
    obtain ⟨x, hx, hex⟩ := hstream e he
    have hsame := hanti (htold x hx e hex) (hfirst _ (hlog x hx))
    refine ⟨List.mem_map.mpr ⟨x, hx, hsame⟩, fun b hb => ?_⟩
    obtain ⟨y, hy, rfl⟩ := List.mem_map.mp hb
    exact hfirst _ (hlog y hy)
  · rintro ⟨ha, hfirst⟩
    obtain ⟨x, hx, rfl⟩ := List.mem_map.mp ha
    refine ⟨hlog x hx, fun b hb => ?_⟩
    obtain ⟨e, he, rfl⟩ := List.mem_map.mp hb
    obtain ⟨y, hy, hey⟩ := hstream e he
    exact htrans (hfirst _ (List.mem_map_of_mem hy)) (htold y hy e hey)

theorem earliest_iff (h : ListsStreams all log) (a : Instant) :
    Instant.Earliest (log.map (·.timestamp)) a ↔ Instant.Earliest (all.map (·.createdAt)) a :=
  h.foremost_iff (fun a b => a.le b = true) Instant.le_trans Instant.le_antisymm
    (fun x hx => (h.tells x hx).created) (fun x hx e he => ((h.tells x hx).within e he).1) a

theorem latest_iff (h : ListsStreams all log) (a : Instant) :
    Instant.Latest (log.map (·.timestamp)) a ↔ Instant.Latest (all.map (·.updatedAt)) a :=
  h.foremost_iff (fun a b => b.le a = true) (fun hab hbc => Instant.le_trans hbc hab)
    (fun hab hba => Instant.le_antisymm hba hab) (fun x hx => (h.tells x hx).updated)
    (fun x hx e he => ((h.tells x hx).within e he).2) a

end ListsStreams

/-! ### Totals -/

namespace StoreStats

/-- Whether the times of totals lie in the years that can be read. -/
def readable (x : StoreStats) : Bool :=
  x.firstEventAt.all (·.inRange) && x.lastEventAt.all (·.inRange)

/-- Totals if their times can be read. -/
def read (x : StoreStats) : Except Fault StoreStats :=
  if x.readable then .ok x else .error (.unreadable .timestamp)

/-- What totals say of the events of a log. -/
structure Tells (x : StoreStats) (log : List Event) : Prop where
  events : x.totalEvents = log.length
  streams : x.totalStreams = (log.map (·.stream)).dedup.length
  /-- A type has an entry if there are events of it, and the entry is their number. -/
  byType : ∀ type n, x.eventsByType.get? type = some n ↔ 0 < n ∧ n = (log.map (·.type)).count type
  types : x.eventsByType.values.sum = log.length
  first : ∀ a, x.firstEventAt = some a ↔ Instant.Earliest (log.map (·.timestamp)) a
  last : ∀ a, x.lastEventAt = some a ↔ Instant.Latest (log.map (·.timestamp)) a
  started : x.firstEventAt = none ↔ log = []
  ended : x.lastEventAt = none ↔ log = []

/-- The times of totals can be read exactly if those of all events can. -/
theorem Tells.readable_iff {x : StoreStats} {log : List Event} (h : x.Tells log) :
    x.readable = true ↔ ∀ e ∈ log, e.timestamp.inRange = true := by
  unfold readable
  rw [Bool.and_eq_true, Option.all_eq_true, Option.all_eq_true]
  constructor
  · rintro ⟨hfirst, hlast⟩ e he
    have hsome : log ≠ [] := List.ne_nil_of_mem he
    obtain ⟨a, ha⟩ := Option.ne_none_iff_exists'.mp (mt h.started.mp hsome)
    obtain ⟨c, hc⟩ := Option.ne_none_iff_exists'.mp (mt h.ended.mp hsome)
    have htime : e.timestamp ∈ log.map (·.timestamp) := List.mem_map_of_mem he
    exact Instant.inRange_of_between (hfirst a ha) (hlast c hc) (((h.first a).mp ha).2 _ htime)
      (((h.last c).mp hc).2 _ htime)
  · intro htimes
    constructor
    · intro a ha
      obtain ⟨e, he, rfl⟩ := List.mem_map.mp ((h.first a).mp ha).1
      exact htimes e he
    · intro c hc
      obtain ⟨e, he, rfl⟩ := List.mem_map.mp ((h.last c).mp hc).1
      exact htimes e he

end StoreStats

namespace Tables

variable {t : Tables} {l : Ledger}

/-- The totals of tables, in whatever years their times lie. -/
def totals (t : Tables) : StoreStats :=
  ⟨t.events.length, t.streamNames.length, t.countsByType, (t.events.map (·.time)).min?.map .ofMicros,
    (t.events.map (·.time)).max?.map .ofMicros⟩

theorem instantOfMicros?_eq (n : Option Int) : instantOfMicros? n =
    if (n.map Instant.ofMicros).all (·.inRange) then .ok (n.map .ofMicros)
    else .error (.unreadable .timestamp) := by
  cases n with
  | none => rfl
  | some n =>
      show (instantOfMicros n).map some = if (Instant.ofMicros n).inRange then _ else _
      rw [instantOfMicros_eq]
      split <;> rfl

theorem stats_eq (t : Tables) : t.stats = t.totals.read := by
  unfold stats StoreStats.read StoreStats.readable totals
  dsimp only
  rw [instantOfMicros?_eq, instantOfMicros?_eq]
  cases ((t.events.map (·.time)).min?.map Instant.ofMicros).all (·.inRange)
  · rfl
  · cases ((t.events.map (·.time)).max?.map Instant.ofMicros).all (·.inRange) <;> rfl

theorem countsByType_eq (t : Tables) : t.countsByType = Dict.tally [] (t.events.map (·.type)) := by
  unfold countsByType Dict.tally
  rw [List.foldl_map]

theorem length_streamNames (t : Tables) :
    t.streamNames.length = (t.events.map (·.stream)).dedup.length := by
  refine List.Perm.length_eq ?_
  refine (List.perm_ext_iff_of_nodup (nodup_eraseDups _) (List.nodup_dedup _)).mpr fun stream => ?_
  rw [List.mem_eraseDups, List.mem_dedup]

/-- What is read off the rows is what the events have, as rows have them. -/
theorem Lists.map_events {α : Type} (h : t.Lists l) {f : Event → α} {g : EventRow → α}
    (hfg : ∀ e : Event, f e.inRow = g (.ofEvent e)) :
    (l.log.map Event.inRow).map f = t.events.map g := by
  rw [h.events, List.map_map, List.map_map]
  exact List.map_congr_left fun e _ => hfg e

theorem Lists.totals_tell (h : t.Lists l) : t.totals.Tells (l.log.map Event.inRow) := by
  have hstreams := h.map_events (f := (·.stream)) (g := (·.stream)) fun _ => rfl
  have htypes := h.map_events (f := (·.type)) (g := (·.type)) fun _ => rfl
  have htimes : (l.log.map Event.inRow).map (·.timestamp) =
      (t.events.map (·.time)).map Instant.ofMicros := by
    rw [List.map_map (l := t.events)]
    exact h.map_events fun _ => rfl
  have hlength : (l.log.map Event.inRow).length = t.events.length := by
    rw [h.events, List.length_map, List.length_map]
  have hnil : t.events.map (·.time) = [] ↔ l.log.map Event.inRow = [] := by
    rw [← List.length_eq_zero_iff, ← List.length_eq_zero_iff, List.length_map, hlength]
  refine ⟨hlength.symm, ?_, fun type n => ?_, ?_, fun a => ?_, fun a => ?_, ?_, ?_⟩
  · rw [hstreams]
    exact t.length_streamNames
  · show t.countsByType.get? type = some n ↔ _
    rw [htypes, countsByType_eq]
    exact Dict.get?_tally_nil _ type n
  · show t.countsByType.values.sum = _
    rw [countsByType_eq, Dict.sum_values_tally Dict.sorted_nil, List.length_map, hlength]
    exact Nat.zero_add _
  · rw [htimes]
    exact Instant.map_min?_eq_some_iff _ a
  · rw [htimes]
    exact Instant.map_max?_eq_some_iff _ a
  · exact Option.map_eq_none_iff.trans (List.min?_eq_none_iff.trans hnil)
  · exact Option.map_eq_none_iff.trans (List.max?_eq_none_iff.trans hnil)

end Tables

namespace EventFilter

/-- The filter for the events of a type. -/
def ofType (type : String) : EventFilter :=
  { all with types := [type] }

theorem select_all (log : List Event) : EventFilter.all.inRows.select log = log :=
  List.filter_eq_self.mpr fun _ _ => rfl

theorem length_select_ofType (type : String) (log : List Event) :
    ((ofType type).inRows.select log).length = (log.map (·.type)).count type := by
  have hpasses : (ofType type).inRows.passes = fun e => e.type == type := by
    funext e
    rw [Bool.eq_iff_iff]
    simp [passes, ofType, inRows, all]
  show (log.filter (ofType type).inRows.passes).length = _
  rw [hpasses]
  exact length_filter_eq_count (·.type) log type

end EventFilter

namespace Store

variable {s : Store} {log : List Event}

/-- How the reports of a store agree: its totals, the summaries of its streams, and what it answers to
readers. -/
structure Agrees (s : Store) (x : StoreStats) (all : List InstanceSummary) : Prop where
  /-- As many events as are read without a filter. -/
  readAll : ∀ events, (s.readAll .all).value.1 = .ok events → events.length = x.totalEvents
  types : x.eventsByType.values.sum = x.totalEvents
  /-- As many events as the streams on all pages have, whatever the size of the pages. -/
  pages : ∀ perPage count, pageCount all.length (pageSize perPage) ≤ count →
    ((InstancePage.listed (.cut all (pageSize perPage)) count).map (·.eventCount)).sum = x.totalEvents
  /-- A type has an entry if events of it are read, and the entry is their number. -/
  ofType : ∀ type events, (s.readAll (.ofType type)).value.1 = .ok events →
    ∀ n, x.eventsByType.get? type = some n ↔ 0 < n ∧ n = events.length
  total : ∀ perPage page, (InstancePage.cut all (pageSize perPage) page).total = x.totalStreams
  /-- As many streams as have a version. -/
  versions : ∃ streams : List String, streams.Nodup ∧ streams.length = x.totalStreams ∧
    ∀ stream, stream ∈ streams ↔ ∃ v, (s.streamVersion stream).value.1 = .ok v ∧ v ≠ noStream
  first : ∀ a, x.firstEventAt = some a ↔ Instant.Earliest (all.map (·.createdAt)) a
  last : ∀ a, x.lastEventAt = some a ↔ Instant.Latest (all.map (·.updatedAt)) a
  absent : (x.firstEventAt = none ↔ x.totalEvents = 0) ∧ (x.lastEventAt = none ↔ x.totalEvents = 0)

theorem length_of_echo {events echoed : List Event} (h : s.echo events = .ok echoed) :
    echoed.length = events.length := by
  have htypes := congrArg List.length (types_of_echo h)
  rwa [List.length_map, List.length_map] at htypes

/-- The streams of a log are those that have a version. -/
theorem Filled.version_iff (h : s.Filled log) (hopen : s.Reaches) (stream : String) :
    (∃ v, (s.streamVersion stream).value.1 = .ok v ∧ v ≠ noStream) ↔
      ∃ e ∈ log.map Event.inRow, e.stream = stream := by
  have hversion := h.version_of_reaches (l := ⟨log, [], false⟩) hopen stream
  have hevents : Ledger.version ⟨log, [], false⟩ stream ≠ noStream ↔
      log.filter (·.stream == stream) ≠ [] := by
    show ((log.filter (·.stream == stream)).length : Int) - 1 ≠ -1 ↔ _
    rw [← List.length_pos_iff]
    omega
  rw [hversion]
  constructor
  · rintro ⟨v, hv, hne⟩
    obtain rfl := Except.ok.inj hv
    obtain ⟨e, he⟩ := List.exists_mem_of_ne_nil _ (hevents.mp hne)
    obtain ⟨hlog, hname⟩ := List.mem_filter.mp he
    exact ⟨e.inRow, List.mem_map_of_mem hlog, beq_iff_eq.mp hname⟩
  · rintro ⟨x, hx, rfl⟩
    obtain ⟨e, he, rfl⟩ := List.mem_map.mp hx
    refine ⟨_, rfl, hevents.mpr (List.ne_nil_of_mem (List.mem_filter.mpr ⟨he, ?_⟩))⟩
    exact beq_self_eq_true _

/-- Totals and summaries that tell of the log of a database agree with what it answers. -/
theorem Filled.agrees (h : s.Filled log) (hopen : s.Reaches) {x : StoreStats}
    {all : List InstanceSummary} (hx : x.Tells (log.map Event.inRow))
    (hall : ListsStreams all (log.map Event.inRow)) : s.Agrees x all where
  readAll events hread := by
    rw [h.readAll hopen, EventFilter.select_all] at hread
    rw [length_of_echo hread, hx.events]
  types := hx.types.trans hx.events.symm
  pages perPage count hcount := by
    rw [(InstancePage.listed_cut_iff all (pageSize_pos perPage) count).mpr hcount, hall.sum_eventCount,
      hx.events]
  ofType type events hread n := by
    rw [h.readAll hopen] at hread
    rw [hx.byType, length_of_echo hread, EventFilter.length_select_ofType]
  total _ _ := hall.length_eq.trans hx.streams.symm
  versions := ⟨all.map (·.stream), hall.once, hall.streams_perm.length_eq.trans hx.streams.symm,
    fun stream => (hall.streams stream).trans (h.version_iff hopen stream).symm⟩
  first a := (hx.first a).trans (hall.earliest_iff a)
  last a := (hx.last a).trans (hall.latest_iff a)
  absent := by
    rw [hx.events, List.length_eq_zero_iff]
    exact ⟨hx.started, hx.ended⟩

/-- A database that was filled with a log answers with totals of it. -/
theorem Filled.stats {c : Connection} {db : Database} (h : (database c db).Filled log)
    (hopen : (database c db).Reaches) :
    ∃ x : StoreStats, x.Tells (log.map Event.inRow) ∧ (c.stats db).value = x.read := by
  obtain ⟨t, ht⟩ := hopen
  refine ⟨t.totals, (h t (Connection.tables_some ht)).toLists.totals_tell, ?_⟩
  show (c.ask db Tables.stats).value = _
  rw [Connection.ask_of_reached ht, t.stats_eq]

/-- Whatever was appended to a database, its totals agree with its pages of streams, with the versions of
its streams and with the events that it reads.  Totals are answered exactly if the times of all events
can be read, and then all pages are; events that lose nothing in rows are all read. -/
theorem reports_agree (buffer : Nat) {ops : List StoreOp} (hops : ∀ op ∈ ops, op ≠ .close) :
    ∃ c db x all, (database (.new buffer) .new).afterCalls ops = database c db ∧
      (database c db).Agrees x all ∧
      (c.stats db).value = x.read ∧
      (∀ perPage page, (c.instances db page perPage).value =
        (InstancePage.cut all (pageSize perPage) page).read) ∧
      (x.readable = true ↔
        ∀ e ∈ (database (.new buffer) .new).accepted ops, e.timestamp.inRow.inRange = true) ∧
      (x.readable = true → ∀ perPage page,
        (c.instances db page perPage).value = .ok (.cut all (pageSize perPage) page)) ∧
      ((∀ e ∈ ops.flatMap StoreOp.batch, e.Storable) →
        ∀ f, ∃ events, ((database c db).readAll f).value.1 = .ok events) := by
  have hnew : (database (.new buffer) .new).Reaches := ⟨.empty, rfl⟩
  have hopen := hnew.afterCalls hops
  have hfilled := (filled_new buffer).afterCalls ops
  rw [List.nil_append] at hfilled
  obtain ⟨c, db, all, hstore, hlists, hpages⟩ := hfilled.pages hopen
  rw [hstore] at hfilled hopen
  obtain ⟨x, hx, hstats⟩ := hfilled.stats hopen
  refine ⟨c, db, x, all, hstore, hfilled.agrees hopen hx hlists, hstats, hpages, ?_, ?_, ?_⟩
  · rw [hx.readable_iff, List.forall_mem_map]
    exact Iff.rfl
  · intro hreadable perPage page
    rw [hpages]
    exact InstancePage.read_cut (hlists.readable (hx.readable_iff.mp hreadable)) _ _
  · exact fun hstorable f => ⟨_, hfilled.readAll_stored hopen (stored_accepted _ hstorable) f⟩

theorem reports_agree_stock :
    (∀ op ∈ orderedStock, op ≠ .close) ∧
      ∃ c db x all, (database (.new 1) .new).afterCalls orderedStock = database c db ∧
        (database c db).Agrees x all ∧ (c.stats db).value = .ok x ∧ x.totalEvents = 3 := by
  have hopen : ∀ op ∈ orderedStock, op ≠ .close := by
    unfold orderedStock
    simp
  obtain ⟨c, db, x, all, hstore, hagrees, hstats, -, hreadable, -⟩ := reports_agree 1 hopen
  have hall : ∃ events, (((database (.new 1) .new).afterCalls orderedStock).readAll .all).value.1 =
      .ok events ∧ events.length = 3 := ⟨_, rfl, rfl⟩
  rw [hstore] at hall
  obtain ⟨events, hevents, hlength⟩ := hall
  exact ⟨hopen, c, db, x, all, hstore, hagrees, hstats.trans (if_pos (hreadable.mpr (by decide))),
    (hagrees.readAll events hevents).symm.trans hlength⟩

/-! #### A time that is accepted but not read -/

/-- An order at the leap second at the end of the last year. -/
def leapOps : List StoreOp :=
  [.append "orders" (-1) [{ Event.order 1 with timestamp := ⟨Instant.endSecond - 1, 1000000000⟩ }]]

/-- The order is accepted and its stream has a version, but neither totals nor events are answered. -/
theorem leap_order_untold :
    ∃ c db, (database (.new 1) .new).afterCalls leapOps = database c db ∧
      ((database (.new 1) .new).accepted leapOps).length = 1 ∧
      ((database c db).streamVersion "orders").value.1 = .ok 0 ∧
      (c.stats db).value = .error (.unreadable .timestamp) ∧
      ((database c db).readAll .all).value.1 = .error (.unreadable .timestamp) :=
  ⟨_, _, rfl, rfl, rfl, rfl, rfl⟩

end Store

end EventNet
