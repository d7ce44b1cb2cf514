import EventNet.Proofs.Store.Selection

/-!
What a report tells of a log.

Tables that list a ledger have, for each stream, the rows of its events.  The report groups the rows by
stream and reads a summary off each group.  Versions count up from zero, so the greatest one is one less
than the number of events and belongs to one event only; times are compared as microseconds, and the
least and the greatest of them are times of events.  Groups are then put in order, and as no two have the
same name, no two stand at the same place in it.

`StreamGroup.told` is the summary of a group in whatever years its times lie, so that all of this can be
said before anything is read.  What is read is that summary, provided that its times can be read.
-/

namespace EventNet

/-! ### Times -/

namespace Instant

/-- The instant of a number of microseconds, in whatever year it lies. -/
def ofMicros (n : Int) : Instant :=
  ⟨n / 1000000, (n % 1000000).toNat * 1000⟩

theorem le_ofMicros (m n : Int) : (ofMicros m).le (ofMicros n) = true ↔ m ≤ n := by
  rw [le_iff]
  show m / 1000000 < n / 1000000 ∨ m / 1000000 = n / 1000000 ∧
    (m % 1000000).toNat * 1000 ≤ (n % 1000000).toNat * 1000 ↔ _
  omega

theorem lt_ofMicros (m n : Int) : (ofMicros m).lt (ofMicros n) = true ↔ m < n := by
  unfold lt
  rw [Bool.not_eq_true', ← Bool.not_eq_true, le_ofMicros, Int.not_le]

end Instant

theorem instantOfMicros_eq (n : Int) : instantOfMicros n =
    if (Instant.ofMicros n).inRange then .ok (.ofMicros n) else .error (.unreadable .timestamp) := by
  have hread : Instant.ofMicros? n =
      if (Instant.ofMicros n).inRange then some (.ofMicros n) else none := rfl
  unfold instantOfMicros
  rw [hread]
  cases (Instant.ofMicros n).inRange <;> rfl

section Extremes

variable {l : List Int}

theorem exists_min (h : l ≠ []) : ∃ n ∈ l, l.min?.getD 0 = n ∧ ∀ k ∈ l, n ≤ k := by
  obtain ⟨n, hn⟩ := Option.ne_none_iff_exists'.mp (mt List.min?_eq_none_iff.mp h)
  obtain ⟨hmem, hle⟩ := List.min?_eq_some_iff.mp hn
  exact ⟨n, hmem, by rw [hn]; rfl, hle⟩

theorem exists_max (h : l ≠ []) : ∃ n ∈ l, l.max?.getD 0 = n ∧ ∀ k ∈ l, k ≤ n := by
  obtain ⟨n, hn⟩ := Option.ne_none_iff_exists'.mp (mt List.max?_eq_none_iff.mp h)
  obtain ⟨hmem, hle⟩ := List.max?_eq_some_iff.mp hn
  exact ⟨n, hmem, by rw [hn]; rfl, hle⟩

end Extremes

/-! ### One stream -/

/-- Whether the times of a summary lie in the years that can be read. -/
def InstanceSummary.readable (x : InstanceSummary) : Bool :=
  x.createdAt.inRange && x.updatedAt.inRange

/-- What a summary says of the events of its stream. -/
structure InstanceSummary.Tells (x : InstanceSummary) (events : List Event) : Prop where
  count : x.eventCount = events.length
  version : x.version + 1 = x.eventCount
  /-- There is one event of this version, and its type is told. -/
  last : ∃ e ∈ events, e.version = x.version
  lastType : ∀ e ∈ events, e.version = x.version → e.type = x.lastEventType
  created : ∃ e ∈ events, e.timestamp = x.createdAt
  updated : ∃ e ∈ events, e.timestamp = x.updatedAt
  within : ∀ e ∈ events, x.createdAt.le e.timestamp = true ∧ e.timestamp.le x.updatedAt = true
  ordered : x.createdAt.le x.updatedAt = true

namespace StreamGroup

/-- The summary of a group, in whatever years its times lie. -/
def told (g : StreamGroup) : InstanceSummary :=
  ⟨g.stream, g.version, g.lastEventType, g.rows.length, .ofMicros g.created, .ofMicros g.updated⟩

theorem summary_eq (g : StreamGroup) : g.summary =
    if g.told.readable then .ok g.told else .error (.unreadable .timestamp) := by
  unfold summary InstanceSummary.readable
  rw [instantOfMicros_eq, instantOfMicros_eq]
  show _ = if (Instant.ofMicros g.created).inRange && (Instant.ofMicros g.updated).inRange then _ else _
  cases (Instant.ofMicros g.created).inRange
  · rfl
  · cases (Instant.ofMicros g.updated).inRange <;> rfl

theorem summaries_eq (groups : List StreamGroup) : summaries groups =
    if (groups.map told).all (·.readable) then .ok (groups.map told)
    else .error (.unreadable .timestamp) := by
  induction groups with
  | nil => rfl
  | cons g rest ih =>
      rw [summaries, summary_eq, ih, List.map_cons, List.all_cons]
      cases g.told.readable
      · rfl
      · cases (rest.map told).all (·.readable) <;> rfl

/-- The rows of some events of a stream. -/
def ofEvents (stream : String) (events : List Event) : StreamGroup :=
  ⟨stream, events.map .ofEvent⟩

variable {stream : String} {events : List Event}

/-- The first time is that of an event, and none is earlier. -/
theorem exists_created (stream : String) (h : events ≠ []) :
    ∃ e ∈ events, (ofEvents stream events).created = e.timestamp.micros ∧
      ∀ x ∈ events, e.timestamp.micros ≤ x.timestamp.micros := by
  have htimes : (ofEvents stream events).rows.map (·.time) = events.map (·.timestamp.micros) :=
    List.map_map
  obtain ⟨n, hn, hmin, hle⟩ := exists_min (l := events.map (·.timestamp.micros)) (by simpa using h)
  obtain ⟨e, he, rfl⟩ := List.mem_map.mp hn
  refine ⟨e, he, ?_, fun x hx => hle _ (List.mem_map_of_mem hx)⟩
  unfold created
  rw [htimes, hmin]

/-- The last time is that of an event, and none is later. -/
theorem exists_updated (stream : String) (h : events ≠ []) :
    ∃ e ∈ events, (ofEvents stream events).updated = e.timestamp.micros ∧
      ∀ x ∈ events, x.timestamp.micros ≤ e.timestamp.micros := by
  have htimes : (ofEvents stream events).rows.map (·.time) = events.map (·.timestamp.micros) :=
    List.map_map
  obtain ⟨n, hn, hmax, hle⟩ := exists_max (l := events.map (·.timestamp.micros)) (by simpa using h)
  obtain ⟨e, he, rfl⟩ := List.mem_map.mp hn
  refine ⟨e, he, ?_, fun x hx => hle _ (List.mem_map_of_mem hx)⟩
  unfold updated
  rw [htimes, hmax]

/-- Of events that are numbered from zero one has the greatest version, and no other has it. -/
theorem exists_last (h : events ≠ [])
    (hnumbered : ∀ (i : Nat) (e : Event), events[i]? = some e → e.version = i) :
    ∃ top ∈ events, top.version = (events.length : Int) - 1 ∧
      ∀ e ∈ events, e.version = (events.length : Int) - 1 → e = top := by
  have hpos : 0 < events.length := List.length_pos_iff.mpr h
  obtain ⟨top, htop⟩ : ∃ top, events[events.length - 1]? = some top :=
    ⟨_, List.getElem?_eq_getElem (by omega)⟩
  have hversion := hnumbered _ top htop
  refine ⟨top, List.mem_of_getElem? htop, by omega, fun e he heq => ?_⟩
  obtain ⟨i, hi⟩ := List.mem_iff_getElem?.mp he
  have hlt := (List.getElem?_eq_some_iff.mp hi).1
  have hindex : i = events.length - 1 := by
    have := hnumbered i e hi
    omega
  rw [hindex, htop] at hi
  exact (Option.some.inj hi).symm

/-- The type that is told is that of the only event of the greatest version. -/
theorem lastEventType_eq {top : Event} (htop : top ∈ events)
    (hversion : (ofEvents stream events).version = top.version)
    (honly : ∀ e ∈ events, e.version = top.version → e = top) :
    (ofEvents stream events).lastEventType = top.type := by
  unfold lastEventType
  rw [hversion]
  cases hfind : (ofEvents stream events).rows.find? (·.version == top.version) with
  | none =>
      have hnone := List.find?_eq_none.mp hfind (.ofEvent top) (List.mem_map_of_mem htop)
      exact absurd (beq_self_eq_true top.version) hnone
  | some r =>
      obtain ⟨e, he, rfl⟩ := List.mem_map.mp (List.mem_of_find?_eq_some hfind)
      have heq := List.find?_some hfind
      rw [honly e he (beq_iff_eq.mp heq)]
      rfl

/-- A group tells of its events, if they are numbered from zero. -/
theorem told_tells (h : events ≠ [])
    (hnumbered : ∀ (i : Nat) (e : Event), events[i]? = some e → e.version = i)
    (hversion : (ofEvents stream events).version = events.length - 1) :
    (ofEvents stream events).told.Tells (events.map Event.inRow) := by
  obtain ⟨first, hfirst, hcreated, hleast⟩ := exists_created stream h
  obtain ⟨last, hlast, hupdated, hgreatest⟩ := exists_updated stream h
  obtain ⟨top, htop, htopVersion, honly⟩ := exists_last h hnumbered
  rw [← htopVersion] at hversion honly
  refine ⟨?_, ?_, ⟨top.inRow, List.mem_map_of_mem htop, hversion.symm⟩, ?_,
    ⟨first.inRow, List.mem_map_of_mem hfirst, congrArg Instant.ofMicros hcreated.symm⟩,
    ⟨last.inRow, List.mem_map_of_mem hlast, congrArg Instant.ofMicros hupdated.symm⟩, ?_, ?_⟩
  · show (events.map EventRow.ofEvent).length = (events.map Event.inRow).length
    rw [List.length_map, List.length_map]
  · show (ofEvents stream events).version + 1 = ((events.map EventRow.ofEvent).length : Int)
    rw [hversion, htopVersion, List.length_map]
    omega
  · intro x hx hx'
    obtain ⟨e, he, rfl⟩ := List.mem_map.mp hx
    rw [honly e he (hx'.trans hversion)]
    exact (lastEventType_eq htop hversion honly).symm
  · intro x hx
    obtain ⟨e, he, rfl⟩ := List.mem_map.mp hx
    refine ⟨(Instant.le_ofMicros _ e.timestamp.micros).mpr ?_,
      (Instant.le_ofMicros e.timestamp.micros _).mpr ?_⟩
    · rw [hcreated]
      exact hleast e he
    · rw [hupdated]
      exact hgreatest e he
  · refine (Instant.le_ofMicros _ _).mpr ?_
    rw [hcreated, hupdated]
    exact hgreatest first hfirst

/-! ### The order of streams -/

theorem listedBefore_iff {a b : StreamGroup} :
    listedBefore a b = true ↔ b.updated < a.updated ∨ a.updated = b.updated ∧ a.stream ≤ b.stream := by
  simp [listedBefore]

theorem listedBefore_trans (a b c : StreamGroup) (hab : listedBefore a b = true)
    (hbc : listedBefore b c = true) : listedBefore a c = true := by
  rw [listedBefore_iff] at *
  rcases hab with hab | ⟨hab, hnames⟩
  · rcases hbc with hbc | ⟨hbc, -⟩ <;> omega
  · rcases hbc with hbc | ⟨hbc, hnames'⟩
    · omega
    · exact Or.inr ⟨hab.trans hbc, String.le_trans hnames hnames'⟩

theorem listedBefore_total (a b : StreamGroup) : (listedBefore a b || listedBefore b a) = true := by
  rw [Bool.or_eq_true, listedBefore_iff, listedBefore_iff]
  have hnames := String.le_total a.stream b.stream
  by_cases hlt : b.updated < a.updated
  · exact Or.inl (Or.inl hlt)
  by_cases hgt : a.updated < b.updated
  · exact Or.inr (Or.inl hgt)
  have heq : a.updated = b.updated := by omega
  exact hnames.imp (fun h => Or.inr ⟨heq, h⟩) fun h => Or.inr ⟨heq.symm, h⟩

end StreamGroup

/-- The order of summaries on all pages: the stream that was updated last comes first, and streams that
were updated at the same time come by name. -/
def InstanceSummary.Before (x y : InstanceSummary) : Prop :=
  y.updatedAt.lt x.updatedAt = true ∨ x.updatedAt = y.updatedAt ∧ x.stream < y.stream

theorem StreamGroup.told_before {a b : StreamGroup} (h : listedBefore a b = true)
    (hne : a.stream ≠ b.stream) : a.told.Before b.told := by
  rcases listedBefore_iff.mp h with hlt | ⟨heq, hle⟩
  · exact Or.inl ((Instant.lt_ofMicros _ _).mpr hlt)
  · refine Or.inr ⟨congrArg Instant.ofMicros heq, ?_⟩
    exact String.not_le.mp fun hge => hne (String.le_antisymm hle hge)

/-! ### All streams -/

theorem nodup_eraseDups (l : List String) : l.eraseDups.Nodup := by
  cases l with
  | nil => exact List.nodup_nil
  | cons x rest =>
      rw [List.eraseDups_cons, List.nodup_cons]
      refine ⟨fun hmem => ?_, nodup_eraseDups _⟩
      have hkept := (List.mem_filter.mp (List.mem_eraseDups.mp hmem)).2
      simp at hkept
termination_by l.length
decreasing_by exact Nat.lt_succ_of_le (List.length_filter_le _ _)

/-- Summaries of all streams of a log, each once and in order. -/
structure ListsStreams (all : List InstanceSummary) (log : List Event) : Prop where
  streams : ∀ stream, stream ∈ all.map (·.stream) ↔ ∃ e ∈ log, e.stream = stream
  once : (all.map (·.stream)).Nodup
  tells : ∀ x ∈ all, x.Tells (log.filter (·.stream == x.stream))
  ordered : all.Pairwise InstanceSummary.Before

/-- The times of summaries are times of events. -/
theorem ListsStreams.readable {all : List InstanceSummary} {log : List Event}
    (h : ListsStreams all log) (htimes : ∀ e ∈ log, e.timestamp.inRange = true) :
    ∀ x ∈ all, x.readable = true := by
  intro x hx
  obtain ⟨first, hfirst, hcreated⟩ := (h.tells x hx).created
  obtain ⟨last, hlast, hupdated⟩ := (h.tells x hx).updated
  unfold InstanceSummary.readable
  rw [← hcreated, ← hupdated, htimes first (List.mem_filter.mp hfirst).1,
    htimes last (List.mem_filter.mp hlast).1]
  rfl

namespace Tables

variable {t : Tables} {l : Ledger}

/-- The summaries of all streams in the order of listing. -/
def told (t : Tables) : List InstanceSummary :=
  t.listing.map StreamGroup.told

theorem length_listing (t : Tables) : t.listing.length = t.streamNames.length := by
  unfold listing
  rw [List.length_mergeSort, List.length_map]

theorem mem_streamNames (h : t.Lists l) {stream : String} :
    stream ∈ t.streamNames ↔ l.events stream ≠ [] := by
  unfold streamNames Ledger.events
  rw [List.mem_eraseDups, h.events, List.map_map, ne_eq, List.filter_eq_nil_iff]
  simp [EventRow.ofEvent]

/-- The groups that are listed are the streams that have events, each with its events. -/
theorem mem_listing (h : t.Lists l) {g : StreamGroup} :
    g ∈ t.listing ↔ l.events g.stream ≠ [] ∧ g = .ofEvents g.stream (l.events g.stream) := by
  unfold listing
  rw [List.mem_mergeSort, List.mem_map]
  constructor
  · rintro ⟨stream, hstream, rfl⟩
    exact ⟨(mem_streamNames h).mp hstream, congrArg _ (h.streamRows stream)⟩
  · rintro ⟨hevents, heq⟩
    refine ⟨g.stream, (mem_streamNames h).mpr hevents, ?_⟩
    rw [h.streamRows]
    exact heq.symm

theorem nodup_listing (t : Tables) : (t.listing.map (·.stream)).Nodup := by
  have hperm := (List.mergeSort_perm (t.streamNames.map fun stream =>
    StreamGroup.mk stream (t.streamRows stream)) StreamGroup.listedBefore).map (·.stream)
  refine hperm.nodup_iff.mpr ?_
  rw [List.map_map]
  exact (List.map_id _).symm ▸ nodup_eraseDups _

theorem ordered_told (t : Tables) : t.told.Pairwise InstanceSummary.Before := by
  refine List.pairwise_map.mpr ?_
  have hsorted : t.listing.Pairwise fun a b => StreamGroup.listedBefore a b = true :=
    List.pairwise_mergeSort StreamGroup.listedBefore_trans StreamGroup.listedBefore_total _
  have hapart : t.listing.Pairwise fun a b => a.stream ≠ b.stream :=
    List.pairwise_map.mp t.nodup_listing
  exact (hsorted.and hapart).imp fun ⟨hbefore, hne⟩ => StreamGroup.told_before hbefore hne

theorem Lists.told (h : t.Lists l) : ListsStreams t.told (l.log.map Event.inRow) where
  streams stream := by
    unfold Tables.told
    rw [List.map_map]
    constructor
    · intro hstream
      obtain ⟨g, hg, rfl⟩ := List.mem_map.mp hstream
      obtain ⟨e, he⟩ := List.exists_mem_of_ne_nil _ ((mem_listing h).mp hg).1
      obtain ⟨hlog, hname⟩ := List.mem_filter.mp he
      exact ⟨e.inRow, List.mem_map_of_mem hlog, beq_iff_eq.mp hname⟩
    · rintro ⟨x, hx, rfl⟩
      obtain ⟨e, he, rfl⟩ := List.mem_map.mp hx
      have hevents : l.events e.stream ≠ [] :=
        List.ne_nil_of_mem (List.mem_filter.mpr ⟨he, beq_self_eq_true _⟩)
      exact List.mem_map.mpr ⟨.ofEvents e.stream (l.events e.stream),
        (mem_listing h).mpr ⟨hevents, rfl⟩, rfl⟩
  once := by
    unfold Tables.told
    rw [List.map_map]
    exact t.nodup_listing
  tells x hx := by
    obtain ⟨g, hg, rfl⟩ := List.mem_map.mp hx
    obtain ⟨hevents, heq⟩ := (mem_listing h).mp hg
    have hversion : (StreamGroup.ofEvents g.stream (l.events g.stream)).version =
        (l.events g.stream).length - 1 := by
      have hcurrent := h.currentVersion g.stream
      unfold Tables.currentVersion at hcurrent
      rw [h.streamRows] at hcurrent
      exact hcurrent
    have htells := StreamGroup.told_tells hevents (h.numbered g.stream) hversion
    rw [← heq] at htells
    rw [List.filter_map]
    exact htells
  ordered := t.ordered_told

end Tables

end EventNet
