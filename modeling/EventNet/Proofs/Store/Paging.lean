import EventNet.Proofs.Store.Summaries

/-!
The streams page by page.

Pages of one size are cut from one listing, so the first of them side by side are the beginning of that
listing, and all of them are the whole of it.  The number of pages is kept modulo 2^32.  Below that bound
it is the number of pages, and the pages up to it list every stream once.  From the bound on it is too
small: the pages up to it leave streams out, and a page that is followed by others says that none follows.

A page is not answered if a time on it cannot be read.  That is so for the leap second at the end of the
last year, which is accepted as the time of an event but in its row lies in the year after.
-/

namespace EventNet

/-- The size of pages that is taken where one is asked for. -/
def pageSize (asked : Nat) : Nat :=
  max 1 (min asked maxPageSize)

theorem pageSize_pos (asked : Nat) : 0 < pageSize asked :=
  Nat.le_max_left ..

/-- How many pages some streams fill. -/
def pageCount (streams size : Nat) : Nat :=
  (streams + size - 1) / size

theorem lt_pageCount_iff {streams size : Nat} (h : 0 < size) (k : Nat) :
    k < pageCount streams size ↔ k * size < streams := by
  unfold pageCount
  rw [← Nat.succ_le_iff, Nat.le_div_iff_mul_le h, Nat.succ_mul]
  omega

namespace InstancePage

/-- A page of a listing.  Pages are numbered from one, and page zero is the first one. -/
def cut (all : List InstanceSummary) (size page : Nat) : InstancePage :=
  ⟨(all.drop ((max page 1 - 1) * size)).take size, all.length, max page 1, size⟩

/-- A page if its times can be read. -/
def read (p : InstancePage) : Except Fault InstancePage :=
  if p.instances.all (·.readable) then .ok p else .error (.unreadable .timestamp)

/-- All pages of summaries whose times can be read are read. -/
theorem read_cut {all : List InstanceSummary} (h : ∀ x ∈ all, x.readable = true) (size page : Nat) :
    (cut all size page).read = .ok (cut all size page) :=
  if_pos (List.all_eq_true.mpr fun x hx => h x (List.mem_of_mem_drop (List.mem_of_mem_take hx)))

/-- What is listed on the first pages. -/
def listed (pages : Nat → InstancePage) (count : Nat) : List InstanceSummary :=
  (List.range count).flatMap fun i => (pages (i + 1)).instances

section Cutting

variable (all : List InstanceSummary) {size : Nat}

theorem instances_cut (size i : Nat) :
    (cut all size (i + 1)).instances = (all.drop (i * size)).take size := by
  show (all.drop ((max (i + 1) 1 - 1) * size)).take size = _
  rw [Nat.max_eq_left (Nat.le_add_left 1 i), Nat.add_sub_cancel]

theorem listed_cut (size count : Nat) : listed (cut all size) count = all.take (count * size) := by
  induction count with
  | zero => simp [listed]
  | succ count ih =>
      have hlast : listed (cut all size) (count + 1) =
          listed (cut all size) count ++ (cut all size (count + 1)).instances := by
        unfold listed
        rw [List.range_succ, List.flatMap_append, List.flatMap_singleton]
      rw [hlast, ih, instances_cut, Nat.succ_mul, List.take_add]

/-- So many pages list everything exactly if they are all pages. -/
theorem listed_cut_iff (h : 0 < size) (count : Nat) :
    listed (cut all size) count = all ↔ pageCount all.length size ≤ count := by
  rw [listed_cut, List.take_eq_self_iff, ← Nat.not_lt, ← Nat.not_lt, lt_pageCount_iff h]

theorem length_cut (size page : Nat) :
    (cut all size page).instances.length = min size (all.length - (max page 1 - 1) * size) := by
  show ((all.drop _).take size).length = _
  rw [List.length_take, List.length_drop]

/-- The pages up to their number are those that are not empty. -/
theorem cut_ne_nil_iff (h : 0 < size) (page : Nat) :
    (cut all size page).instances ≠ [] ↔ max page 1 ≤ pageCount all.length size := by
  have hcount : max page 1 - 1 < pageCount all.length size ↔ _ := lt_pageCount_iff h _
  rw [← List.length_pos_iff, length_cut]
  omega

theorem totalPages_cut (h : 0 < size) (page : Nat) :
    (cut all size page).totalPages = pageCount all.length size % pageCountBound := by
  show (if all.length == 0 then 0 else pageCount all.length size % pageCountBound) = _
  split
  · rename_i hnone
    rw [beq_iff_eq.mp hnone]
    unfold pageCount
    rw [Nat.zero_add, Nat.div_eq_of_lt (Nat.sub_lt h Nat.one_pos)]
    rfl
  · rfl

end Cutting

/-- What pages of a size say that list all streams between them. -/
structure Covers (pages : Nat → InstancePage) (size : Nat) (all : List InstanceSummary) : Prop where
  total : ∀ page, (pages page).total = all.length
  /-- All pages but the last one are full. -/
  full : ∀ page, 1 ≤ page → page < pageCount all.length size → (pages page).instances.length = size
  /-- Every stream is on one of the pages, and past them there is nothing. -/
  listed : listed pages (pageCount all.length size) = all
  past : ∀ page, 1 ≤ page → ((pages page).instances ≠ [] ↔ page ≤ pageCount all.length size)
  totalPages : ∀ page, (pages page).totalPages = pageCount all.length size % pageCountBound
  /-- The pages that the first one counts list all streams exactly if there are not too many of them. -/
  counted : InstancePage.listed pages (pages 1).totalPages = all ↔
    pageCount all.length size < pageCountBound
  /-- Then a page also says rightly whether others follow. -/
  follows : pageCount all.length size < pageCountBound → ∀ page,
    (pages page).hasNext = true ↔ ∃ later, max page 1 < later ∧ (pages later).instances ≠ []

theorem covers_cut (all : List InstanceSummary) {size : Nat} (h : 0 < size) :
    Covers (cut all size) size all where
  total _ := rfl
  full page hpage hlast := by
    rw [length_cut]
    rw [lt_pageCount_iff h] at hlast
    have hsplit : page * size = (page - 1) * size + size := by
      rw [← Nat.succ_mul]
      congr 1
      omega
    rw [Nat.max_eq_left hpage]
    omega
  listed := (listed_cut_iff all h _).mpr (Nat.le_refl _)
  past page hpage := by
    rw [cut_ne_nil_iff all h, Nat.max_eq_left hpage]
  totalPages := totalPages_cut all h
  counted := by
    rw [listed_cut_iff all h, totalPages_cut all h]
    have hbound : 0 < pageCountBound := by decide
    constructor
    · exact fun hle => Nat.lt_of_le_of_lt hle (Nat.mod_lt _ hbound)
    · exact fun hlt => Nat.le_of_eq (Nat.mod_eq_of_lt hlt).symm
  follows hbound page := by
    have hnext : (cut all size page).hasNext = true ↔ max page 1 < pageCount all.length size := by
      show decide (max page 1 < (cut all size page).totalPages) = true ↔ _
      rw [decide_eq_true_iff, totalPages_cut all h, Nat.mod_eq_of_lt hbound]
    rw [hnext]
    constructor
    · intro hlt
      refine ⟨max page 1 + 1, Nat.lt_succ_self _, (cut_ne_nil_iff all h _).mpr ?_⟩
      omega
    · rintro ⟨later, hlater, hne⟩
      have hle := (cut_ne_nil_iff all h later).mp hne
      omega

end InstancePage

/-- Tables answer with a page of all summaries, if its times can be read. -/
theorem Tables.instances_eq (t : Tables) (page perPage : Nat) :
    t.instances page perPage = (InstancePage.cut t.told (pageSize perPage) page).read := by
  have hcut : ((t.listing.drop ((max page 1 - 1) * pageSize perPage)).take (pageSize perPage)).map
      StreamGroup.told = (InstancePage.cut t.told (pageSize perPage) page).instances := by
    show _ = ((t.listing.map StreamGroup.told).drop _).take _
    rw [List.map_take, List.map_drop]
  have hlength : t.streamNames.length = t.told.length := by
    unfold told
    rw [List.length_map, length_listing]
  show (StreamGroup.summaries ((t.listing.drop ((max page 1 - 1) * pageSize perPage)).take
    (pageSize perPage))).map (fun instances =>
      InstancePage.mk instances t.streamNames.length (max page 1) (pageSize perPage)) = _
  rw [StreamGroup.summaries_eq, hlength, hcut]
  unfold InstancePage.read
  split <;> rfl

namespace Store

/-- A database that was filled with a log answers with the pages of one listing of its streams. -/
theorem Filled.pages {s : Store} {log : List Event} (h : s.Filled log) (hopen : s.Reaches) :
    ∃ c db all, s = database c db ∧ ListsStreams all (log.map Event.inRow) ∧
      ∀ perPage page, (c.instances db page perPage).value =
        (InstancePage.cut all (pageSize perPage) page).read := by
  cases s with
  | memory m => exact hopen.elim
  | database c db =>
      obtain ⟨t, ht⟩ := hopen
      refine ⟨c, db, t.told, rfl, (h t (Connection.tables_some ht)).toLists.told, ?_⟩
      intro perPage page
      show (c.ask db (·.instances page perPage)).value = _
      rw [Connection.ask_of_reached ht, t.instances_eq]

/-- Whatever was appended to a database, there is one listing of its streams, each told of once and in
order, and its pages of every size list it between them.  They are answered if the times on them can be
read, and if all times can be read, so are they.  The number of pages is right below 2^32, and only
then do the pages that it counts list all streams. -/
theorem lists_every_stream (buffer : Nat) {ops : List StoreOp} (hops : ∀ op ∈ ops, op ≠ .close) :
    ∃ c db all, (database (.new buffer) .new).afterCalls ops = database c db ∧
      ListsStreams all (((database (.new buffer) .new).accepted ops).map Event.inRow) ∧
      ∀ perPage,
        InstancePage.Covers (.cut all (pageSize perPage)) (pageSize perPage) all ∧
        (∀ page, (c.instances db page perPage).value =
          (InstancePage.cut all (pageSize perPage) page).read) ∧
        ((∀ e ∈ (database (.new buffer) .new).accepted ops, e.timestamp.inRow.inRange = true) →
          ∀ page, (c.instances db page perPage).value =
            .ok (.cut all (pageSize perPage) page)) := by
  have hnew : (database (.new buffer) .new).Reaches := ⟨.empty, rfl⟩
  have hfilled := (filled_new buffer).afterCalls ops
  rw [List.nil_append] at hfilled
  obtain ⟨c, db, all, hstore, hlists, hpages⟩ := hfilled.pages (hnew.afterCalls hops)
  refine ⟨c, db, all, hstore, hlists, fun perPage => ⟨?_, hpages perPage, fun htimes page => ?_⟩⟩
  · exact InstancePage.covers_cut all (pageSize_pos perPage)
  · have hreadable := hlists.readable fun e he => by
      obtain ⟨x, hx, rfl⟩ := List.mem_map.mp he
      exact htimes x hx
    rw [hpages]
    exact InstancePage.read_cut hreadable _ _

/-- Orders and stock of one moment. -/
def orderedStock : List StoreOp :=
  [.append "orders" (-1) [Event.order 1], .append "stock" (-1) [Event.order 2, Event.order 3]]

theorem lists_orders_and_stock :
    (∀ op ∈ orderedStock, op ≠ .close) ∧
      ∃ c db all, (database (.new 1) .new).afterCalls orderedStock = database c db ∧
        ListsStreams all (((database (.new 1) .new).accepted orderedStock).map Event.inRow) ∧
        ∀ page, (c.instances db page 1).value = .ok (.cut all 1 page) := by
  have hopen : ∀ op ∈ orderedStock, op ≠ .close := by
    unfold orderedStock
    simp
  obtain ⟨c, db, all, hstore, hlists, hpages⟩ := lists_every_stream 1 hopen
  exact ⟨hopen, c, db, all, hstore, hlists, (hpages 1).2.2 (by decide)⟩

end Store

/-! #### Too many pages -/

namespace InstancePage

/-- As many streams as make the number of pages start again from zero. -/
def crowd : List InstanceSummary :=
  (List.range pageCountBound).map fun i => ⟨toString i, 0, "Opened", 1, ⟨0, 0⟩, ⟨0, 0⟩⟩

theorem length_crowd : crowd.length = pageCountBound := by
  unfold crowd
  rw [List.length_map, List.length_range]

/-- On pages of one stream no page is counted, so none is listed, and none is said to follow the first. -/
theorem crowd_unlisted :
    (cut crowd 1 1).total = pageCountBound ∧ (cut crowd 1 1).totalPages = 0 ∧
      listed (cut crowd 1) (cut crowd 1 1).totalPages ≠ crowd ∧
      (cut crowd 1 1).hasNext = false ∧ (cut crowd 1 2).instances ≠ [] := by
  have hcovers := covers_cut crowd Nat.one_pos
  have hcount : pageCount crowd.length 1 = pageCountBound := by
    rw [length_crowd]
    decide
  have hnone : (cut crowd 1 1).totalPages = 0 := by
    rw [hcovers.totalPages, hcount, Nat.mod_self]
  refine ⟨(hcovers.total 1).trans length_crowd, hnone, ?_, ?_, ?_⟩
  · rw [ne_eq, hcovers.counted, hcount]
    exact Nat.lt_irrefl _
  · unfold hasNext
    rw [hnone]
    exact decide_eq_false (Nat.not_lt_zero _)
  · rw [hcovers.past 2 (by decide), hcount]
    decide

end InstancePage

end EventNet
