import EventNet.Proofs.Json.Record
import EventNet.Store.Table

/-!
What events and saved states lose when they are stored in rows.

A row keeps an identity as its written form, a time as a number of microseconds, and payloads and
metadata as JSON text.  An identity of 128 bits loses nothing.  A time loses what lies below a
microsecond, and a leap second would be read back as the first second after it; the times concerned
here are `Plain`.  Of JSON text it is assumed, for each document by itself, that it reads back as the
document (`Json.ReadsBack`).  An event of this kind whose time is in microseconds comes back from its
row as it was.
-/

namespace EventNet

/-! ### Identities -/

namespace EventId

/-- The number written by hexadecimal digits. -/
private def valueOf (digits : List Nat) : Nat :=
  digits.foldl (fun n d => n * 16 + d) 0

private theorem hexDigit?_digitChar {d : Nat} (h : d < 16) :
    Json.hexDigit? d.digitChar = some d := by
  have hall : ∀ d : Fin 16, Json.hexDigit? d.val.digitChar = some d.val := by decide
  exact hall ⟨d, h⟩

private theorem mapM_hexDigit?_append {xs ys : List Char} {ds es : List Nat}
    (hx : xs.mapM Json.hexDigit? = some ds) (hy : ys.mapM Json.hexDigit? = some es) :
    (xs ++ ys).mapM Json.hexDigit? = some (ds ++ es) := by
  rw [List.mapM_append, hx, hy]
  rfl

private theorem read_toDigits (n : Nat) :
    ∃ ds, (Nat.toDigits 16 n).mapM Json.hexDigit? = some ds ∧ valueOf ds = n := by
  induction n using Nat.strongRecOn with
  | _ n ih =>
      rw [Nat.toDigits_eq_if (by decide)]
      by_cases hn : n < 16
      · rw [if_pos hn]
        exact ⟨[n], by simp [hexDigit?_digitChar hn], by simp [valueOf]⟩
      · rw [if_neg hn]
        obtain ⟨ds, hds, hval⟩ := ih (n / 16) (by omega)
        refine ⟨ds ++ [n % 16], mapM_hexDigit?_append hds ?_, ?_⟩
        · simp [hexDigit?_digitChar (Nat.mod_lt n (by decide : 16 > 0))]
        · unfold valueOf at hval ⊢
          rw [List.foldl_append, hval]
          simp only [List.foldl_cons, List.foldl_nil]
          omega

private theorem read_zeros (n : Nat) :
    (List.replicate n '0').mapM Json.hexDigit? = some (List.replicate n 0) := by
  induction n with
  | zero => rfl
  | succ n ih => rw [List.replicate_succ, List.mapM_cons, ih]; rfl

private theorem valueOf_zeros (n : Nat) (ds : List Nat) :
    valueOf (List.replicate n 0 ++ ds) = valueOf ds := by
  unfold valueOf
  rw [List.foldl_append]
  induction n with
  | zero => rfl
  | succ n ih => rw [List.replicate_succ, List.foldl_cons]; exact ih

theorem length_digits (id : EventId) : id.digits.length = 32 := by
  have hlen : (Nat.toDigits 16 (id.bits % 2 ^ 128)).length ≤ 32 := by
    refine (Nat.length_toDigits_le_iff (by decide) (by decide)).mpr ?_
    rw [show 16 ^ 32 = 2 ^ 128 by rfl]
    exact Nat.mod_lt _ (Nat.two_pow_pos 128)
  have hdigits : id.digits =
      List.replicate (32 - (Nat.toDigits 16 (id.bits % 2 ^ 128)).length) '0' ++
        Nat.toDigits 16 (id.bits % 2 ^ 128) := rfl
  rw [hdigits, List.length_append, List.length_replicate]
  exact Nat.sub_add_cancel hlen

theorem ofDigits?_digits {id : EventId} (h : id.bits < 2 ^ 128) :
    ofDigits? id.digits = some id := by
  obtain ⟨ds, hds, hval⟩ := read_toDigits (id.bits % 2 ^ 128)
  unfold ofDigits?
  rw [length_digits]
  show ((List.replicate _ '0' ++ Nat.toDigits 16 (id.bits % 2 ^ 128)).mapM Json.hexDigit?).map
    (fun ds => (⟨valueOf ds⟩ : EventId)) = some id
  rw [mapM_hexDigit?_append (read_zeros _) hds, Option.map_some, valueOf_zeros, hval,
    Nat.mod_eq_of_lt h]

private theorem ofGroups?_join {p q r t u : List Char} (hp : p.length = 8) (hq : q.length = 4)
    (hr : r.length = 4) (ht : t.length = 4) (hu : u.length = 12) :
    ofGroups? (p ++ '-' :: q ++ '-' :: r ++ '-' :: t ++ '-' :: u) =
      ofDigits? (p ++ q ++ r ++ t ++ u) := by
  unfold ofGroups?
  simp [List.getElem?_append, List.drop_append, List.drop_eq_nil_of_le, hp, hq, hr, ht, hu]

/-- Five groups of the digits of an identity are its digits. -/
private theorem ofGroups?_groups {d : List Char} (h : d.length = 32) :
    ofGroups? (d.take 8 ++ '-' :: (d.drop 8).take 4 ++ '-' :: (d.drop 12).take 4 ++
      '-' :: (d.drop 16).take 4 ++ '-' :: d.drop 20) = ofDigits? d := by
  have hnext : ∀ k : Nat, (d.drop k).take 4 ++ d.drop (k + 4) = d.drop k := fun k => by
    rw [← List.drop_drop, List.take_append_drop]
  have hsplit : d = d.take 8 ++ (d.drop 8).take 4 ++ (d.drop 12).take 4 ++ (d.drop 16).take 4 ++
      d.drop 20 := by
    rw [List.append_assoc, hnext 16, List.append_assoc, hnext 12, List.append_assoc, hnext 8,
      List.take_append_drop]
  rw [ofGroups?_join (by simp [h]) (by simp [h]) (by simp [h]) (by simp [h]) (by simp [h]), ← hsplit]

private theorem parse?_of_length {text : String} (h : text.toList.length = 36) :
    parse? text = ofGroups? text.toList := by
  unfold parse?
  simp only [h]

theorem parse?_text {id : EventId} (h : id.bits < 2 ^ 128) : parse? id.text = some id := by
  have hlen := length_digits id
  have hgroups : id.text.toList.length = 36 := by
    unfold text
    rw [String.toList_ofList]
    simp [hlen]
  rw [parse?_of_length hgroups, text, String.toList_ofList, ofGroups?_groups hlen,
    ofDigits?_digits h]

theorem text_injective {a b : EventId} (ha : a.bits < 2 ^ 128) (hb : b.bits < 2 ^ 128)
    (h : a.text = b.text) : a = b := by
  have := parse?_text ha
  rw [h, parse?_text hb] at this
  exact (Option.some.inj this).symm

end EventId

/-! ### Times -/

namespace Instant

/-- A time that is no leap second and lies in the years that are read back. -/
structure Plain (a : Instant) : Prop where
  nanos : a.nanos < 1000000000
  inRange : a.inRange = true

theorem Plain.toMicrosecond {a : Instant} (h : a.Plain) : a.toMicrosecond.Plain :=
  ⟨Nat.lt_of_le_of_lt (Nat.sub_le _ _) h.nanos, h.inRange⟩

theorem toMicrosecond_toMicrosecond (a : Instant) :
    a.toMicrosecond.toMicrosecond = a.toMicrosecond := by
  show (⟨a.seconds, _⟩ : Instant) = ⟨a.seconds, _⟩
  congr 1
  show a.nanos - a.nanos % 1000 - (a.nanos - a.nanos % 1000) % 1000 = a.nanos - a.nanos % 1000
  omega

/-- The time that a row has for an instant. -/
def inRow (a : Instant) : Instant :=
  ⟨a.micros / 1000000, (a.micros % 1000000).toNat * 1000⟩

theorem inRow_of_nanos {a : Instant} (h : a.nanos < 1000000000) : a.inRow = a.toMicrosecond := by
  have hseconds : a.micros / 1000000 = a.seconds := by
    unfold micros
    omega
  have hnanos : (a.micros % 1000000).toNat * 1000 = a.nanos - a.nanos % 1000 := by
    unfold micros
    omega
  unfold inRow
  rw [hseconds, hnanos]
  rfl

theorem ofMicros?_micros {a : Instant} (h : a.Plain) : ofMicros? a.micros = some a.toMicrosecond := by
  show (if a.inRow.inRange then some a.inRow else none) = _
  rw [inRow_of_nanos h.nanos]
  exact if_pos h.inRange

end Instant

/-! ### Documents -/

/-- The text of a document reads back as the document. -/
def Json.ReadsBack (j : Json) : Prop :=
  Json.ofText? j.text = some j

/-- A payload: its fields are sorted, as those of every payload are, and its text reads back. -/
structure Json.Kept (j : Json) : Prop where
  canonical : j.canonical = j
  readsBack : j.ReadsBack

/-- Metadata whose text reads back. -/
structure Metadata.Kept (m : Metadata) : Prop where
  canonical : m.context.canonical = m.context
  readsBack : m.toJson.ReadsBack

theorem Metadata.ofJson?_toJson {m : Metadata} (h : m.context.canonical = m.context) :
    ofJson? m.toJson = some m := by
  have hcontext : ∀ r : Json.Record,
      (r.find? "context" = none ∧ m.context = .null ∨ r.find? "context" = some m.context) →
      r.withDefault "context" .null (fun j => some j.canonical) = some m.context := by
    intro r hr
    unfold Json.Record.withDefault
    rcases hr with ⟨hr, hnull⟩ | hr
    · rw [hr, hnull]
    · rw [hr]
      exact congrArg some h
  unfold ofJson? toJson
  rw [Json.record?_object _ (by simp)]
  simp only [Option.bind_eq_bind, Option.bind_some]
  rw [Json.Record.nullable_text rfl, Json.Record.nullable_text rfl, Json.Record.nullable_text rfl,
    hcontext]
  · rfl
  · cases m.context with
    | null => exact Or.inl ⟨rfl, rfl⟩
    | _ => exact Or.inr rfl

/-- The context of metadata lies one level deeper than the metadata. -/
private theorem fits_context {m : Metadata} (h : m.toJson.fits Json.maxNesting = true) :
    m.context.fits EventRow.contextNesting = true := by
  cases hc : m.context with
  | null => rfl
  | _ =>
      rw [← hc]
      exact Json.fits_field h (show ("context", some m.context) ∈ _ by simp [hc])

theorem EventRow.metadataOfText?_text {m : Metadata} (h : m.Kept) :
    metadataOfText? m.toJson.text = some m := by
  obtain ⟨hread, hfits⟩ := Option.filter_eq_some_iff.mp h.readsBack
  unfold metadataOfText?
  rw [hread]
  simp only [Option.bind_eq_bind, Option.bind_some, Metadata.ofJson?_toJson h.canonical,
    fits_context hfits, if_true]

/-! ### Rows -/

/-- An event that loses nothing but the part of its time below a microsecond. -/
structure Event.Storable (e : Event) : Prop where
  id : e.id.bits < 2 ^ 128
  time : e.timestamp.Plain
  data : e.data.Kept
  metadata : ∀ m, e.metadata = some m → m.Kept

/-- An event as stores keep it. -/
structure Event.Stored (e : Event) : Prop extends e.Storable where
  whole : e.timestamp.toMicrosecond = e.timestamp

theorem EventRow.toEvent_ofEvent {e : Event} (h : e.Stored) : (ofEvent e).toEvent = .ok e := by
  have hmetadata : readMetadata (e.metadata.map fun m => m.toJson.text) = .ok e.metadata := by
    cases hm : e.metadata with
    | none => rfl
    | some m =>
        unfold readMetadata
        simp only [Option.map_some, metadataOfText?_text (h.metadata m hm)]
  have htime : instantOfMicros e.timestamp.micros = .ok e.timestamp := by
    unfold instantOfMicros
    rw [Instant.ofMicros?_micros h.time, h.whole]
  have hdata : Json.ofText? e.data.text = some e.data := h.data.readsBack
  unfold toEvent ofEvent
  simp only [EventId.parse?_text h.id, hmetadata, htime, hdata, h.data.canonical]

theorem EventRow.toEvents_map {events : List Event} (h : ∀ e ∈ events, e.Stored) :
    toEvents (events.map ofEvent) = .ok events := by
  induction events with
  | nil => rfl
  | cons e rest ih =>
      rw [List.map_cons, toEvents, toEvent_ofEvent (h e List.mem_cons_self)]
      simp only [ih fun x hx => h x (List.mem_cons_of_mem _ hx)]
      rfl

/-- A saved state as stores keep it. -/
structure StateSnapshot.Stored (s : StateSnapshot) : Prop where
  time : s.createdAt.Plain
  whole : s.createdAt.toMicrosecond = s.createdAt
  state : s.state.Kept

theorem StateSnapshot.stored_new {time : Instant} (ht : time.Plain) {state : Json}
    (hs : state.Kept) (stream : String) (version : Int) :
    (StateSnapshot.new time stream version state).Stored :=
  ⟨ht.toMicrosecond, Instant.toMicrosecond_toMicrosecond time, hs⟩

theorem SnapshotRow.toSnapshot_ofSnapshot {s : StateSnapshot} (h : s.Stored) :
    (ofSnapshot s).toSnapshot s.stream = .ok s := by
  have hstate : Json.ofText? s.state.text = some s.state := h.state.readsBack
  have htime : instantOfMicros s.createdAt.micros = .ok s.createdAt := by
    unfold instantOfMicros
    rw [Instant.ofMicros?_micros h.time, h.whole]
  unfold toSnapshot ofSnapshot
  simp only [hstate, htime, h.state.canonical]
  rfl

end EventNet
