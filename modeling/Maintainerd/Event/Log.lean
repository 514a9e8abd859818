import Mathlib.Data.List.Sort
import Maintainerd.Lib.Pages
import Maintainerd.Lib.Run
import Maintainerd.Platform.Paging
import Maintainerd.Supervisor.KeepAlive

/-!
# The log an operator reads

`internal/event`: what the supervisor has seen is kept in a table and read through a listing, the
newest event first.  The supervisor goes on while an operator reads, and it does not wait for the
log: an event that cannot be written is lost, and the supervisor only mentions it.

Three things lie between an event and its reader.  `Emit` trims and cuts what it is given, and the
cut is one of bytes, which can spoil a text; the events of the supervisor are not touched by it
(`emit_reported`).  The listing is by the clock of the database and read in pages by their number,
and every event that comes in moves others to later pages.  And a page far behind has a number that
does not fit.  `event_feed_complete` is what is left of it for the operator: reading on to the end
shows every event that was there at the start, and on a quiet log each of them once and in order.

Nothing deletes an event, so that a log only gets entries; the rest is `Lib.Pages`.
-/

set_option autoImplicit false

namespace Maintainerd

open Machine Postgres

/-! ## The table -/

/-- A row of `platform_events`.  The tenant is never set.  `details` is JSON; it is made of what the
database holds, so that it always takes it. -/
structure PlatformEvent where
  eventID : Int
  eventUuid : Uuid
  kind : String
  severity : String
  subjectType : String
  subjectUuid : Option Uuid
  message : String
  details : String
  createdAt : Int
deriving DecidableEq, Repr

instance : Keyed PlatformEvent := ⟨PlatformEvent.eventID, PlatformEvent.eventUuid⟩

/-- `CreatePlatformEventParams`.  A text that was cut inside a character is none. -/
structure CreatePlatformEventParams where
  kind : Option String
  severity : Option String
  subjectType : Option String
  subjectUuid : Option Uuid
  message : String
  details : String
deriving DecidableEq, Repr

/-- `CreatePlatformEvent` -/
def createPlatformEvent (log : Table PlatformEvent) (now : Int) (uuid : Uuid)
    (p : CreatePlatformEventParams) : Except QueryError (Table PlatformEvent × PlatformEvent) :=
  match p.kind, p.severity, p.subjectType with
  | some kind, some severity, some subjectType =>
    if varchar 50 kind && varchar 20 severity && varchar 50 subjectType && text p.message then
      match log.insert? (fun id ↦ ⟨id, uuid, clip 50 kind, clip 20 severity, clip 50 subjectType,
        p.subjectUuid, p.message, p.details, now⟩) fun _ ↦ rfl with
      | some out => .ok out
      | none => .error .dataException
    else .error .dataException
  | _, _, _ => .error .dataException

/-- `ORDER BY created_at DESC, event_id DESC` -/
def PlatformEvent.Before (r r' : PlatformEvent) : Prop :=
  r'.createdAt < r.createdAt ∨ r'.createdAt = r.createdAt ∧ r'.eventID ≤ r.eventID

instance : DecidableRel PlatformEvent.Before := fun r r' ↦
  inferInstanceAs (Decidable (r'.createdAt < r.createdAt ∨ _))

/-- The events in the order they are listed in. -/
def listed (log : Table PlatformEvent) : List PlatformEvent :=
  log.rows.insertionSort PlatformEvent.Before

/-- `ListPlatformEvents` -/
def listPlatformEvents (log : Table PlatformEvent) (w : Paging.Window) :
    Except QueryError (List PlatformEvent) :=
  w.select (listed log)

/-! ## The service -/

namespace EventService

/-- `Event` -/
structure Event where
  uuid : Uuid
  kind : String
  severity : String
  subjectType : String
  subjectUuid : Option Uuid
  message : String
  details : String
  createdAt : Int
deriving DecidableEq, Repr

/-- `Input`.  `details` is what `marshalDetails` makes of the details, if it can. -/
structure Input where
  kind : String
  severity : String
  subjectType : String
  subjectUuid : Option Uuid
  message : String
  details : Option String
deriving DecidableEq, Repr

/-- `from` -/
def fromRow (row : PlatformEvent) : Event :=
  ⟨row.eventUuid, row.kind, row.severity, row.subjectType, row.subjectUuid, row.message,
    row.details, row.createdAt⟩

/-- `truncate`, which counts bytes. -/
def truncate (s : String) (max : ℕ) : Option String :=
  if max < s.utf8ByteSize then Text.sliceTo s max else some s

/-- `Emit` -/
def emit (log : Table PlatformEvent) (now : Int) (uuid : Uuid) (input : Input) :
    Table PlatformEvent × Except AppError Event :=
  let kind := Text.trimSpace input.kind
  let message := Text.trimSpace input.message
  if kind = "" ∨ message = "" then (log, .error (.validation "kind and message are required"))
  else
    let severity := Text.trimSpace input.severity
    let severity := if severity = "" then "warning" else severity
    match input.details with
    | none => (log, .error (.validation "invalid details"))
    | some details =>
      match createPlatformEvent log now uuid ⟨truncate kind 50, truncate severity 20,
        truncate (Text.trimSpace input.subjectType) 50, input.subjectUuid, message, details⟩ with
      | .error e => (log, .error (.query e))
      | .ok (log', row) => (log', .ok (fromRow row))

/-- `List`: the events of a page, and the number of all events. -/
def list (log : Table PlatformEvent) (page limit : Int64) : Except AppError (List Event × ℕ) :=
  match listPlatformEvents log (Paging.window page limit) with
  | .error e => .error (.query e)
  | .ok rows => .ok (rows.map fromRow, log.rows.length)

end EventService

/-! ## Writer and reader -/

/-- An event on its way into the log: what the supervisor emits, with its message and its details in
JSON, what the database adds, and whether the statement reaches it. -/
structure Emission where
  report : EventInput
  message : String
  details : String
  now : Int
  uuid : Uuid
  reaches : Bool
deriving DecidableEq, Repr

/-- What is emitted. -/
def Emission.input (e : Emission) : EventService.Input :=
  ⟨e.report.kind, e.report.severity, e.report.subjectType, some e.report.subjectUuid, e.message,
    some e.details⟩

/-- `emit` of the supervisor. -/
def record (log : Table PlatformEvent) (e : Emission) : Table PlatformEvent :=
  if e.reaches then (EventService.emit log e.now e.uuid e.input).1 else log

/-- An operator reads page after page; some events are emitted before each of them. -/
def browse (limit : Int64) : ℕ → Table PlatformEvent → List (List Emission) →
    List (Except AppError (List EventService.Event × ℕ))
  | _, _, [] => []
  | k, log, round :: rounds =>
    EventService.list (run record log round) (Int64.ofNat (k + 1)) limit ::
      browse limit (k + 1) (run record log round) rounds

/-- The events on a page. -/
def pageEvents : Except AppError (List EventService.Event × ℕ) → List EventService.Event
  | .ok page => page.1
  | .error _ => []

/-- What is to be read of an event. -/
def Emission.event (e : Emission) : EventService.Event :=
  ⟨e.uuid, e.report.kind, e.report.severity, e.report.subjectType, some e.report.subjectUuid,
    Text.trimSpace e.message, e.details, e.now⟩

/-- The event is one of the supervisor's, with a message.  That is made of names the database holds,
so that there is no U+0000 in it. -/
def Emission.Reported (e : Emission) : Prop :=
  (∃ effect : Effect, effect.event = some e.report) ∧ Text.trimSpace e.message ≠ "" ∧
    text (Text.trimSpace e.message) = true

/-! ## What the log makes of an event -/

section

variable {log : Table PlatformEvent} {e : Emission}

/-- The column takes the text as it is. -/
def Verbatim (n : ℕ) (s : String) : Prop :=
  Text.trimSpace s = s ∧ s ≠ "" ∧ EventService.truncate s n = some s ∧ s.length ≤ n ∧
    text s = true

instance (n : ℕ) (s : String) : Decidable (Verbatim n s) := inferInstanceAs (Decidable (_ ∧ _))

/-- The supervisor's words are taken as they are. -/
theorem verbatim_of_event {effect : Effect} {report : EventInput} (h : effect.event = some report) :
    Verbatim 50 report.kind ∧ Verbatim 20 report.severity ∧ Verbatim 50 report.subjectType := by
  rcases effect with agent | resource | ⟨key, service⟩ | ⟨key, resource⟩ | ⟨key, resource⟩ |
    ⟨key, resource⟩ <;> cases h <;> dsimp only <;> decide

/-- **An event of the supervisor goes into the log as it is.** -/
theorem emit_reported (h : e.Reported) (hnew : log.get? e.uuid = none) :
    ∃ log' row, EventService.emit log e.now e.uuid e.input =
        (log', .ok (EventService.fromRow row)) ∧
      log'.rows = row :: log.rows ∧ EventService.fromRow row = e.event ∧
      row.eventID = log.nextID := by
  obtain ⟨⟨effect, heffect⟩, hmessage, htext⟩ := h
  obtain ⟨⟨hkind, hkind', hkindcut, hkindle, hkindtext⟩, ⟨hsev, hsev', hsevcut, hsevle, hsevtext⟩,
    ⟨hsubj, -, hsubjcut, hsubjle, hsubjtext⟩⟩ := verbatim_of_event heffect
  rcases hinsert : log.insert? (fun id ↦ PlatformEvent.mk id e.uuid e.report.kind e.report.severity
      e.report.subjectType (some e.report.subjectUuid) (Text.trimSpace e.message) e.details e.now)
      (fun _ ↦ rfl) with _ | ⟨log', row⟩
  · exact absurd hinsert (Table.insert?_ne_none hnew)
  · have hrow := Table.row_of_insert? hinsert
    refine ⟨log', row, ?_, Table.rows_insert? hinsert, by rw [hrow]; rfl, by rw [hrow]⟩
    simp [EventService.emit, Emission.input, createPlatformEvent, hkind, hkind', hkindcut, hsev,
      hsev', hsevcut, hsubj, hsubjcut, hmessage, varchar_of_length_le hkindle, hkindtext,
      varchar_of_length_le hsevle, hsevtext, varchar_of_length_le hsubjle, hsubjtext, htext,
      clip_of_length_le hkindle, clip_of_length_le hsevle, clip_of_length_le hsubjle, hinsert]

theorem record_reported (h : e.Reported) (hnew : log.get? e.uuid = none)
    (hreaches : e.reaches = true) :
    ∃ row, (record log e).rows = row :: log.rows ∧ EventService.fromRow row = e.event ∧
      row.eventID = log.nextID := by
  obtain ⟨log', row, hemit, hrows, hevent, hid⟩ := emit_reported h hnew
  rw [record, if_pos hreaches, hemit]
  exact ⟨row, hrows, hevent, hid⟩

theorem rows_createPlatformEvent {now : Int} {uuid : Uuid} {p : CreatePlatformEventParams}
    {log' : Table PlatformEvent} {row : PlatformEvent}
    (h : createPlatformEvent log now uuid p = .ok (log', row)) :
    log'.rows = row :: log.rows ∧ row.createdAt = now ∧ row.eventID = log.nextID := by
  rw [createPlatformEvent] at h
  split at h
  · split at h
    · split at h
      · rename_i hinsert
        obtain rfl := Except.ok.inj h
        have hrow := Table.row_of_insert? hinsert
        exact ⟨Table.rows_insert? hinsert, by rw [hrow], by rw [hrow]⟩
      · simp at h
    · simp at h
  · simp at h

/-- Whatever is emitted, the log is as it was or has one more row. -/
theorem rows_record (log : Table PlatformEvent) (e : Emission) :
    record log e = log ∨ ∃ row, (record log e).rows = row :: log.rows ∧
      row.createdAt = e.now ∧ row.eventID = log.nextID := by
  rw [record, EventService.emit]
  dsimp only
  split
  · split
    · exact .inl rfl
    split
    · exact .inl rfl
    split
    · exact .inl rfl
    · rename_i hcreate
      exact .inr ⟨_, rows_createPlatformEvent hcreate⟩
  · exact .inl rfl

/-! ## The order of the listing -/

theorem length_listed (log : Table PlatformEvent) : (listed log).length = log.rows.length :=
  List.length_insertionSort ..

/-- **The listing only gets entries**, wherever the clock of the database puts them. -/
theorem listed_record (log : Table PlatformEvent) (e : Emission) :
    (listed log).Sublist (listed (record log e)) := by
  rcases rows_record log e with heq | ⟨row, hrows, -⟩
  · rw [heq]
  · rw [listed, listed, hrows, List.insertionSort_cons]
    exact List.sublist_orderedInsert ..

theorem listed_run (log : Table PlatformEvent) (round : List Emission) :
    (listed log).Sublist (listed (run record log round)) := by
  induction round generalizing log with
  | nil => exact .refl _
  | cons e round ih => exact (listed_record log e).trans (ih (record log e))

/-- What the rows of a log say, the last row first. -/
def told (log : Table PlatformEvent) : List EventService.Event :=
  log.rows.map EventService.fromRow

theorem uuid_told (log : Table PlatformEvent) :
    (told log).map EventService.Event.uuid = log.rows.map Keyed.uuid := by
  rw [told, List.map_map]
  rfl

theorem get?_eq_none_of_told {u : Uuid}
    (h : u ∉ (told log).map EventService.Event.uuid) : log.get? u = none := by
  rw [uuid_told] at h
  refine List.find?_eq_none.mpr fun r hr hu ↦ h ?_
  exact List.mem_map.mpr ⟨r, hr, eq_of_beq hu⟩

/-- **The log holds what reached it.** -/
theorem told_run (ems : List Emission) (hreported : ∀ e ∈ ems, e.Reported)
    (huuids : (ems.map Emission.uuid ++ (told log).map EventService.Event.uuid).Nodup) :
    told (run record log ems) =
      ((ems.filter Emission.reaches).map Emission.event).reverse ++ told log := by
  induction ems generalizing log with
  | nil => rfl
  | cons e ems ih =>
    rw [List.forall_mem_cons] at hreported
    rw [List.map_cons, List.cons_append, List.nodup_cons] at huuids
    rw [run_cons]
    rcases hreaches : e.reaches with _ | _
    · have hsame : record log e = log := by rw [record, hreaches]; rfl
      rw [hsame, ih hreported.2 huuids.2, List.filter_cons, hreaches]
      rfl
    · have hnew : log.get? e.uuid = none :=
        get?_eq_none_of_told fun hmem ↦ huuids.1 (List.mem_append_right _ hmem)
      obtain ⟨row, hrows, hevent, -⟩ := record_reported hreported.1 hnew hreaches
      have htold : told (record log e) = e.event :: told log := by
        rw [told, hrows, List.map_cons, hevent]
        rfl
      rw [ih hreported.2, htold, List.filter_cons, hreaches]
      · simp
      · rw [htold, List.map_cons]
        exact List.nodup_middle.mpr (List.nodup_cons.mpr huuids)

/-- Under a clock that does not go back, a row that comes in is listed first. -/
theorem pairwise_run (ems : List Emission) (hrows : log.rows.Pairwise PlatformEvent.Before)
    (hlate : ∀ r ∈ log.rows, ∀ e ∈ ems, r.createdAt ≤ e.now)
    (htimes : (ems.map Emission.now).Pairwise (· ≤ ·)) :
    (run record log ems).rows.Pairwise PlatformEvent.Before := by
  induction ems generalizing log with
  | nil => exact hrows
  | cons e ems ih =>
    rw [List.map_cons, List.pairwise_cons] at htimes
    rw [run_cons]
    rcases rows_record log e with heq | ⟨row, hcons, hnow, hid⟩
    · rw [heq]
      exact ih hrows (fun r hr e' he' ↦ hlate r hr e' (List.mem_cons_of_mem _ he')) htimes.2
    · refine ih ?_ (fun r hr e' he' ↦ ?_) htimes.2
      · rw [hcons, List.pairwise_cons]
        refine ⟨fun r hr ↦ ?_, hrows⟩
        have hle := hlate r hr e List.mem_cons_self
        have hlt : r.eventID < log.nextID := log.id_lt r hr
        rw [PlatformEvent.Before]
        omega
      · rw [hcons, List.mem_cons] at hr
        rcases hr with rfl | hr
        · rw [hnow]
          exact htimes.1 e'.now (List.mem_map_of_mem he')
        · exact hlate r hr e' (List.mem_cons_of_mem _ he')

theorem listed_eq_rows (h : log.rows.Pairwise PlatformEvent.Before) : listed log = log.rows :=
  List.Pairwise.insertionSort_eq h

/-! ## The pages -/

/-- The logs the pages are read from. -/
def logs (log : Table PlatformEvent) : List (List Emission) → List (Table PlatformEvent)
  | [] => []
  | round :: rounds => run record log round :: logs (run record log round) rounds

/-- The size of a page. -/
def pageSize (limit : Int64) : ℕ := (Paging.bounded limit).toNat

theorem coe_pageSize (limit : Int64) : (pageSize limit : Int) = Paging.bounded limit := by
  have := Paging.one_le_bounded limit
  rw [pageSize]
  omega

theorem pageSize_pos (limit : Int64) : 0 < pageSize limit := by
  have := Paging.one_le_bounded limit
  rw [pageSize]
  omega

/-- Of the pages that are left, the first one has a number that fits if the last one has. -/
theorem fits_head {limit : Int64} {k n : ℕ} (h : (k + (n + 1)) * pageSize limit ≤ 2 ^ 31) :
    k * pageSize limit < 2 ^ 31 :=
  Nat.lt_of_lt_of_le (Nat.mul_lt_mul_of_pos_right (by omega) (pageSize_pos limit)) h

/-- The window of a page whose number fits. -/
theorem select_window {ρ : Type} (rows : List ρ) (limit : Int64) {k : ℕ}
    (hfits : k * pageSize limit < 2 ^ 31) :
    (Paging.window (Int64.ofNat (k + 1)) limit).select rows =
      .ok (Pages.page (pageSize limit) k rows) := by
  have hsize := coe_pageSize limit
  have hone := Paging.one_le_bounded limit
  have hk : k < 2 ^ 31 := by
    refine Nat.lt_of_le_of_lt (Nat.le_mul_of_pos_right k ?_) hfits
    omega
  have hpage : Paging.requested (Int64.ofNat (k + 1)) = k + 1 := by
    rw [Paging.requested, Int64.toInt_ofNat_of_lt (by omega)]
    omega
  have hoffset : (Paging.window (Int64.ofNat (k + 1)) limit).offset.toInt =
      (k * pageSize limit : ℕ) := by
    rw [Paging.toInt_offset_of_fits, hpage, Nat.cast_mul, hsize]
    · congr 1
      omega
    · rw [Paging.Fits, hpage, ← hsize]
      have : (k : Int) + 1 - 1 = k := by omega
      rw [this]
      exact_mod_cast hfits
  have hlimit : (Paging.window (Int64.ofNat (k + 1)) limit).limit.toInt = pageSize limit := by
    rw [Paging.toInt_limit, hsize]
  have hzero : (0 : Int32).toInt = 0 := by decide
  rw [Paging.Window.select, if_neg, hoffset, hlimit]
  · rfl
  · simp only [Bool.or_eq_true, decide_eq_true_eq, Int32.lt_iff_toInt_lt, hzero, hoffset, hlimit]
    omega

theorem list_eq (log : Table PlatformEvent) (limit : Int64) {k : ℕ}
    (hfits : k * pageSize limit < 2 ^ 31) :
    EventService.list log (Int64.ofNat (k + 1)) limit =
      .ok ((Pages.page (pageSize limit) k (listed log)).map EventService.fromRow,
        log.rows.length) := by
  have hselect := select_window (listed log) limit hfits
  unfold EventService.list listPlatformEvents
  rw [hselect]

theorem length_logs (rounds : List (List Emission)) : (logs log rounds).length = rounds.length := by
  induction rounds generalizing log with
  | nil => rfl
  | cons round rounds ih => rw [logs, List.length_cons, ih, List.length_cons]

theorem getLastD_logs (rounds : List (List Emission)) :
    (logs log rounds).getLastD log = run record log rounds.flatten := by
  induction rounds generalizing log with
  | nil => rfl
  | cons round rounds ih =>
    rw [logs, List.getLastD_cons, ih, List.flatten_cons, run_append]

theorem isChain_logs (rounds : List (List Emission)) :
    (listed log :: (logs log rounds).map listed).IsChain List.Sublist := by
  induction rounds generalizing log with
  | nil => exact .singleton _
  | cons round rounds ih => exact .cons_cons (listed_run log round) ih

/-- **What is shown are the pages of the logs.** -/
theorem pageEvents_browse (limit : Int64) (rounds : List (List Emission)) {k : ℕ}
    (hfits : (k + rounds.length) * pageSize limit ≤ 2 ^ 31) :
    (browse limit k log rounds).flatMap pageEvents =
      (Pages.read (pageSize limit) k ((logs log rounds).map listed)).flatten.map
        EventService.fromRow := by
  induction rounds generalizing log k with
  | nil => rfl
  | cons round rounds ih =>
    rw [List.length_cons] at hfits
    have hrest : (k + 1 + rounds.length) * pageSize limit ≤ 2 ^ 31 := by
      rwa [Nat.add_assoc, Nat.add_comm 1]
    rw [browse, List.flatMap_cons, ih hrest, list_eq _ _ (fits_head hfits), logs, List.map_cons,
      Pages.read, List.flatten_cons, List.map_append]
    rfl

/-- The number that the last page gives is that of the events by then. -/
theorem total_of_getLast? (limit : Int64) (rounds : List (List Emission)) {k : ℕ}
    (hfits : (k + rounds.length) * pageSize limit ≤ 2 ^ 31) {items : List EventService.Event}
    {total : ℕ} (hlast : (browse limit k log rounds).getLast? = some (.ok (items, total))) :
    total = (run record log rounds.flatten).rows.length := by
  induction rounds generalizing log k with
  | nil => simp [browse] at hlast
  | cons round rounds ih =>
    rw [List.length_cons] at hfits
    rw [List.flatten_cons, run_append]
    rcases rounds with _ | ⟨round', rounds⟩
    · rw [browse, browse, List.getLast?_singleton, list_eq _ _ (fits_head hfits), Option.some.injEq,
        Except.ok.injEq, Prod.mk.injEq] at hlast
      exact hlast.2.symm
    · rw [browse, browse, List.getLast?_cons_cons, ← browse] at hlast
      exact ih (by rwa [Nat.add_assoc, Nat.add_comm 1]) hlast

/-- While nothing is emitted the log stays as it is. -/
theorem logs_quiet {rounds : List (List Emission)} (h : rounds.flatten = []) :
    logs log rounds = List.replicate rounds.length log := by
  induction rounds with
  | nil => rfl
  | cons round rounds ih =>
    rw [List.flatten_cons, List.append_eq_nil_iff] at h
    rw [logs, h.1, run_nil, ih h.2]
    rfl

end

/-- **An operator who reads on to the end misses nothing.**  Let the supervisor emit any of its
events, of which some do not reach the log, and let an operator read page after page, of any size,
while it goes on emitting; no two events have one uuid, and the pages have numbers that fit.  If the
last page gives a number of events that the pages read can hold, every event that reached the log
before the first page is on one of the pages, as it was emitted, whatever the clock of the database
does.  If that clock does not go back and nothing is emitted meanwhile, the pages show these events
and no others, each once, from the last to the first. -/
theorem event_feed_complete (limit : Int64) (before : List Emission)
    (rounds : List (List Emission)) (items : List EventService.Event) (total : ℕ)
    (hreported : ∀ e ∈ before, e.Reported) (huuids : (before.map Emission.uuid).Nodup)
    (hfits : rounds.length * pageSize limit ≤ 2 ^ 31)
    (hlast : (browse limit 0 (run record .empty before) rounds).getLast? =
      some (.ok (items, total)))
    (hend : total ≤ rounds.length * pageSize limit) :
    (∀ e ∈ before, e.reaches = true →
        e.event ∈ (browse limit 0 (run record .empty before) rounds).flatMap pageEvents) ∧
      ((before.map Emission.now).Pairwise (· ≤ ·) → rounds.flatten = [] →
        (browse limit 0 (run record .empty before) rounds).flatMap pageEvents =
          ((before.filter Emission.reaches).map Emission.event).reverse) := by
  rw [← Nat.zero_add rounds.length] at hfits
  have htotal := total_of_getLast? limit rounds hfits hlast
  have htold : told (run record .empty before) =
      ((before.filter Emission.reaches).map Emission.event).reverse := by
    rw [told_run before hreported (by simpa [told, Table.empty] using huuids)]
    exact List.append_nil _
  have hbehind : (listed (run record (run record .empty before) rounds.flatten)).drop
      (rounds.length * pageSize limit) = [] := by
    rw [List.drop_eq_nil_iff, length_listed, ← htotal]
    exact hend
  rw [pageEvents_browse limit rounds hfits]
  refine ⟨fun e he hreaches ↦ ?_, fun htimes hquiet ↦ ?_⟩
  · have hmem : e.event ∈ told (run record .empty before) := by
      rw [htold, List.mem_reverse]
      exact List.mem_map_of_mem (List.mem_filter.mpr ⟨he, hreaches⟩)
    obtain ⟨row, hrow, hevent⟩ := List.mem_map.mp hmem
    refine List.mem_map.mpr ⟨row, ?_, hevent⟩
    have hlisted : row ∈ (listed (run record .empty before)).drop (0 * pageSize limit) := by
      rw [Nat.zero_mul, List.drop_zero]
      exact (List.mem_insertionSort _).mpr hrow
    refine (Pages.mem_read_or_mem_drop (isChain_logs rounds) hlisted).resolve_right ?_
    rw [List.length_map, length_logs, List.getLastD_map, getLastD_logs, Nat.zero_add, hbehind]
    exact List.not_mem_nil
  · have hsorted : listed (run record .empty before) = (run record .empty before).rows :=
      listed_eq_rows (pairwise_run before .nil (fun r hr ↦ absurd hr List.not_mem_nil) htimes)
    rw [hquiet, run_nil] at hbehind
    rw [logs_quiet hquiet, List.map_replicate, Pages.flatten_read_replicate, Nat.zero_mul,
      List.drop_zero, List.take_of_length_le (List.drop_eq_nil_iff.mp hbehind), hsorted, ← htold]
    rfl

/-- An agent goes offline, an escalation is lost, and the service recovers. -/
def threeEvents : List Emission :=
  [⟨⟨"agent.offline", "warning", "agent", 7⟩, "agent stopped reporting", "\x7b\x7d", 10, 1, true⟩,
    ⟨⟨"system.redispatch_escalated", "critical", "resource", 8⟩, "not recovering", "\x7b\x7d", 11,
      2, false⟩,
    ⟨⟨"system.recovered", "info", "resource", 8⟩, "running again", "\x7b\x7d", 12, 3, true⟩]

theorem reported_threeEvents : ∀ e ∈ threeEvents, e.Reported := by
  intro e he
  simp only [threeEvents, List.mem_cons, List.not_mem_nil, or_false] at he
  rcases he with rfl | rfl | rfl
  · exact ⟨⟨.agentOffline 7, rfl⟩, by decide, by decide⟩
  · exact ⟨⟨.redispatchEscalated "auth" 8, rfl⟩, by decide, by decide⟩
  · exact ⟨⟨.recovered "auth" 8, rfl⟩, by decide, by decide⟩

/-- One event a page: while the first page is read, another event comes in and pushes one of the
two to a third page.  If none comes in, two pages are enough. -/
theorem event_feed_complete_pushed :
    let offline : Emission :=
      ⟨⟨"agent.offline", "warning", "agent", 7⟩, "agent stopped reporting", "\x7b\x7d", 10, 1, true⟩
    let meanwhile : Emission :=
      ⟨⟨"agent.offline", "warning", "agent", 9⟩, "agent stopped reporting", "\x7b\x7d", 13, 4, true⟩
    offline.event ∈
        (browse 1 0 (run record .empty threeEvents) [[], [meanwhile], []]).flatMap pageEvents ∧
      (browse 1 0 (run record .empty threeEvents) [[], []]).flatMap pageEvents =
        ((threeEvents.filter Emission.reaches).map Emission.event).reverse := by
  intro offline meanwhile
  constructor
  · exact (event_feed_complete 1 threeEvents [[], [meanwhile], []] [offline.event] 3
      reported_threeEvents (by decide) (by decide) (by decide +kernel) (by decide)).1 offline
      (by decide) rfl
  · exact (event_feed_complete 1 threeEvents [[], []] [offline.event] 2 reported_threeEvents
      (by decide) (by decide) (by decide +kernel) (by decide)).2 (by decide) rfl

end Maintainerd
