import Maintainerd.Lib.Overlap
import Maintainerd.Registry.Feed

/-!
# Two writers of one registration

`EnsureRegistered` and `UpdateStatus` of `internal/service/service.go` both read a row of `services`
and later write three of its columns back, the status, the endpoint and `registered_at`, whatever
has been written in between.  `registrars` makes the two an instance of the operations in two halves
of `Overlap`; `turn_registrars` says that a writer that is not interrupted is the whole call.

`EnsureRegistered` is meant never to downgrade a row the agent has moved on, and it does if the
agent moves the row between the two halves (`overtaken_downgrades`): it then writes `registered`
over what the agent reported, the old endpoint over the new one, and a second `registered_at`.  What
holds is `never_downgrades_of_unmoved`: in any interleaving in which every `UPDATE` of the row finds
it, in the columns its writer computed from, as the writer read it.
-/

set_option autoImplicit false

namespace Maintainerd

open Machine

namespace ServiceRegistry

/-! ## The halves -/

/-- A call that reads a registration and writes it back. -/
inductive Writer where
  | ensureRegistered (uuid : Uuid) (name kind : String) (isSystem : Bool)
  | updateStatus (u : Uuid) (input : UpdateStatusInput)

/-- The one statement such a call makes. -/
inductive Write where
  | create (p : Registry.CreateServiceParams)
  | update (p : Registry.UpdateServiceStatusParams)

/-- What a call writes to a row it has read. -/
def Writer.params (current : Service) (clock : Int) :
    Writer → Registry.UpdateServiceStatusParams
  | .ensureRegistered _ _ _ _ =>
    { serviceUuid := current.serviceUuid
      status := if current.status = "pending" then "registered" else current.status
      endpoint := current.endpoint
      registeredAt := current.registeredAt.orElse fun _ ↦ some clock }
  | .updateStatus u input =>
    let status := if input.status = "" then current.status else input.status
    { serviceUuid := u
      status := status
      endpoint := if input.endpoint = "" then current.endpoint else input.endpoint
      registeredAt :=
        if status = "running" ∧ current.registeredAt = none then some clock
        else current.registeredAt }

/-- The first half: up to the statement, if the call gets there. -/
def Writer.read (r : Registry) (clock : Int) : Writer → Option Write
  | .ensureRegistered uuid name kind isSystem =>
    if name = "" ∨ kind = "" then none
    else
      match r.getSystemTenant with
      | none => none
      | some t =>
        match r.getServiceByTenantAndName t.tenantID name with
        | none =>
          some (.create
            { serviceUuid := uuid
              tenantID := t.tenantID
              name := name
              kind := kind
              status := "registered"
              endpoint := ""
              version := ""
              metadata := []
              registeredAt := some clock
              isSystem := isSystem })
        | some current =>
          if current.status ≠ "pending" ∧ current.registeredAt.isSome then none
          else some (.update (params current clock (.ensureRegistered uuid name kind isSystem)))
  | .updateStatus u input =>
    (r.getServiceByUUID u).map fun current ↦ .update (params current clock (.updateStatus u input))

/-- The second half. -/
def Write.exec (r : Registry) (now : Int) : Write → Registry
  | .create p =>
    match r.createService now p with
    | .error _ => r
    | .ok (r', _) => r'
  | .update p =>
    match r.updateServiceStatus now p with
    | .error _ => r
    | .ok (r', _) => r'

/-- The writers, as operations in two halves; nothing else is done to the registry. -/
def registrars : Overlap.Halves Registry Writer Write Int Empty where
  read := Writer.read
  write := Write.exec
  act _ a := nomatch a

/-- A call that is not interrupted. -/
def Writer.alone (r : Registry) (now clock : Int) : Writer → Registry
  | .ensureRegistered uuid name kind isSystem =>
    (ServiceRegistry.ensureRegistered r now clock uuid name kind isSystem).1
  | .updateStatus u input => (ServiceRegistry.updateStatus r now clock u input).1

/-- The halves, one right after the other, are the call. -/
theorem turn_registrars (r : Registry) (now clock : Int) (w : Writer) :
    Overlap.turn registrars r (.op w clock now) = w.alone r now clock := by
  cases w with
  | ensureRegistered uuid name kind isSystem =>
    simp only [Overlap.turn, registrars, Writer.read, Writer.alone,
      ServiceRegistry.ensureRegistered]
    by_cases hnamed : name = "" ∨ kind = ""
    · simp only [if_pos hnamed]
    simp only [if_neg hnamed]
    rcases r.getSystemTenant with _ | t
    · rfl
    rcases hcurrent : r.getServiceByTenantAndName t.tenantID name with _ | current
    · simp only [hcurrent, Write.exec]
      rcases r.createService now _ with e | ⟨r', s⟩ <;> rfl
    simp only [hcurrent]
    by_cases hdone : current.status ≠ "pending" ∧ current.registeredAt.isSome
    · simp only [if_pos hdone]
    · simp only [if_neg hdone, Write.exec, Writer.params]
      rcases r.updateServiceStatus now _ with e | ⟨r', s⟩ <;> rfl
  | updateStatus u input =>
    simp only [Overlap.turn, registrars, Writer.read, Writer.alone, ServiceRegistry.updateStatus]
    rcases r.getServiceByUUID u with _ | current
    · rfl
    · simp only [Option.map_some, Write.exec, Writer.params]
      rcases r.updateServiceStatus now _ with e | ⟨r', s⟩ <;> rfl

/-! ## What the halves do to a row -/

/-- An `UPDATE` is computed from the row it is for. -/
theorem Writer.read_eq_update {r : Registry} {clock : Int} {w : Writer}
    {p : Registry.UpdateServiceStatusParams} (h : w.read r clock = some (.update p)) :
    ∃ current, r.services.get? p.serviceUuid = some current ∧ p = w.params current clock := by
  cases w with
  | ensureRegistered uuid name kind isSystem =>
    rw [Writer.read] at h
    split_ifs at h with hnamed
    rcases ht : r.getSystemTenant with _ | t <;> rw [ht] at h
    · cases h
    rcases hcurrent : r.getServiceByTenantAndName t.tenantID name with _ | current <;>
      simp only [hcurrent] at h
    · cases h
    split_ifs at h with hdone
    obtain rfl := Write.update.inj (Option.some.inj h)
    exact ⟨current, Table.get?_of_mem (List.mem_of_find?_eq_some hcurrent), rfl⟩
  | updateStatus u input =>
    obtain ⟨current, hcurrent, heq⟩ := Option.map_eq_some_iff.mp h
    obtain rfl := Write.update.inj heq
    exact ⟨current, (Option.filter_eq_some_iff.mp hcurrent).1, rfl⟩

/-- A statement leaves a row as it is, or is an `UPDATE` of it. -/
theorem Write.exec_row (w : Write) {r : Registry} (now : Int) {u : Uuid} {s : Service}
    (hs : r.services.get? u = some s) :
    (w.exec r now).services.get? u = some s ∨
      ∃ p, w = .update p ∧ p.serviceUuid = u ∧
        (w.exec r now).services.get? u = some (p.patch now s) := by
  cases w with
  | create p =>
    left
    rw [Write.exec]
    rcases h : r.createService now p with e | ⟨r', s'⟩
    · exact hs
    · obtain ⟨-, hinsert⟩ := Registry.createService_eq_ok h
      obtain ⟨hnew, hget⟩ := Table.get?_insert? hinsert u
      have hne : Keyed.uuid s' ≠ u := by
        rintro rfl
        rw [hnew] at hs
        cases hs
      rw [hget, if_neg hne, hs]
  | update p =>
    rw [Write.exec]
    rcases h : r.updateServiceStatus now p with e | ⟨r', s'⟩
    · exact Or.inl hs
    · obtain rfl := Registry.updateServiceStatus_eq_ok h
      show (r.services.updateWhere _ _).get? u = _ ∨ ∃ q, Write.update p = .update q ∧
        q.serviceUuid = u ∧ (r.services.updateWhere _ _).get? u = _
      rw [Table.get?_updateWhere, hs, Option.map_some]
      split_ifs with hhit
      · right
        have hu : s.serviceUuid = p.serviceUuid := eq_of_beq (Bool.and_eq_true_iff.mp hhit).1
        exact ⟨p, rfl, hu.symm.trans (Table.uuid_of_get? hs), rfl⟩
      · exact Or.inl rfl

/-! ## Interleavings -/

/-- The state of an interleaving. -/
abbrev Interleaving := Overlap.State Registry Writer Write Int

/-- A step of one: a call reads, or a call that has read writes. -/
abbrev HalfStep := Overlap.Act Writer Int Empty

/-- The call reports no status that takes the row back. -/
def Writer.Reports : Writer → Prop
  | .ensureRegistered _ _ _ _ => True
  | .updateStatus _ input => input.status ≠ "" ∧ input.status ≠ "pending"

/-- The rows agree in the columns the call computes from.  `UpdateStatus` is told the status. -/
def Writer.Sees : Writer → Service → Service → Prop
  | .ensureRegistered _ _ _ _, s, s' =>
    s'.status = s.status ∧ s'.endpoint = s.endpoint ∧ s'.registeredAt = s.registeredAt
  | .updateStatus _ _, s, s' => s'.registeredAt = s.registeredAt

/-- The step starts no call but one that reports. -/
def Reporting : HalfStep → Prop
  | .start _ w => w.Reports
  | _ => True

/-- The step is the write of an `EnsureRegistered`. -/
def Registers (s : Interleaving) : HalfStep → Prop
  | .finish _ i => ∃ o uuid name kind isSystem, s.inFlight[i]? = some o ∧
      o.op = .ensureRegistered uuid name kind isSystem
  | _ => False

/-- If the step is an `UPDATE` of the row, the row is as the writer read it. -/
def Unmoved (u : Uuid) (s : Interleaving) : HalfStep → Prop
  | .finish _ i => ∀ o p x x', s.inFlight[i]? = some o → o.plan = .update p → p.serviceUuid = u →
      o.seen.services.get? u = some x → s.store.services.get? u = some x' → o.op.Sees x x'
  | _ => True

/-- Every call in flight holds what it computed from the state it read, and reports. -/
def Underway (s : Interleaving) : Prop :=
  ∀ o ∈ s.inFlight, o.op.read o.seen o.readAt = some o.plan ∧ o.op.Reports

theorem Underway.step {s : Interleaving} (h : Underway s) {a : HalfStep} (ha : Reporting a) :
    Underway (Overlap.step registrars s a) := by
  intro o ho
  rcases Overlap.mem_inFlight_step ho with ho | ⟨rfl, -, hread⟩
  · exact h o ho
  · exact ⟨hread, ha⟩

/-- What a step does to a row: nothing, or what one call computed from the row it read. -/
theorem step_row {s : Interleaving} (h : Underway s) (a : HalfStep) {u : Uuid} {x : Service}
    (hx : s.store.services.get? u = some x) :
    (Overlap.step registrars s a).store.services.get? u = some x ∨
      ∃ t i o c p, a = .finish t i ∧ s.inFlight[i]? = some o ∧ o.plan = .update p ∧
        p.serviceUuid = u ∧ o.seen.services.get? u = some c ∧ p = o.op.params c o.readAt ∧
        (Overlap.step registrars s a).store.services.get? u = some (p.patch t x) := by
  cases a with
  | start t w =>
    left
    rw [Overlap.step]
    split <;> exact hx
  | finish t i =>
    rw [Overlap.step]
    split
    · exact Or.inl hx
    · rename_i o ho
      rcases o.plan.exec_row t hx with hsame | ⟨p, hp, hu, hrow⟩
      · exact Or.inl hsame
      · obtain ⟨hread, -⟩ := h o (List.mem_of_getElem? ho)
        obtain ⟨c, hc, hparams⟩ := Writer.read_eq_update (hread.trans (congrArg some hp))
        exact Or.inr ⟨t, i, o, c, p, rfl, ho, hp, hu, hu ▸ hc, hparams, hrow⟩
  | whole a => cases a

/-! ## What a row keeps -/

/-- The row that is not pending is not pending again, and keeps its stamp. -/
structure Advances (x x' : Service) : Prop where
  status : x.status ≠ "pending" → x'.status ≠ "pending"
  registeredAt : ∀ t, x.registeredAt = some t → x'.registeredAt = some t

/-- What a call computes from a row that agrees with the present one takes it forward. -/
theorem Writer.advances {w : Writer} {c x : Service} (hsees : w.Sees c x) (hreports : w.Reports)
    (clock now : Int) : Advances x ((w.params c clock).patch now x) := by
  cases w with
  | ensureRegistered uuid name kind isSystem =>
    obtain ⟨hstatus, -, hstamp⟩ := hsees
    refine ⟨fun hx ↦ ?_, fun t ht ↦ ?_⟩
    · show Postgres.clip 20 (if c.status = "pending" then "registered" else c.status) ≠ "pending"
      rw [← hstatus, if_neg hx, Ne, Postgres.clip_eq_iff (by decide)]
      exact hx
    · show (c.registeredAt.orElse fun _ ↦ some clock) = some t
      rw [← hstamp, ht]
      rfl
  | updateStatus u input =>
    obtain ⟨hsome, hpending⟩ := hreports
    refine ⟨fun _ ↦ ?_, fun t ht ↦ ?_⟩
    · show Postgres.clip 20 (if input.status = "" then c.status else input.status) ≠ "pending"
      rw [if_neg hsome, Ne, Postgres.clip_eq_iff (by decide)]
      exact hpending
    · have hc : c.registeredAt = some t := (Eq.symm hsees).trans ht
      show (if _ ∧ c.registeredAt = none then some clock else c.registeredAt) = some t
      rw [hc, if_neg (by simp)]

/-- `EnsureRegistered` has nothing to change in the status and the endpoint of a row that is not
pending. -/
theorem Writer.settled {w : Writer} {c x : Service} {uuid : Uuid} {name kind : String}
    {isSystem : Bool} (hw : w = .ensureRegistered uuid name kind isSystem) (hsees : w.Sees c x)
    (hx : x.status ≠ "pending") (clock now : Int) :
    ((w.params c clock).patch now x).status = x.status ∧
      ((w.params c clock).patch now x).endpoint = x.endpoint := by
  subst hw
  obtain ⟨hstatus, hendpoint, -⟩ := hsees
  refine ⟨?_, hendpoint.symm⟩
  show Postgres.clip 20 (if c.status = "pending" then "registered" else c.status) = x.status
  rw [← hstatus, if_neg hx, Postgres.clip_of_length_le x.status_le]

/-- One step takes the row forward, and if it is the write of an `EnsureRegistered` and the row is
not pending, it leaves the status and the endpoint alone. -/
theorem row_of_unmoved {s : Interleaving} (h : Underway s) {a : HalfStep} {u : Uuid}
    (ha : Unmoved u s a) {x : Service} (hx : s.store.services.get? u = some x) :
    ∃ x', (Overlap.step registrars s a).store.services.get? u = some x' ∧ Advances x x' ∧
      (Registers s a → x.status ≠ "pending" → x'.status = x.status ∧ x'.endpoint = x.endpoint) := by
  rcases step_row h a hx with hsame | ⟨t, i, o, c, p, rfl, ho, hp, hu, hc, rfl, hrow⟩
  · exact ⟨x, hsame, ⟨id, fun _ ↦ id⟩, fun _ _ ↦ ⟨rfl, rfl⟩⟩
  · have hsees : o.op.Sees c x := ha o _ c x ho hp hu hc hx
    obtain ⟨-, hreports⟩ := h o (List.mem_of_getElem? ho)
    refine ⟨_, hrow, Writer.advances hsees hreports _ _, ?_⟩
    rintro ⟨o', uuid, name, kind, isSystem, ho', hop⟩ hpending
    obtain rfl := Option.some.inj (ho.symm.trans ho')
    exact Writer.settled hop hsees hpending _ _

/-- The row is there in the second state too, and further on. -/
def RowAdvances (u : Uuid) (s s' : Interleaving) : Prop :=
  ∀ x, s.store.services.get? u = some x → ∃ x', s'.store.services.get? u = some x' ∧ Advances x x'

theorem rowAdvances_run {u : Uuid} {s : Interleaving} {acts : List HalfStep} (h : Underway s)
    (hacts : Guarded (Overlap.step registrars) (fun s a ↦ Unmoved u s a ∧ Reporting a) s acts) :
    RowAdvances u s (run (Overlap.step registrars) s acts) := by
  refine hacts.relates (I := Underway) h (fun s x hx ↦ ⟨x, hx, id, fun _ ↦ id⟩) ?_
    (fun _ _ hs ha ↦ hs.step ha.2) ?_
  · intro a b c hab hbc x hx
    obtain ⟨x', hx', h₁⟩ := hab x hx
    obtain ⟨x'', hx'', h₂⟩ := hbc x' hx'
    exact ⟨x'', hx'', fun hs ↦ h₂.status (h₁.status hs),
      fun t ht ↦ h₂.registeredAt t (h₁.registeredAt t ht)⟩
  · intro s a hs ha x hx
    obtain ⟨x', hx', hadv, -⟩ := row_of_unmoved hs ha.1 hx
    exact ⟨x', hx', hadv⟩

/-- **A registration that is not moved under its writers is never downgraded.**  Take any
interleaving of the halves of any `EnsureRegistered` and `UpdateStatus` calls, the latter reporting
a status other than `pending`, in which every `UPDATE` of the row finds it, in the columns its
writer computed from, as the writer read it.  From any state of it on in which the row is past
`pending` and `registered`, no write of an `EnsureRegistered` changes the status or the endpoint;
and from any state on in which `registered_at` is set, no step changes it. -/
theorem never_downgrades_of_unmoved (r : Registry) (u : Uuid) (before between after : List HalfStep)
    (a : HalfStep) (hreports : ∀ b ∈ before ++ between ++ a :: after, Reporting b)
    (hunmoved : Guarded (Overlap.step registrars) (Unmoved u) ⟨r, []⟩
      (before ++ between ++ a :: after))
    (x : Service)
    (hx : (run (Overlap.step registrars) ⟨r, []⟩ before).store.services.get? u = some x) :
    let s := run (Overlap.step registrars) ⟨r, []⟩ (before ++ between)
    ∃ y y', s.store.services.get? u = some y ∧
      (Overlap.step registrars s a).store.services.get? u = some y' ∧
      (x.status ≠ "pending" → x.status ≠ "registered" → Registers s a →
        y'.status = y.status ∧ y'.endpoint = y.endpoint) ∧
      ∀ t, x.registeredAt = some t → y'.registeredAt = some t := by
  intro s
  have hguard := hunmoved.and (guarded_of_forall (G := fun _ ↦ Reporting) fun _ ↦ hreports)
  obtain ⟨hrun, hlast⟩ := guarded_append.mp hguard
  obtain ⟨hbefore, hbetween⟩ := guarded_append.mp hrun
  have hstart : Underway ⟨r, []⟩ := List.forall_mem_nil _
  have hstep : ∀ s (a : HalfStep), Underway s → Unmoved u s a ∧ Reporting a →
      Underway (Overlap.step registrars s a) := fun _ _ hs ha ↦ hs.step ha.2
  obtain ⟨y, hy, hxy⟩ := rowAdvances_run (hbefore.invariant hstart hstep) hbetween x hx
  rw [← run_append] at hy
  obtain ⟨y', hy', hyy', hsettled⟩ := row_of_unmoved (hrun.invariant hstart hstep) hlast.1.1 hy
  exact ⟨y, y', hy, hy', fun hpending _ ha ↦ hsettled ha (hxy.status hpending),
    fun t ht ↦ hyy'.registeredAt t (hxy.registeredAt t ht)⟩

/-- The system tenant with one registration, as setup leaves it. -/
def justSetUp : Registry :=
  run Registry.step .empty
    [⟨0, 0, .createTenant 1 ⟨"system", "", "", true, none, []⟩⟩,
     ⟨1, 1, .createService 5 ⟨1, "auth", "Auth", true, "http://old", "", []⟩⟩]

/-- The columns of the registration. -/
def authColumns (s : Interleaving) : Option (String × String × Option Int) :=
  (s.store.services.get? 5).map fun x ↦ (x.status, x.endpoint, x.registeredAt)

/-- The agent reports that the service has failed, and then it is registered. -/
theorem never_downgrades_of_unmoved_failed :
    let before : List HalfStep := [.start 10 (.updateStatus 5 ⟨"failed", ""⟩), .finish 11 0]
    let between : List HalfStep := [.start 12 (.ensureRegistered 6 "auth" "Auth" true)]
    let s := run (Overlap.step registrars) ⟨justSetUp, []⟩ (before ++ between)
    authColumns s = some ("failed", "http://old", none) ∧ Registers s (.finish 13 0) ∧
      ∃ y y', s.store.services.get? 5 = some y ∧
        (Overlap.step registrars s (.finish 13 0)).store.services.get? 5 = some y' ∧
        y'.status = y.status ∧ y'.endpoint = y.endpoint := by
  intro before between s
  have hregisters : Registers s (.finish 13 0) := ⟨_, 6, "auth", "Auth", true, rfl, rfl⟩
  obtain ⟨x, hx, hstatus⟩ : ∃ x,
      (run (Overlap.step registrars) ⟨justSetUp, []⟩ before).store.services.get? 5 = some x ∧
        x.status = "failed" := Option.map_eq_some_iff.mp (by decide)
  have hunmoved : Guarded (Overlap.step registrars) (Unmoved 5) ⟨justSetUp, []⟩
      (before ++ between ++ [.finish 13 0]) := by
    refine ⟨trivial, ?_, trivial, ?_, trivial⟩
    · intro o p x x' ho _ _ hseen hstore
      obtain rfl := Option.some.inj ho
      rw [← Option.some.inj (hseen.symm.trans hstore)]
      exact rfl
    · intro o p x x' ho _ _ hseen hstore
      obtain rfl := Option.some.inj ho
      rw [← Option.some.inj (hseen.symm.trans hstore)]
      exact ⟨rfl, rfl, rfl⟩
  have hreports : ∀ b ∈ before ++ between ++ [.finish 13 0], Reporting b := by
    simp [before, between, Reporting, Writer.Reports]
  obtain ⟨y, y', hy, hy', hkept, -⟩ :=
    never_downgrades_of_unmoved justSetUp 5 before between [] (.finish 13 0) hreports hunmoved x hx
  exact ⟨by decide, hregisters, y, y', hy, hy',
    hkept (by rw [hstatus]; decide) (by rw [hstatus]; decide) hregisters⟩

/-- The agent reports that the service runs after `EnsureRegistered` has read the row and before it
writes it: the row goes from `running` back to `registered`, and back to its old endpoint, and is
stamped a second time, with an earlier instant. -/
theorem overtaken_downgrades :
    let acts : List HalfStep :=
      [.start 10 (.ensureRegistered 6 "auth" "Auth" true),
       .start 11 (.updateStatus 5 ⟨"running", "http://new"⟩), .finish 12 1, .finish 13 0]
    (acts.inits.map fun pre ↦ authColumns (run (Overlap.step registrars) ⟨justSetUp, []⟩ pre)) =
      [some ("pending", "http://old", none), some ("pending", "http://old", none),
       some ("pending", "http://old", none), some ("running", "http://new", some 11),
       some ("registered", "http://old", some 10)] := by
  decide

end ServiceRegistry

end Maintainerd
