import ForeignLayer.Proofs.ScannedRows

/-!
# Runs of operations

What can happen to a connection after it was opened. A plan takes it over from whatever holds it, a
scan or a modification takes it over from the plan, and if one of these fails the connection is lost
with it. All other steps leave the operation where it is. Meanwhile the layer may change its mind
about writes.

An event is described by what it can do. Only a write can change the contents of the layer, and it
has to pass the connection first; the connection itself is changed by being probed and by taking
note of a write that the layer refused, and by nothing else. So what holds of a connection and is
kept by these two holds over whole runs.
-/

namespace ForeignLayer

/-- The features of a layer and the id of the next one. -/
def Layer.contents (l : Layer) : List Feature × Int := (l.features, l.nextFid)

namespace Operation

/-! ## Events -/

/-- What holds a connection. -/
inductive Holder where
  /-- Whoever opened it. -/
  | opener (c : Connection)
  | operation (op : Operation)
  /-- Nothing any more, since a step that took it over failed. -/
  | nothing

/-- The connection that is held. -/
def Holder.connection? : Holder → Option Connection
  | opener c => some c
  | operation op => some op.connection
  | nothing => none

/-- What holds a connection, and the layer. -/
structure Situation where
  holder : Holder
  layer : Layer

/-- A write of a row or of an id. -/
inductive Write where
  | insert (row : Row)
  | update (row : Row)
  | delete (fid : Int)

/-- What can happen to a connection. -/
inductive Event where
  | plan (tableId : Nat) (table : Catalog.Table) (predicates : List Expr) (bindings : Bindings)
      (settings : Settings.Planner)
  | startScan (predicates : List Expr) (bindings : Bindings)
  | startModify
  | nextRow
  | rescan
  | write (w : Write)
  /-- The layer has other capabilities from now on, and takes writes or refuses them. -/
  | turn (capabilities : List String) (failsWrites : Bool)

/-- Whether an event belongs to a phase. A plan begins anew in any phase. -/
def Event.Fits : Event → Stage → Prop
  | startScan .., stage | startModify, stage => stage = .plan
  | nextRow, stage | rescan, stage => stage = .scan
  | write _, stage => stage = .modify
  | plan .., _ | turn .., _ => True

/-- What an event comes to, nothing if there is no operation to take the step. -/
abbrev Outcome := Option (Except Fault Unit)

namespace Situation

/-- Hands a connection over to the operation that an action makes. -/
def handOver (s : Situation) (x : LayerAction Operation) : Outcome × Situation :=
  match x.run s.layer with
  | (.ok op, l) => (some (.ok ()), ⟨.operation op, l⟩)
  | (.error fault, l) => (some (.error fault), ⟨.nothing, l⟩)

/-- Takes a step of an operation. -/
def take {α : Type} (s : Situation) (op : Operation) (x : Step α) : Outcome × Situation :=
  let (r, session) := x.run ⟨op, s.layer⟩
  (some (r.map fun _ ↦ ()), ⟨.operation session.operation, session.layer⟩)

/-- Takes the step of a write. -/
def write (s : Situation) (w : Write) (op : Operation) : Outcome × Situation :=
  match w with
  | .insert row => s.take op (insert row)
  | .update row => s.take op (update row)
  | .delete fid => s.take op (delete fid)

/-- Lets the operation act, if one holds the connection. -/
def act (s : Situation) (f : Operation → Outcome × Situation) : Outcome × Situation :=
  match s.holder with
  | .operation op => f op
  | _ => (none, s)

/-- What an event comes to, and what it leaves behind. -/
def perform (s : Situation) : Event → Outcome × Situation
  | .plan tableId table predicates bindings settings =>
    match s.holder.connection? with
    | some c => s.handOver (plan tableId c table predicates bindings settings)
    | none => (none, s)
  | .startScan predicates bindings => s.act fun op ↦ s.handOver (op.startScan predicates bindings)
  | .startModify => s.act fun op ↦ s.handOver do liftM (op.startModify (← get))
  | .nextRow => s.act (s.take · Operation.nextRow)
  | .rescan => s.act (s.take · Operation.rescan)
  | .write w => s.act (s.write w)
  | .turn capabilities failsWrites =>
    (some (.ok ()), { s with layer := { s.layer with capabilities, failsWrites } })

/-- What a list of events leaves behind. -/
def run (s : Situation) (events : List Event) : Situation :=
  events.foldl (fun s e ↦ (s.perform e).2) s

theorem run_append {s : Situation} (events events' : List Event) :
    s.run (events ++ events') = (s.run events).run events' := List.foldl_append

theorem run_cons {s : Situation} (e : Event) (events : List Event) :
    s.run (e :: events) = (s.perform e).2.run events := rfl

end Situation

/-! ## Planning and starting -/

theorem contents_of_sameContents {l l' : Layer} (h : Layer.SameContents l l') :
    l'.contents = l.contents :=
  Prod.ext h.features h.nextFid

/-- What an action that hands a connection over leaves behind: the contents of the layer are as
before, and if there is an operation, it has the connection and is in a phase. -/
structure HandsOver (c : Connection) (stage : Stage) (l : Layer)
    (r : Except Fault Operation × Layer) : Prop where
  contents : r.2.contents = l.contents
  operation : ∀ op, r.1 = .ok op → op.connection = c ∧ op.phase.stage = stage

theorem handsOver_plan (tableId : Nat) (c : Connection) (table : Catalog.Table)
    (predicates : List Expr) (bindings : Bindings) (settings : Settings.Planner) (l : Layer) :
    HandsOver c .plan l ((plan tableId c table predicates bindings settings).run l) := by
  have hcontents := contents_of_sameContents
    (sameContents_estimateRows c (planOf table c predicates bindings) settings l)
  rcases hrun : (estimateRows c (planOf table c predicates bindings) settings).run l with
    ⟨fault | rows, l'⟩ <;> rw [hrun] at hcontents <;> rw [plan, run_bind, hrun]
  · exact ⟨hcontents, fun op h ↦ (by cases h)⟩
  · refine ⟨hcontents, fun op h ↦ ?_⟩
    cases h
    exact ⟨rfl, rfl⟩

theorem checkPlanned_of_stage {op : Operation} (h : op.phase.stage = .plan) :
    op.checkPlanned = .ok () := by
  unfold checkPlanned
  split
  · rfl
  · next hnot =>
    cases hphase : op.phase with
    | plan estimate => exact absurd hphase (hnot estimate)
    | scan _ => rw [hphase] at h; cases h
    | modify => rw [hphase] at h; cases h

theorem checkPlanned_of_stage_ne {op : Operation} (h : op.phase.stage ≠ .plan) :
    op.checkPlanned = .error (.misuse (.notPlanned op.phase.stage)) := by
  unfold checkPlanned
  split
  · next hphase => exact absurd (congrArg Phase.stage hphase) h
  · rfl

theorem handsOver_startScan (op : Operation) (predicates : List Expr) (bindings : Bindings)
    (l : Layer) : HandsOver op.connection .scan l ((op.startScan predicates bindings).run l) := by
  have hstarted := started_startScan op predicates bindings l
  generalize (startScan op predicates bindings).run l = r at hstarted ⊢
  cases hstarted with
  | unplanned | closed => exact ⟨rfl, fun op h ↦ (by cases h)⟩
  | refused _ _ happlied =>
    exact ⟨contents_of_sameContents happlied.sameContents, fun op h ↦ (by cases h)⟩
  | started _ _ _ happlied =>
    refine ⟨contents_of_sameContents happlied.sameContents, fun op' h ↦ ?_⟩
    cases h
    exact ⟨rfl, rfl⟩

/-! ## Reading -/

theorem run_getScan_of_ne {s : Session} (h : s.operation.phase.stage ≠ .scan) (m : Misuse) :
    (getScan m).run s = (.error (.misuse m), s) := by
  simp only [getScan, run_bind, run_get]
  split
  · next scan hphase => exact absurd (congrArg Phase.stage hphase) h
  · rfl

theorem exists_scan {op : Operation} (h : op.phase.stage = .scan) :
    ∃ scan, op.phase = .scan scan := by
  cases hphase : op.phase with
  | scan scan => exact ⟨scan, rfl⟩
  | plan _ => rw [hphase] at h; cases h
  | modify => rw [hphase] at h; cases h

/-- What reading leaves alone. -/
structure OnlyReads (s s' : Session) : Prop where
  contents : s'.layer.contents = s.layer.contents
  spatial : s'.layer.spatial = s.layer.spatial
  connection : s'.operation.connection = s.operation.connection
  stage : s'.operation.phase.stage = s.operation.phase.stage

/-- All that the call for a row can come to. -/
inductive ReadsRow (s : Session) : Result (Option Row) × Session → Prop
  | outside (hstage : s.operation.phase.stage ≠ .scan) :
      ReadsRow s (.error (.misuse .readOutside), s)
  | closed {reason : Connection.Fault}
      (hclosed : s.operation.connection.checkLayer = .error reason) :
      ReadsRow s (.error (.connection reason), s)
  | ended (hstage : s.operation.phase.stage = .scan) (hnext : s.layer.next.1 = none) :
      ReadsRow s (.ok none, { s with layer := s.layer.next.2 })
  /-- The layer has gone on, although the feature is not one that a row can be made of. -/
  | failed {f : Feature} {fault : Fault} (hstage : s.operation.phase.stage = .scan)
      (hnext : s.layer.next.1 = some f) (hrow : rowOf s.operation.table f = .error fault) :
      ReadsRow s (.error fault, { s with layer := s.layer.next.2 })
  | read {scan : Scan} {f : Feature} {row : Row} (hphase : s.operation.phase = .scan scan)
      (hnext : s.layer.next.1 = some f) (hrow : rowOf s.operation.table f = .ok row) :
      ReadsRow s (.ok (some row),
        ⟨{ s.operation with phase := .scan { scan with rows := scan.rows + 1 } }, s.layer.next.2⟩)

theorem readsRow_nextRow (s : Session) : ReadsRow s (nextRow.run s) := by
  by_cases hstage : s.operation.phase.stage = .scan
  · obtain ⟨scan, hphase⟩ := exists_scan hstage
    cases hopen : s.operation.connection.checkLayer with
    | error reason =>
      simp only [nextRow, run_bind, run_getScan hphase, run_getConnection, hopen,
        run_ofConnection, Except.mapError]
      exact .closed hopen
    | ok _ =>
      rw [run_nextRow hphase hopen]
      rcases hnext : s.layer.next with ⟨found, l⟩
      obtain rfl : s.layer.next.2 = l := congrArg Prod.snd hnext
      have hfound : s.layer.next.1 = found := congrArg Prod.fst hnext
      cases found with
      | none => exact .ended hstage hfound
      | some f =>
        dsimp only
        cases hrow : rowOf s.operation.table f with
        | error fault => exact .failed hstage hfound hrow
        | ok row => exact .read hphase hfound hrow
  · simp only [nextRow, run_bind, run_getScan_of_ne hstage]
    exact .outside hstage

theorem ReadsRow.onlyReads {s : Session} {r : Result (Option Row) × Session}
    (h : ReadsRow s r) : OnlyReads s r.2 := by
  cases h with
  | outside | closed | ended | failed => exact ⟨rfl, rfl, rfl, rfl⟩
  | read hphase => exact ⟨rfl, rfl, rfl, by rw [hphase]; rfl⟩

theorem nextRow_eq_ok {s s' : Session} {row : Row} (h : nextRow.run s = (.ok (some row), s')) :
    ∃ f, s.layer.next.1 = some f ∧ rowOf s.operation.table f = .ok row := by
  have hread := readsRow_nextRow s
  rw [h] at hread
  cases hread with
  | read _ hnext hrow => exact ⟨_, hnext, hrow⟩

/-- All that starting over can come to. -/
inductive Restarts (s : Session) : Result Unit × Session → Prop
  | outside (hstage : s.operation.phase.stage ≠ .scan) :
      Restarts s (.error (.misuse .restartOutside), s)
  | closed {reason : Connection.Fault}
      (hclosed : s.operation.connection.checkLayer = .error reason) :
      Restarts s (.error (.connection reason), s)
  | restarted {scan : Scan} (hphase : s.operation.phase = .scan scan) :
      Restarts s
        (.ok (), ⟨{ s.operation with phase := .scan { scan with rows := 0 } }, s.layer.reset⟩)

theorem restarts_rescan (s : Session) : Restarts s (rescan.run s) := by
  by_cases hstage : s.operation.phase.stage = .scan
  · obtain ⟨scan, hphase⟩ := exists_scan hstage
    cases hopen : s.operation.connection.checkLayer with
    | error reason =>
      simp only [rescan, run_bind, run_getScan hphase, run_getConnection, hopen,
        run_ofConnection, Except.mapError]
      exact .closed hopen
    | ok _ =>
      rw [run_rescan hphase hopen]
      exact .restarted hphase
  · simp only [rescan, run_bind, run_getScan_of_ne hstage]
    exact .outside hstage

theorem Restarts.onlyReads {s : Session} {r : Result Unit × Session} (h : Restarts s r) :
    OnlyReads s r.2 := by
  cases h with
  | outside | closed => exact ⟨rfl, rfl, rfl, rfl⟩
  | restarted hphase => exact ⟨rfl, rfl, rfl, by rw [hphase]; rfl⟩

/-! ## Writing -/

theorem run_checkModify {s : Session} (h : s.operation.phase = .modify) (m : Misuse) :
    (checkModify m).run s = (.ok (), s) := by
  simp only [checkModify, run_bind, run_get, h, run_pure]

theorem run_checkModify_of_ne {s : Session} (h : s.operation.phase ≠ .modify) (m : Misuse) :
    (checkModify m).run s = (.error (.misuse m), s) := by
  simp only [checkModify, run_bind, run_get]
  rfl

/-- Whether a fault comes from the layer. -/
def Fault.isLayer : Fault → Bool
  | layer _ => true
  | _ => false

/-- What does not fail for the layer's sake. -/
def Inner {α : Type} (r : Result α) : Prop := ∀ fault, r = .error fault → fault.isLayer = false

theorem Inner.ok {α : Type} (a : α) : Inner (.ok a) := fun _ h ↦ by cases h

theorem Inner.error {α : Type} {fault : Fault} (h : fault.isLayer = false) :
    Inner (.error fault : Result α) := by
  rintro _ ⟨⟩
  exact h

theorem Inner.mapError {ε α : Type} {f : ε → Fault} (h : ∀ e, (f e).isLayer = false)
    (r : Except ε α) : Inner (r.mapError f) := by
  cases r with
  | ok a => exact .ok a
  | error e => exact .error (h e)

theorem Inner.bind {α β : Type} {r : Result α} {f : α → Result β} (hr : Inner r)
    (hf : ∀ a, Inner (f a)) : Inner (r >>= f) := by
  cases r with
  | ok a => exact hf a
  | error fault => exact .error (hr fault rfl)

theorem inner_setColumn (c : Catalog.Column) (v : Scalar) (f : Feature) :
    Inner (setColumn c v f) := by
  have hcast (t : DataType) : Inner (castTo v t) := .mapError (fun _ ↦ rfl) _
  unfold setColumn
  split
  · exact .ok f
  · exact .bind (.bind (hcast _) fun _ ↦ .ok _) fun _ ↦ .ok _
  · refine .bind (.bind ?_ fun conversion ↦ .bind (.mapError (fun _ ↦ rfl) _) fun _ ↦ .ok _)
      fun _ ↦ .ok _
    unfold conversionOf
    split
    · exact .ok _
    · exact .error rfl
  · split
    · exact .bind (hcast _) fun _ ↦ .ok _
    · exact .error rfl

theorem inner_featureOf (table : Catalog.Table) (layer : Layer.Definition) (row : Row) :
    Inner (featureOf table layer row) := by
  unfold featureOf
  generalize blank layer = f
  induction table.columns.zip row generalizing f with
  | nil => exact .ok f
  | cons cell cells ih => exact .bind (inner_setColumn cell.1 cell.2 f) ih

/-- The feature of a row is made without touching anything. -/
theorem run_featureToWrite (row : Row) {s : Session} (h : s.operation.phase = .modify) :
    ∃ r : Result Feature, (featureToWrite row).run s = (r, s) ∧ Inner r ∧
      ∀ f, r = .ok f → row.length = s.operation.table.columns.length ∧
        featureOf s.operation.table s.layer.definition row = .ok f := by
  simp only [featureToWrite, run_bind, run_checkModify h, run_get]
  by_cases hlength : row.length = s.operation.table.columns.length
  · rw [if_neg (not_not.mpr hlength)]
    simp only [run_bind, run_getConnection, run_ofConnection]
    cases s.operation.connection.checkLayer with
    | error reason => exact ⟨_, rfl, .error rfl, fun f hf ↦ (by cases hf)⟩
    | ok _ =>
      simp only [Except.mapError, run_get, run_liftM]
      exact ⟨_, rfl, inner_featureOf _ _ row, fun f hf ↦ ⟨hlength, hf⟩⟩
  · rw [if_pos hlength]
    exact ⟨_, rfl, .error rfl, fun f hf ↦ (by cases hf)⟩

theorem run_featureToWrite_of_ne {α : Type} (row : Row) {s : Session}
    (h : s.operation.phase ≠ .modify) (x : Feature → Step α) :
    (featureToWrite row >>= x).run s = (.error (.misuse .writeOutside), s) := by
  simp only [featureToWrite, run_bind, run_checkModify_of_ne h]

/-- An operation under another connection. -/
def withConnection (op : Operation) (c : Connection) : Operation := { op with connection := c }

/-- A write asks the connection first and tells it if the layer refuses. -/
theorem run_write {α : Type} (f : Layer → Except Layer.Fault (α × Layer)) (s : Session) :
    (write f).run s =
      let (updateable, c) := s.operation.connection.probe s.layer
      if updateable then
        match c.checkLayer with
        | .error reason => (.error (.connection reason), ⟨s.operation.withConnection c, s.layer⟩)
        | .ok () => match f s.layer with
          | .ok (a, l) => (.ok a, ⟨s.operation.withConnection c, l⟩)
          | .error reason => (.error (.layer reason),
            ⟨s.operation.withConnection c.recordWriteFailure, s.layer⟩)
      else (.error (notUpdateable c), ⟨s.operation.withConnection c, s.layer⟩) := by
  rcases hprobe : s.operation.connection.probe s.layer with ⟨updateable, c⟩
  simp only [write, checkUpdateable, run_bind, run_getConnection, run_get, hprobe, setConnection,
    run_modify]
  cases updateable with
  | false => rfl
  | true =>
    simp only [Bool.not_true, Bool.false_eq_true, if_false, run_pure, if_true, withConnection]
    cases c.checkLayer with
    | error reason => rfl
    | ok _ =>
      simp only [run_bind, run_get]
      cases f s.layer with
      | ok r => rfl
      | error reason => rfl

/-- What a write can come to in a modification. -/
inductive Writes (s : Session) {α : Type} : Except Fault α × Session → Prop
  /-- It fails before it gets to the layer. -/
  | blocked {fault : Fault} {c : Connection} (hfault : fault.isLayer = false)
      (hconnection : c = s.operation.connection ∨ c = (s.operation.connection.probe s.layer).2) :
      Writes s (.error fault, ⟨s.operation.withConnection c, s.layer⟩)
  /-- The layer refuses it. -/
  | refused (hprobe : (s.operation.connection.probe s.layer).1 = true) (reason : Layer.Fault) :
      Writes s (.error (.layer reason), ⟨s.operation.withConnection
        (s.operation.connection.probe s.layer).2.recordWriteFailure, s.layer⟩)
  | done (hprobe : (s.operation.connection.probe s.layer).1 = true) (a : α) (l : Layer) :
      Writes s (.ok a,
        ⟨s.operation.withConnection (s.operation.connection.probe s.layer).2, l⟩)

theorem writes_write {α : Type} (f : Layer → Except Layer.Fault (α × Layer)) (s : Session) :
    Writes s ((write f).run s) := by
  rw [run_write]
  rcases hprobe : s.operation.connection.probe s.layer with ⟨updateable, c⟩
  have hsecond : c = (s.operation.connection.probe s.layer).2 := by rw [hprobe]
  subst hsecond
  cases updateable with
  | false => exact .blocked rfl (Or.inr rfl)
  | true =>
    have hfirst : (s.operation.connection.probe s.layer).1 = true := by rw [hprobe]
    dsimp only
    rw [if_pos rfl]
    split
    · exact .blocked rfl (Or.inr rfl)
    · split
      · exact .done hfirst _ _
      · exact .refused hfirst _

section Modification

variable {s : Session} (hphase : s.operation.phase = .modify)

include hphase

theorem writes_featureToWrite {α : Type} (row : Row) {x : Feature → Step α}
    (hx : ∀ f, Writes s ((x f).run s)) : Writes s ((featureToWrite row >>= x).run s) := by
  obtain ⟨r, hrun, hinner, -⟩ := run_featureToWrite row hphase
  rw [run_bind, hrun]
  cases r with
  | ok f => exact hx f
  | error fault => exact .blocked (hinner fault rfl) (Or.inl rfl)

theorem writes_insert (row : Row) : Writes s ((insert row).run s) :=
  writes_featureToWrite hphase row fun _ ↦ writes_write _ s

theorem writes_update (row : Row) : Writes s ((update row).run s) := by
  unfold update
  refine writes_featureToWrite hphase row fun f ↦ ?_
  dsimp only
  split
  · exact .blocked rfl (Or.inl rfl)
  · exact writes_write _ s

theorem writes_delete (fid : Int) : Writes s ((delete fid).run s) := by
  rw [delete, run_bind, run_checkModify hphase]
  exact writes_write _ s

end Modification

/-! ## What events can do -/

theorem phase_of_stage {phase : Phase} (h : phase.stage = .modify) : phase = .modify := by
  cases phase with
  | modify => rfl
  | plan _ => cases h
  | scan _ => cases h

/-- Everything that an event can come to. -/
inductive Follows (s : Situation) : Event → Outcome × Situation → Prop
  /-- There is nothing to act on. -/
  | idle {e : Event} (hholder : ∀ op, s.holder ≠ .operation op) : Follows s e (none, s)
  | turned {capabilities : List String} {failsWrites : Bool} :
      Follows s (.turn capabilities failsWrites)
        (some (.ok ()), { s with layer := { s.layer with capabilities, failsWrites } })
  /-- The event does not belong to the phase. -/
  | misused {e : Event} {op : Operation} (hholder : s.holder = .operation op)
      (hfits : ¬ e.Fits op.phase.stage) (m : Misuse) {holder : Holder}
      (hnext : holder = .operation op ∨ holder = .nothing) :
      Follows s e (some (.error (.misuse m)), ⟨holder, s.layer⟩)
  /-- The connection is lost. -/
  | lost {e : Event} {l : Layer} (fault : Fault) (hwrite : ∀ w, e ≠ .write w)
      (hfits : ∀ op, s.holder = .operation op → e.Fits op.phase.stage)
      (hcontents : l.contents = s.layer.contents) :
      Follows s e (some (.error fault), ⟨.nothing, l⟩)
  | planned {tableId : Nat} {table : Catalog.Table} {predicates : List Expr} {bindings : Bindings}
      {settings : Settings.Planner} {c : Connection} (hconnection : s.holder.connection? = some c)
      {op : Operation} {l : Layer} (hop : op.connection = c ∧ op.phase.stage = .plan)
      (hcontents : l.contents = s.layer.contents) :
      Follows s (.plan tableId table predicates bindings settings)
        (some (.ok ()), ⟨.operation op, l⟩)
  | scanning {predicates : List Expr} {bindings : Bindings} {op op' : Operation} {l : Layer}
      (hholder : s.holder = .operation op) (hstage : op.phase.stage = .plan)
      (hop : op'.connection = op.connection ∧ op'.phase.stage = .scan)
      (hcontents : l.contents = s.layer.contents) :
      Follows s (.startScan predicates bindings) (some (.ok ()), ⟨.operation op', l⟩)
  | modifying {op op' : Operation} (hholder : s.holder = .operation op)
      (hstage : op.phase.stage = .plan)
      (hprobe : (op.connection.probe s.layer).1 = true)
      (hconnection : op'.connection = (op.connection.probe s.layer).2) :
      Follows s .startModify (some (.ok ()), ⟨.operation op', s.layer⟩)
  | read {e : Event} {op op' : Operation} {l : Layer} {r : Except Fault Unit}
      (he : e = .nextRow ∨ e = .rescan) (hholder : s.holder = .operation op)
      (hstage : op.phase.stage = .scan)
      (hreads : OnlyReads ⟨op, s.layer⟩ ⟨op', l⟩) : Follows s e (some r, ⟨.operation op', l⟩)
  | wrote {w : Write} {op : Operation} (hholder : s.holder = .operation op)
      (hphase : op.phase = .modify) {r : Except Fault Unit × Session}
      (hwrites : Writes ⟨op, s.layer⟩ r) :
      Follows s (.write w) (some r.1, ⟨.operation r.2.operation, r.2.layer⟩)

theorem Writes.unit {α : Type} {s : Session} {r : Except Fault α × Session} (h : Writes s r) :
    Writes s (r.1.map fun _ ↦ (), r.2) := by
  cases h with
  | blocked hfault hconnection => exact .blocked hfault hconnection
  | refused hprobe reason => exact .refused hprobe reason
  | done hprobe a l => exact .done hprobe () l

namespace Situation

variable {s : Situation}

/-- An action on the operation follows if it does for every operation there may be. -/
theorem follows_act {e : Event} {f : Operation → Outcome × Situation}
    (hf : ∀ op, s.holder = .operation op → Follows s e (f op)) : Follows s e (s.act f) := by
  unfold act
  split
  · next op hholder => exact hf op hholder
  · next hholder => exact .idle hholder

theorem follows_read {α : Type} {e : Event} (he : e = .nextRow ∨ e = .rescan) {x : Step α}
    {m : Misuse}
    (hmisused : ∀ s : Session, s.operation.phase.stage ≠ .scan →
      x.run s = (.error (.misuse m), s))
    (hreads : ∀ s : Session, s.operation.phase.stage = .scan → OnlyReads s (x.run s).2) :
    Follows s e (s.act (s.take · x)) := by
  refine follows_act fun op hholder ↦ ?_
  rw [take]
  by_cases hstage : op.phase.stage = .scan
  · exact .read he hholder hstage (hreads ⟨op, s.layer⟩ hstage)
  · rw [hmisused ⟨op, s.layer⟩ hstage]
    refine .misused hholder (fun hfits ↦ hstage ?_) m (Or.inl rfl)
    rcases he with rfl | rfl <;> exact hfits

theorem follows_write (w : Write) : Follows s (.write w) (s.act (s.write w)) := by
  refine follows_act fun op hholder ↦ ?_
  by_cases hphase : op.phase = .modify
  · cases w with
    | insert row => exact .wrote hholder hphase (writes_insert (s := ⟨op, s.layer⟩) hphase row).unit
    | update row => exact .wrote hholder hphase (writes_update (s := ⟨op, s.layer⟩) hphase row).unit
    | delete fid => exact .wrote hholder hphase (writes_delete (s := ⟨op, s.layer⟩) hphase fid).unit
  · have hfits : ¬ (Event.write w).Fits op.phase.stage := fun h ↦ hphase (phase_of_stage h)
    let session : Session := ⟨op, s.layer⟩
    cases w with
    | insert row =>
      rw [write, take, insert, run_featureToWrite_of_ne (s := session) row hphase]
      exact .misused hholder hfits _ (Or.inl rfl)
    | update row =>
      rw [write, take, update, run_featureToWrite_of_ne (s := session) row hphase]
      exact .misused hholder hfits _ (Or.inl rfl)
    | delete fid =>
      rw [write, take, delete, run_bind, run_checkModify_of_ne (s := session) hphase]
      exact .misused hholder hfits _ (Or.inl rfl)

theorem follows_handOver {e : Event} (he : ∀ w, e ≠ .write w)
    (hfits : ∀ op, s.holder = .operation op → e.Fits op.phase.stage) {c : Connection}
    {stage : Stage} {x : LayerAction Operation} (hx : HandsOver c stage s.layer (x.run s.layer))
    (hfollows : ∀ op l, op.connection = c ∧ op.phase.stage = stage →
      l.contents = s.layer.contents → Follows s e (some (.ok ()), ⟨.operation op, l⟩)) :
    Follows s e (s.handOver x) := by
  rw [handOver]
  obtain ⟨hcontents, hoperation⟩ := hx
  rcases hrun : x.run s.layer with ⟨fault | op, l⟩ <;> rw [hrun] at hcontents hoperation
  · exact .lost fault he hfits hcontents
  · exact hfollows op l (hoperation op rfl) hcontents

theorem follows_startScan (predicates : List Expr) (bindings : Bindings) :
    Follows s (.startScan predicates bindings) (s.perform (.startScan predicates bindings)) := by
  refine follows_act fun op hholder ↦ ?_
  by_cases hstage : op.phase.stage = .plan
  · refine follows_handOver (fun w h ↦ (by cases h)) (fun op' hop' ↦ ?_)
      (handsOver_startScan op predicates bindings s.layer)
      fun op' l hop hcontents ↦ .scanning hholder hstage hop hcontents
    cases hholder.symm.trans hop'
    exact hstage
  · have hfits : ¬ (Event.startScan predicates bindings).Fits op.phase.stage := hstage
    rw [handOver, startScan, run_bind, run_liftM, checkPlanned_of_stage_ne hstage]
    exact .misused hholder hfits _ (Or.inr rfl)

theorem follows_startModify : Follows s .startModify (s.perform .startModify) := by
  refine follows_act fun op hholder ↦ ?_
  rw [handOver, run_bind, run_get]
  dsimp only
  rw [run_liftM, startModify]
  by_cases hstage : op.phase.stage = .plan
  · rw [checkPlanned_of_stage hstage]
    rcases hprobe : op.connection.probe s.layer with ⟨updateable, c⟩
    cases updateable with
    | false =>
      refine .lost _ (fun w h ↦ (by cases h)) (fun op' hop' ↦ ?_) rfl
      cases hholder.symm.trans hop'
      exact hstage
    | true =>
      exact .modifying hholder hstage (by rw [hprobe]) (by rw [hprobe])
  · have hfits : ¬ Event.startModify.Fits op.phase.stage := hstage
    rw [checkPlanned_of_stage_ne hstage]
    exact .misused hholder hfits _ (Or.inr rfl)

/-- **What an event comes to follows.** -/
theorem follows_perform (s : Situation) (e : Event) : Follows s e (s.perform e) := by
  cases e with
  | plan tableId table predicates bindings settings =>
    rw [perform]
    split
    · next c hconnection =>
      refine follows_handOver (fun w h ↦ (by cases h)) (fun op hop ↦ ?_)
        (handsOver_plan tableId c table predicates bindings settings s.layer)
        fun op l hop hcontents ↦ .planned hconnection hop hcontents
      exact trivial
    · next hconnection =>
      refine .idle fun op hholder ↦ ?_
      rw [hholder] at hconnection
      cases hconnection
  | startScan predicates bindings => exact follows_startScan predicates bindings
  | startModify => exact follows_startModify
  | nextRow =>
    refine follows_read (Or.inl rfl) (m := .readOutside) (fun s h ↦ ?_)
      fun s _ ↦ (readsRow_nextRow s).onlyReads
    simp only [Operation.nextRow, run_bind, run_getScan_of_ne h]
  | rescan =>
    refine follows_read (Or.inr rfl) (m := .restartOutside) (fun s h ↦ ?_)
      fun s _ ↦ (restarts_rescan s).onlyReads
    simp only [Operation.rescan, run_bind, run_getScan_of_ne h]
  | write w => exact follows_write w
  | turn capabilities failsWrites => exact .turned

end Situation

end Operation

end ForeignLayer
