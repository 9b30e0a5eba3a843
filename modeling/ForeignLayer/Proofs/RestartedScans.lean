import ForeignLayer.Proofs.CountedRows

/-!
# Scans that are restarted

A scan counts the rows that it hands out, while the layer keeps the place of reading. A call for a
row moves the place even if the feature there cannot be read, and it counts only what it hands out;
a restart sets both back.

What ties them together is the number of calls since the last start. As many of the features under
the filters were taken off, and as many results are known: the result of a call is the row of the
feature at its place, or the fault of reading it, or nothing behind the last feature. The features
themselves never change, so a restart brings a scan back to where it began, wherever it was
interrupted.
-/

namespace ForeignLayer.Operation

open Catalog Layer Predicate

/-! ## Readings -/

/-- A scan in use, and what the calls for a row have come to since it was last started. -/
structure Reading where
  session : Session
  results : List (Result (Option Row)) := []

/-- A call of a scan: for the next row, or to start over. -/
inductive ScanCall where
  | next
  | restart

namespace Reading

/-- A reading after a call. A restart that fails does not start anything. -/
def take (r : Reading) : ScanCall → Reading
  | .next =>
    let (result, s) := nextRow.run r.session
    ⟨s, r.results ++ [result]⟩
  | .restart =>
    match rescan.run r.session with
    | (.ok (), s) => ⟨s, []⟩
    | (.error _, s) => ⟨s, r.results⟩

/-- A reading after some calls. -/
def run (r : Reading) (calls : List ScanCall) : Reading := calls.foldl take r

theorem run_append (r : Reading) (calls others : List ScanCall) :
    r.run (calls ++ others) = (r.run calls).run others := List.foldl_append

end Reading

/-- What the call for a row at a place comes to: the row of the feature there, or the fault of
reading it. Behind the last feature there is no row. -/
def resultAt (table : Table) (fs : List Feature) (place : Nat) : Result (Option Row) :=
  match fs[place]? with
  | some f => (rowOf table f).map some
  | none => .ok none

/-- Whether a call for a row has handed one out. -/
def isRow : Result (Option Row) → Bool
  | .ok (some _) => true
  | _ => false

/-- What a call for a row comes to in a scan whose layer has some features to be read: it counts
what it hands out, and the layer goes on. -/
theorem exists_run_nextRow {s : Session} {scan : Scan} (hphase : s.operation.phase = .scan scan)
    (hopen : s.operation.connection.checkLayer = .ok ()) {fs : List Feature} {place : Nat}
    (hremaining : s.layer.remaining = fs.drop place) :
    ∃ scan' : Scan, nextRow.run s = (resultAt s.operation.table fs place,
        ⟨{ s.operation with phase := .scan scan' }, s.layer.next.2⟩) ∧
      scan'.rows = scan.rows + [resultAt s.operation.table fs place].countP isRow := by
  obtain ⟨hfound, -⟩ := (reads_next s.layer).remaining
  rw [hremaining, List.head?_drop] at hfound
  have hsame : { s.operation with phase := .scan scan } = s.operation := by rw [← hphase]
  rw [run_nextRow hphase hopen, resultAt, ← hfound]
  rcases s.layer.next with ⟨_ | f, l⟩
  · exact ⟨scan, by rw [hsame], rfl⟩
  · dsimp only
    cases rowOf s.operation.table f with
    | error fault => exact ⟨scan, by rw [hsame]; rfl, rfl⟩
    | ok row => exact ⟨{ scan with rows := scan.rows + 1 }, rfl, rfl⟩

namespace Reading

/-! ## The invariant -/

/-- How a reading stands that goes through some features: as many are behind it as calls were made
since the last start, and the results of these calls are known. -/
structure Stands (table : Table) (fs : List Feature) (r : Reading) : Prop where
  usable : r.session.operation.connection.checkLayer = .ok ()
  sameTable : r.session.operation.table = table
  counted : ∃ scan : Scan, r.session.operation.phase = .scan scan ∧
    scan.rows = r.results.countP isRow
  results : r.results = (List.range r.results.length).map (resultAt table fs)
  remaining : r.session.layer.remaining = fs.drop r.results.length
  /-- Started over, the layer has all of the features to be read. -/
  whole : r.session.layer.reset.remaining = fs

variable {table : Table} {fs : List Feature} {r r' : Reading}

/-- A call for a row adds the result at its place. -/
theorem Stands.next (h : Stands table fs r) :
    (r.take .next).results = r.results ++ [resultAt table fs r.results.length] ∧
      Stands table fs (r.take .next) := by
  obtain ⟨scan, hphase, hrows⟩ := h.counted
  obtain ⟨scan', hrun, hrows'⟩ := exists_run_nextRow hphase h.usable h.remaining
  rw [h.sameTable] at hrun hrows'
  have htake : r.take .next = ⟨⟨{ r.session.operation with phase := .scan scan' },
      r.session.layer.next.2⟩, r.results ++ [resultAt table fs r.results.length]⟩ := by
    rw [take, hrun]
  obtain ⟨-, hrest⟩ := (reads_next r.session.layer).remaining
  rw [htake]
  refine ⟨rfl, h.usable, h.sameTable, ⟨scan', rfl, ?_⟩, ?_, ?_, h.whole⟩
  · rw [hrows', hrows, List.countP_append]
  · rw [List.length_append, List.length_singleton, List.range_succ, List.map_append, ← h.results,
      List.map_singleton]
  · rw [hrest, h.remaining, List.tail_drop, List.length_append, List.length_singleton]

theorem Stands.restart (h : Stands table fs r) :
    (r.take .restart).results = [] ∧ Stands table fs (r.take .restart) := by
  obtain ⟨scan, hphase, -⟩ := h.counted
  have htake : r.take .restart = ⟨⟨{ r.session.operation with
      phase := .scan { scan with rows := 0 } }, r.session.layer.reset⟩, []⟩ := by
    rw [take, run_rescan hphase h.usable]
  rw [htake]
  exact ⟨rfl, h.usable, h.sameTable, ⟨{ scan with rows := 0 }, rfl, rfl⟩, rfl, h.whole, h.whole⟩

theorem Stands.take (h : Stands table fs r) (c : ScanCall) : Stands table fs (r.take c) := by
  cases c with
  | next => exact h.next.2
  | restart => exact h.restart.2

theorem Stands.run (h : Stands table fs r) (calls : List ScanCall) :
    Stands table fs (r.run calls) := by
  induction calls generalizing r with
  | nil => exact h
  | cons c calls ih => exact ih (h.take c)

/-- Readings of the same features that have come to the same results go on in the same way. -/
theorem Stands.results_run (h : Stands table fs r) (h' : Stands table fs r')
    (hsame : r.results = r'.results) (calls : List ScanCall) :
    (r.run calls).results = (r'.run calls).results := by
  induction calls generalizing r r' with
  | nil => exact hsame
  | cons c calls ih =>
    refine ih (h.take c) (h'.take c) ?_
    cases c with
    | next => rw [h.next.1, h'.next.1, hsame]
    | restart => rw [h.restart.1, h'.restart.1]

/-! ## Restarts -/

/-- Whether a reading goes through some features from the first on, and again after every
restart. -/
structure Restartable (table : Table) (fs : List Feature) (start : Reading) : Prop where
  /-- At every moment as many rows are counted as were handed out since the last start. -/
  counted : ∀ calls, ∃ scan : Scan, (start.run calls).session.operation.phase = .scan scan ∧
    scan.rows = (start.run calls).results.countP isRow
  /-- The calls since then came to one result for every feature, in their order, and to nothing
  from then on. -/
  results : ∀ calls, (start.run calls).results =
    (List.range (start.run calls).results.length).map (resultAt table fs)
  /-- A call for a row always comes to something. -/
  next : ∀ calls, (start.run (calls ++ [.next])).results.length =
    (start.run calls).results.length + 1
  /-- Starting over is always possible. -/
  restart : ∀ calls, (rescan.run (start.run calls).session).1 = .ok () ∧
    (start.run (calls ++ [.restart])).results = []
  /-- After a restart everything is as it was after the start. -/
  again : ∀ calls others,
    (start.run (calls ++ .restart :: others)).results = (start.run others).results

theorem Stands.restartable (h : Stands table fs r) (hempty : r.results = []) :
    Restartable table fs r where
  counted calls := (h.run calls).counted
  results calls := (h.run calls).results
  next calls := by
    rw [run_append]
    exact (congrArg List.length (h.run calls).next.1).trans List.length_append
  restart calls := by
    obtain ⟨scan, hphase, -⟩ := (h.run calls).counted
    rw [run_rescan hphase (h.run calls).usable, run_append]
    exact ⟨rfl, (h.run calls).restart.1⟩
  again calls others := by
    obtain ⟨hresults, hstands⟩ := (h.run calls).restart
    rw [run_append]
    exact hstands.results_run h (hresults.trans hempty.symm) others

end Reading

variable {l l' : Layer} {op op' : Operation} {predicates : List Expr} {bindings : Bindings}

theorem Applied.remaining_reset {plan : Predicate.Plan} (h : Applied plan l (.ok (), l')) :
    l'.reset.remaining = l'.remaining := by
  cases h <;> rfl

theorem exists_of_startScan (h : (startScan op predicates bindings).run l = (.ok op', l')) :
    op'.connection.checkLayer = .ok () ∧ op'.table = op.table ∧
      (∃ scan : Scan, op'.phase = .scan scan ∧ scan.rows = 0) ∧
      Applied (planOf op.table op.connection predicates bindings) l (.ok (), l') := by
  have hstarted := started_startScan op predicates bindings l
  rw [h] at hstarted
  cases hstarted with
  | started _ hopen hplan happlied =>
    subst hplan
    exact ⟨hopen, rfl, ⟨_, rfl, rfl⟩, happlied⟩

/-- **A scan can be restarted at any point.** It goes through the features that match the filters of
its plan, in the order of the layer, and after a restart it does so again from the first. -/
theorem restartable_of_startScan (h : (startScan op predicates bindings).run l = (.ok op', l')) :
    ∃ condition, Takes l (planOf op.table op.connection predicates bindings).filter condition ∧
      Reading.Restartable op.table
        (l.features.filter
          (admits condition (planOf op.table op.connection predicates bindings).spatial))
        ⟨⟨op', l'⟩, []⟩ := by
  obtain ⟨hopen, htable, hphase, happlied⟩ := exists_of_startScan h
  obtain ⟨⟨condition, htakes⟩, -⟩ := happlied.takes
  have hremaining := happlied.remaining htakes
  refine ⟨condition, htakes, Reading.Stands.restartable ?_ rfl⟩
  exact ⟨hopen, htable, hphase, rfl, hremaining, happlied.remaining_reset.trans hremaining⟩

/-! ## Beacons -/

/-- A layer of beacons, whose heights are texts. -/
private def beaconsLayer : Layer where
  definition := ⟨"beacons", [⟨"light", .string⟩, ⟨"height", .string⟩], [], none⟩
  features := [⟨some 1, [.ofText "red", .ofText "4"], none⟩,
    ⟨some 2, [.ofText "red", .ofText "tall"], none⟩,
    ⟨some 3, [.ofText "green", .ofText "9"], none⟩,
    ⟨some 4, [.ofText "red", .ofText "7"], none⟩]
  nextFid := 5

/-- A table that reads the heights as numbers. -/
private def beaconsTable : Table where
  name := "beacons"
  layerName := "beacons"
  columns := [⟨0, "light", false, .plain .utf8, -1, .field 0 ⟨"light", .string⟩,
      (Conversion.resolve (.plain .utf8)).toOption⟩,
    ⟨1, "height", false, .plain .int32, -1, .field 1 ⟨"height", .string⟩,
      (Conversion.resolve (.plain .int32)).toOption⟩]

private theorem bind_beacons :
    Table.bind "beacons" [⟨"light", .utf8, []⟩, ⟨"height", .int32, []⟩] [] beaconsLayer.definition
      {} = .ok beaconsTable := by
  have hbind : (Table.bind "beacons" [⟨"light", .utf8, []⟩, ⟨"height", .int32, []⟩] []
      beaconsLayer.definition {}).toOption = some beaconsTable := by
    decide +kernel
  exact toOption_eq_some.mp hbind

/-- A scan of the beacons is planned. -/
private def beaconsPlan : Operation :=
  ⟨7, ⟨{ datasource := "beacons.gpkg" }, "beacons", .yes, .yes, .utf8,
    some { layers := [beaconsLayer] }⟩, beaconsTable, .plan ⟨4, ⟨0⟩, ⟨0⟩, [true]⟩⟩

private def isRed : Expr :=
  .binary (.compare .eq) (.column "light" none) (.literal (.ofText "red"))

/-- A scan of the red beacons goes through three of them, one with a height that cannot be read. -/
theorem restartable_beacons : ∃ op' l' fs,
    (startScan beaconsPlan [isRed] []).run beaconsLayer = (.ok op', l') ∧
      fs.map (fun f ↦ (f.fid, (rowOf beaconsTable f).toOption)) =
        [(some 1, some [.ofText "red", .of .int32 4]), (some 2, none),
          (some 4, some [.ofText "red", .of .int32 7])] ∧
      Reading.Restartable beaconsTable fs ⟨⟨op', l'⟩, []⟩ := by
  let isRedLight : Filter.Condition := .compare 0 .eq (.ofText "red")
  have hfilter : (planOf beaconsTable beaconsPlan.connection [isRed] []).filter =
      some "\"light\" = 'red'" := by
    cbv
  have hnone : (planOf beaconsTable beaconsPlan.connection [isRed] []).spatial = none := by
    cbv
  have hread : (Filter.Condition.read beaconsLayer.definition "\"light\" = 'red'").toOption =
      some isRedLight := by
    cbv
  have hrows : (beaconsLayer.features.filter (admits isRedLight none)).map
      (fun f ↦ (f.fid, (rowOf beaconsTable f).toOption)) =
        [(some 1, some [.ofText "red", .of .int32 4]), (some 2, none),
          (some 4, some [.ofText "red", .of .int32 7])] := by
    cbv
  have htakes : Takes beaconsLayer (some "\"light\" = 'red'") isRedLight :=
    .some rfl (toOption_eq_some.mp hread)
  have hphase : beaconsPlan.phase = .plan ⟨4, ⟨0⟩, ⟨0⟩, [true]⟩ := rfl
  obtain ⟨scan, l', hstarted, -⟩ := run_startScan hphase rfl rfl
    (field_lt_of_planOf bind_beacons beaconsPlan.connection [isRed] []) (hfilter ▸ htakes)
  obtain ⟨condition, htakes', hrestartable⟩ := restartable_of_startScan hstarted
  cases (hfilter ▸ htakes').unique htakes
  exact ⟨_, l', _, hstarted, hrows, hnone ▸ hrestartable⟩

end ForeignLayer.Operation
