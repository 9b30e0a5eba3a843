import ForeignLayer.Operation
import ForeignLayer.Proofs.Results

/-!
# How steps run

A step acts on what it changes and may end in a fault; what was changed before the fault stays
changed. Each equation here says what one building block of steps gives and what it leaves behind,
so that a step is evaluated by rewriting from its first action on.
-/

namespace ForeignLayer.Operation

section Actions

variable {ε σ α β : Type}

theorem run_bind (x : ExceptT ε (StateM σ) α) (f : α → ExceptT ε (StateM σ) β) (s : σ) :
    (x >>= f).run s = match x.run s with
      | (.ok a, s') => (f a).run s'
      | (.error e, s') => (.error e, s') := by
  have hbind : (x >>= f).run s = (ExceptT.bindCont f (x.run s).1).run (x.run s).2 := rfl
  rw [hbind]
  rcases x.run s with ⟨_ | a, s'⟩ <;> rfl

theorem run_pure (a : α) (s : σ) : (pure a : ExceptT ε (StateM σ) α).run s = (.ok a, s) := rfl

theorem run_get (s : σ) : (get : ExceptT ε (StateM σ) σ).run s = (.ok s, s) := rfl

theorem run_set (s s' : σ) : (set s' : ExceptT ε (StateM σ) PUnit).run s = (.ok (), s') := rfl

theorem run_modify (f : σ → σ) (s : σ) :
    (modify f : ExceptT ε (StateM σ) PUnit).run s = (.ok (), f s) := rfl

theorem run_liftM (r : Except ε α) (s : σ) :
    (liftM r : ExceptT ε (StateM σ) α).run s = (r, s) := rfl

theorem run_ofConnection (r : Except Connection.Fault α) (s : σ) :
    (ofConnection r : ExceptT Fault (StateM σ) α).run s = (r.mapError .connection, s) := by
  cases r <;> rfl

/-- Two actions came to a value if the first did, and the second did from what the first left. -/
theorem run_bind_eq_ok {x : ExceptT ε (StateM σ) α} {f : α → ExceptT ε (StateM σ) β} {s s'' : σ}
    {b : β} : (x >>= f).run s = (.ok b, s'') ↔
      ∃ a s', x.run s = (.ok a, s') ∧ (f a).run s' = (.ok b, s'') := by
  rw [run_bind]
  rcases x.run s with ⟨fault | a, s'⟩
  · refine iff_of_false (fun h ↦ ?_) (fun ⟨_, _, h, _⟩ ↦ ?_) <;> cases h
  · refine ⟨fun h ↦ ⟨a, s', rfl, h⟩, ?_⟩
    rintro ⟨_, _, ⟨⟩, h⟩
    exact h

theorem eq_ok_of_fst {r : Except ε α × σ} {a : α} (h : r.1 = .ok a) : r = (.ok a, r.2) :=
  Prod.ext h rfl

theorem eq_ok_of_toOption {r : Except ε α × σ} {a : α} (h : r.1.toOption = some a) :
    r = (.ok a, r.2) := by
  obtain ⟨_ | a', s⟩ := r
  · cases h
  · cases h
    rfl

end Actions

/-! ## Sessions -/

theorem run_getConnection (s : Session) :
    getConnection.run s = (.ok s.operation.connection, s) := rfl

theorem run_setLayer (l : Layer) (s : Session) :
    (setLayer l).run s = (.ok (), { s with layer := l }) := rfl

theorem run_getScan {s : Session} {scan : Scan} (h : s.operation.phase = .scan scan) (m : Misuse) :
    (getScan m).run s = (.ok scan, s) := by
  simp only [getScan, run_bind, run_get, h, run_pure]

/-- A scan reads what its layer hands out, and counts the row if there is one. -/
theorem run_nextRow {s : Session} {scan : Scan} (hphase : s.operation.phase = .scan scan)
    (hopen : s.operation.connection.checkLayer = .ok ()) :
    nextRow.run s = match s.layer.next with
      | (none, l) => (.ok none, { s with layer := l })
      | (some f, l) =>
        match rowOf s.operation.table f with
        | .error fault => (.error fault, { s with layer := l })
        | .ok row => (.ok (some row),
          ⟨{ s.operation with phase := .scan { scan with rows := scan.rows + 1 } }, l⟩) := by
  simp only [nextRow, run_bind, run_getScan hphase, run_getConnection, hopen, run_ofConnection,
    Except.mapError, run_get, run_setLayer]
  rcases s.layer.next with ⟨_ | f, l⟩
  · rfl
  · simp only [run_bind, run_get, run_liftM]
    cases rowOf s.operation.table f <;> rfl

theorem run_rescan {s : Session} {scan : Scan} (hphase : s.operation.phase = .scan scan)
    (hopen : s.operation.connection.checkLayer = .ok ()) :
    rescan.run s =
      (.ok (), ⟨{ s.operation with phase := .scan { scan with rows := 0 } }, s.layer.reset⟩) := by
  simp only [rescan, run_bind, run_getScan hphase, run_getConnection, hopen, run_ofConnection,
    Except.mapError, run_get, run_setLayer]
  rfl

/-! ## Layers -/

theorem run_change (f : Layer → Except Layer.Fault Layer) (l : Layer) :
    (change f).run l = match f l with
      | .ok l' => (.ok (), l')
      | .error reason => (.error (.layer reason), l) := by
  simp only [change, run_bind, run_get]
  cases f l <;> rfl

end ForeignLayer.Operation
