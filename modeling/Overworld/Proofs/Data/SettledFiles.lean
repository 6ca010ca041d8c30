import Overworld.Proofs.Data.FirstFlaw

/-!
# Files that have settled

An editor writes to the files of a data set, and ends each save by giving a marker table a new time.
After its last save the files can be read and hold what they hold from then on. So every load from
then on gives what the last save has left in the files, if nothing is wrong with it, and every
fingerprint is the same.
-/

namespace Overworld

/-- A snapshot as far as its files go. -/
def Snapshot.definition (s : Snapshot) : Snapshot := { s with map := s.map.definition }

/-- What files hold is the definition of a snapshot. -/
theorem Snapshot.definition_held {layout : DataLayout} {contents : FilePath → Except Fault Bytes}
    {map : UInt32} {s : Snapshot} :
    s.definition.Held layout contents map ↔ s.Held layout contents map := by
  simp only [held_iff, definition, FieldMap.definition_definedBy]

/-- Snapshots with the same definition have the same from files. -/
theorem Snapshot.Held.congr {layout : DataLayout} {contents : FilePath → Except Fault Bytes}
    {map : UInt32} {s s' : Snapshot} (h : s.Held layout contents map)
    (hsame : s'.definition = s.definition) : s'.Held layout contents map := by
  rw [← definition_held, hsame, definition_held]
  exact h

namespace Chronicle

section

variable {σ : Type} [DataSource (StateM σ)] [BitmapLoader (StateM σ)]

/-- The last save of an editor, as it shows in the answers of a data source. Whatever was saved
before, the editor has ended this save at the instant `stop` by giving the marker the time `last`,
and it writes nothing after that. -/
structure LastSave (ch : Chronicle σ) (layout : DataLayout) (map : UInt32) (marker : TableKind) where
  stop : Nat
  last : Stamp
  /-- The time that the marker has at an instant, if it can be looked at. -/
  stamped : Nat → Option Stamp
  stamped_last {instant : Nat} : stop ≤ instant → stamped instant = some last
  /-- The marker never had this time before. -/
  stamped_fresh {instant : Nat} : instant < stop → stamped instant ≠ some last
  /-- A look at the marker that succeeds gives the time that it has at an instant of the look. -/
  modified_at {seen : Stamp} {s s' : σ} :
    Yields (DataSource.modified (layout.tablePath marker)) s (.ok seen) s' →
      ∃ instant, ch.clock s ≤ instant ∧ instant ≤ ch.clock s' ∧ stamped instant = some seen
  /-- Nobody is in the way of a look after the save. -/
  modified_settled {answer : Except Fault Stamp} {s s' : σ} : stop ≤ ch.clock s →
    Yields (DataSource.modified (layout.tablePath marker)) s answer s' → ∃ seen, answer = .ok seen
  /-- The files are there and nothing is written to them after the save. -/
  holds_settled {path : FilePath} : path ∈ dataFiles layout map →
    ∃ bytes, ∀ instant, stop ≤ instant → ch.holds instant path = some bytes
  /-- Nobody is in the way of a read after the save. -/
  read_settled {path : FilePath} {answer : Except Fault Bytes} {s s' : σ} :
    path ∈ dataFiles layout map → stop ≤ ch.clock s →
      Yields (DataSource.read path) s answer s' → ∃ bytes, answer = .ok bytes

end

namespace LastSave

variable {σ : Type} [DataSource (StateM σ)] [BitmapLoader (StateM σ)] {ch : Chronicle σ}
  {layout : DataLayout} {map : UInt32} {marker : TableKind} {α β : Type}
  (save : ch.LastSave layout map marker)

/-- The files as the last save leaves them. -/
def files : StillFiles := ch.still save.stop

/-- After the last save a look at the marker gives the time of that save, and only after it. -/
theorem modified_eq_last {seen : Stamp} {s s' : σ}
    (h : Yields (DataSource.modified (layout.tablePath marker)) s (.ok seen) s') :
    (save.stop ≤ ch.clock s → seen = save.last) ∧ (seen = save.last → save.stop ≤ ch.clock s') := by
  obtain ⟨instant, hstart, hend, hstamped⟩ := save.modified_at h
  constructor
  · intro hstop
    exact Option.some.inj (hstamped.symm.trans (save.stamped_last (by omega)))
  · rintro rfl
    by_contra hearly
    exact save.stamped_fresh (by omega) hstamped

/-- After the last save a computation always gives the same. -/
def Firm (x : Reading (StateM σ) α) (a : α) : Prop :=
  ∀ s r s', save.stop ≤ ch.clock s → Yields x.run s r s' → r = .ok a ∧ save.stop ≤ ch.clock s'

/-- An answer that reads nothing is always the same. -/
theorem Firm.pure (a : α) : save.Firm (Pure.pure a) a := by
  intro s r s' hstop h
  obtain ⟨rfl, rfl⟩ := yields_except_pure.mp h
  exact ⟨rfl, hstop⟩

variable {save}

/-- Two computations in a row. -/
theorem Firm.bind {x : Reading (StateM σ) α} {f : α → Reading (StateM σ) β} {a : α} {b : β}
    (hx : save.Firm x a) (hf : save.Firm (f a) b) : save.Firm (x >>= f) b := by
  intro s r s' hstop h
  rcases yields_except_bind.mp h with ⟨a', s₁, hfirst, hsecond⟩ | ⟨fault, hfirst, -⟩
  · obtain ⟨ha, hstop₁⟩ := hx _ _ _ hstop hfirst
    cases ha
    exact hf _ _ _ hstop₁ hsecond
  · cases (hx _ _ _ hstop hfirst).1

variable (save)

/-- A file of the data set is there after the last save. -/
theorem answer_settled {path : FilePath} (hpath : path ∈ dataFiles layout map) :
    ∃ bytes, save.files.answer path = .ok bytes ∧
      ∀ instant, save.stop ≤ instant → ch.holds instant path = some bytes := by
  obtain ⟨bytes, hbytes⟩ := save.holds_settled hpath
  have hstop : ch.holds save.stop path = some bytes := hbytes _ (Nat.le_refl _)
  refine ⟨bytes, ?_, hbytes⟩
  simp only [StillFiles.answer, files, still, hstop]

/-- The files of the data set give what the last save has left in them. -/
theorem standing : StandingFiles {s | save.stop ≤ ch.clock s} save.files.answer
    (dataFiles layout map) := by
  intro path hpath s hstop answer s' h
  obtain ⟨bytes, hanswer, hbytes⟩ := save.answer_settled hpath
  obtain ⟨bytes', rfl⟩ := save.read_settled hpath hstop h
  obtain ⟨instant, hstart, hend, hholds⟩ := ch.read_at h
  have hafter : save.stop ≤ instant := Nat.le_trans hstop hstart
  obtain rfl : bytes' = bytes := Option.some.inj (hholds.symm.trans (hbytes instant hafter))
  exact ⟨hanswer.symm, Nat.le_trans hafter hend⟩

/-- A read of a file of the data set always gives the same bytes. -/
theorem firm_read {path : FilePath} (hpath : path ∈ dataFiles layout map) :
    ∃ bytes, save.Firm (ExceptT.mk (DataSource.read path)) bytes := by
  obtain ⟨bytes, hanswer, -⟩ := save.answer_settled hpath
  refine ⟨bytes, fun s r s' hstop h => ?_⟩
  obtain ⟨rfl, hstop'⟩ := save.standing path hpath s hstop r s' h
  exact ⟨hanswer, hstop'⟩

/-- The tables always give the same bytes. -/
theorem firm_tablesStream (stream : Bytes) {kinds : List TableKind} :
    ∃ out, save.Firm (tablesStream layout stream kinds) out := by
  induction kinds generalizing stream with
  | nil => exact ⟨stream, .pure save stream⟩
  | cons kind kinds ih =>
    obtain ⟨bytes, hread⟩ := save.firm_read (tablePath_mem_dataFiles kind)
    obtain ⟨out, hout⟩ := ih (stream ++ tableStream kind bytes)
    exact ⟨out, hread.bind hout⟩

/-- The data set always has the same fingerprint. -/
theorem firm_fingerprint : ∃ print, save.Firm (fingerprint layout map) print := by
  obtain ⟨tables, htables⟩ := save.firm_tablesStream []
  have hstream : ∃ stream, save.Firm (dataStream layout map) stream := by
    by_cases hmap : map = 0
    · refine ⟨tables, htables.bind ?_⟩
      rw [if_pos hmap]
      exact .pure save tables
    · obtain ⟨bytes, hread⟩ := save.firm_read (mapPath_mem_dataFiles hmap)
      refine ⟨tables ++ mapStream bytes, htables.bind ?_⟩
      rw [if_neg hmap]
      exact hread.bind (.pure save _)
  obtain ⟨stream, hstream⟩ := hstream
  exact ⟨_, hstream.bind (.pure save _)⟩

/-- After the last save every load gives what that save has left in the files, if nothing is wrong
with it. -/
theorem load_held {switches : SelfSwitches} {s s' : σ} {loaded : Except Fault Snapshot}
    (hgood : ∀ part ∈ dataParts map, ¬ part.Bad layout save.files.answer)
    (hstop : save.stop ≤ ch.clock s)
    (h : Yields (Snapshot.load layout map switches).run s loaded s') :
    save.stop ≤ ch.clock s' ∧
      ∃ snapshot, loaded = .ok snapshot ∧ snapshot.Held layout save.files.answer map := by
  obtain ⟨hstop', houtcome⟩ := loads_snapshot save.standing switches s hstop loaded s' h
  refine ⟨hstop', ?_⟩
  cases houtcome with
  | loaded _ hheld => exact ⟨_, rfl, hheld⟩
  | blamed hparts _ hflaw =>
    have hmem := hparts ▸ List.mem_append_right _ List.mem_cons_self
    exact absurd ⟨_, hflaw⟩ (hgood _ hmem)

end LastSave

end Chronicle

end Overworld
