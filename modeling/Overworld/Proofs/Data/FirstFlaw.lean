import Mathlib.Data.List.Forall2
import Overworld.Proofs.Data.Chronicle
import Overworld.Proofs.Json.Kept
import Overworld.Proofs.Map.SetUp

/-!
# Flaws of a data set

A file of a data set can be missing or out of reach, it can hold something else than it should, and
a map can be too large. A data set is loaded file by file, and the first file with such a flaw ends
the load and is blamed for it. So a load fails only on data that is bad, and what it gives is what
all the files hold.
-/

namespace Overworld

namespace Json

variable {α : Type} {shape : Shape α}

/-- A text is an array, and these are the records that its items are read as, one by one. -/
def HoldsRecords (shape : Shape α) (bytes : List UInt8) (records : List α) : Prop :=
  ∃ deep items, Document.ofBytes bytes = { root := .arr deep items .closed, trailing := false } ∧
    List.Forall₂ (fun item record => shape item = .ok record) items records

/-- Items are read if every one of them is. -/
theorem Shape.items_eq_ok {items : List Draft} {records : List α} :
    Shape.items shape items = .ok records ↔
      List.Forall₂ (fun item record => shape item = .ok record) items records := by
  induction items generalizing records with
  | nil => cases records <;> simp [Shape.items]
  | cons item items ih =>
    simp only [Shape.items, bind_eq_ok, ih, Except.ok.injEq, List.forall₂_cons_left_iff]
    constructor
    · rintro ⟨record, hrecord, rest, hrest, rfl⟩
      exact ⟨record, rest, hrecord, hrest, rfl⟩
    · rintro ⟨record, rest, hrecord, hrest, rfl⟩
      exact ⟨record, hrecord, rest, hrest, rfl⟩

/-- Arrays are read if they are complete and every item is read. -/
theorem Shape.list_eq_ok {draft : Draft} {records : List α} :
    Shape.list shape draft = .ok records ↔ ∃ deep items, draft = .arr deep items .closed ∧
      List.Forall₂ (fun item record => shape item = .ok record) items records := by
  constructor
  · intro h
    cases draft with
    | arr deep items ending =>
      obtain ⟨values, hvalues, h⟩ := bind_eq_ok.mp h
      obtain ⟨_, hending, h⟩ := bind_eq_ok.mp h
      cases h
      cases ending with
      | closed => exact ⟨deep, items, rfl, items_eq_ok.mp hvalues⟩
      | stopped => cases hending
    | _ => cases h
  · rintro ⟨deep, items, rfl, h⟩
    simp only [Shape.list, items_eq_ok.mpr h]
    rfl

/-- A text is read if its only value is. -/
theorem read_eq_ok {bytes : List UInt8} {a : α} :
    read shape bytes = .ok a ↔
      shape (Document.ofBytes bytes).root = .ok a ∧ (Document.ofBytes bytes).trailing = false := by
  simp only [read, bind_eq_ok]
  constructor
  · rintro ⟨b, hroot, h⟩
    split at h
    · cases h
    case isFalse htrailing =>
      cases h
      exact ⟨hroot, Bool.eq_false_iff.mpr htrailing⟩
  · rintro ⟨hroot, htrailing⟩
    exact ⟨a, hroot, by rw [htrailing, if_neg Bool.false_ne_true]⟩

/-- A text is read as an array of records if it holds them. -/
theorem read_list_eq_ok {bytes : List UInt8} {records : List α} :
    read (.list shape) bytes = .ok records ↔ HoldsRecords shape bytes records := by
  rw [read_eq_ok, Shape.list_eq_ok]
  constructor
  · rintro ⟨⟨deep, items, hroot, hitems⟩, htrailing⟩
    refine ⟨deep, items, ?_, hitems⟩
    rw [← hroot, ← htrailing]
  · rintro ⟨deep, items, hdocument, hitems⟩
    rw [hdocument]
    exact ⟨⟨deep, items, rfl, hitems⟩, rfl⟩

end Json

/-- A file of a data set. -/
inductive DataPart where
  | table (kind : TableKind)
  | map (id : UInt32)

/-- The files of a data set in the order of blame; map 0 has none. -/
def dataParts (map : UInt32) : List DataPart :=
  [.table .actors, .table .items, .table .armors, .table .animations, .table .tilesets,
    .table .commonEvents] ++ if map = 0 then [] else [.map map]

namespace DataPart

/-- The name of a file in faults. -/
def label : DataPart → String
  | .table kind => kind.label
  | .map _ => "Map"

/-- Where a file is. -/
def path (layout : DataLayout) : DataPart → FilePath
  | .table kind => layout.tablePath kind
  | .map id => layout.mapPath id

/-- A file holds what it should: a table a list of its records, a map one record. -/
def Decodes : DataPart → Bytes → Prop
  | .table .tilesets, bytes => ∃ records, Json.HoldsRecords Tileset.shape bytes records
  | .table .commonEvents, bytes => ∃ records, Json.HoldsRecords CommonEvent.shape bytes records
  | .table _, bytes => ∃ records, Json.HoldsRecords Json.Shape.value bytes records
  | .map _, bytes => ∃ record, Json.read MapRecord.shape bytes = .ok record

/-- What can be wrong with a file, by the answer to a read of it, and the cause that a fault gives
for it. -/
inductive Flaw (layout : DataLayout) (part : DataPart) : Except Fault Bytes → Fault → Prop
  | unreadable (fault : Fault) : part.Flaw layout (.error fault) fault
  | undecodable {bytes : Bytes} (defect : Json.Defect) (h : ¬ part.Decodes bytes) :
    part.Flaw layout (.ok bytes) (.during (.parseFile (part.path layout)) (.json defect))
  | tooLarge {id : UInt32} {bytes : Bytes} {record : MapRecord} (hmap : part = .map id)
    (hread : Json.read MapRecord.shape bytes = .ok record)
    (h : 2048 < record.width.toNat ∨ 2048 < record.height.toNat) :
    part.Flaw layout (.ok bytes) (.mapTooLarge record.width record.height)

/-- Something is wrong with a file. -/
def Bad (layout : DataLayout) (contents : FilePath → Except Fault Bytes) (part : DataPart) : Prop :=
  ∃ cause, part.Flaw layout (contents (part.path layout)) cause

/-- The files of a data set are where a load looks for them. -/
theorem path_mem_dataFiles {layout : DataLayout} {map : UInt32} {part : DataPart}
    (h : part ∈ dataParts map) : part.path layout ∈ dataFiles layout map := by
  cases part with
  | table kind => exact Chronicle.tablePath_mem_dataFiles kind
  | map id =>
    by_cases hmap : map = 0
    · simp [dataParts, hmap] at h
    · obtain rfl : id = map := by simpa [dataParts, hmap] using h
      exact Chronicle.mapPath_mem_dataFiles hmap

/-- A table is fine if its file can be read and holds a list of its records. -/
theorem not_bad_table_iff {layout : DataLayout} {contents : FilePath → Except Fault Bytes}
    {kind : TableKind} : ¬ (table kind).Bad layout contents ↔
      ∃ bytes, contents (layout.tablePath kind) = .ok bytes ∧ (table kind).Decodes bytes := by
  unfold Bad
  rw [path]
  constructor
  · intro h
    cases hread : contents (layout.tablePath kind) with
    | error fault => exact absurd ⟨fault, hread ▸ .unreadable fault⟩ h
    | ok bytes =>
      refine ⟨bytes, rfl, ?_⟩
      by_contra hnone
      refine h ⟨.during (.parseFile (layout.tablePath kind)) (.json .malformed), ?_⟩
      rw [hread]
      exact .undecodable .malformed hnone
  · rintro ⟨bytes, hread, hdecodes⟩ ⟨cause, hflaw⟩
    rw [hread] at hflaw
    cases hflaw with
    | undecodable _ hnone => exact hnone hdecodes
    | tooLarge hmap => cases hmap

end DataPart

/-- A file of a data set holds the records of a table. -/
def TableHeld {α : Type} (layout : DataLayout) (contents : FilePath → Except Fault Bytes)
    (kind : TableKind) (shape : Json.Shape α) (records : List α) : Prop :=
  ∃ bytes, contents (layout.tablePath kind) = .ok bytes ∧ Json.HoldsRecords shape bytes records

/-- The files of a data set hold its tables. -/
structure DataTables.Held (layout : DataLayout) (contents : FilePath → Except Fault Bytes)
    (tables : DataTables) : Prop where
  actors : TableHeld layout contents .actors .value tables.actors
  items : TableHeld layout contents .items .value tables.items
  armors : TableHeld layout contents .armors .value tables.armors
  animations : TableHeld layout contents .animations .value tables.animations
  tilesets : TableHeld layout contents .tilesets Tileset.shape tables.tilesets
  commonEvents : TableHeld layout contents .commonEvents CommonEvent.shape tables.commonEvents

/-- A file of a data set holds a map that is not too large. -/
def MapHeld (layout : DataLayout) (contents : FilePath → Except Fault Bytes) (map : UInt32)
    (record : MapRecord) : Prop :=
  ∃ bytes, contents (layout.mapPath map) = .ok bytes ∧
    Json.read MapRecord.shape bytes = .ok record ∧
    record.width.toNat ≤ 2048 ∧ record.height.toNat ≤ 2048

section

variable {layout : DataLayout} {contents : FilePath → Except Fault Bytes}

/-- A file holds the records of one table only. -/
theorem TableHeld.unique {α : Type} {kind : TableKind} {shape : Json.Shape α}
    {records records' : List α} (h : TableHeld layout contents kind shape records)
    (h' : TableHeld layout contents kind shape records') : records = records' := by
  obtain ⟨bytes, hbytes, hrecords⟩ := h
  obtain ⟨bytes', hbytes', hrecords'⟩ := h'
  obtain rfl : bytes = bytes' := Except.ok.inj (hbytes.symm.trans hbytes')
  rw [← Json.read_list_eq_ok] at hrecords hrecords'
  exact Except.ok.inj (hrecords.symm.trans hrecords')

/-- Files hold one set of tables only. -/
theorem DataTables.Held.unique {tables tables' : DataTables} (h : tables.Held layout contents)
    (h' : tables'.Held layout contents) : tables = tables' := by
  cases tables
  cases tables'
  rw [DataTables.mk.injEq]
  exact ⟨h.actors.unique h'.actors, h.items.unique h'.items, h.armors.unique h'.armors,
    h.animations.unique h'.animations, h.tilesets.unique h'.tilesets,
    h.commonEvents.unique h'.commonEvents⟩

/-- A file holds one map only. -/
theorem MapHeld.unique {map : UInt32} {record record' : MapRecord}
    (h : MapHeld layout contents map record) (h' : MapHeld layout contents map record') :
    record = record' := by
  obtain ⟨bytes, hbytes, hread, -⟩ := h
  obtain ⟨bytes', hbytes', hread', -⟩ := h'
  obtain rfl : bytes = bytes' := Except.ok.inj (hbytes.symm.trans hbytes')
  exact Except.ok.inj (hread.symm.trans hread')

/-- Nothing is wrong with the file of a table that it holds. -/
theorem DataTables.Held.not_bad {tables : DataTables} (h : tables.Held layout contents)
    (kind : TableKind) : ¬ (DataPart.table kind).Bad layout contents := by
  rw [DataPart.not_bad_table_iff]
  have hdecodes {α : Type} {shape : Json.Shape α} {records : List α}
      (h : TableHeld layout contents kind shape records) :
      ∃ bytes, contents (layout.tablePath kind) = .ok bytes ∧
        ∃ records, Json.HoldsRecords shape bytes records :=
    h.imp fun bytes hbytes => ⟨hbytes.1, _, hbytes.2⟩
  cases kind with
  | actors => exact hdecodes h.actors
  | items => exact hdecodes h.items
  | armors => exact hdecodes h.armors
  | animations => exact hdecodes h.animations
  | tilesets => exact hdecodes h.tilesets
  | commonEvents => exact hdecodes h.commonEvents

/-- Nothing is wrong with the file of a map that it holds. -/
theorem MapHeld.not_bad {map : UInt32} {record : MapRecord}
    (h : MapHeld layout contents map record) : ¬ (DataPart.map map).Bad layout contents := by
  obtain ⟨bytes, hbytes, hread, hwidth, hheight⟩ := h
  rintro ⟨cause, hflaw⟩
  rw [DataPart.path, hbytes] at hflaw
  cases hflaw with
  | undecodable _ hnone => exact hnone ⟨record, hread⟩
  | tooLarge hmap hread' hlarge =>
    cases hread.symm.trans hread'
    omega

/-- Nothing is wrong with files that hold tables and a map. -/
theorem DataTables.Held.good {map : UInt32} {tables : DataTables} {record : MapRecord}
    (htables : tables.Held layout contents) (hmap : MapHeld layout contents map record) :
    ∀ part ∈ dataParts map, ¬ part.Bad layout contents := by
  intro part hpart
  cases part with
  | table kind => exact htables.not_bad kind
  | map id =>
    by_cases hzero : map = 0
    · simp [dataParts, hzero] at hpart
    · obtain rfl : id = map := by simpa [dataParts, hzero] using hpart
      exact hmap.not_bad

end

/-- What comes of files that are loaded in this order: something made of what they hold, or a fault
that blames the first of them with a flaw. -/
inductive LoadOutcome {α : Type} (layout : DataLayout) (contents : FilePath → Except Fault Bytes)
    (parts : List DataPart) (P : α → Prop) : Except Fault α → Prop
  | loaded {a : α} (hgood : ∀ part ∈ parts, ¬ part.Bad layout contents) (ha : P a) :
    LoadOutcome layout contents parts P (.ok a)
  | blamed {before after : List DataPart} {part : DataPart} {cause : Fault}
    (hparts : parts = before ++ part :: after)
    (hbefore : ∀ earlier ∈ before, ¬ earlier.Bad layout contents)
    (hflaw : part.Flaw layout (contents (part.path layout)) cause) :
    LoadOutcome layout contents parts P (.error (.corrupt part.label (part.path layout) cause))

/-- The only file that is loaded can be the one to blame. -/
theorem LoadOutcome.blamed_only {α : Type} {layout : DataLayout}
    {contents : FilePath → Except Fault Bytes} {part : DataPart} {cause : Fault} {P : α → Prop}
    (hflaw : part.Flaw layout (contents (part.path layout)) cause) :
    LoadOutcome layout contents [part] P
      (.error (.corrupt part.label (part.path layout) cause)) :=
  .blamed (List.nil_append [part]).symm (List.forall_mem_nil _) hflaw

section

variable {σ α β : Type}

/-- A computation loads some files in this order, and does not lead out of some surroundings. -/
def Loads (layout : DataLayout) (still : Set σ) (contents : FilePath → Except Fault Bytes)
    (parts : List DataPart) (x : Reading (StateM σ) α) (P : α → Prop) : Prop :=
  ∀ s ∈ still, ∀ loaded s', Yields x.run s loaded s' →
    s' ∈ still ∧ LoadOutcome layout contents parts P loaded

variable {layout : DataLayout} {still : Set σ} {map : UInt32}
  {contents : FilePath → Except Fault Bytes}

/-- An answer that is there needs no files. -/
theorem Loads.pure {a : α} {P : α → Prop} (ha : P a) :
    Loads layout still contents [] (Pure.pure a) P := by
  intro s hs loaded s' h
  obtain ⟨rfl, rfl⟩ := yields_except_pure.mp h
  exact ⟨hs, .loaded (List.forall_mem_nil _) ha⟩

/-- Two computations in a row load their files one after the other. The files of the second one
are not looked at if the first one fails. -/
theorem Loads.bind {parts more : List DataPart} {x : Reading (StateM σ) α}
    {f : α → Reading (StateM σ) β} {P : α → Prop} {Q : β → Prop}
    (hx : Loads layout still contents parts x P)
    (hf : ∀ a, P a → Loads layout still contents more (f a) Q) :
    Loads layout still contents (parts ++ more) (x >>= f) Q := by
  intro s hs loaded s' h
  rcases yields_except_bind.mp h with ⟨a, s₁, hfirst, hsecond⟩ | ⟨fault, hfirst, rfl⟩
  · obtain ⟨hs₁, houtcome⟩ := hx s hs _ _ hfirst
    cases houtcome with
    | loaded hgood ha =>
      obtain ⟨hs', houtcome⟩ := hf a ha s₁ hs₁ _ _ hsecond
      refine ⟨hs', ?_⟩
      cases houtcome with
      | loaded hmore hb =>
        exact .loaded (List.forall_mem_append.mpr ⟨hgood, hmore⟩) hb
      | @blamed before after part _ hparts hbefore hflaw =>
        have hall : parts ++ more = (parts ++ before) ++ part :: after := by
          rw [hparts, List.append_assoc]
        exact .blamed hall (List.forall_mem_append.mpr ⟨hgood, hbefore⟩) hflaw
  · obtain ⟨hs', houtcome⟩ := hx s hs _ _ hfirst
    refine ⟨hs', ?_⟩
    cases houtcome with
    | blamed hparts hbefore hflaw =>
      exact .blamed (by rw [hparts, List.append_assoc, List.cons_append]) hbefore hflaw

variable [DataSource (StateM σ)]

/-- In some surroundings, which reads do not lead out of, these files give always the same. -/
def StandingFiles (still : Set σ) (contents : FilePath → Except Fault Bytes)
    (paths : List FilePath) : Prop :=
  ∀ path ∈ paths, ∀ s ∈ still, ∀ answer s', Yields (DataSource.read path) s answer s' →
    answer = contents path ∧ s' ∈ still

/-- A file is loaded if a decoder accepts what is fine and blames it for its flaws. -/
theorem loads_loadFile (part : DataPart) {decode : Bytes → Except Fault α} {P : α → Prop}
    (hfiles : StandingFiles still contents (dataFiles layout map)) (hpart : part ∈ dataParts map)
    (hok : ∀ bytes a, contents (part.path layout) = .ok bytes → decode bytes = .ok a →
      P a ∧ ∀ cause, ¬ part.Flaw layout (.ok bytes) cause)
    (herror : ∀ bytes fault, decode bytes = .error fault →
      ∃ cause, part.Flaw layout (.ok bytes) cause ∧
        fault = .corrupt part.label (part.path layout) cause) :
    Loads layout still contents [part] (loadFile part.label (part.path layout) decode) P := by
  intro s hs loaded s' h
  obtain ⟨answer, s₁, hread, h⟩ := yields_bind.mp h
  obtain ⟨hanswer, hs₁⟩ :=
    hfiles _ (DataPart.path_mem_dataFiles hpart) s hs _ _ hread
  cases answer with
  | error fault =>
    obtain ⟨rfl, rfl⟩ := yields_pure.mp h
    exact ⟨hs₁, .blamed_only (hanswer ▸ .unreadable fault)⟩
  | ok bytes =>
    obtain ⟨rfl, rfl⟩ := yields_pure.mp h
    refine ⟨hs₁, ?_⟩
    cases hdecode : decode bytes with
    | error fault =>
      obtain ⟨cause, hflaw, rfl⟩ := herror bytes fault hdecode
      exact .blamed_only (hanswer ▸ hflaw)
    | ok a =>
      obtain ⟨ha, hgood⟩ := hok bytes a hanswer.symm hdecode
      refine .loaded (List.forall_mem_singleton.mpr ?_) ha
      rintro ⟨cause, hflaw⟩
      exact hgood cause (hanswer ▸ hflaw)

/-- A table is loaded from its file. -/
theorem loads_loadTable (hfiles : StandingFiles still contents (dataFiles layout map))
    (shape : Json.Shape α) (kind : TableKind) (hpart : .table kind ∈ dataParts map)
    (hdecodes : ∀ bytes, (DataPart.table kind).Decodes bytes ↔
      ∃ records, Json.HoldsRecords shape bytes records) :
    Loads layout still contents [.table kind] (loadTable layout shape kind)
      (TableHeld layout contents kind shape) := by
  refine loads_loadFile (.table kind) hfiles hpart ?_ ?_
  · intro bytes records hbytes h
    unfold decodeTable at h
    split at h
    case h_1 hread =>
      cases h
      have hrecords := Json.read_list_eq_ok.mp hread
      refine ⟨⟨bytes, hbytes, hrecords⟩, fun cause hflaw => ?_⟩
      cases hflaw with
      | undecodable defect hnone => exact hnone ((hdecodes bytes).mpr ⟨_, hrecords⟩)
      | tooLarge hmap => cases hmap
    · cases h
  · intro bytes fault h
    unfold decodeTable at h
    split at h
    · cases h
    case h_2 defect hread =>
      cases h
      refine ⟨_, .undecodable defect fun hsome => ?_, rfl⟩
      obtain ⟨records, hrecords⟩ := (hdecodes bytes).mp hsome
      cases hread.symm.trans (Json.read_list_eq_ok.mpr hrecords)

/-- A map fits if neither side is longer than 2048 tiles. -/
theorem MapRecord.fits_iff {record : MapRecord} :
    record.fits = true ↔ record.width.toNat ≤ 2048 ∧ record.height.toNat ≤ 2048 := by
  rw [fits, Bool.and_eq_true, decide_eq_true_eq, decide_eq_true_eq, maxMapSide]

/-- A map is loaded from its file. -/
theorem loads_loadMap (hfiles : StandingFiles still contents (dataFiles layout map))
    (hpart : .map map ∈ dataParts map) :
    Loads layout still contents [.map map] (loadMap layout map) (MapHeld layout contents map) := by
  refine loads_loadFile (.map map) hfiles hpart ?_ ?_
  · intro bytes record hbytes h
    unfold decodeMap at h
    split at h
    · cases h
    case h_2 hread =>
      split at h
      case isTrue hfits =>
        cases h
        obtain ⟨hwidth, hheight⟩ := MapRecord.fits_iff.mp hfits
        refine ⟨⟨bytes, hbytes, hread, hwidth, hheight⟩, fun cause hflaw => ?_⟩
        cases hflaw with
        | undecodable defect hnone => exact hnone ⟨_, hread⟩
        | tooLarge _ hread' hlarge =>
          cases hread.symm.trans hread'
          omega
      · cases h
  · intro bytes fault h
    unfold decodeMap at h
    split at h
    case h_1 defect hread =>
      cases h
      refine ⟨_, .undecodable defect ?_, rfl⟩
      rintro ⟨record, hrecord⟩
      cases hread.symm.trans hrecord
    case h_2 record hread =>
      split at h
      · cases h
      case isFalse hlarge =>
        cases h
        rw [MapRecord.fits_iff] at hlarge
        exact ⟨_, .tooLarge rfl hread (by omega), rfl⟩

/-- The tables are loaded from their files. -/
theorem loads_tables (hfiles : StandingFiles still contents (dataFiles layout map)) :
    Loads layout still contents (TableKind.all.map .table) (DataTables.load layout)
      (DataTables.Held layout contents) := by
  have hpart (kind : TableKind) : .table kind ∈ dataParts map := by
    cases kind <;> simp [dataParts]
  refine (loads_loadTable hfiles _ .actors (hpart _) fun _ => Iff.rfl).bind fun _ hactors => ?_
  refine (loads_loadTable hfiles _ .items (hpart _) fun _ => Iff.rfl).bind fun _ hitems => ?_
  refine (loads_loadTable hfiles _ .armors (hpart _) fun _ => Iff.rfl).bind fun _ harmors => ?_
  refine (loads_loadTable hfiles _ .animations (hpart _) fun _ => Iff.rfl).bind
    fun _ hanimations => ?_
  refine (loads_loadTable hfiles _ .tilesets (hpart _) fun _ => Iff.rfl).bind fun _ htilesets => ?_
  refine (loads_loadTable hfiles _ .commonEvents (hpart _) fun _ => Iff.rfl).bind
    fun _ hcommonEvents => ?_
  exact .pure ⟨hactors, hitems, harmors, hanimations, htilesets, hcommonEvents⟩

/-- What a snapshot has from files with these contents: the tables, and the map that its file
defines. Map 0 is blank and has no file. -/
@[mk_iff]
structure Snapshot.Held (layout : DataLayout) (contents : FilePath → Except Fault Bytes)
    (map : UInt32) (snapshot : Snapshot) : Prop where
  tables : snapshot.tables.Held layout contents
  blank : map = 0 → snapshot.map.DefinedBy 0 { width := 0, height := 0 } []
  map : map ≠ 0 → ∃ record, MapHeld layout contents map record ∧
    snapshot.map.DefinedBy map record snapshot.tables.tilesets

/-- The map that nothing has been loaded into is the blank one. -/
theorem FieldMap.empty_definedBy : DefinedBy {} 0 { width := 0, height := 0 } [] where
  id_eq := rfl
  width_eq := rfl
  height_eq := rfl
  tile_eq hx := absurd hx (Nat.not_lt_zero _)
  tileset_eq := rfl
  event_rel _ := .none

/-- A snapshot is loaded from the files of its data set. -/
theorem loads_snapshot (hfiles : StandingFiles still contents (dataFiles layout map))
    (switches : SelfSwitches) :
    Loads layout still contents (dataParts map) (Snapshot.load layout map switches)
      (Snapshot.Held layout contents map) := by
  refine (loads_tables hfiles).bind fun tables htables => ?_
  by_cases hmap : map = 0
  · simp only [if_pos hmap]
    exact .pure ⟨htables, fun _ => FieldMap.empty_definedBy, fun hother => absurd hmap hother⟩
  · simp only [if_neg hmap]
    have hpart : .map map ∈ dataParts map := by simp [dataParts, hmap]
    change Loads layout still contents ([.map map] ++ []) _ _
    refine (loads_loadMap hfiles hpart).bind fun record hrecord => .pure ?_
    have ⟨_, _, _, hwidth, hheight⟩ := hrecord
    refine ⟨htables, fun hzero => absurd hzero hmap, fun _ => ⟨record, hrecord, ?_⟩⟩
    exact FieldMap.ofRecord_definedBy hwidth hheight switches

variable {switches : SelfSwitches} {s s' : σ} {loaded : Except Fault Snapshot}

/-- **A load fails on bad data only, and blames the first bad file.** -/
theorem load_blames_first_flaw (hfiles : StandingFiles still contents (dataFiles layout map))
    (hs : s ∈ still) (h : Yields (Snapshot.load layout map switches).run s loaded s') :
    ((∃ fault, loaded = .error fault) ↔ ∃ part ∈ dataParts map, part.Bad layout contents) ∧
      (∀ fault, loaded = .error fault → ∃ before part after cause,
        dataParts map = before ++ part :: after ∧
          (∀ earlier ∈ before, ¬ earlier.Bad layout contents) ∧
          part.Flaw layout (contents (part.path layout)) cause ∧
          fault = .corrupt part.label (part.path layout) cause) ∧
      ∀ snapshot, loaded = .ok snapshot → snapshot.Held layout contents map := by
  obtain ⟨-, houtcome⟩ := loads_snapshot hfiles switches s hs loaded s' h
  cases houtcome with
  | loaded hgood hheld =>
    refine ⟨⟨?_, ?_⟩, ?_, ?_⟩
    · rintro ⟨fault, hfault⟩
      cases hfault
    · rintro ⟨part, hpart, hbad⟩
      exact absurd hbad (hgood part hpart)
    · intro fault hfault
      cases hfault
    · intro snapshot hsnapshot
      cases hsnapshot
      exact hheld
  | @blamed before after part cause hparts hbefore hflaw =>
    have hmem : part ∈ dataParts map := hparts ▸ List.mem_append_right _ List.mem_cons_self
    refine ⟨⟨fun _ => ⟨part, hmem, cause, hflaw⟩, fun _ => ⟨_, rfl⟩⟩, ?_, ?_⟩
    · intro fault hfault
      cases hfault
      exact ⟨before, part, after, cause, hparts, hbefore, hflaw, rfl⟩
    · intro snapshot hsnapshot
      cases hsnapshot

end

/-- The answer to a read of a file that nobody writes to. -/
def StillFiles.answer (files : StillFiles) (path : FilePath) : Except Fault Bytes :=
  match files.contents path with
  | some bytes => .ok bytes
  | none => .error (.during (.readFile path) (.reported FileTree.noSuchFile))

/-- Files that nobody writes to give always the same. -/
theorem StillFiles.standing (files : StillFiles) (paths : List FilePath) :
    StandingFiles {files} files.answer paths := by
  rintro path - s rfl answer s' h
  obtain ⟨_, _, hget, h⟩ := yields_bind.mp h
  obtain ⟨rfl, rfl⟩ := yields_pure.mp hget
  obtain ⟨rfl, rfl⟩ := yields_pure.mp h
  exact ⟨rfl, rfl⟩

/-- Where the data set of a village is. -/
private def villageLayout : DataLayout where
  tablePath kind := ⟨kind.fileName⟩
  mapPath map := ⟨mapFileName map⟩
  watchRoot := none

/-- A village of two tiles with tables that are empty. Some files hold something else, or are
missing. -/
private def village (torn : FilePath → Option (Option Bytes)) : StillFiles where
  contents path := (torn path).getD <| some <|
    if path = ⟨"Map007.json"⟩ then "[0,2,1]".toUTF8.toList else "[]".toUTF8.toList

/-- In the village the table of items is cut short, and the tilesets are missing. -/
private def tornVillage : StillFiles :=
  village fun path =>
    if path = ⟨"Items.json"⟩ then some (some "[".toUTF8.toList)
    else if path = ⟨"Tilesets.json"⟩ then some none
    else none

/-- There are empty tables in the village. -/
private theorem holdsRecords_village {α : Type} (shape : Json.Shape α) :
    Json.HoldsRecords shape "[]".toUTF8.toList [] := ⟨false, [], by cbv, .nil⟩

/-- Something is wrong with the items of the torn village. -/
private theorem tornVillage_items :
    (DataPart.table .items).Bad villageLayout tornVillage.answer := by
  by_contra hgood
  obtain ⟨bytes, hbytes, records, deep, items, hdocument, -⟩ :=
    DataPart.not_bad_table_iff.mp hgood
  have hanswer : tornVillage.answer (villageLayout.tablePath .items) =
      .ok "[".toUTF8.toList := by cbv
  obtain rfl := Except.ok.inj (hanswer.symm.trans hbytes)
  have hstopped : (Json.Document.ofBytes "[".toUTF8.toList).root =
      .arr false [.broken .truncated .truncated] (.stopped .malformed) := by cbv
  rw [hdocument] at hstopped
  cases hstopped

/-- The items are blamed for a load of the torn village. Before it was torn, its map had the size
that its file says. -/
theorem torn_items_blamed :
    (∃ cause s', Yields (Snapshot.load villageLayout 7 {}).run tornVillage
      (.error (.corrupt "Items" (villageLayout.tablePath .items) cause)) s') ∧
    ∃ snapshot s', Yields (Snapshot.load villageLayout 7 {}).run (village fun _ => none)
      (.ok snapshot) s' ∧ snapshot.map.width = 2 ∧ snapshot.map.height = 1 := by
  constructor
  · obtain ⟨loaded, s', hload⟩ : ∃ loaded s',
        Yields (Snapshot.load villageLayout 7 {}).run tornVillage loaded s' :=
      ⟨_, _, yields_run _ _⟩
    obtain ⟨hiff, hfirst, -⟩ := load_blames_first_flaw (tornVillage.standing _) rfl hload
    have hactors : ¬ (DataPart.table .actors).Bad villageLayout tornVillage.answer :=
      DataPart.not_bad_table_iff.mpr ⟨_, by cbv, _, holdsRecords_village _⟩
    obtain ⟨fault, rfl⟩ := hiff.mpr ⟨_, .tail _ (.head _), tornVillage_items⟩
    obtain ⟨before, part, after, cause, hparts, hbefore, hflaw, rfl⟩ := hfirst fault rfl
    obtain _ | ⟨first, _ | ⟨second, before⟩⟩ := before
    · obtain ⟨rfl, -⟩ := List.cons.inj hparts
      exact absurd ⟨cause, hflaw⟩ hactors
    · obtain ⟨-, hparts⟩ := List.cons.inj hparts
      obtain ⟨rfl, -⟩ := List.cons.inj hparts
      exact ⟨cause, s', hload⟩
    · obtain ⟨-, hparts⟩ := List.cons.inj hparts
      obtain ⟨rfl, -⟩ := List.cons.inj hparts
      exact absurd tornVillage_items (hbefore _ (.tail _ (.head _)))
  · obtain ⟨loaded, s', hload⟩ : ∃ loaded s',
        Yields (Snapshot.load villageLayout 7 {}).run (village fun _ => none) loaded s' :=
      ⟨_, _, yields_run _ _⟩
    obtain ⟨hiff, -, hheld⟩ := load_blames_first_flaw (StillFiles.standing _ _) rfl hload
    have htables : DataTables.Held villageLayout (village fun _ => none).answer {} := by
      constructor <;> exact ⟨_, by cbv, holdsRecords_village _⟩
    have hmap : MapHeld villageLayout (village fun _ => none).answer 7
        { width := 2, height := 1 } :=
      ⟨"[0,2,1]".toUTF8.toList, by cbv, by cbv, by decide, by decide⟩
    cases loaded with
    | error fault =>
      obtain ⟨part, hpart, hbad⟩ := hiff.mp ⟨fault, rfl⟩
      exact absurd hbad (htables.good hmap part hpart)
    | ok snapshot =>
      obtain ⟨record, hrecord, hdefined⟩ := (hheld snapshot rfl).map (by decide)
      obtain rfl := hrecord.unique hmap
      exact ⟨snapshot, s', hload, hdefined.width_eq, hdefined.height_eq⟩

end Overworld
