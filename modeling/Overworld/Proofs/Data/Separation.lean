import Overworld.Proofs.Data.Chronicle
import Overworld.Proofs.Data.DataStream

/-!
# Data sets with the same fingerprint

What the hash of a fingerprint is fed with is made of the files of a data set alone, and tells every
one of them. Two data sets may be kept in different places, and their maps may have different
numbers: the bytes are the same exactly if the files are.
-/

namespace Overworld

/-- What the file of a map holds; map 0 has none. -/
def mapContents (map : UInt32) (field : Bytes) : List Bytes := if map = 0 then [] else [field]

/-- What the files of a data set hold, in the order in which they are read. -/
def dataContents (map : UInt32) (tables : TableKind → Bytes) (field : Bytes) : List Bytes :=
  TableKind.all.map tables ++ mapContents map field

section

variable {σ : Type} [DataSource (StateM σ)] {layout : DataLayout} {map : UInt32}
  {paths morePaths : List FilePath} {contents : List Bytes} {s s' : σ}

/-- Files that are read behind others are read when those have been read. -/
theorem Reads.split (h : Reads (paths ++ morePaths) s contents s') :
    ∃ first second s₁, contents = first ++ second ∧ Reads paths s first s₁ ∧
      Reads morePaths s₁ second s' := by
  induction paths generalizing s contents with
  | nil => exact ⟨[], contents, s, rfl, .done, h⟩
  | cons path paths ih =>
    cases h with
    | next hread hrest =>
      obtain ⟨first, second, s₁, hcontents, hfirst, hsecond⟩ := ih hrest
      exact ⟨_ :: first, second, s₁, by rw [hcontents]; rfl, .next hread hfirst, hsecond⟩

/-- Tables that are read one after the other are appended one after the other. -/
theorem Reads.tablesStream {kinds : List TableKind} (stream : Bytes)
    (h : Reads (kinds.map layout.tablePath) s contents s') :
    Yields (tablesStream layout stream kinds).run s
      (.ok (stream ++ (List.zipWith tableStream kinds contents).flatten)) s' := by
  induction kinds generalizing stream s contents with
  | nil =>
    cases h
    exact yields_except_pure.mpr ⟨by simp, rfl⟩
  | cons kind kinds ih =>
    cases h with
    | @next _ _ bytes rest _ s₁ _ hread hrest =>
      refine yields_except_bind.mpr (.inl ⟨bytes, s₁, hread, ?_⟩)
      have hstream := ih (stream ++ tableStream kind bytes) hrest
      rwa [List.append_assoc] at hstream

/-- A data set whose files are read gives the bytes that are made of them. -/
theorem Reads.dataStream {tables : TableKind → Bytes} {field : Bytes}
    (h : Reads (dataFiles layout map) s (dataContents map tables field) s') :
    Yields (dataStream layout map).run s
      (.ok (dataSetStream (TableKind.all.map tables) (mapContents map field))) s' := by
  obtain ⟨first, second, s₁, hcontents, hfirst, hsecond⟩ := h.split
  have hlength : (TableKind.all.map tables).length = first.length := by
    rw [hfirst.length_eq, List.length_map, List.length_map]
  obtain ⟨rfl, rfl⟩ := List.append_inj hcontents hlength
  refine yields_except_bind.mpr (.inl ⟨_, s₁, hfirst.tablesStream [], ?_⟩)
  unfold mapContents at hsecond ⊢
  by_cases hmap : map = 0
  · simp only [if_pos hmap] at hsecond ⊢
    cases hsecond
    exact yields_except_pure.mpr ⟨by simp [dataSetStream], rfl⟩
  · simp only [if_neg hmap] at hsecond ⊢
    cases hsecond with
    | next hread hrest =>
      cases hrest
      refine yields_except_bind.mpr (.inl ⟨field, s', hread, ?_⟩)
      exact yields_except_pure.mpr ⟨by simp [dataSetStream], rfl⟩

end

section

variable {map map' : UInt32} {field field' : Bytes} (hmaps : map = 0 ↔ map' = 0)
include hmaps

/-- Two data sets have as many maps if both have one or neither has. -/
theorem length_mapContents : (mapContents map field).length = (mapContents map' field').length := by
  by_cases hmap : map = 0
  · simp [mapContents, hmap, hmaps.mp hmap]
  · simp [mapContents, hmap, hmaps.not.mp hmap]

/-- The maps of two data sets are the same if they hold the same, unless there are none. -/
theorem mapContents_eq_iff :
    mapContents map field = mapContents map' field' ↔ (map ≠ 0 → field = field') := by
  by_cases hmap : map = 0
  · simp [mapContents, hmap, hmaps.mp hmap]
  · simp [mapContents, hmap, hmaps.not.mp hmap]

end

/-- The tables of two data sets are the same if each of them is. -/
theorem map_all_eq_iff {tables tables' : TableKind → Bytes} :
    TableKind.all.map tables = TableKind.all.map tables' ↔ ∀ kind, tables kind = tables' kind := by
  rw [List.map_inj_left]
  exact ⟨fun h kind => h kind kind.mem_all, fun h kind _ => h kind⟩

/-- **The bytes of a fingerprint separate data sets.** Take two data sets, each from a data source
of its own, all of whose files can be read and are shorter than 2^64 bytes, and let both have a map
or neither. The fingerprints are taken of byte sequences, and these are the same exactly if every
table holds the same bytes in both data sets and, if there are maps, the maps do. -/
theorem fingerprints_separate {σ τ : Type} [DataSource (StateM σ)] [DataSource (StateM τ)]
    {layout layout' : DataLayout} {map map' : UInt32} {tables tables' : TableKind → Bytes}
    {field field' : Bytes} {s s₁ : σ} {t t₁ : τ} (hmaps : map = 0 ↔ map' = 0)
    (hreads : Reads (dataFiles layout map) s (dataContents map tables field) s₁)
    (hreads' : Reads (dataFiles layout' map') t (dataContents map' tables' field') t₁)
    (hsize : ∀ bytes ∈ dataContents map tables field, bytes.length < UInt64.size)
    (hsize' : ∀ bytes ∈ dataContents map' tables' field', bytes.length < UInt64.size) :
    ∃ stream stream',
      Yields (fingerprint layout map).run s (.ok (.ofBytes stream)) s₁ ∧
      Yields (dataStream layout map).run s (.ok stream) s₁ ∧
      Yields (fingerprint layout' map').run t (.ok (.ofBytes stream')) t₁ ∧
      Yields (dataStream layout' map').run t (.ok stream') t₁ ∧
      (stream = stream' ↔
        (∀ kind, tables kind = tables' kind) ∧ (map ≠ 0 → field = field')) := by
  refine ⟨_, _, fingerprint_ok.mpr ⟨_, hreads.dataStream, rfl⟩, hreads.dataStream,
    fingerprint_ok.mpr ⟨_, hreads'.dataStream, rfl⟩, hreads'.dataStream, ?_⟩
  rw [← map_all_eq_iff, ← mapContents_eq_iff hmaps]
  constructor
  · obtain ⟨hsmall, -⟩ := List.forall_mem_append.mp hsize
    obtain ⟨hsmall', -⟩ := List.forall_mem_append.mp hsize'
    have hmap : (mapContents map field).length ≤ 1 := by
      unfold mapContents
      split <;> simp
    exact dataSetStream_inj (List.length_map _) (List.length_map _) (length_mapContents hmaps) hmap
      hsmall hsmall'
  · rintro ⟨htables, hfields⟩
    rw [htables, hfields]

/-- Files that nobody writes to are read as they are. -/
theorem StillFiles.reads {files : StillFiles} {held : FilePath → Bytes}
    (h : ∀ path, files.contents path = some (held path)) (paths : List FilePath) :
    Reads paths files (paths.map held) files := by
  induction paths with
  | nil => exact .done
  | cons path paths ih =>
    refine .next ?_ ih
    refine yields_bind.mpr ⟨files, files, rfl, ?_⟩
    rw [h path]
    exact yields_pure.mpr ⟨rfl, rfl⟩

/-- The data sets of a shop: each file is named after its table. -/
private def shopLayout : DataLayout where
  tablePath kind := ⟨kind.label⟩
  mapPath _ := ⟨"Map"⟩
  watchRoot := none

/-- A shop with these items, in which nothing else is written down. -/
private def shop (items : Bytes) : StillFiles where
  contents path := some (if path = ⟨"Items"⟩ then items else [])

/-- A shop that sells one more item has another byte sequence, whatever its map is called. -/
theorem fingerprints_separate_shop :
    ∃ stream stream', Yields (dataStream shopLayout 3).run (shop [7]) (.ok stream) (shop [7]) ∧
      Yields (dataStream shopLayout 4).run (shop [7, 7]) (.ok stream') (shop [7, 7]) ∧
      stream ≠ stream' := by
  have hreads (map : UInt32) (items : Bytes) : Reads (dataFiles shopLayout map) (shop items)
      (dataContents map (fun kind => if kind = .items then items else []) []) (shop items) := by
    have hshop (path : FilePath) :
        (shop items).contents path = some (if path = ⟨"Items"⟩ then items else []) := rfl
    have hfiles := StillFiles.reads hshop (dataFiles shopLayout map)
    unfold dataFiles at hfiles ⊢
    unfold dataContents mapContents
    by_cases hmap : map = 0 <;>
      simpa [TableKind.all, TableKind.label, shopLayout, hmap] using hfiles
  have hmaps : (3 : UInt32) = 0 ↔ (4 : UInt32) = 0 := by decide
  obtain ⟨stream, stream', -, hstream, -, hstream', hsame⟩ :=
    fingerprints_separate hmaps (hreads 3 [7]) (hreads 4 [7, 7]) (by decide) (by decide)
  refine ⟨stream, stream', hstream, hstream', fun h => ?_⟩
  have hitems := (hsame.mp h).1 .items
  cases hitems

end Overworld
