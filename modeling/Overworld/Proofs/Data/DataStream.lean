import Mathlib.Data.Set.Function
import Overworld.Data.Fingerprint
import Overworld.Data.Snapshot
import Overworld.Proofs.Surroundings

/-!
# The bytes of a data set

The byte sequence that a fingerprint is taken of is made of the files of a data set, read one after
the other. Every table stands in it behind its name and its length, and the map, which needs no
length, is the last. So the sequence determines what every single file held.
-/

namespace Overworld

/-- The files of a data set, in the order in which they are read; map 0 has none. -/
def dataFiles (layout : DataLayout) (map : UInt32) : List FilePath :=
  TableKind.all.map layout.tablePath ++ if map = 0 then [] else [layout.mapPath map]

/-- The byte sequence of a data set whose files hold these bytes. There is at most one map. -/
def dataSetStream (tables maps : List Bytes) : Bytes :=
  (List.zipWith tableStream TableKind.all tables).flatten ++ maps.flatMap mapStream

/-- The byte sequences that the files of a data set can give in some surroundings. -/
def dataStreams (σ : Type) [DataSource (StateM σ)] (layout : DataLayout) (map : UInt32) :
    Set Bytes :=
  {stream | ∃ s s' : σ, Yields (dataStream layout map).run s (.ok stream) s'}

section

variable {σ : Type} [DataSource (StateM σ)]

/-- Files are read one after the other, and these are the bytes that they give. -/
inductive Reads : List FilePath → σ → List Bytes → σ → Prop
  | done {s : σ} : Reads [] s [] s
  | next {path : FilePath} {paths : List FilePath} {bytes : Bytes} {contents : List Bytes}
      {s s₁ s' : σ} (hread : Yields (DataSource.read path) s (.ok bytes) s₁)
      (hrest : Reads paths s₁ contents s') : Reads (path :: paths) s (bytes :: contents) s'

variable {layout : DataLayout} {map : UInt32} {paths : List FilePath} {contents : List Bytes}
  {s s' : σ}

/-- Every file gives its bytes. -/
theorem Reads.length_eq (h : Reads paths s contents s') : contents.length = paths.length := by
  induction h with
  | done => rfl
  | next _ _ ih => rw [List.length_cons, List.length_cons, ih]

/-- Files can be read behind others. -/
theorem Reads.append {morePaths : List FilePath} {moreContents : List Bytes} {s₁ : σ}
    (h : Reads paths s contents s₁) (hmore : Reads morePaths s₁ moreContents s') :
    Reads (paths ++ morePaths) s (contents ++ moreContents) s' := by
  induction h with
  | done => exact hmore
  | next hread _ ih => exact .next hread (ih hmore)

/-- The sequence of the tables is made of what they hold. -/
theorem yields_tablesStream {stream out : Bytes} {kinds : List TableKind}
    (h : Yields (tablesStream layout stream kinds).run s (.ok out) s') :
    ∃ tables, Reads (kinds.map layout.tablePath) s tables s' ∧
      out = stream ++ (List.zipWith tableStream kinds tables).flatten := by
  induction kinds generalizing stream s with
  | nil =>
    obtain ⟨hout, rfl⟩ := yields_except_pure.mp h
    exact ⟨[], .done, by rw [Except.ok.inj hout]; simp⟩
  | cons kind kinds ih =>
    simp only [tablesStream, yields_except_bind, reduceCtorEq, and_false, exists_false,
      or_false] at h
    obtain ⟨bytes, s₁, hread, h⟩ := h
    obtain ⟨tables, hreads, hout⟩ := ih h
    exact ⟨bytes :: tables, .next hread hreads, by rw [hout]; simp⟩

/-- The sequence of a data set is made of what its files hold. -/
theorem yields_dataStream {stream : Bytes}
    (h : Yields (dataStream layout map).run s (.ok stream) s') :
    ∃ tables maps, Reads (dataFiles layout map) s (tables ++ maps) s' ∧
      tables.length = TableKind.all.length ∧ maps.length = (if map = 0 then 0 else 1) ∧
      stream = dataSetStream tables maps := by
  simp only [dataStream, yields_except_bind, reduceCtorEq, and_false, exists_false,
    or_false] at h
  obtain ⟨front, s₁, hfront, h⟩ := h
  obtain ⟨tables, htables, rfl⟩ := yields_tablesStream hfront
  have hlength : tables.length = TableKind.all.length := by
    rw [htables.length_eq, List.length_map]
  unfold dataFiles
  by_cases hmap : map = 0
  · rw [if_pos hmap] at h ⊢
    obtain ⟨hstream, rfl⟩ := yields_except_pure.mp h
    refine ⟨tables, [], htables.append .done, hlength, (if_pos hmap).symm, ?_⟩
    rw [Except.ok.inj hstream, dataSetStream, List.flatMap_nil, List.append_nil, List.nil_append]
  · simp only [if_neg hmap, yields_except_bind, yields_except_pure, Except.ok.injEq, reduceCtorEq,
      and_false, exists_false, or_false] at h ⊢
    obtain ⟨bytes, s₂, hread, rfl, rfl⟩ := h
    refine ⟨tables, [bytes], htables.append (.next hread .done), hlength, rfl, ?_⟩
    rw [dataSetStream, List.flatMap_singleton, List.nil_append]

/-- A snapshot that has been loaded is made of tables and, unless the map is the empty one, of a
record of the map. -/
theorem Snapshot.load_ok {switches : SelfSwitches} {snapshot : Snapshot}
    (h : Yields (Snapshot.load layout map switches).run s (.ok snapshot) s') :
    ∃ tables, (map = 0 ∧ snapshot = { tables }) ∨ ∃ record,
      snapshot = { tables, map := FieldMap.ofRecord map record tables.tilesets switches } := by
  simp only [load, yields_except_bind, reduceCtorEq, and_false, exists_false, or_false] at h
  obtain ⟨tables, s₁, -, h⟩ := h
  refine ⟨tables, ?_⟩
  by_cases hmap : map = 0
  · rw [if_pos hmap] at h
    exact .inl ⟨hmap, Except.ok.inj (yields_except_pure.mp h).1⟩
  · simp only [if_neg hmap, yields_except_bind, yields_except_pure, reduceCtorEq, and_false,
      exists_false, or_false, Except.ok.injEq] at h
    obtain ⟨record, s₂, -, rfl, -⟩ := h
    exact .inr ⟨record, rfl⟩

/-- A fingerprint is that of a byte sequence read from the files. -/
theorem fingerprint_ok {layout : DataLayout} {map : UInt32} {print : Fingerprint} {s s' : σ} :
    Yields (fingerprint layout map).run s (.ok print) s' ↔
      ∃ stream, Yields (dataStream layout map).run s (.ok stream) s' ∧
        print = Fingerprint.ofBytes stream := by
  simp only [fingerprint, yields_except_bind, yields_except_pure, Except.ok.injEq, reduceCtorEq,
    and_false, exists_false, or_false]
  constructor
  · rintro ⟨stream, s₁, hstream, hprint, rfl⟩
    exact ⟨stream, hstream, hprint⟩
  · rintro ⟨stream, hstream, hprint⟩
    exact ⟨stream, s', hstream, hprint, rfl⟩

end

/-- To drop one byte more is to divide by 256. -/
theorem shiftRight_byte (n i : Nat) : n >>> (8 * (i + 1)) = n >>> (8 * i) / 256 := by
  rw [Nat.mul_add, Nat.shiftRight_add]
  exact Nat.shiftRight_eq_div_pow _ 8

/-- The eight bytes of a number determine it. -/
theorem littleEndian64_inj {n n' : Nat} (hn : n < UInt64.size) (hn' : n' < UInt64.size)
    (h : littleEndian64 n = littleEndian64 n') : n = n' := by
  have hbyte : ∀ i < 8, n >>> (8 * i) % 256 = n' >>> (8 * i) % 256 := by
    intro i hi
    have hat := congrArg UInt8.toNat (List.map_inj_left.mp h i (List.mem_range.mpr hi))
    simpa only [UInt8.toNat_ofNat', Nat.reducePow] using hat
  have hzero {m : Nat} (hm : m < UInt64.size) : m >>> (8 * 8) = 0 :=
    (Nat.shiftRight_eq_div_pow m 64).trans (Nat.div_eq_of_lt hm)
  -- From the highest byte down, the numbers agree in one byte more.
  have hshift : ∀ i ≤ 8, n >>> (8 * (8 - i)) = n' >>> (8 * (8 - i)) := by
    intro i hi
    induction i with
    | zero => exact (hzero hn).trans (hzero hn').symm
    | succ i ih =>
      have habove := ih (by omega)
      have hsame := hbyte (8 - (i + 1)) (by omega)
      rw [show 8 - i = 8 - (i + 1) + 1 by omega, shiftRight_byte, shiftRight_byte] at habove
      omega
  exact hshift 8 (Nat.le_refl 8)

/-- What a table adds to the sequence ends where its length says. -/
theorem tableStream_append_inj {kind : TableKind} {bytes bytes' rest rest' : Bytes}
    (hsize : bytes.length < UInt64.size) (hsize' : bytes'.length < UInt64.size)
    (h : tableStream kind bytes ++ rest = tableStream kind bytes' ++ rest') :
    bytes = bytes' ∧ rest = rest' := by
  simp only [tableStream, List.append_assoc, List.append_cancel_left_eq] at h
  have hnumber : (littleEndian64 bytes.length).length = (littleEndian64 bytes'.length).length := by
    simp [littleEndian64]
  obtain ⟨hlength, h⟩ := List.append_inj h hnumber
  exact List.append_inj h (littleEndian64_inj hsize hsize' hlength)

/-- The sequence of the tables ends where their lengths say. -/
theorem tablesStream_append_inj {kinds : List TableKind} {tables tables' : List Bytes}
    {rest rest' : Bytes} (hlength : tables.length = kinds.length)
    (hlength' : tables'.length = kinds.length)
    (hsize : ∀ bytes ∈ tables, bytes.length < UInt64.size)
    (hsize' : ∀ bytes ∈ tables', bytes.length < UInt64.size)
    (h : (List.zipWith tableStream kinds tables).flatten ++ rest =
      (List.zipWith tableStream kinds tables').flatten ++ rest') :
    tables = tables' ∧ rest = rest' := by
  induction kinds generalizing tables tables' with
  | nil =>
    rw [List.length_nil, List.length_eq_zero_iff] at hlength hlength'
    subst hlength hlength'
    exact ⟨rfl, h⟩
  | cons kind kinds ih =>
    obtain ⟨bytes, tables, rfl⟩ := List.exists_cons_of_length_eq_add_one hlength
    obtain ⟨bytes', tables', rfl⟩ := List.exists_cons_of_length_eq_add_one hlength'
    obtain ⟨hfirst, hsize⟩ := List.forall_mem_cons.mp hsize
    obtain ⟨hfirst', hsize'⟩ := List.forall_mem_cons.mp hsize'
    simp only [List.zipWith_cons_cons, List.flatten_cons, List.append_assoc] at h
    obtain ⟨hbytes, h⟩ := tableStream_append_inj hfirst hfirst' h
    obtain ⟨htables, hrest⟩ := ih (Nat.succ.inj hlength) (Nat.succ.inj hlength') hsize hsize' h
    exact ⟨by rw [hbytes, htables], hrest⟩

/-- **The sequence separates data sets**: two of them with as many files each have the same sequence
only if every file holds the same bytes. -/
theorem dataSetStream_inj {tables tables' maps maps' : List Bytes}
    (hlength : tables.length = TableKind.all.length)
    (hlength' : tables'.length = TableKind.all.length) (hmaps : maps.length = maps'.length)
    (hmap : maps.length ≤ 1) (hsize : ∀ bytes ∈ tables, bytes.length < UInt64.size)
    (hsize' : ∀ bytes ∈ tables', bytes.length < UInt64.size)
    (h : dataSetStream tables maps = dataSetStream tables' maps') :
    tables = tables' ∧ maps = maps' := by
  obtain ⟨htables, hrest⟩ := tablesStream_append_inj hlength hlength' hsize hsize' h
  refine ⟨htables, ?_⟩
  match maps, maps', hmaps, hmap with
  | [], [], _, _ => rfl
  | [bytes], [bytes'], _, _ =>
    simp only [List.flatMap_singleton, mapStream, List.append_cancel_left_eq] at hrest
    rw [hrest]

end Overworld
