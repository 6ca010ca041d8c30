import Mathlib
import Overworld.Bitmap
import Overworld.Proofs.Surroundings

/-!
# The history of a cache of bitmaps

The calls that a cache has served, and their answers, tell what it keeps: the bitmaps that have been
given out since it was last cleared, one for each file and angle. A load ends in one of four ways,
each of which leaves this as it is.
-/

namespace Overworld

/-- A call of a cache. -/
inductive CacheCall where
  | load (folder file : String) (hue : Int)
  | clear

/-- A call of a cache that has been served, with its answer. -/
inductive CacheDeed where
  | loaded (folder file : String) (hue : Int) (answer : Except Fault Bitmap)
  | cleared

/-- The call that has been served. -/
def CacheDeed.call : CacheDeed → CacheCall
  | .loaded folder file hue _ => .load folder file hue
  | .cleared => .clear

/-- A file is a placeholder: it has no name, or its name starts with an exclamation mark. -/
def IsPlaceholder (file : String) : Prop := file = "" ∨ file.startsWith "!" = true

/-- Since the cache was last cleared, this bitmap has been given out for the file at this hue, up to
full turns. -/
def HasGiven (deeds : List CacheDeed) (folder file : String) (hue : Int) (bitmap : Bitmap) : Prop :=
  ∃ earlier hue' later, deeds = earlier ++ .loaded folder file hue' (.ok bitmap) :: later ∧
    .cleared ∉ later ∧ hue' ≡ hue [ZMOD 360]

section

variable {m : Type → Type} [Monad m] [BitmapLoader m]

/-- A cache serves a call. -/
def BitmapCache.serve (c : BitmapCache) : CacheCall → m (CacheDeed × BitmapCache)
  | .load folder file hue => do
    let (answer, c) ← c.load folder file hue
    return (.loaded folder file hue answer, c)
  | .clear => return (.cleared, c.clear)

/-- A cache serves some calls, one after the other. -/
def BitmapCache.serveAll (c : BitmapCache) : List CacheCall → m (List CacheDeed × BitmapCache)
  | [] => return ([], c)
  | call :: rest => do
    let (deed, c) ← c.serve call
    let (deeds, c) ← c.serveAll rest
    return (deed :: deeds, c)

end

namespace BitmapKey

variable {folder file : String} {hue : Int} {key : BitmapKey}

/-- Placeholders are recognised. -/
theorem isPlaceholder_iff : isPlaceholder file = true ↔ IsPlaceholder file := by
  simp [isPlaceholder, IsPlaceholder]

/-- Hues are the same angle if they are the same in the first turn. -/
theorem wrapHue_eq_iff {n : Nat} :
    wrapHue hue = n ↔ n < 360 ∧ (n : Int) ≡ hue [ZMOD 360] := by
  unfold wrapHue Int.ModEq
  omega

/-- Exactly the requests for placeholders have no key. -/
theorem ofRequest?_eq_none : ofRequest? folder file hue = none ↔ IsPlaceholder file := by
  rw [← isPlaceholder_iff, ofRequest?]
  split <;> simp [*]

/-- The key of a request has its folder and file, and its hue as an angle of the first turn. -/
theorem ofRequest?_eq_some :
    ofRequest? folder file hue = some key ↔ ¬ IsPlaceholder file ∧ key.folder = folder ∧
      key.file = file ∧ key.hue < 360 ∧ (key.hue : Int) ≡ hue [ZMOD 360] := by
  rw [← isPlaceholder_iff, ofRequest?, ← wrapHue_eq_iff]
  obtain ⟨folder', file', hue'⟩ := key
  by_cases hplaceholder : isPlaceholder file = true
  · simp [hplaceholder]
  · simp [hplaceholder, eq_comm (a := folder), eq_comm (a := file)]

/-- Two requests have the same key if they are for the same file at the same angle. -/
theorem eq_iff_same_request {folder' file' : String} {hue' : Int} {key' : BitmapKey}
    (hkey : ofRequest? folder file hue = some key)
    (hkey' : ofRequest? folder' file' hue' = some key') :
    key' = key ↔ folder = folder' ∧ file = file' ∧ hue ≡ hue' [ZMOD 360] := by
  obtain ⟨-, rfl, rfl, hlow, hhue⟩ := ofRequest?_eq_some.mp hkey
  obtain ⟨-, rfl, rfl, hlow', hhue'⟩ := ofRequest?_eq_some.mp hkey'
  constructor
  · rintro rfl
    exact ⟨rfl, rfl, hhue.symm.trans hhue'⟩
  · rintro ⟨hfolder, hfile, hsame⟩
    have hangle : (key'.hue : Int) ≡ key.hue [ZMOD 360] :=
      (hhue.trans (hsame.trans hhue'.symm)).symm
    have hturn : key'.hue = key.hue := by
      unfold Int.ModEq at hangle
      omega
    cases key
    cases key'
    simp_all

/-- A key is the key of the request for what is kept under it. -/
theorem ofRequest?_self (h : ofRequest? folder file hue = some key) :
    ofRequest? key.folder key.file key.hue = some key := by
  obtain ⟨hnamed, -, hfile, hhue, -⟩ := ofRequest?_eq_some.mp h
  exact ofRequest?_eq_some.mpr ⟨hfile ▸ hnamed, rfl, rfl, hhue, rfl⟩

end BitmapKey

section

variable {deeds : List CacheDeed} {folder file : String} {hue : Int} {bitmap : Bitmap}

/-- An element of a list with one more at its end is that one, or stands before it. -/
theorem snoc_eq_append_cons {α : Type} {l earlier later : List α} {last a : α}
    (h : l ++ [last] = earlier ++ a :: later) :
    (earlier = l ∧ a = last ∧ later = []) ∨
      ∃ later', later = later' ++ [last] ∧ l = earlier ++ a :: later' := by
  rcases List.eq_nil_or_concat' later with rfl | ⟨later', b, rfl⟩
  · obtain ⟨hbefore, hlast⟩ := List.append_inj' h rfl
    exact .inl ⟨hbefore.symm, (List.cons.inj hlast).1.symm, rfl⟩
  · rw [← List.cons_append, ← List.append_assoc] at h
    obtain ⟨hbefore, hlast⟩ := List.append_inj' h rfl
    obtain rfl := (List.cons.inj hlast).1
    exact .inr ⟨later', rfl, hbefore⟩

/-- Nothing has been given out by a cache that has served no call. -/
theorem not_hasGiven_nil : ¬ HasGiven [] folder file hue bitmap := by
  rintro ⟨earlier, hue', later, hdeeds, -⟩
  simp at hdeeds

/-- Nothing has been given out since the cache was cleared just now. -/
theorem not_hasGiven_cleared : ¬ HasGiven (deeds ++ [.cleared]) folder file hue bitmap := by
  rintro ⟨earlier, hue', later, hdeeds, hkept, -⟩
  rcases snoc_eq_append_cons hdeeds with ⟨-, hdeed, -⟩ | ⟨later', rfl, -⟩
  · contradiction
  · simp at hkept

/-- What has been given out by now has been given out just now, or before. -/
theorem hasGiven_loaded {folder' file' : String} {hue' : Int} {answer : Except Fault Bitmap} :
    HasGiven (deeds ++ [.loaded folder' file' hue' answer]) folder file hue bitmap ↔
      (folder' = folder ∧ file' = file ∧ hue' ≡ hue [ZMOD 360] ∧ answer = .ok bitmap) ∨
        HasGiven deeds folder file hue bitmap := by
  constructor
  · rintro ⟨earlier, hue'', later, hdeeds, hkept, hhue⟩
    rcases snoc_eq_append_cons hdeeds with ⟨-, hdeed, -⟩ | ⟨later', rfl, hbefore⟩
    · cases hdeed
      exact .inl ⟨rfl, rfl, hhue, rfl⟩
    · refine .inr ⟨earlier, hue'', later', hbefore, fun hcleared => hkept ?_, hhue⟩
      exact List.mem_append_left _ hcleared
  · rintro (⟨rfl, rfl, hhue, rfl⟩ | ⟨earlier, hue'', later, rfl, hkept, hhue⟩)
    · exact ⟨deeds, hue', [], rfl, List.not_mem_nil, hhue⟩
    · refine ⟨earlier, hue'', later ++ [.loaded folder' file' hue' answer], ?_, ?_, hhue⟩
      · rw [List.append_assoc, List.cons_append]
      · simpa using hkept

end

namespace BitmapCache

variable {c : BitmapCache} {key key' : BitmapKey} {bitmap : Bitmap}

/-- What is kept after a bitmap has been put in. -/
theorem get?_insert :
    (c.insert key bitmap).get? key' = if key' = key then some bitmap else c.get? key' := by
  unfold get? insert
  by_cases hkey : key' = key
  · simp [hkey]
  · rw [List.lookup_cons, if_neg hkey, beq_eq_false_iff_ne.mpr hkey]

/-- Nothing is kept under a key exactly if no entry has it. -/
theorem get?_eq_none_iff : c.get? key = none ↔ key ∉ c.entries.map Prod.fst := by
  rw [get?, List.lookup_eq_none_iff, List.mem_map]
  constructor
  · rintro hkeys ⟨entry, hentry, rfl⟩
    simpa using hkeys entry hentry
  · intro hkeys entry hentry
    rw [bne_iff_ne]
    rintro rfl
    exact hkeys ⟨entry, hentry, rfl⟩

end BitmapCache

section

variable {σ : Type} [BitmapLoader (StateM σ)]
variable {c c' : BitmapCache} {deeds : List CacheDeed} {s s' : σ}

/-- The ways in which a request for a bitmap ends. -/
inductive BitmapCache.Load (c : BitmapCache) (folder file : String) (hue : Int) (s : σ) :
    Except Fault Bitmap → BitmapCache → σ → Prop
  | placeholder (hfile : IsPlaceholder file) : c.Load folder file hue s (.ok .placeholder) c s
  | kept {key : BitmapKey} {bitmap : Bitmap}
      (hkey : BitmapKey.ofRequest? folder file hue = some key) (hkept : c.get? key = some bitmap) :
      c.Load folder file hue s (.ok bitmap) c s
  | failed {key : BitmapKey} {fault : Fault} {s' : σ}
      (hkey : BitmapKey.ofRequest? folder file hue = some key) (hmissing : c.get? key = none)
      (hload : Yields (BitmapLoader.load key.folder key.file key.hue) s (.error fault) s') :
      c.Load folder file hue s (.error fault) c s'
  | fetched {key : BitmapKey} {bitmap : Bitmap} {s' : σ}
      (hkey : BitmapKey.ofRequest? folder file hue = some key) (hmissing : c.get? key = none)
      (hload : Yields (BitmapLoader.load key.folder key.file key.hue) s (.ok bitmap) s') :
      c.Load folder file hue s (.ok bitmap) (c.insert key bitmap) s'

/-- A request ends in one of these ways. -/
theorem BitmapCache.load_exits {folder file : String} {hue : Int} {answer : Except Fault Bitmap}
    (h : Yields (c.load folder file hue) s (answer, c') s') :
    c.Load folder file hue s answer c' s' := by
  unfold BitmapCache.load at h
  cases hkey : BitmapKey.ofRequest? folder file hue with
  | none =>
    rw [hkey] at h
    obtain ⟨rfl, rfl, rfl⟩ := yields_pair.mp h
    exact .placeholder (BitmapKey.ofRequest?_eq_none.mp hkey)
  | some key =>
    rw [hkey] at h
    cases hkept : c.get? key with
    | some bitmap =>
      simp only [hkept] at h
      obtain ⟨rfl, rfl, rfl⟩ := yields_pair.mp h
      exact .kept hkey hkept
    | none =>
      simp only [hkept] at h
      obtain ⟨answer', s₁, hload, hrest⟩ := yields_bind.mp h
      cases answer' with
      | error fault =>
        obtain ⟨rfl, rfl, rfl⟩ := yields_pair.mp hrest
        exact .failed hkey hkept hload
      | ok bitmap =>
        obtain ⟨rfl, rfl, rfl⟩ := yields_pair.mp hrest
        exact .fetched hkey hkept hload

/-- What is kept in a cache that has done these deeds: what has been given out since it was last
cleared, under the keys of the requests, each of them once. -/
structure BitmapCache.Reflects (c : BitmapCache) (deeds : List CacheDeed) : Prop where
  nodup : (c.entries.map Prod.fst).Nodup
  normal : ∀ key ∈ c.entries.map Prod.fst,
    BitmapKey.ofRequest? key.folder key.file key.hue = some key
  kept : ∀ {folder file hue key} bitmap, BitmapKey.ofRequest? folder file hue = some key →
    (c.get? key = some bitmap ↔ HasGiven deeds folder file hue bitmap)

namespace BitmapCache.Reflects

variable {folder file : String} {hue : Int} {answer : Except Fault Bitmap}

/-- A new cache has done nothing. -/
theorem new : ({} : BitmapCache).Reflects [] where
  nodup := .nil
  normal := by simp
  kept _ _ := ⟨fun hkept => (by cases hkept), fun hgiven => (not_hasGiven_nil hgiven).elim⟩

/-- A cache that is cleared has given nothing since then. -/
theorem clear (c : BitmapCache) (deeds : List CacheDeed) :
    c.clear.Reflects (deeds ++ [.cleared]) where
  nodup := .nil
  normal := by simp [BitmapCache.clear]
  kept _ _ := ⟨fun hkept => (by cases hkept), fun hgiven => (not_hasGiven_cleared hgiven).elim⟩

/-- What is kept goes with what has been given out after a request, however it ends. -/
theorem load (h : c.Reflects deeds) (hload : c.Load folder file hue s answer c' s') :
    c'.Reflects (deeds ++ [.loaded folder file hue answer]) := by
  cases hload with
  | placeholder hfile =>
    refine ⟨h.nodup, h.normal, fun bitmap' hkey' => ?_⟩
    rw [hasGiven_loaded, h.kept bitmap' hkey']
    refine (or_iff_right ?_).symm
    rintro ⟨-, rfl, -⟩
    exact (BitmapKey.ofRequest?_eq_some.mp hkey').1 hfile
  | kept hkey hkept =>
    refine ⟨h.nodup, h.normal, fun bitmap' hkey' => ?_⟩
    rw [hasGiven_loaded]
    constructor
    · exact fun hkept' => .inr ((h.kept bitmap' hkey').mp hkept')
    · rintro (⟨hfolder, hfile, hhue, hbitmap⟩ | hgiven)
      · cases hbitmap
        rwa [(BitmapKey.eq_iff_same_request hkey hkey').mpr ⟨hfolder, hfile, hhue⟩]
      · exact (h.kept bitmap' hkey').mpr hgiven
  | failed hkey hmissing =>
    refine ⟨h.nodup, h.normal, fun bitmap' hkey' => ?_⟩
    rw [hasGiven_loaded, h.kept bitmap' hkey']
    refine (or_iff_right ?_).symm
    rintro ⟨-, -, -, hbitmap⟩
    cases hbitmap
  | @fetched key bitmap _ hkey hmissing =>
    refine ⟨List.nodup_cons.mpr ⟨get?_eq_none_iff.mp hmissing, h.nodup⟩,
      List.forall_mem_cons.mpr ⟨BitmapKey.ofRequest?_self hkey, h.normal⟩, fun bitmap' hkey' => ?_⟩
    rw [get?_insert, hasGiven_loaded, ← h.kept bitmap' hkey']
    have hsame := BitmapKey.eq_iff_same_request hkey hkey'
    split <;> rename_i hkeys
    · obtain ⟨hfolder, hfile, hhue⟩ := hsame.mp hkeys
      rw [hkeys, hmissing]
      simp [hfolder, hfile, hhue]
    · refine (or_iff_right ?_).symm
      rintro ⟨hfolder, hfile, hhue, -⟩
      exact hkeys (hsame.mpr ⟨hfolder, hfile, hhue⟩)

/-- What is kept goes with what has been given out after a call. -/
theorem serve {call : CacheCall} {deed : CacheDeed} (h : c.Reflects deeds)
    (hserve : Yields (c.serve call) s (deed, c') s') :
    c'.Reflects (deeds ++ [deed]) ∧ deed.call = call := by
  cases call with
  | load folder file hue =>
    obtain ⟨⟨answer, c₁⟩, s₁, hload, hrest⟩ := yields_bind.mp hserve
    obtain ⟨rfl, rfl, rfl⟩ := yields_pair.mp hrest
    exact ⟨h.load (load_exits hload), rfl⟩
  | clear =>
    obtain ⟨rfl, rfl, rfl⟩ := yields_pair.mp hserve
    exact ⟨clear c deeds, rfl⟩

/-- What is kept goes with what has been given out after any calls. -/
theorem serveAll {calls : List CacheCall} {done : List CacheDeed} (h : c.Reflects done)
    (hserve : Yields (c.serveAll calls) s (deeds, c') s') :
    c'.Reflects (done ++ deeds) ∧ deeds.map CacheDeed.call = calls := by
  induction calls generalizing c done deeds s with
  | nil =>
    obtain ⟨rfl, rfl, rfl⟩ := yields_pair.mp hserve
    rw [List.append_nil]
    exact ⟨h, rfl⟩
  | cons call rest ih =>
    obtain ⟨⟨deed, c₁⟩, s₁, hcall, hrest⟩ := yields_bind.mp hserve
    obtain ⟨⟨deeds', c₂⟩, s₂, hrest, hpair⟩ := yields_bind.mp hrest
    obtain ⟨rfl, rfl, rfl⟩ := yields_pair.mp hpair
    obtain ⟨h₁, hdeed⟩ := h.serve hcall
    obtain ⟨h₂, hdeeds⟩ := ih h₁ hrest
    rw [List.append_assoc] at h₂
    exact ⟨h₂, by rw [List.map_cons, hdeed, hdeeds]⟩

/-- A cache keeps as many bitmaps as there are files and angles for which one has been given out. -/
theorem size_eq (h : c.Reflects deeds) :
    ∃ keys : Finset BitmapKey, c.size = keys.card ∧ ∀ key, key ∈ keys ↔
      key.hue < 360 ∧ ¬ IsPlaceholder key.file ∧
        ∃ bitmap, HasGiven deeds key.folder key.file key.hue bitmap := by
  refine ⟨(c.entries.map Prod.fst).toFinset, ?_, fun key => ?_⟩
  · rw [List.toFinset_card_of_nodup h.nodup, List.length_map, size]
  · rw [List.mem_toFinset]
    constructor
    · intro hkey
      have hnormal := h.normal key hkey
      obtain ⟨hnamed, -, -, hturn, -⟩ := BitmapKey.ofRequest?_eq_some.mp hnormal
      obtain ⟨bitmap, hkept⟩ := Option.ne_none_iff_exists'.mp
        (mt get?_eq_none_iff.mp (not_not_intro hkey))
      exact ⟨hturn, hnamed, bitmap, (h.kept bitmap hnormal).mp hkept⟩
    · rintro ⟨hturn, hnamed, bitmap, hgiven⟩
      have hnormal : BitmapKey.ofRequest? key.folder key.file key.hue = some key :=
        BitmapKey.ofRequest?_eq_some.mpr ⟨hnamed, rfl, rfl, hturn, rfl⟩
      by_contra hkey
      have hkept := (h.kept bitmap hnormal).mpr hgiven
      rw [get?_eq_none_iff.mpr hkey] at hkept
      cases hkept

end BitmapCache.Reflects

end

end Overworld
