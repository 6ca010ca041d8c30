import Mathlib
import Overworld.Proofs.Bitmap.History

/-!
# The cache of bitmaps is transparent

The loader is asked for a file that has not been given out at this hue since the cache was last
cleared, and for nothing else. So nobody who has a loader that always gives the same answers can
tell whether there is a cache.
-/

namespace Overworld

section

variable {m : Type → Type} [Monad m] [BitmapLoader m]

/-- Loads a bitmap without a cache. -/
def loadAfresh (folder file : String) (hue : Int) : m (Except Fault Bitmap) :=
  match BitmapKey.ofRequest? folder file hue with
  | none => return .ok .placeholder
  | some key => BitmapLoader.load key.folder key.file key.hue

/-- Serves some calls without a cache, one after the other. -/
def serveAfresh : List CacheCall → m (List CacheDeed)
  | [] => return []
  | .load folder file hue :: rest => do
    let answer ← loadAfresh folder file hue
    return .loaded folder file hue answer :: (← serveAfresh rest)
  | .clear :: rest => return .cleared :: (← serveAfresh rest)

end

/-- A call of a loader, with its answer. -/
structure LoaderCall where
  folder : String
  file : String
  hue : Nat
  answer : Except Fault Bitmap

/-- Surroundings in which the calls of the loader are written down. -/
structure Recorded (σ : Type) where
  state : σ
  calls : List LoaderCall := []

section

variable {σ : Type} [BitmapLoader (StateM σ)]

/-- The loader of the surroundings, with a record of its calls. -/
instance : BitmapLoader (StateM (Recorded σ)) where
  load folder file hue := do
    let r ← get
    let (answer, state) :=
      ((BitmapLoader.load folder file hue : StateM σ (Except Fault Bitmap)).run r.state).run
    set ({ state, calls := r.calls ++ [⟨folder, file, hue, answer⟩] } : Recorded σ)
    return answer

/-- A recorded call of a loader is a call of the loader that is written down. -/
theorem yields_recorded {folder file : String} {hue : Nat} {r r' : Recorded σ}
    {answer : Except Fault Bitmap} (h : Yields (BitmapLoader.load folder file hue) r answer r') :
    Yields (BitmapLoader.load folder file hue) r.state answer r'.state ∧
      r'.calls = r.calls ++ [⟨folder, file, hue, answer⟩] := by
  obtain ⟨hanswer, hrecorded⟩ := Prod.mk.inj h
  subst hanswer
  rw [← hrecorded]
  exact ⟨rfl, rfl⟩

variable {c c' : BitmapCache} {deeds : List CacheDeed} {s s' : σ}

/-- How a cache that has done these deeds answers a request, and what it asks of its loader for
that. The surroundings are those before and after the request. -/
structure AnswersRequest (deeds : List CacheDeed) (folder file : String) (hue : Int)
    (c : BitmapCache) (r : Recorded σ) (answer : Except Fault Bitmap) (c' : BitmapCache)
    (r' : Recorded σ) : Prop where
  asks : r'.calls ≠ r.calls ↔
    ¬ IsPlaceholder file ∧ ∀ bitmap, ¬ HasGiven deeds folder file hue bitmap
  asked : ¬ IsPlaceholder file → (∀ bitmap, ¬ HasGiven deeds folder file hue bitmap) →
    ∃ turn : Nat, turn < 360 ∧ (turn : Int) ≡ hue [ZMOD 360] ∧
      r'.calls = r.calls ++ [⟨folder, file, turn, answer⟩] ∧
      Yields (BitmapLoader.load folder file turn) r.state answer r'.state
  given : ¬ IsPlaceholder file → ∀ bitmap, HasGiven deeds folder file hue bitmap →
    answer = .ok bitmap ∧ c' = c ∧ r' = r
  placeholder : IsPlaceholder file →
    answer = .ok { width := 1, height := 1, source := "" } ∧ c' = c ∧ r' = r
  failed : ∀ fault, answer = .error fault → c' = c

/-- A request that needs a loader is answered by it. -/
theorem AnswersRequest.of_asked {folder file : String} {hue : Int} {r r' : Recorded σ}
    {answer : Except Fault Bitmap} {key : BitmapKey} (h : c.Reflects deeds)
    (hkey : BitmapKey.ofRequest? folder file hue = some key) (hmissing : c.get? key = none)
    (hload : Yields (BitmapLoader.load key.folder key.file key.hue) r answer r')
    (hfailed : ∀ fault, answer = .error fault → c' = c) :
    AnswersRequest deeds folder file hue c r answer c' r' := by
  obtain ⟨hload, hcalls⟩ := yields_recorded hload
  have hnew : ∀ bitmap, ¬ HasGiven deeds folder file hue bitmap := by
    intro bitmap hgiven
    rw [← h.kept bitmap hkey, hmissing] at hgiven
    cases hgiven
  obtain ⟨hnamed, rfl, rfl, hturn, hhue⟩ := BitmapKey.ofRequest?_eq_some.mp hkey
  exact
    { asks := by simp [hcalls, hnamed, hnew]
      asked := fun _ _ => ⟨key.hue, hturn, hhue, hcalls, hload⟩
      given := fun _ bitmap hgiven => (hnew bitmap hgiven).elim
      placeholder := fun hfile => (hnamed hfile).elim
      failed := hfailed }

/-- Every request is answered in this way. -/
theorem BitmapCache.Reflects.answersRequest {folder file : String} {hue : Int} {r r' : Recorded σ}
    {answer : Except Fault Bitmap} (h : c.Reflects deeds)
    (hload : c.Load folder file hue r answer c' r') :
    AnswersRequest deeds folder file hue c r answer c' r' := by
  cases hload with
  | placeholder hfile =>
    exact
      { asks := by simp [hfile]
        asked := fun hnamed => (hnamed hfile).elim
        given := fun hnamed => (hnamed hfile).elim
        placeholder := fun _ => ⟨rfl, rfl, rfl⟩
        failed := fun _ _ => rfl }
  | @kept key bitmap hkey hkept =>
    have hgiven := (h.kept bitmap hkey).mp hkept
    have hnamed := (BitmapKey.ofRequest?_eq_some.mp hkey).1
    have hsame : ∀ bitmap', HasGiven deeds folder file hue bitmap' → bitmap = bitmap' := by
      intro bitmap' hgiven'
      rw [← h.kept bitmap' hkey, hkept] at hgiven'
      exact Option.some.inj hgiven'
    exact
      { asks := ⟨fun hcalls => (hcalls rfl).elim, fun hnew => (hnew.2 bitmap hgiven).elim⟩
        asked := fun _ hnew => (hnew bitmap hgiven).elim
        given := fun _ bitmap' hgiven' => ⟨congrArg _ (hsame bitmap' hgiven'), rfl, rfl⟩
        placeholder := fun hfile => (hnamed hfile).elim
        failed := fun _ _ => rfl }
  | failed hkey hmissing hload => exact .of_asked h hkey hmissing hload fun _ _ => rfl
  | fetched hkey hmissing hload => exact .of_asked h hkey hmissing hload (by simp)

/-- The answers of a loader whose answers depend on nothing but the call. -/
abbrev PureAnswers : Type := String → String → Nat → Except Fault Bitmap

/-- The loader gives these answers at all times. -/
def LoadsPurely (σ : Type) [BitmapLoader (StateM σ)] (f : PureAnswers) : Prop :=
  ∀ folder file hue (s s' : σ) answer,
    Yields (BitmapLoader.load folder file hue) s answer s' → answer = f folder file hue

/-- How a request is answered if the loader gives these answers. -/
def answerUnder (f : PureAnswers) (folder file : String) (hue : Int) : Except Fault Bitmap :=
  (BitmapKey.ofRequest? folder file hue).elim (.ok .placeholder) fun key =>
    f key.folder key.file key.hue

/-- What a call comes to if the loader gives these answers. -/
def CacheCall.deedUnder (f : PureAnswers) : CacheCall → CacheDeed
  | .load folder file hue => .loaded folder file hue (answerUnder f folder file hue)
  | .clear => .cleared

section

variable {f : PureAnswers} {calls : List CacheCall}

/-- What is kept is what the loader gives. -/
def BitmapCache.Mirrors (c : BitmapCache) (f : PureAnswers) : Prop :=
  ∀ key bitmap, c.get? key = some bitmap → f key.folder key.file key.hue = .ok bitmap

/-- A cache in front of a pure loader answers as the loader does, and goes on keeping what it
gives. -/
theorem BitmapCache.Mirrors.load {folder file : String} {hue : Int} {answer : Except Fault Bitmap}
    (h : c.Mirrors f) (hpure : LoadsPurely σ f) (hload : c.Load folder file hue s answer c' s') :
    answer = answerUnder f folder file hue ∧ c'.Mirrors f := by
  unfold answerUnder
  cases hload with
  | placeholder hfile => exact ⟨by rw [BitmapKey.ofRequest?_eq_none.mpr hfile]; rfl, h⟩
  | kept hkey hkept => exact ⟨by rw [hkey, Option.elim_some, h _ _ hkept], h⟩
  | failed hkey _ hload => exact ⟨by rw [hkey, Option.elim_some, ← hpure _ _ _ _ _ _ hload], h⟩
  | @fetched key bitmap _ hkey _ hload =>
    have hanswer := hpure _ _ _ _ _ _ hload
    refine ⟨by rw [hkey, Option.elim_some, ← hanswer], fun key' bitmap' hkept => ?_⟩
    rw [get?_insert] at hkept
    split at hkept <;> rename_i hkeys
    · rw [hkeys, ← hanswer, Option.some.inj hkept]
    · exact h key' bitmap' hkept

/-- With a cache in front of a pure loader, calls come to what the loader gives. -/
theorem BitmapCache.Mirrors.serveAll (h : c.Mirrors f) (hpure : LoadsPurely σ f)
    (hserve : Yields (c.serveAll calls) s (deeds, c') s') :
    deeds = calls.map (CacheCall.deedUnder f) := by
  induction calls generalizing c deeds s with
  | nil => exact (yields_pair.mp hserve).1
  | cons call rest ih =>
    obtain ⟨⟨deed, c₁⟩, s₁, hcall, hrest⟩ := yields_bind.mp hserve
    obtain ⟨⟨deeds', c₂⟩, s₂, hrest, hpair⟩ := yields_bind.mp hrest
    obtain ⟨rfl, rfl, rfl⟩ := yields_pair.mp hpair
    have hdeed : deed = call.deedUnder f ∧ c₁.Mirrors f := by
      cases call with
      | load folder file hue =>
        obtain ⟨⟨answer, c₂⟩, s₃, hload, hpair⟩ := yields_bind.mp hcall
        obtain ⟨rfl, rfl, rfl⟩ := yields_pair.mp hpair
        obtain ⟨rfl, hmirrors⟩ := h.load hpure (load_exits hload)
        exact ⟨rfl, hmirrors⟩
      | clear =>
        obtain ⟨rfl, rfl, rfl⟩ := yields_pair.mp hcall
        exact ⟨rfl, fun key bitmap hkept => by cases hkept⟩
    rw [List.map_cons, ← hdeed.1, ← ih hdeed.2 hrest]

/-- Without a cache in front of a pure loader, a request is answered as the loader does. -/
theorem loadAfresh_of_loadsPurely {folder file : String} {hue : Int} {answer : Except Fault Bitmap}
    (hpure : LoadsPurely σ f) (hload : Yields (loadAfresh folder file hue) s answer s') :
    answer = answerUnder f folder file hue := by
  unfold loadAfresh at hload
  unfold answerUnder
  cases hkey : BitmapKey.ofRequest? folder file hue with
  | none =>
    rw [hkey] at hload
    exact (yields_pure.mp hload).1
  | some key =>
    rw [hkey] at hload
    exact hpure _ _ _ _ _ _ hload

/-- Without a cache in front of a pure loader, calls come to what the loader gives as well. -/
theorem serveAfresh_of_loadsPurely (hpure : LoadsPurely σ f)
    (hserve : Yields (serveAfresh calls) s deeds s') :
    deeds = calls.map (CacheCall.deedUnder f) := by
  induction calls generalizing deeds s with
  | nil => exact (yields_pure.mp hserve).1
  | cons call rest ih =>
    cases call with
    | load folder file hue =>
      obtain ⟨answer, s₁, hload, hrest⟩ := yields_bind.mp hserve
      obtain ⟨deeds', s₂, hrest, hpure'⟩ := yields_bind.mp hrest
      obtain ⟨rfl, rfl⟩ := yields_pure.mp hpure'
      rw [List.map_cons, CacheCall.deedUnder, ← loadAfresh_of_loadsPurely hpure hload, ← ih hrest]
    | clear =>
      obtain ⟨deeds', s₂, hrest, hpure'⟩ := yields_bind.mp hserve
      obtain ⟨rfl, rfl⟩ := yields_pure.mp hpure'
      rw [List.map_cons, CacheCall.deedUnder, ← ih hrest]

end

/-- **The cache of bitmaps is transparent.** Whatever calls a new cache has served, in front of any
loader, it keeps as many bitmaps as there are files and angles for which one has been given out
since it was last cleared, and answers the next request as these deeds say. With a loader that is a
pure function the answers are those that there would be without a cache. -/
theorem BitmapCache.serveAll_transparent (calls : List CacheCall) :
    (∀ s : σ, ∃ deeds c r, Yields (({} : BitmapCache).serveAll calls) { state := s } (deeds, c) r ∧
      deeds.map CacheDeed.call = calls ∧
      (∃ keys : Finset BitmapKey, c.size = keys.card ∧ ∀ key, key ∈ keys ↔
        key.hue < 360 ∧ ¬ IsPlaceholder key.file ∧
          ∃ bitmap, HasGiven deeds key.folder key.file key.hue bitmap) ∧
      ∀ folder file hue, ∃ answer c' r', Yields (c.load folder file hue) r (answer, c') r' ∧
        AnswersRequest deeds folder file hue c r answer c' r') ∧
    ∀ f, LoadsPurely σ f → ∀ s₁ s₂ : σ, ∃ deeds c s₁' s₂',
      Yields (({} : BitmapCache).serveAll calls) s₁ (deeds, c) s₁' ∧
      Yields (serveAfresh calls) s₂ deeds s₂' := by
  constructor
  · intro s
    obtain ⟨⟨deeds, c⟩, r, hserve⟩ : ∃ served, ∃ r : Recorded σ,
        Yields (({} : BitmapCache).serveAll calls) { state := s } served r := ⟨_, _, yields_run ..⟩
    obtain ⟨hreflects, hcalls⟩ := Reflects.new.serveAll hserve
    refine ⟨deeds, c, r, hserve, hcalls, hreflects.size_eq, fun folder file hue => ?_⟩
    obtain ⟨⟨answer, c'⟩, r', hload⟩ : ∃ loaded r', Yields (c.load folder file hue) r loaded r' :=
      ⟨_, _, yields_run ..⟩
    exact ⟨answer, c', r', hload, hreflects.answersRequest (load_exits hload)⟩
  · intro f hpure s₁ s₂
    obtain ⟨⟨deeds, c⟩, s₁', hserve⟩ : ∃ served s₁',
        Yields (({} : BitmapCache).serveAll calls) s₁ served s₁' := ⟨_, _, yields_run ..⟩
    obtain ⟨deeds', s₂', hafresh⟩ : ∃ deeds' s₂', Yields (serveAfresh calls) s₂ deeds' s₂' :=
      ⟨_, _, yields_run ..⟩
    have hmirrors : ({} : BitmapCache).Mirrors f := fun key bitmap hkept => by cases hkept
    obtain rfl : deeds' = deeds :=
      (serveAfresh_of_loadsPurely hpure hafresh).trans (hmirrors.serveAll hpure hserve).symm
    exact ⟨_, _, _, _, hserve, hafresh⟩

end

/-- Surroundings that count how often their loader has been called. -/
private structure LoadCounter where
  count : Nat

/-- What a loader gives that has no picture of the villain. -/
private def portrait (folder file : String) (_ : Nat) : Except Fault Bitmap :=
  if file = "villain" then .error (.reported "no such bitmap")
  else .ok { width := 32, height := 32, source := folder ++ "/" ++ file }

private instance : BitmapLoader (StateM LoadCounter) where
  load folder file hue := do
    modify fun counter => { count := counter.count + 1 }
    return portrait folder file hue

/-- The hero three times at the same angle, a placeholder, the villain twice, and the hero again
after clearing. -/
private def casting : List CacheCall :=
  [.load "Cast" "hero" (-90), .load "Cast" "hero" 270, .load "Cast" "hero" 630,
    .load "Cast" "!extra" 0, .load "Cast" "villain" 0, .load "Cast" "villain" 0, .clear,
    .load "Cast" "hero" 270]

/-- With and without a cache the calls are answered alike; the loader is called four times with it
and six times without. -/
theorem casting_transparent : LoadsPurely LoadCounter portrait ∧
    ∃ deeds c, Yields (({} : BitmapCache).serveAll casting) (⟨0⟩ : LoadCounter) (deeds, c) ⟨4⟩ ∧
      Yields (serveAfresh casting) (⟨0⟩ : LoadCounter) deeds ⟨6⟩ := by
  have hpure : LoadsPurely LoadCounter portrait := by
    intro folder file hue s s' answer h
    exact (Prod.mk.inj h).1.symm
  obtain ⟨deeds, c, s₁, s₂, hserve, hafresh⟩ :=
    (BitmapCache.serveAll_transparent casting).2 portrait hpure ⟨0⟩ ⟨0⟩
  have hcalls :
      ((({} : BitmapCache).serveAll casting : StateM LoadCounter _).run ⟨0⟩).run.2 = ⟨4⟩ := by
    cbv
  have hcallsAfresh : ((serveAfresh casting : StateM LoadCounter _).run ⟨0⟩).run.2 = ⟨6⟩ := by
    cbv
  obtain rfl : s₁ = ⟨4⟩ := (congrArg Prod.snd hserve).symm.trans hcalls
  obtain rfl : s₂ = ⟨6⟩ := (congrArg Prod.snd hafresh).symm.trans hcallsAfresh
  exact ⟨hpure, deeds, c, hserve, hafresh⟩

end Overworld
