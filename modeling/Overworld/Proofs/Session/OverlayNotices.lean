import Overworld.Proofs.Session.ShownGrid

/-!
# Notices of the overlay

The host is told when the overlay is switched, when a reload draws it anew and when a transfer hides
it, so that the last of these notices says whether it is shown. There is one exception: a reload
while tilemaps are refused hides a shown overlay, and the host is not told.
-/

namespace Overworld

/-- Between two moments the host is told what it needs to know about the overlay: if what it was
told before was right, also if only for a shown overlay, then so is what it has been told
afterwards. -/
structure NoticeBoard.Informs (shown shown' : Bool) (l l' : NoticeBoard) : Prop where
  of_shown : ∀ before, (shown = true → TellsShown (before ++ l)) →
    shown' = true → TellsShown (before ++ l')
  of_told : ∀ before, (TellsShown (before ++ l) → shown = true) →
    TellsShown (before ++ l') → shown' = true

namespace NoticeBoard

variable {shown shown' shown'' : Bool} {l l' l'' : NoticeBoard}

/-- Nothing is told of the overlay, and it does not change. -/
theorem AddsOthers.informs (h : l.AddsOthers l') : Informs shown shown l l' :=
  ⟨fun before hl => (h.tellsShown_iff before).mpr ∘ hl,
    fun before hl => hl ∘ (h.tellsShown_iff before).mp⟩

/-- The overlay is shown, and the host is told. -/
theorem Informs.showing (l : NoticeBoard) (map : UInt32) (blocked : Nat) :
    Informs shown true l (l ++ [.overlayShown map blocked]) :=
  ⟨fun before _ _ => tellsShown_shown before l map blocked, fun _ _ _ => rfl⟩

/-- The overlay is hidden, and the host is told. -/
theorem Informs.hiding (l : NoticeBoard) : Informs shown false l (l ++ [.overlayHidden]) :=
  ⟨fun _ _ hshown => absurd hshown (by decide),
    fun before _ htold => absurd htold (not_tellsShown_hidden before l)⟩

/-- Informing the host twice in a row informs it. -/
theorem Informs.trans (h : Informs shown shown' l l') (h' : Informs shown' shown'' l' l'') :
    Informs shown shown'' l l'' :=
  ⟨fun before hl => h'.of_shown before (h.of_shown before hl),
    fun before hl => h'.of_told before (h.of_told before hl)⟩

end NoticeBoard

namespace Overlay

/-- A frame loses the overlay: it is shown, and a reload has taken effect while tilemaps are refused
and the host does not switch it. -/
structure IsLost (o : Overlay) (input : Input) (c c' : FieldContext) : Prop where
  enabled : o.enabled = true
  refuses : o.canvas.refusesTilemaps = true
  untouched : input.trigger .debugOverlay = false
  reloaded : c'.generation ≠ c.generation

variable {o : Overlay} {input : Input} {c c' : FieldContext} {hooked : Hooked Overlay}
  {forms : List FieldMap}

/-- Behind the tick of the watcher, the frame hook of the overlay informs the host, unless the
overlay is lost. -/
theorem HookExits.informs (h : o.HookExits input c' hooked) (hwatched : Session.Watched c c')
    (hcurrent : o.enabled = true → o.Current c forms) (hkept : ¬ o.IsLost input c c') :
    NoticeBoard.Informs o.enabled hooked.plugin.enabled c.notices hooked.context.notices := by
  refine hwatched.told.informs.trans ?_
  cases h with
  | asleep => exact NoticeBoard.AddsOthers.informs (.refl ..)
  | kept =>
    rw [(o.follow_shown c'.snapshot.map).1]
    exact NoticeBoard.AddsOthers.informs (.refl ..)
  | hid =>
    rw [(o.hide.follow_shown c'.snapshot.map).1]
    exact .hiding _
  | showed _ _ _ _ henabled =>
    rw [henabled]
    exact .showing ..
  | refused hdraws hrefuses hhidden =>
    -- A shown overlay that could not be drawn anew would be lost.
    have hbefore : o.enabled = false := by
      unfold Draws at hdraws
      split at hdraws
      · exact hdraws
      · rename_i htrigger
        obtain ⟨henabled, hstale⟩ := hdraws
        have hgeneration := (hcurrent henabled).generation_eq
        exact absurd ⟨henabled, hrefuses, by simpa using htrigger, fun hsame =>
          hstale (hgeneration.trans hsame.symm)⟩ hkept
    rw [hhidden, hbefore]
    exact NoticeBoard.AddsOthers.informs (.refl ..)

/-- An overlay that is lost is hidden, and the host is told nothing of it. -/
theorem HookExits.lost (h : o.HookExits input c' hooked) (hwatched : Session.Watched c c')
    (hcurrent : o.enabled = true → o.Current c forms) (hlost : o.IsLost input c c') :
    hooked.plugin.enabled = false ∧ c.notices.AddsOthers hooked.context.notices := by
  obtain ⟨henabled, hrefuses, htrigger, hreloaded⟩ := hlost
  obtain ⟨hdebug, hgeneration, -⟩ := hcurrent henabled
  cases h with
  | refused _ _ hhidden => exact ⟨hhidden, hwatched.told⟩
  | asleep hasleep =>
    exact absurd (hasleep.symm.trans (hwatched.awake hdebug hreloaded)) (by decide)
  | kept _ hfresh => exact absurd ((hfresh henabled).symm.trans hgeneration) hreloaded
  | hid htrigger' => exact absurd (htrigger.symm.trans htrigger') (by decide)
  | showed _ hgranted => exact absurd (hrefuses.symm.trans hgranted) (by decide)

end Overlay

namespace Session

section

variable {w : ReloadWatcher} {o : Overlay} {s s' : Session Empty} {forms : List FieldMap}
  {input : Input}

variable {σ : Type} [DataSource (StateM σ)] [BitmapLoader (StateM σ)] {a b : σ}

/-- A transfer informs the host. -/
theorem transfer_informs {target : UInt32} {x y : Int} {result : Except Fault Unit}
    (hplugins : s.plugins = [.reload w, .overlay o])
    (h : Yields (s.transfer target x y) a (result, s') b) :
    NoticeBoard.Informs o.enabled false s.context.notices s'.context.notices := by
  refine NoticeBoard.Informs.trans ?_ (transfer_takesDown hplugins h).arrives.told.informs
  simp only [Overlay.onTransfer]
  cases o.enabled with
  | true => exact .hiding _
  | false => exact NoticeBoard.AddsOthers.informs (.refl ..)

/-- A transfer tells nothing of an overlay that is hidden. -/
theorem transfer_quiet {target : UInt32} {x y : Int} {result : Except Fault Unit}
    (hplugins : s.plugins = [.reload w, .overlay o]) (hhidden : o.enabled = false)
    (h : Yields (s.transfer target x y) a (result, s') b) :
    s.context.notices.AddsOthers s'.context.notices := by
  have htold := (transfer_takesDown hplugins h).arrives.told
  simp only [Overlay.onTransfer, hhidden, Bool.false_eq_true, if_false] at htold
  exact htold

/-- What is behind the hooks of a frame informs the host, and tells nothing of an overlay that is
hidden. -/
theorem rest_informs (hplugins : s.plugins = [.reload w, .overlay o])
    (h : s.InPlace s' ∨ s.Travels a s' b) :
    ∃ o', s'.plugins = [.reload w, .overlay o'] ∧
      s'.context.generation = s.context.generation ∧
      NoticeBoard.Informs o.enabled o'.enabled s.context.notices s'.context.notices ∧
      (o.enabled = false →
        o'.enabled = false ∧ s.context.notices.AddsOthers s'.context.notices) := by
  rcases h with hplace | ⟨hbefore, htransfer, hbehind⟩
  · exact ⟨o, hplace.plugins_eq.trans hplugins, hplace.generation_eq, hplace.told.informs,
      fun hhidden => ⟨hhidden, hplace.told⟩⟩
  · have hthere := hbefore.plugins_eq.trans hplugins
    have hdown := transfer_takesDown hthere htransfer
    refine ⟨o.hide, hbehind.plugins_eq.trans hdown.plugins_eq, ?_, ?_, fun hhidden => ⟨rfl, ?_⟩⟩
    · exact hbehind.generation_eq.trans (hdown.arrives.generation_eq.trans
        ((o.onTransfer_leaves _).data_eq.2.trans hbefore.generation_eq))
    · exact hbefore.told.informs.trans
        ((transfer_informs hthere htransfer).trans hbehind.told.informs)
    · exact hbefore.told.trans ((transfer_quiet hthere hhidden htransfer).trans hbehind.told)

/-- A frame in which the overlay is lost: a reload takes effect while the overlay is shown and
tilemaps are refused, and the host does not switch it. -/
structure LosesOverlay (s : Session Empty) (input : Input) (s' : Session Empty) : Prop where
  shown : ∃ o, s.overlay? = some o ∧ o.enabled = true ∧ o.canvas.refusesTilemaps = true
  untouched : input.trigger .debugOverlay = false
  reloaded : s'.context.generation ≠ s.context.generation

/-- No frame that satisfies `P` loses the overlay. -/
def Lossless (P : Session Empty → Input → Session Empty → Prop) : Prop :=
  ∀ s input s', P s input s' → ¬ s.LosesOverlay input s'

/-- A frame informs the host, unless the overlay is lost in it; then it is hidden, and the host is
told nothing. -/
theorem update_informs {outcome : Except Fault TickOutcome} (h : UpToDate w o s forms)
    (hupdate : Yields (s.update input) a (outcome, s') b) :
    ∃ w' o', s'.plugins = [.reload w', .overlay o'] ∧
      (¬ s.LosesOverlay input s' →
        NoticeBoard.Informs o.enabled o'.enabled s.context.notices s'.context.notices) ∧
      (s.LosesOverlay input s' →
        o'.enabled = false ∧ s.context.notices.AddsOthers s'.context.notices) := by
  obtain ⟨t, a₁, htick, -, hends⟩ := update_own h.plugins_eq hupdate
  have hwatched := tick_watched htick
  obtain ⟨o', hplugins, hgeneration, hinforms, hquiet⟩ := rest_informs
    (s := s.looked (ownHooks o input t)) rfl (hends.imp And.right And.right)
  have hrenewed : s'.context.generation = t.context.generation :=
    hgeneration.trans (o.onUpdate_leaves input t.context).data_eq.2
  have hoverlay : s.overlay? = some o := by rw [overlay?, h.plugins_eq]; rfl
  refine ⟨t.watcher, o', hplugins, fun hkept => ?_, fun hlost => ?_⟩
  · have hkept' : ¬ o.IsLost input s.context t.context := fun hlost =>
      hkept ⟨⟨o, hoverlay, hlost.enabled, hlost.refuses⟩, hlost.untouched,
        hrenewed ▸ hlost.reloaded⟩
    exact ((o.onUpdate_exits input t.context).informs hwatched h.current hkept').trans hinforms
  · obtain ⟨⟨lost, hlost, henabled, hrefuses⟩, htrigger, hreloaded⟩ := hlost
    obtain rfl : o = lost := Option.some.inj (hoverlay.symm.trans hlost)
    obtain ⟨hhidden, htold⟩ := (o.onUpdate_exits input t.context).lost hwatched h.current
      ⟨henabled, hrefuses, htrigger, hrenewed ▸ hreloaded⟩
    obtain ⟨hstill, hrest⟩ := hquiet hhidden
    exact ⟨hstill, htold.trans hrest⟩

/-- The host has been told last that the overlay is shown if that is so; and the other way round if
no frame has lost it. -/
structure Informed (lossless : Prop) (o : Overlay) (board : NoticeBoard) : Prop where
  of_shown : o.enabled = true → board.TellsShown
  of_told : lossless → board.TellsShown → o.enabled = true

/-- A host that is informed stays informed. -/
theorem Informed.step {lossless : Prop} {o' : Overlay} {taken l l' : NoticeBoard}
    (h : Informed lossless o (taken ++ l))
    (hinforms : NoticeBoard.Informs o.enabled o'.enabled l l') :
    Informed lossless o' (taken ++ l') :=
  ⟨hinforms.of_shown taken h.of_shown,
    fun hlossless => hinforms.of_told taken (h.of_told hlossless)⟩

/-- A hidden overlay is up to date in one way only. -/
theorem UpToDate.overlay_eq {w' : ReloadWatcher} {o' : Overlay} (h : UpToDate w' o' s forms)
    (hplugins : s.plugins = [.reload w, .overlay o]) : o' = o := by
  have hsame := h.plugins_eq.symm.trans hplugins
  simp only [List.cons.injEq, Extension.overlay.injEq] at hsame
  exact hsame.2.1

variable {P : Session Empty → Input → Session Empty → Prop} {taken : NoticeBoard}

/-- In the course of a session the host stays informed. -/
theorem Course.informed (h : Course σ P s taken forms) :
    ∃ w o, s.plugins = [.reload w, .overlay o] ∧
      Informed (Lossless P) o (taken ++ s.context.notices) := by
  induction h with
  | begun hplugins hhidden hboard =>
    exact ⟨_, _, hplugins, fun henabled => absurd (henabled.symm.trans hhidden) (by decide),
      fun _ htold => absurd htold hboard⟩
  | @updated s s' _ _ input _ _ _ _ _ hs _ h hP ih =>
    obtain ⟨w, o, hplugins, hinformed⟩ := ih
    obtain ⟨w₁, o₁, hdate⟩ := hs.upToDate
    obtain rfl := hdate.overlay_eq hplugins
    obtain ⟨w', o', hplugins', hkept, hlost⟩ := update_informs hdate h
    refine ⟨w', o', hplugins', ?_⟩
    by_cases hloses : s.LosesOverlay input s'
    · exact ⟨fun henabled => absurd (henabled.symm.trans (hlost hloses).1) (by decide),
        fun hlossless => absurd hloses (hlossless _ _ _ hP)⟩
    · exact hinformed.step (hkept hloses)
  | transferred _ h ih =>
    obtain ⟨w, o, hplugins, hinformed⟩ := ih
    exact ⟨w, o.hide, (transfer_takesDown hplugins h).plugins_eq,
      hinformed.step (transfer_informs hplugins h)⟩
  | sceneChanged _ h ih =>
    obtain ⟨w, o, hplugins, hinformed⟩ := ih
    obtain ⟨hsame, -, -, -, hnotices⟩ := setScene_same h
    exact ⟨w, o, hsame.trans hplugins, hnotices ▸ hinformed⟩
  | eventStarted _ _ ih | eventCalled _ _ ih => exact ih
  | switchSet _ name switch value ih =>
    obtain ⟨w, o, hplugins, hinformed⟩ := ih
    exact ⟨w, o, hplugins, hinformed.step (NoticeBoard.AddsOthers.informs (.single _ rfl))⟩
  | noticesTaken _ ih =>
    obtain ⟨w, o, hplugins, hinformed⟩ := ih
    exact ⟨w, o, hplugins, (List.append_nil _).symm ▸ hinformed⟩
  | refusing _ refuses ih =>
    obtain ⟨w, o, hplugins, hinformed⟩ := ih
    refine ⟨w, { o with canvas := { o.canvas with refusesTilemaps := refuses } }, ?_,
      hinformed.of_shown, hinformed.of_told⟩
    rw [refusingTilemaps, hplugins]
    rfl

end

end Session

end Overworld
