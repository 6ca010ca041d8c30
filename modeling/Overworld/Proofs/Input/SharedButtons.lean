import Mathlib.Data.List.Basic
import Mathlib.Data.List.Induction
import Overworld.Input.State

/-!
# Buttons with several keys

A button is held by its keys, but only the button is kept: whether it is held is what the last
event of any of its keys says. That is not the same as whether one of its keys is down. The two part
when a key is let go while another key of the same button stays down, and at no other time.
-/

namespace Overworld

/-- What a host tells an input. -/
inductive InputEvent where
  | key (name : String) (pressed : Bool)
  | newFrame
  deriving DecidableEq

/-- What the events of some keys say, in order: whether the key is pressed. -/
def strokes (keys : String → Prop) [DecidablePred keys] (history : List InputEvent) : List Bool :=
  history.filterMap fun
    | .key name pressed => if keys name then some pressed else none
    | .newFrame => none

/-- The last event of these keys was a press. -/
def LastPressed (keys : String → Prop) [DecidablePred keys] (history : List InputEvent) : Prop :=
  (strokes keys history).getLast? = some true

/-- A key is down. The case of its letters makes no difference. -/
def KeyDown (key : String) (history : List InputEvent) : Prop :=
  LastPressed (fun name => name.toLower = key.toLower) history

/-- In the frame at the end of a history there was an event at which a condition came to hold. -/
def RoseInFrame (condition : List InputEvent → Prop) (history : List InputEvent) : Prop :=
  ∃ earlier event later, history = earlier ++ event :: later ∧ .newFrame ∉ later ∧
    ¬ condition earlier ∧ condition (earlier ++ [event])

namespace Bindings

/-- The keys that the entries of a binding file give a button: those of its last entry, or the
default ones. -/
def listed (entries : List (String × List String)) (b : Button) : List String :=
  (entries.reverse.lookup b.label).getD b.defaultKeys

/-- A key is one of a button's, whatever the case of its letters. -/
def Binds (entries : List (String × List String)) (b : Button) (key : String) : Prop :=
  ∃ name ∈ listed entries b, name.toLower = key.toLower

instance (entries : List (String × List String)) (b : Button) : DecidablePred (Binds entries b) :=
  fun key => inferInstanceAs (Decidable (∃ name ∈ listed entries b, name.toLower = key.toLower))

/-- A key of a button is down. -/
def SomeKeyDown (entries : List (String × List String)) (b : Button) (history : List InputEvent) :
    Prop :=
  ∃ key, Binds entries b key ∧ KeyDown key history

/-- A key of a button was let go while another one of its keys stayed down. -/
def SharedKeyLetGo (entries : List (String × List String)) (b : Button)
    (history : List InputEvent) : Prop :=
  ∃ earlier key later, history = earlier ++ .key key false :: later ∧ Binds entries b key ∧
    SomeKeyDown entries b (earlier ++ [.key key false])

end Bindings

namespace Input

/-- The input behind an event. -/
def receive (i : Input) : InputEvent → Input
  | .key name pressed => i.setKey name pressed
  | .newFrame => i.clearFrame

/-- A new input with these bindings, behind a history of events. -/
def after (bindings : Bindings) (history : List InputEvent) : Input :=
  history.foldl receive { bindings }

end Input

section

variable {b : Button}

/-- A button is found by its name, and by no other. -/
theorem Button.ofLabel?_eq_some {label : String} :
    Button.ofLabel? label = some b ↔ b.label = label := by
  constructor
  · intro h
    simpa using List.find?_some h
  · rintro rfl
    cases b <;> decide

/-- The default keys are in lower case. -/
theorem Button.defaultKeys_toLower (b : Button) :
    b.defaultKeys.map String.toLower = b.defaultKeys := by
  cases b <;> decide +kernel

namespace Bindings

variable {entries : List (String × List String)} {key : String}

/-- One more entry replaces the keys of its button. -/
theorem ofEntries_concat (entry : String × List String) :
    (ofEntries (entries ++ [entry])).keys b =
      if b.label = entry.1 then entry.2.map String.toLower else (ofEntries entries).keys b := by
  unfold ofEntries
  rw [List.foldl_concat]
  cases hbutton : Button.ofLabel? entry.1 with
  | none =>
    have hother : b.label ≠ entry.1 := fun h => by
      rw [Button.ofLabel?_eq_some.mpr h] at hbutton
      cases hbutton
    rw [if_neg hother]
  | some button =>
    have hlabel := Button.ofLabel?_eq_some.mp hbutton
    by_cases hsame : b = button
    · subst hsame
      rw [if_pos hlabel]
      exact if_pos rfl
    · have hother : b.label ≠ entry.1 := fun h =>
        hsame (Option.some.inj ((Button.ofLabel?_eq_some.mpr h).symm.trans hbutton))
      rw [if_neg hother]
      exact if_neg hsame

/-- The keys of a button are those that the entries give it, in lower case. -/
theorem keys_ofEntries : (ofEntries entries).keys b = (listed entries b).map String.toLower := by
  induction entries using List.reverseRecOn with
  | nil => exact b.defaultKeys_toLower.symm
  | append_singleton entries entry ih =>
    rw [ofEntries_concat, listed, List.reverse_append, List.reverse_singleton,
      List.singleton_append, List.lookup_cons]
    by_cases hsame : b.label = entry.1
    · simp [hsame]
    · have hother : (b.label == entry.1) = false := by simpa using hsame
      rw [if_neg hsame, ih, listed, hother]

/-- A key has the buttons that it is bound to. -/
theorem mem_buttons_ofEntries : b ∈ (ofEntries entries).buttons key ↔ Binds entries b key := by
  simp [buttons, Binds, keys_ofEntries, Button.mem_all]

end Bindings

section

variable {keys : String → Prop} [DecidablePred keys] {history : List InputEvent} {name : String}
  {pressed : Bool}

/-- No key has been pressed before the first event. -/
theorem not_lastPressed_nil : ¬ LastPressed keys [] := by
  simp [LastPressed, strokes]

/-- The event of a key says what the last event of these keys is, if the key is one of them. -/
theorem lastPressed_key :
    LastPressed keys (history ++ [.key name pressed]) ↔
      if keys name then pressed = true else LastPressed keys history := by
  by_cases hkey : keys name <;> simp [LastPressed, strokes, hkey]

/-- A new frame is no event of a key. -/
theorem lastPressed_newFrame :
    LastPressed keys (history ++ [.newFrame]) ↔ LastPressed keys history := by
  simp [LastPressed, strokes]

end

section

variable {condition condition' : List InputEvent → Prop} {history : List InputEvent}
  {event : InputEvent}

/-- Nothing has come to hold before the first event. -/
theorem not_roseInFrame_nil : ¬ RoseInFrame condition [] := by
  rintro ⟨earlier, event, later, hhistory, -⟩
  simp at hhistory

/-- A condition has come to hold at the last event, or before it in the same frame. -/
theorem roseInFrame_concat :
    RoseInFrame condition (history ++ [event]) ↔
      (¬ condition history ∧ condition (history ++ [event])) ∨
        (event ≠ .newFrame ∧ RoseInFrame condition history) := by
  constructor
  · rintro ⟨earlier, rising, later, hhistory, hframe, hbefore, hat⟩
    rcases List.eq_nil_or_concat' later with rfl | ⟨later, last, rfl⟩
    · obtain ⟨rfl, hlast⟩ := List.append_inj' hhistory rfl
      cases hlast
      exact .inl ⟨hbefore, hat⟩
    · rw [← List.cons_append, ← List.append_assoc] at hhistory
      obtain ⟨rfl, hlast⟩ := List.append_inj' hhistory rfl
      cases hlast
      simp only [List.mem_append, List.mem_singleton, not_or] at hframe
      exact .inr ⟨Ne.symm hframe.2, earlier, rising, later, rfl, hframe.1, hbefore, hat⟩
  · rintro (⟨hbefore, hat⟩ | ⟨hevent, earlier, rising, later, rfl, hframe, hbefore, hat⟩)
    · exact ⟨history, event, [], rfl, List.not_mem_nil, hbefore, hat⟩
    · refine ⟨earlier, rising, later ++ [event], by simp, ?_, hbefore, hat⟩
      simp only [List.mem_append, List.mem_singleton, not_or]
      exact ⟨hframe, Ne.symm hevent⟩

/-- Conditions that agree on every part of a history have come to hold together. -/
theorem RoseInFrame.congr (h : ∀ past, past <+: history → (condition past ↔ condition' past)) :
    RoseInFrame condition history ↔ RoseInFrame condition' history := by
  refine exists_congr fun earlier => exists_congr fun event => exists_congr fun later =>
    and_congr_right fun hhistory => and_congr_right fun _ => ?_
  subst hhistory
  rw [h earlier (List.prefix_append ..), h (earlier ++ [event]) ⟨later, by simp⟩]

end

namespace Input

variable {i : Input} {pressed : Bool} {key : String}

/-- Whether a button is held after some buttons have been pressed, or let go. -/
theorem press_foldl_setButton (buttons : List Button) :
    (buttons.foldl (fun i button => i.setButton button pressed) i).press b =
      if b ∈ buttons then pressed else i.press b := by
  induction buttons generalizing i with
  | nil => rfl
  | cons button buttons ih =>
    have hone : (i.setButton button pressed).press b =
        if b = button then pressed else i.press b := by
      unfold setButton
      cases pressed <;> by_cases hsame : b = button <;> by_cases hheld : button ∈ i.held <;>
        simp [press, hsame, hheld]
    rw [List.foldl_cons, ih, hone]
    by_cases hrest : b ∈ buttons <;> by_cases hsame : b = button <;> simp [hrest, hsame]

/-- A button has been triggered before, or it was pressed just now and had not been held. -/
theorem trigger_foldl_setButton (buttons : List Button) :
    (buttons.foldl (fun i button => i.setButton button pressed) i).trigger b = true ↔
      i.trigger b = true ∨ (b ∈ buttons ∧ pressed = true ∧ i.press b = false) := by
  induction buttons generalizing i with
  | nil => simp
  | cons button buttons ih =>
    have hone : (i.setButton button pressed).trigger b = true ↔
        i.trigger b = true ∨ (b = button ∧ pressed = true ∧ i.press b = false) := by
      unfold setButton
      cases pressed <;> by_cases hsame : b = button <;> by_cases hheld : button ∈ i.held <;>
        simp [trigger, press, hsame, hheld]
    have hheld : (i.setButton button pressed).press b =
        if b = button then pressed else i.press b := by
      simpa using press_foldl_setButton [button]
    rw [List.foldl_cons, ih, hone, hheld, List.mem_cons]
    by_cases hsame : b = button <;> cases pressed <;> simp [hsame]

/-- Pressing buttons leaves the bindings alone. -/
theorem bindings_foldl_setButton (buttons : List Button) :
    (buttons.foldl (fun i button => i.setButton button pressed) i).bindings = i.bindings := by
  induction buttons generalizing i with
  | nil => rfl
  | cons button buttons ih =>
    rw [List.foldl_cons, ih]
    unfold setButton
    split
    · split <;> rfl
    · rfl

variable {bindings : Bindings} {entries : List (String × List String)}
  {history : List InputEvent} {event : InputEvent}

/-- One more event. -/
theorem after_concat :
    after bindings (history ++ [event]) = (after bindings history).receive event :=
  List.foldl_concat ..

/-- No event changes the bindings. -/
theorem bindings_after : (after bindings history).bindings = bindings := by
  induction history using List.reverseRecOn with
  | nil => rfl
  | append_singleton history event ih =>
    rw [after_concat]
    cases event with
    | key name pressed => exact (bindings_foldl_setButton _).trans ih
    | newFrame => exact ih

/-- A button is held if the last event of its keys was a press. -/
theorem press_after :
    (after (.ofEntries entries) history).press b = true ↔
      LastPressed (Bindings.Binds entries b) history := by
  induction history using List.reverseRecOn with
  | nil => exact iff_of_false (by simp [after, press]) not_lastPressed_nil
  | append_singleton history event ih =>
    rw [after_concat]
    cases event with
    | newFrame => exact ih.trans lastPressed_newFrame.symm
    | key name pressed =>
      rw [receive, setKey, press_foldl_setButton, bindings_after, lastPressed_key, ← ih]
      by_cases hkey : Bindings.Binds entries b name
      · simp [hkey, Bindings.mem_buttons_ofEntries]
      · simp [hkey, Bindings.mem_buttons_ofEntries]

/-- A button is triggered if in this frame there was an event that made a press the last event of
its keys. -/
theorem trigger_after :
    (after (.ofEntries entries) history).trigger b = true ↔
      RoseInFrame (LastPressed (Bindings.Binds entries b)) history := by
  induction history using List.reverseRecOn with
  | nil => exact iff_of_false (by simp [after, trigger]) not_roseInFrame_nil
  | append_singleton history event ih =>
    rw [after_concat, roseInFrame_concat, ← ih]
    cases event with
    | newFrame => simp [receive, clearFrame, trigger, lastPressed_newFrame]
    | key name pressed =>
      rw [receive, setKey, trigger_foldl_setButton, bindings_after,
        Bindings.mem_buttons_ofEntries, lastPressed_key, ← press_after]
      by_cases hkey : Bindings.Binds entries b name
      · simp [hkey, or_comm, and_comm]
      · simp [hkey]

end Input

namespace Bindings

variable {entries : List (String × List String)} {history : List InputEvent} {key : String}

/-- A key that is bound to a button is so in any case of its letters. -/
theorem Binds.congr {name : String} (h : Binds entries b key) (hsame : name.toLower = key.toLower) :
    Binds entries b name := by
  obtain ⟨listing, hlisting, hlower⟩ := h
  exact ⟨listing, hlisting, hlower.trans hsame.symm⟩

/-- A key of a button that has just been pressed is down. -/
theorem SomeKeyDown.pressed (h : Binds entries b key) :
    SomeKeyDown entries b (history ++ [.key key true]) :=
  ⟨key, h, lastPressed_key.mpr (by simp)⟩

/-- The event of a key of other buttons changes nothing for the keys of a button. -/
theorem someKeyDown_of_other {pressed : Bool} (h : ¬ Binds entries b key) :
    SomeKeyDown entries b (history ++ [.key key pressed]) ↔ SomeKeyDown entries b history := by
  refine exists_congr fun name => and_congr_right fun hname => ?_
  have hother : ¬ key.toLower = name.toLower := fun hsame => h (hname.congr hsame)
  rw [KeyDown, lastPressed_key, if_neg hother, KeyDown]

/-- A new frame changes nothing for the keys of a button. -/
theorem someKeyDown_newFrame :
    SomeKeyDown entries b (history ++ [.newFrame]) ↔ SomeKeyDown entries b history :=
  exists_congr fun _ => and_congr_right fun _ => lastPressed_newFrame

/-- What has happened in a part of a history has happened in the history. -/
theorem SharedKeyLetGo.mono {past : List InputEvent} (h : SharedKeyLetGo entries b past)
    (hpast : past <+: history) : SharedKeyLetGo entries b history := by
  obtain ⟨earlier, key, later, rfl, hkey, hdown⟩ := h
  obtain ⟨rest, rfl⟩ := hpast
  exact ⟨earlier, key, later ++ rest, by simp, hkey, hdown⟩

/-- As long as no key is let go while another one of its button stays down, a key is down if the
last event was a press. -/
theorem lastPressed_iff_someKeyDown (h : ¬ SharedKeyLetGo entries b history) :
    LastPressed (Binds entries b) history ↔ SomeKeyDown entries b history := by
  induction history using List.reverseRecOn with
  | nil =>
    refine iff_of_false not_lastPressed_nil ?_
    rintro ⟨key, -, hdown⟩
    exact not_lastPressed_nil hdown
  | append_singleton history event ih =>
    have ih := ih fun hpast => h (hpast.mono (List.prefix_append ..))
    cases event with
    | newFrame => rw [lastPressed_newFrame, someKeyDown_newFrame, ih]
    | key name pressed =>
      rw [lastPressed_key]
      by_cases hkey : Binds entries b name
      · rw [if_pos hkey]
        cases pressed with
        | true => exact iff_of_true rfl (.pressed hkey)
        | false => exact iff_of_false (by simp) fun hdown => h ⟨history, name, [], rfl, hkey, hdown⟩
      · rw [if_neg hkey, someKeyDown_of_other hkey, ih]

end Bindings

namespace Input

variable {entries : List (String × List String)} {history : List InputEvent}

/-- **What the keys of a button do to it.** A button is held if the last event of its keys was a
press, and it is triggered if in this frame there was an event that made this so. This is what its
keys being down is, all the time, if and only if none of them is ever let go while another one stays
down. -/
theorem keys_hold_button (entries : List (String × List String)) (b : Button)
    (history : List InputEvent) :
    ((after (.ofEntries entries) history).press b = true ↔
        LastPressed (Bindings.Binds entries b) history) ∧
      ((after (.ofEntries entries) history).trigger b = true ↔
        RoseInFrame (LastPressed (Bindings.Binds entries b)) history) ∧
      ((∀ past, past <+: history →
          ((after (.ofEntries entries) past).press b = true ↔
            Bindings.SomeKeyDown entries b past) ∧
          ((after (.ofEntries entries) past).trigger b = true ↔
            RoseInFrame (Bindings.SomeKeyDown entries b) past)) ↔
        ¬ Bindings.SharedKeyLetGo entries b history) := by
  refine ⟨press_after, trigger_after, fun h => ?_, fun h past hpast => ?_⟩
  · rintro ⟨earlier, key, later, rfl, hkey, hdown⟩
    have hpress := (h (earlier ++ [.key key false]) ⟨later, by simp⟩).1.mpr hdown
    rw [press_after, lastPressed_key, if_pos hkey] at hpress
    cases hpress
  · have hagree : ∀ part, part <+: past →
        (LastPressed (Bindings.Binds entries b) part ↔ Bindings.SomeKeyDown entries b part) :=
      fun part hpart => Bindings.lastPressed_iff_someKeyDown fun hshared =>
        h (hshared.mono (hpart.trans hpast))
    exact ⟨press_after.trans (hagree past List.prefix_rfl),
      trigger_after.trans (RoseInFrame.congr hagree)⟩

/-- Two keys of a button go down and one of them is let go. -/
private def oneLetGo : List InputEvent := [.key "enter" true, .key "space" true, .key "Enter" false]

/-- The key that has stayed down repeats in the next frame. -/
private def oneRepeats : List InputEvent := oneLetGo ++ [.newFrame] ++ [.key "space" true]

/-- The button is let go with the first of its keys, though the other one is down. The other one
triggers it again when it repeats, though it has been down all the time. -/
theorem shared_button_let_go :
    ¬ ((after (.ofEntries []) oneLetGo).press .confirm = true ↔
        Bindings.SomeKeyDown [] .confirm oneLetGo) ∧
      ¬ ((after (.ofEntries []) oneRepeats).trigger .confirm = true ↔
        RoseInFrame (Bindings.SomeKeyDown [] .confirm) oneRepeats) := by
  have hdown : Bindings.SomeKeyDown [] .confirm oneLetGo :=
    ⟨"space", ⟨"space", by decide, rfl⟩, by unfold KeyDown LastPressed; decide +kernel⟩
  have hreleased : (after (.ofEntries []) oneLetGo).press .confirm = false := by decide +kernel
  have htriggered : (after (.ofEntries []) oneRepeats).trigger .confirm = true := by decide +kernel
  refine ⟨fun h => ?_, fun h => ?_⟩
  · have hheld := h.mpr hdown
    rw [hreleased] at hheld
    cases hheld
  · have hstays : Bindings.SomeKeyDown [] .confirm (oneLetGo ++ [.newFrame]) :=
      Bindings.someKeyDown_newFrame.mpr hdown
    have hrose := h.mp htriggered
    rcases roseInFrame_concat.mp hrose with ⟨hbefore, -⟩ | ⟨-, hrose⟩
    · exact hbefore hstays
    · rcases roseInFrame_concat.mp hrose with ⟨hbefore, -⟩ | ⟨hframe, -⟩
      · exact hbefore hdown
      · exact hframe rfl

end Input

end

end Overworld
