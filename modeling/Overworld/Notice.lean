import Overworld.SelfSwitches

/-!
# Notices

What a field session tells its host. Notices are collected in the order in which
they arise and handed over once per frame.
-/

namespace Overworld

/-- A notice. -/
inductive Notice where
  | reloadCommitted (map : UInt32)
  | reloadRejected (reason : String)
  | overlayShown (map : UInt32) (blockedTiles : Nat)
  | overlayHidden
  | mapTransferred (source target : UInt32) (x y : Int)
  | selfSwitchChanged (key : SwitchKey) (value : Bool)
  | scriptLog (event : UInt32) (text : String)
  deriving DecidableEq, Inhabited

/-- The wording of a notice. -/
def Notice.message : Notice → String
  | .reloadCommitted map => "ReloadCommitted map=" ++ toString map
  | .reloadRejected reason => "ReloadRejected " ++ reason
  | .overlayShown map blocked =>
    "OverlayShown map=" ++ toString map ++ " blocked=" ++ toString blocked
  | .overlayHidden => "OverlayHidden"
  | .mapTransferred source target x y =>
    "MapTransferred from=" ++ toString source ++ " to=" ++ toString target ++ " at=(" ++
      toString x ++ "," ++ toString y ++ ")"
  | .selfSwitchChanged key value =>
    "SelfSwitchChanged map=" ++ toString key.map ++ " event=" ++ key.event.elim "?" toString ++
      " switch=" ++ key.switch ++ " value=" ++ toString value
  | .scriptLog event text => "ScriptLog event=" ++ toString event ++ " " ++ text

/-- The notices collected, oldest first. -/
abbrev NoticeBoard : Type := List Notice

end Overworld
