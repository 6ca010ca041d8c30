import Overworld.Data.Source
import Overworld.Input.Button
import Overworld.Json.Shape

/-!
# Key bindings

Which keys press which buttons. A button may have several keys and a key several
buttons; the case of key names does not matter. A settings file replaces the keys
of the buttons it names, and one that cannot be read leaves all as they were.
-/

namespace Overworld

/-- The keys of each button, in lower case. -/
structure Bindings where
  keys : Button → List String := Button.defaultKeys

namespace Bindings

instance : Inhabited Bindings := ⟨{}⟩

/-- Replaces the keys of a button. -/
def rebind (b : Bindings) (button : Button) (keys : List String) : Bindings :=
  { keys := fun other => if other = button then keys.map String.toLower else b.keys other }

/-- Binding files: lists of keys under the names of buttons. -/
def shape : Json.Shape (List (String × List String)) :=
  Json.Shape.record []
    [.of "bindings" false (.table (.list .text)) fun _ v => v]

/-- The bindings of a file's entries; names that are no button's are ignored. -/
def ofEntries (entries : List (String × List String)) : Bindings :=
  entries.foldl (fun b entry =>
    match Button.ofLabel? entry.1 with
    | some button => b.rebind button entry.2
    | none => b) {}

/-- The bindings of a file, which has to be UTF-8 throughout. -/
def ofBytes (contents : Bytes) : Bindings :=
  if (String.fromUTF8? ⟨contents.toArray⟩).isSome then
    match Json.read shape contents with
    | .ok entries => ofEntries entries
    | .error _ => {}
  else {}

/-- The buttons of a key. -/
def buttons (b : Bindings) (key : String) : List Button :=
  Button.all.filter fun button => key.toLower ∈ b.keys button

end Bindings

end Overworld
