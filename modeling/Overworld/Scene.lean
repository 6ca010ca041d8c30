import Overworld.Bitmap
import Overworld.Data.Snapshot
import Overworld.Map.Player

/-!
# Scenes

What is on screen. The map scene holds the bitmaps of the map it was built for and
is never changed afterwards: a new map or a reload builds a new one.
-/

namespace Overworld

/-- The kinds of scene. -/
inductive SceneKind where
  | map
  | menu
  | battle
  | title
  deriving DecidableEq, Inhabited

namespace SceneKind

/-- All kinds. -/
def all : List SceneKind := [.map, .menu, .battle, .title]

/-- The name of a kind. -/
def label : SceneKind → String
  | .map => "map"
  | .menu => "menu"
  | .battle => "battle"
  | .title => "title"

/-- The kind with a name. -/
def ofLabel? (label : String) : Option SceneKind := all.find? (·.label = label)

end SceneKind

/-- A character on the map scene; the player's belongs to no event. -/
structure Sprite where
  event : Option UInt32
  bitmap : Bitmap
  deriving DecidableEq, Inhabited

/-- The map on screen. -/
structure MapScene where
  map : UInt32
  tileset : Bitmap
  characters : List Sprite
  deriving DecidableEq, Inhabited

/-- The scene on screen. -/
inductive ActiveScene where
  | map (scene : MapScene)
  | other (kind : SceneKind)
  deriving DecidableEq, Inhabited

/-- Whether the map is on screen. -/
def ActiveScene.isMap : ActiveScene → Bool
  | .map _ => true
  | .other _ => false

/-- The folder of tileset graphics. -/
def tilesetFolder : String := "Graphics/Tilesets"

/-- The folder of character graphics. -/
def characterFolder : String := "Graphics/Characters"

/-- A bitmap that a scene needs. -/
structure Need where
  task : Task
  folder : String
  file : String
  event : Option UInt32

/-- The characters that the map scene shows: those of the events, then the player's. -/
def Snapshot.needs (s : Snapshot) (player : Player) : List Need :=
  let visible := s.map.events.toList.filter fun e => !e.character.isEmpty
  visible.map (fun e =>
      { task := .drawEvent e.character e.id, folder := characterFolder, file := e.character
        event := some e.id }) ++
    if player.character.isEmpty then []
    else
      [{ task := .drawPlayer player.character, folder := characterFolder, file := player.character
         event := none }]

section

variable {m : Type → Type} [Monad m] [BitmapLoader m]

/-- Loads the bitmaps of these needs in order, up to the first that fails. -/
def loadSprites (cache : BitmapCache) : List Need → m (Except Fault (List Sprite) × BitmapCache)
  | [] => return (.ok [], cache)
  | need :: rest => do
    match ← cache.load need.folder need.file 0 with
    | (.error fault, cache) => return (.error (.during need.task fault), cache)
    | (.ok bitmap, cache) =>
      let (sprites, cache) ← loadSprites cache rest
      return (sprites.map ({ event := need.event, bitmap } :: ·), cache)

/-- Builds the map scene of a snapshot. -/
def MapScene.build (cache : BitmapCache) (s : Snapshot) (player : Player) :
    m (Except Fault MapScene × BitmapCache) := do
  let tileset := s.map.tileset.graphic
  match ← cache.load tilesetFolder tileset 0 with
  | (.error fault, cache) => return (.error (.during (.drawTileset tileset s.map.id) fault), cache)
  | (.ok bitmap, cache) =>
    let (characters, cache) ← loadSprites cache (s.needs player)
    return (characters.map fun characters => { map := s.map.id, tileset := bitmap, characters },
      cache)

end

end Overworld
