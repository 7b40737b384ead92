import MapStyling.Keyed

/-!
# Sprites

An atlas gives the icons of a style their places in one image. The image itself is not looked at; the
atlas holds a reference to it.
-/

namespace MapStyling

/-- A place in an image, or a shift on the map. -/
structure Point where
  x : Float
  y : Float
deriving DecidableEq

/-- A width and a height. -/
structure Size where
  width : Float
  height : Float
deriving DecidableEq

/-- The place of an icon in the image of its atlas. -/
structure SpriteEntry where
  x : Float
  y : Float
  width : Float
  height : Float
  /-- The pixels of the image in one pixel of the map. -/
  pixelRatio : Float := 1

/-- The upper left corner of an icon in the image. -/
def SpriteEntry.origin (entry : SpriteEntry) : Point :=
  ⟨entry.x, entry.y⟩

/-- The size of an icon in the image. -/
def SpriteEntry.size (entry : SpriteEntry) : Size :=
  ⟨entry.width, entry.height⟩

/-- The icons of an image. -/
structure SpriteAtlas where
  image : String
  icons : Keyed SpriteEntry := []

namespace SpriteAtlas

/-- Adds an icon, or replaces it. -/
def insert (atlas : SpriteAtlas) (name : String) (entry : SpriteEntry) : SpriteAtlas :=
  { atlas with icons := atlas.icons.insert name entry }

/-- The icon of a name. -/
def get? (atlas : SpriteAtlas) (name : String) : Option SpriteEntry :=
  atlas.icons.get? name

/-- The number of icons. -/
def size (atlas : SpriteAtlas) : Nat :=
  atlas.icons.length

end SpriteAtlas

end MapStyling
