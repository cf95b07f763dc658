import KernelCharts.Chart.Drawing
import KernelCharts.Session.Basic

/-!
# Writing figures

* `Figure` — something that can be drawn on any surface;
* `ensurePlotDirectories` — the directories that images go to;
* `renderFigure` — one image of a figure;
* `Renderer`, `saveWith` — some images in a row, all of them attempted, however they are rendered;
* `saveFigure` — the images of a figure.
-/

namespace KernelCharts

/-- something that can be drawn on any surface, or says why not -/
structure Figure where
  /-- the width and the height, in inches -/
  size : Float × Float
  draw : Canvas → Except String (List Mark)

/-- the directories are created, in order, and those on the way to them -/
def ensurePlotDirectories (paths : List String) : Session Unit :=
  paths.forM fun path =>
    Session.changeFiles (·.createDirectories path) (.createDirectory path)

/-- a content is written, or the files stay as they are -/
def FileSystem.tryWrite (fs : FileSystem) (path : String) (content : Content) :
    FileSystem × Option FileFault :=
  match fs.writeFile path content with
  | .ok fs => (fs, none)
  | .error fault => (fs, some fault)

/-- one image of a figure. A raster image is written even if the figure cannot be drawn, and stays
blank then; a page is not. -/
def renderFigure (figure : Figure) (path : String) (format : OutputFormat) (dpi : Nat)
    (fs : FileSystem) : FileSystem × Option RenderFault :=
  let canvas := Canvas.ofFormat format dpi
  let (width, height) := canvas.inches figure.size
  match format, figure.draw canvas with
  | .png, .ok _ =>
    let (fs, fault) := fs.tryWrite path (.raster width height)
    (fs, fault.map .raster)
  | .png, .error reason => ((fs.tryWrite path (.raster width height)).1, some (.drawing reason))
  | .pdf, .ok _ =>
    let (fs, fault) := fs.tryWrite path (.page width height)
    (fs, fault.map .page)
  | .pdf, .error reason => (fs, some (.drawing reason))

def imagePath (directory stem : String) (format : OutputFormat) : String :=
  FileSystem.join directory (stem ++ "." ++ format.extension)

/-- how images are rendered: their pixels, and what becomes of the files, or why an image fails -/
structure Renderer where
  pixels : OutputFormat → Nat × Nat
  render : String → OutputFormat → World → FileSystem × Option RenderFault

def Figure.renderer (figure : Figure) (dpi : Nat) : Renderer where
  pixels format := (Canvas.ofFormat format dpi).inches figure.size
  render path format world := renderFigure figure path format dpi world.files

/-- one image is attempted and the outcome logged; whether it was written is kept with its path -/
def attemptWith (renderer : Renderer) (path : String) (format : OutputFormat) :
    Session (String × Bool) := do
  let (width, height) := renderer.pixels format
  Session.log [.rendering path width height]
  let world ← get
  let (files, fault) := renderer.render path format world
  set { world with files }
  match fault with
  | none => Session.log [.saved format path]
  | some cause => Session.log [.notSaved path cause]
  return (path, fault.isNone)

/-- the paths of images that were all written, or what went wrong -/
def tellAttempts (attempts : List (String × Bool)) : Session (List String) :=
  let written := (attempts.filter (·.2)).map (·.1)
  let failed := (attempts.filter fun attempt => !attempt.2).map (·.1)
  if failed.isEmpty then return written
  else throw (.notWritten failed written)

/-- images, one for each format, as `directory/stem.extension`. Every format is attempted even if an
earlier one fails; the failures are reported together. -/
def saveWith (renderer : Renderer) (directory stem : String) (formats : List OutputFormat) :
    Session (List String) := do
  ensurePlotDirectories [directory]
  let attempts ← formats.mapM fun format =>
    attemptWith renderer (imagePath directory stem format) format
  tellAttempts attempts

def saveFigure (figure : Figure) (directory stem : String) (formats : List OutputFormat) (dpi : Nat) :
    Session (List String) :=
  saveWith (figure.renderer dpi) directory stem formats

end KernelCharts
