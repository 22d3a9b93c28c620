import Runbook.Block.Screenshot
import Runbook.Document.Render
import Runbook.Image.Png
import Runbook.Session.File
import Runbook.Session.Process
/-!
# Running screenshot blocks

A browser is given the program of a block and the path of a temporary file beside the place of the
picture. The file is moved to that place only when the browser has ended as it should and has left
a picture.
-/

set_option autoImplicit false

namespace Runbook.Session

open Block Document Machine Work

/-- The browser process that takes a picture. -/
def browserInvocation (options : Options) (temp : String) : Invocation where
  program := options.browser.program
  args := options.browser.args
  cwd := options.workdir
  environment := [(Screenshot.pathVariable, temp)]
  readsInput := true
  keepsErrors := true
  leadsGroup := false

/-- Where a reader finds a picture. -/
def pictureUrl (base basename filename : String) : String :=
  String.ofList (Text.dropTrailing (· = '/') base.toList) ++ "/" ++ basename ++ "/" ++ filename

/-- What a block shows for a picture of some size: an image, or markup with half the size when a
unit of length is two pixels. -/
def pictureNode (block : Picture) (url target : String) (width height : Nat) : Node :=
  let node :=
    if block.retina then
      Node.html ("<img src=\"" ++ escapeAttribute url ++ "\" alt=\"" ++
        escapeAttribute block.alt ++ "\" width=\"" ++ toString (width / 2) ++ "\" height=\"" ++
        toString (height / 2) ++ "\">")
    else Node.image url block.alt
  ((node.withData "screenshot.path" target).withData "screenshot.width"
    (toString width)).withData "screenshot.height" (toString height)

/-- Lets the browser write a picture to a temporary file: the size of the picture. -/
def capture (block : Picture) (temp : String) : Work (Nat × Nat) := do
  let options := (← get).options
  let label := "screenshot " ++ block.outputName
  let finished ← runToEnd (browserInvocation options temp) label
    (Text.encode block.browserProgram) (some options.browser.timeout)
  requireSuccess label finished
  let bytes ← orFail (← ask (.readBytes temp)) (Failure.atPath temp)
  match Image.size? bytes with
  | some size => return size
  | none => fail (.missing .picture)

/-- Runs a screenshot block. -/
def runScreenshot (block : Picture) : Work (Option Node) := do
  let basename ← basename
  let options := (← get).options
  let directory := Path.join (Path.join options.assetsRoot "screenshots") basename
  orFail (← ask (.makeDirectories directory)) fun error => .missing (.directory directory error)
  let target := Path.join directory block.outputName
  let temp ← orFail (← ask (.makeTempFile directory ".png")) (Failure.atPath directory)
  let (width, height) ← onStop (ask (.discardFile temp)) (capture block temp)
  publish temp target none
  let url := pictureUrl options.screenshotUrl basename block.outputName
  return some (pictureNode block url target width height)

end Runbook.Session
