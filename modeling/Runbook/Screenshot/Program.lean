import Runbook.Screenshot.Script
import Runbook.Text.Quoted
/-!
# Browser programs

The program that a browser process reads: it opens a page with a viewport, takes the steps of a
script, waits for the images of the page and writes a picture of the page, or of a part of it, to
the path that an environment variable names. Arguments of steps are string literals, so none of
them can end its line.
-/

set_option autoImplicit false

namespace Runbook.Screenshot

open Text

/-- The environment variable with the path that the program writes to. -/
def pathVariable : String := "GALLEY_SCREENSHOT_PATH"

/-- The size of the page in a browser, and how many pixels there are to one unit of length. -/
structure Viewport where
  width : Nat
  height : Nat
  scale : Nat
deriving DecidableEq, Repr

/-- What part of the page the picture shows. -/
inductive Capture where
  | fullPage
  | clip (x y width height : Nat)
deriving DecidableEq, Repr

/-- The lines before the steps, up to the viewport. -/
def opening : List String := [
  "const puppeteer = require('puppeteer');",
  "",
  "(async () => \x7b",
  "  const browser = await puppeteer.launch();",
  "  try \x7b",
  "    const page = await browser.newPage();"]

/-- The line that sets the viewport. -/
def Viewport.line (viewport : Viewport) : String :=
  "    await page.setViewport(\x7b width: " ++ toString viewport.width ++ ", height: " ++
    toString viewport.height ++ ", deviceScaleFactor: " ++ toString viewport.scale ++ " \x7d);"

/-- The line that takes a step. -/
def Step.line : Step → String
  | .visit url =>
    "    await page.goto(" ++ String.ofList (literal url.toList) ++
      ", \x7b waitUntil: 'networkidle0' \x7d);"
  | .wait selector =>
    "    await page.waitForSelector(" ++ String.ofList (literal selector.toList) ++ ");"

/-- The lines that wait for the images of the page and learn the path. -/
def imageLines : List String := [
  "    await page.evaluate(() => Promise.all(Array.from(document.images, (img) => \x7b",
  "      if (img.complete) \x7b",
  "        return img.naturalWidth > 0 ? null : Promise.reject(new Error(`image failed to load: " ++
    "$\x7bimg.src\x7d`));",
  "      \x7d",
  "      return new Promise((resolve, reject) => \x7b",
  "        img.addEventListener('load', resolve);",
  "        img.addEventListener('error', () => reject(new Error(`image failed to load: " ++
    "$\x7bimg.src\x7d`)));",
  "      \x7d);",
  "    \x7d)));",
  "    const path = process.env." ++ pathVariable ++ ";"]

/-- The line that takes the picture. -/
def Capture.line : Capture → String
  | .fullPage => "    await page.screenshot(\x7b path, type: 'png', fullPage: true \x7d);"
  | .clip x y width height =>
    "    await page.screenshot(\x7b path, type: 'png', clip: \x7b x: " ++ toString x ++ ", y: " ++
      toString y ++ ", width: " ++ toString width ++ ", height: " ++ toString height ++
      " \x7d \x7d);"

/-- The lines after the picture. -/
def closing : List String := [
  "  \x7d finally \x7b",
  "    await browser.close();",
  "  \x7d",
  "\x7d)().catch((err) => \x7b",
  "  console.error(err);",
  "  process.exit(1);",
  "\x7d);"]

/-- The lines of a program. -/
def programLines (steps : List Step) (viewport : Viewport) (capture : Capture) : List String :=
  opening ++ [viewport.line] ++ steps.map Step.line ++ imageLines ++ [capture.line] ++ closing

/-- The program for some steps. -/
def program (steps : List Step) (viewport : Viewport) (capture : Capture) : String :=
  String.join ((programLines steps viewport capture).map fun line => line ++ "\n")

end Runbook.Screenshot
