import Chip8.Device.Overlay
import Chip8.Display.Raster
import Chip8.Machine.Summary

namespace Chip8.Device

/-! The window that shows the display at a whole scale, with the registers on top
of it if asked for. The scale may be left blank as long as nothing is shown. -/

structure Window where
  host : Host
  scale : Option Int
  palette : Palette
  debug : Bool

namespace Window

/-- The scheme is looked up before the window is made. -/
def create (host : Host) (title : String) (scale : Option Int) (scheme : String)
    (debug : Bool) : Except UnknownScheme (Window × List Call) :=
  match Palette.named scheme with
  | .error error => .error error
  | .ok palette =>
      .ok (⟨host, scale, palette, debug⟩,
        [.open .window (scale.map (Display.width * ·)) (scale.map (Display.height * ·)),
          .caption title])

def clear (window : Window) : List Call :=
  [.fill .window window.palette.off.components, .flip]

/-- Where the registers are shown and how much of the picture shines through. -/
def debugOverlay : Overlay := { x := 5, y := 5, alpha := 100 }

def debugCalls (window : Window) : Option Machine → List Call
  | some machine =>
      if window.debug then debugOverlay.draw window.host.font machine.summary else []
  | none => []

def update (window : Window) (display : Display) (machine : Option Machine) :
    Except RenderError (List Call) := do
  let given ← match window.scale with
    | some given => .ok given
    | none => .error .noScale
  let scale ← Picture.scaleOf given
  let picture ← display.renderChecked window.host.room scale window.palette
  return .show .window picture :: window.debugCalls machine ++ [.flip]

end Window

end Chip8.Device
