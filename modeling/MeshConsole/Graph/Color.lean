/-
This file holds colors, their style texts and their mixtures.
-/

import MeshConsole.Decimal.Layout
import MeshConsole.Decimal.Reader
import MeshConsole.Decimal.Whole
import MeshConsole.Graph.Arithmetic
import MeshConsole.Text.Blank
import MeshConsole.Text.Split

namespace MeshConsole

open Text

/-- A color with its opacity. -/
structure Color where
  red : UInt8
  green : UInt8
  blue : UInt8
  alpha : Float := 1.0

instance : Inhabited Color := ⟨⟨0, 0, 0, 1.0⟩⟩

/-- The color of every text that is no color. -/
def Color.gray : Color := ⟨128, 128, 128, 1.0⟩

/-- The same color with another opacity. -/
def Color.withAlpha (color : Color) (alpha : Float) : Color :=
  { color with alpha }

/-- One channel of a mixture, rounded. -/
def mixChannel (t : Float) (a b : UInt8) : UInt8 :=
  (Decimal.round (Float.ofNat a.toNat * (1.0 - t) + Float.ofNat b.toNat * t)).toUInt8

/-- The mixture of two colors. The share `t` of the second is kept between zero and one. -/
def Color.mix (color other : Color) (t : Float) : Color :=
  let t := Graph.between 0.0 1.0 t
  { red := mixChannel t color.red other.red
    green := mixChannel t color.green other.green
    blue := mixChannel t color.blue other.blue
    alpha := color.alpha * (1.0 - t) + other.alpha * t }

/-- A mixture with white of the same opacity. -/
def Color.lighten (color : Color) (factor : Float) : Color :=
  color.mix ⟨255, 255, 255, color.alpha⟩ factor

/-- A mixture with black of the same opacity. -/
def Color.darken (color : Color) (factor : Float) : Color :=
  color.mix ⟨0, 0, 0, color.alpha⟩ factor

/-- Opacities this close to one count as opaque. -/
def Color.isOpaque (color : Color) : Bool :=
  (color.alpha - 1.0).abs < 0.001

/-- The two hexadecimal digits of a channel. -/
def channelHex (channel : UInt8) : List Char :=
  [lowerDigit (channel.toNat / 16), lowerDigit (channel.toNat % 16)]

/-- The style text of an opaque color. -/
def Color.hexText (color : Color) : List Char :=
  '#' :: channelHex color.red ++ channelHex color.green ++ channelHex color.blue

/-- The style text of a color with an opacity written as `alpha`. -/
def Color.functionText (color : Color) (alpha : String) : String :=
  "rgba(" ++ toString color.red.toNat ++ ", " ++ toString color.green.toNat ++ ", " ++
    toString color.blue.toNat ++ ", " ++ alpha ++ ")"

/-- The style text of a color. -/
def Color.css (color : Color) : String :=
  if color.isOpaque then String.ofList color.hexText
  else color.functionText (Decimal.plain color.alpha)

/-- A channel in a given base, or half intensity for any other text. -/
def readChannel (base : Nat) (cs : List Char) : UInt8 :=
  match readNatural? base 256 cs with
  | some value => UInt8.ofNat value
  | none => 128

/-- A hexadecimal color has a number sign and six ASCII characters. Each pair is read on its
own. -/
def Color.ofHex? : List Char → Option Color
  | ['#', a, b, c, d, e, f] =>
    if [a, b, c, d, e, f].all (·.toNat < 128) then
      some ⟨readChannel 16 [a, b], readChannel 16 [c, d], readChannel 16 [e, f], 1.0⟩
    else none
  | _ => none

/-- The parts of a functional color, without its function name and parentheses. -/
def functionParts (cs : List Char) : List (List Char) :=
  let body := dropStarts "rgb(".toList (dropStarts "rgba(".toList cs)
  (splitAt ',' (dropTrailing (· == ')') body)).map trim

/-- The channel at a place among the parts. -/
def partChannel (parts : List (List Char)) (place : Nat) : UInt8 :=
  match parts[place]? with
  | some part => readChannel 10 part
  | none => 128

/-- A functional color lists its channels and perhaps its opacity. Whatever cannot be read takes
half intensity, and the opacity takes one. -/
def Color.ofFunction (cs : List Char) : Color :=
  let parts := functionParts cs
  { red := partChannel parts 0
    green := partChannel parts 1
    blue := partChannel parts 2
    alpha := (parts[3]?.bind Decimal.read?).getD 1.0 }

/-- This function reads a hexadecimal or functional color. Every other text is gray. -/
def Color.ofCss (css : String) : Color :=
  let cs := trim css.toList
  match Color.ofHex? cs with
  | some color => color
  | none => if (dropStart? "rgb".toList cs).isSome then Color.ofFunction cs else Color.gray

end MeshConsole
